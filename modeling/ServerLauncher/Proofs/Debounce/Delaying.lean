import ServerLauncher.Proofs.Debounce.Handles
import ServerLauncher.Proofs.Debounce.Waiting

/-!
This module contains what debouncing means: every task runs once its key has been quiet for the window,
unless it is superseded or cancelled before, and whatever happens to other keys.
-/

namespace ServerLauncher.Debouncer

variable {δ κ τ : Type} [DecidableEq κ] {course after : List (Step κ τ)} {s : Step κ τ} {key : κ}
  {task : τ} {i window : Nat}

theorem fired_subset_step (t : Timeline (Debouncer κ (Nat × τ)) κ τ) (s : Step κ τ) :
    t.fired ⊆ (t.step operations s).fired := by
  cases s with
  | schedule => exact List.Subset.refl _
  | cancel => exact List.Subset.refl _
  | cancelAll => exact List.Subset.refl _
  | run => exact List.subset_append_left _ _
  | tick => exact List.subset_append_left _ _

/--
A task has run once the time has passed the window, unless something has been done about its key
before.
-/
theorem exists_fired (hscheduled : course[i]? = some (.schedule key task))
    (hquiet : ∀ j s, i < j → course[j]? = some s → s.Concerns key →
      timeAt course i + window < timeAt course j)
    (hpassed : timeAt course i + window < elapsed course) :
    ∃ f ∈ (timeline window course).fired, f.call = i := by
  induction course using List.reverseRecOn with
  | nil => cases hscheduled
  | append_singleton course s ih =>
    have hsound := sound_timeline window (course ++ [s])
    have hle : i ≤ course.length := by
      have hlt := lt_length hscheduled
      rw [List.length_append, List.length_singleton] at hlt
      omega
    rw [timeAt_concat hle] at hquiet hpassed
    -- Either the time had passed the window before the last step, or nothing concerns the key at all.
    by_cases hbefore : timeAt course i + window < elapsed course
    . have hi : i < course.length := by
        apply Nat.lt_of_le_of_ne hle
        intro heq
        rw [heq, timeAt_length] at hbefore
        omega
      rcases getElem?_concat_eq_some.1 hscheduled with hold | ⟨heq, _⟩
      . have hfired := ih hold ?_ hbefore
        . have ⟨f, hf, hcall⟩ := hfired
          rw [timeline_concat]
          exact ⟨f, fired_subset_step _ s hf, hcall⟩
        . intro j s' hlt hs' hconcerns
          have hlate := hquiet j s' hlt (getElem?_concat_eq_some.2 (.inl hs')) hconcerns
          rw [timeAt_concat (Nat.le_of_lt (lt_length hs'))] at hlate
          exact hlate
      . omega
    . have hlast : IsLast (course ++ [s]) i key task := by
        refine ⟨hscheduled, ?_⟩
        intro j s' hlt hs' hconcerns
        have hlate := hquiet j s' hlt hs' hconcerns
        have hj : j ≤ course.length := by
          have hlt := lt_length hs'
          rw [List.length_append, List.length_singleton] at hlt
          omega
        rw [timeAt_concat hj] at hlate
        exact hbefore (Nat.lt_of_lt_of_le hlate (timeAt_le course j))
      by_contra hnone
      -- The task would still wait, although its time is over.
      have hget := (hsound.waits_iff key (timeAt course i + window) i task).2 ⟨hlast, ?_, ?_⟩
      . have hdue := hsound.punctual _ _ _ hget
        rw [hsound.now_eq] at hdue
        omega
      . rw [timeAt_concat hle]
      . intro f hf hcall
        exact hnone ⟨f, hf, hcall⟩

theorem Sound.eq_of_call_eq {t : Timeline (Debouncer κ (Nat × τ)) κ τ} (h : Sound window course t)
    {f f' : Fired κ τ} (hf : f ∈ t.fired) (hf' : f' ∈ t.fired) (hcall : f.call = f'.call) :
    f = f' := by
  have hscheduled := h.scheduled f hf
  rw [hcall, h.scheduled f' hf'] at hscheduled
  have htime := (h.delayed f hf).1
  rw [hcall, ← (h.delayed f' hf').1] at htime
  cases f
  cases f'
  cases hscheduled
  cases hcall
  cases htime
  rfl

/--
The steps that a key can notice.
-/
def quietly (key : κ) (course : List (Step κ τ)) : List (Step κ τ) :=
  course.filter fun s => !s.isForeign key

/--
When a key has fired, and with what.
-/
def firings (key : κ) (t : Timeline δ κ τ) : List (Nat × τ) :=
  (t.fired.filter (·.key = key)).map fun f => (f.time, f.task)

/--
What waits for a key, and when it is due.
-/
def waitingFor (key : κ) (t : Timeline (Debouncer κ (Nat × τ)) κ τ) : Option (Nat × τ) :=
  (t.tasks.timers.get? key).map fun (due, _, task) => (due, task)

/--
Two timelines that a key cannot tell from each other.
-/
structure Alike (key : κ) (t t' : Timeline (Debouncer κ (Nat × τ)) κ τ) : Prop where
  now : t.now = t'.now
  window : t.tasks.window = t'.tasks.window
  waiting : waitingFor key t = waitingFor key t'
  firings : firings key t = firings key t'

variable {t t' : Timeline (Debouncer κ (Nat × τ)) κ τ}

theorem waitingFor_run (h : t.tasks.Single) (key : κ) :
    waitingFor key (t.run operations) = (waitingFor key t).filter fun (due, _) => t.now < due := by
  show ((t.tasks.takeDue t.now).2.timers.get? key).map _ = _
  rw [get?_timers_takeDue h]
  unfold waitingFor
  cases t.tasks.timers.get? key with
  | none => rfl
  | some waiting =>
    simp only [Option.filter_some, Option.map_some]
    split <;> rfl

theorem firings_run (h : t.tasks.Single) (key : κ) :
    firings key (t.run operations) = firings key t ++
      ((waitingFor key t).filter fun (due, _) => due ≤ t.now).toList.map fun (_, task) =>
        (t.now, task) := by
  have hdue := filter_takeDue h t.now key
  show (List.filter _ (t.fired ++ (t.tasks.takeDue t.now).1.map _)).map _ = _
  rw [List.filter_append, List.map_append, List.filter_map]
  unfold firings
  congr 1
  change (((t.tasks.takeDue t.now).1.filter fun (_, other, _) => other = key).map _).map _ = _
  rw [hdue]
  unfold waitingFor
  cases t.tasks.timers.get? key with
  | none => rfl
  | some waiting =>
    simp only [Option.filter_some, Option.map_some]
    split <;> rfl

theorem Alike.run (h : Alike key t t') (hsingle : t.tasks.Single) (hsingle' : t'.tasks.Single) :
    Alike key (t.run operations) (t'.run operations) where
  now := h.now
  window := h.window
  waiting := by rw [waitingFor_run hsingle, waitingFor_run hsingle', h.waiting, h.now]
  firings := by rw [firings_run hsingle, firings_run hsingle', h.waiting, h.now, h.firings]

theorem waitingFor_act_of_concerns (h : s.Concerns key) (t : Timeline (Debouncer κ (Nat × τ)) κ τ) :
    waitingFor key (t.act operations s) =
      s.task?.map fun task => (t.now + t.tasks.window, task) := by
  unfold waitingFor
  rw [get?_timers_act_of_concerns h, Option.map_map]
  rfl

/--
A step that the key notices makes no difference between what it cannot tell from each other.
-/
theorem Alike.step (h : Alike key t t') (hsingle : t.tasks.Single) (hsingle' : t'.tasks.Single)
    (hs : s.isForeign key = false) : Alike key (t.step operations s) (t'.step operations s) := by
  by_cases hcall : s ≠ .run ∧ s ≠ .tick
  . have hconcerns : s.Concerns key := by
      cases s with
      | schedule => simpa [Step.isForeign, Step.Concerns] using hs
      | cancel => simpa [Step.isForeign, Step.Concerns] using hs
      | cancelAll => trivial
      | run => exact absurd rfl hcall.1
      | tick => exact absurd rfl hcall.2
    obtain ⟨hnow, hfired, hwindow, _⟩ := act_of_call hcall t
    obtain ⟨hnow', hfired', hwindow', _⟩ := act_of_call hcall t'
    constructor
    . exact hnow.trans (h.now.trans hnow'.symm)
    . exact hwindow.trans (h.window.trans hwindow'.symm)
    . show waitingFor key (t.act operations s) = waitingFor key (t'.act operations s)
      rw [waitingFor_act_of_concerns hconcerns, waitingFor_act_of_concerns hconcerns, h.now, h.window]
    . show ((t.act operations s).fired.filter _).map _ = ((t'.act operations s).fired.filter _).map _
      rw [hfired, hfired']
      exact h.firings
  . have hrun := h.run hsingle hsingle'
    cases s with
    | schedule => exact absurd ⟨by simp, by simp⟩ hcall
    | cancel => exact absurd ⟨by simp, by simp⟩ hcall
    | cancelAll => exact absurd ⟨by simp, by simp⟩ hcall
    | run => exact ⟨hrun.now, hrun.window, hrun.waiting, hrun.firings⟩
    | tick =>
      exact ⟨congrArg (· + 1) hrun.now, hrun.window, hrun.waiting, hrun.firings⟩

/--
A call about another key makes no difference.
-/
theorem Alike.foreign (h : Alike key t t') (hs : s.isForeign key = true) :
    Alike key (t.step operations s) t' := by
  have hcall : s ≠ .run ∧ s ≠ .tick := by
    constructor
    . intro heq
      rw [heq] at hs
      cases hs
    . intro heq
      rw [heq] at hs
      cases hs
  have hconcerns : ¬s.Concerns key := by
    cases s with
    | schedule => simpa [Step.isForeign, Step.Concerns] using hs
    | cancel => simpa [Step.isForeign, Step.Concerns] using hs
    | cancelAll => cases hs
    | run => cases hs
    | tick => cases hs
  obtain ⟨hnow, hfired, hwindow, _⟩ := act_of_call hcall t
  constructor
  . exact hnow.trans h.now
  . exact hwindow.trans h.window
  . rw [← h.waiting]
    show ((t.act operations s).tasks.timers.get? key).map _ = _
    rw [get?_timers_act_of_not_concerns hconcerns hcall]
    rfl
  . rw [← h.firings]
    show ((t.act operations s).fired.filter _).map _ = _
    rw [hfired]
    rfl

theorem alike_quietly (window : Nat) (key : κ) (course : List (Step κ τ)) :
    Alike key (timeline window course) (timeline window (quietly key course)) := by
  induction course using List.reverseRecOn with
  | nil => exact ⟨rfl, rfl, rfl, rfl⟩
  | append_singleton course s ih =>
    unfold quietly
    rw [List.filter_append, timeline_concat]
    by_cases hs : s.isForeign key = true
    . rw [List.filter_cons_of_neg (by simp [hs]), List.filter_nil, List.append_nil]
      exact ih.foreign hs
    . rw [List.filter_cons_of_pos (by simp [hs]), List.filter_nil, timeline_concat]
      have hsingle := (sound_timeline window course).single
      have hsingle' := (sound_timeline window (quietly key course)).single
      exact ih.step hsingle hsingle' (Bool.not_eq_true _ ▸ hs)

/--
What is promised of the tasks in a course, and of the table that holds their handles.
-/
structure Delays (window : Nat) (course : List (Step κ τ)) : Prop where
  /-- A task whose key is left alone runs exactly once, when the window is over. -/
  runs_once : ∀ i key task, course[i]? = some (.schedule key task) →
    (∀ j s, i < j → course[j]? = some s → s.Concerns key →
      timeAt course i + window < timeAt course j) →
    timeAt course i + window < elapsed course →
    (timeline window course).fired.filter (·.call = i) =
      [⟨timeAt course i + window, key, i, task⟩]
  /-- A task that is superseded or cancelled before that never runs. -/
  never_runs : ∀ i j key task s, course[i]? = some (.schedule key task) → i < j →
    course[j]? = some s → s.Concerns key → timeAt course j < timeAt course i + window →
    (timeline window course).fired.filter (·.call = i) = []
  /-- Whatever runs has been scheduled the window before, and no call runs twice. -/
  fired : ∀ f ∈ (timeline window course).fired,
    course[f.call]? = some (.schedule f.key f.task) ∧ f.time = timeAt course f.call + window ∧
      (timeline window course).fired.filter (·.call = f.call) = [f]
  /-- Calls about other keys make no difference. -/
  independent : ∀ key,
    firings key (timeline window course) = firings key (timeline window (quietly key course)) ∧
      (timeline window course).tasks.isPending key =
        (timeline window (quietly key course)).tasks.isPending key
  /-- No two tasks wait for one key. -/
  single : ((timeline window course).tasks.timers.map Prod.fst).Nodup
  /--
  A key is pending from the call that schedules a task until the window is over, and no longer than
  until the task runs, unless there is another call about the key.
  -/
  isPending_iff : ∀ key, (timeline window course).tasks.isPending key ↔
    ∃ i task, IsLast course i key task ∧ elapsed course ≤ timeAt course i + window ∧
      (elapsed course = timeAt course i + window →
        ∀ f ∈ (timeline window course).fired, f.call ≠ i)
  /-- A table of handles cannot be told from the debouncer. -/
  handles : (Table.timeline window course).fired = (timeline window course).fired ∧
    ∀ key, (Table.timeline window course).tasks.isPending key =
      (timeline window course).tasks.isPending key
  /-- Once the debouncer has been dropped, nothing runs any more. -/
  dropped : ∀ after : List (Step κ τ), (∀ s ∈ after, s = .run ∨ s = .tick) →
    (Timeline.follow operations
      { timeline window course with tasks := (timeline window course).tasks.cancelAll }
        after).fired = (timeline window course).fired ∧
    (Timeline.follow Table.operations
      { Table.timeline window course with tasks := (Table.timeline window course).tasks.drop }
        after).fired = (timeline window course).fired

theorem Sound.filter_fired {t : Timeline (Debouncer κ (Nat × τ)) κ τ} (h : Sound window course t)
    {f : Fired κ τ} (hf : f ∈ t.fired) : t.fired.filter (·.call = f.call) = [f] := by
  rw [← List.perm_singleton]
  rw [List.perm_ext_iff_of_nodup (h.nodup.filter _) (List.nodup_singleton f)]
  intro f'
  rw [List.mem_filter, List.mem_singleton, decide_eq_true_iff]
  constructor
  . intro hmem
    exact h.eq_of_call_eq hmem.1 hf hmem.2
  . intro heq
    rw [heq]
    exact ⟨hf, rfl⟩

theorem isPending_iff_waitingFor (t : Timeline (Debouncer κ (Nat × τ)) κ τ) (key : κ) :
    t.tasks.isPending key = (waitingFor key t).isSome := by
  unfold Debouncer.isPending waitingFor
  rw [Option.isSome_map]

/--
A task whose key is left alone until the window is over has run once by then.
-/
theorem filter_fired_of_quiet (hscheduled : course[i]? = some (.schedule key task))
    (hquiet : ∀ j s, i < j → course[j]? = some s → s.Concerns key →
      timeAt course i + window < timeAt course j)
    (hpassed : timeAt course i + window < elapsed course) :
    (timeline window course).fired.filter (·.call = i) =
      [⟨timeAt course i + window, key, i, task⟩] := by
  have hsound := sound_timeline window course
  have ⟨f, hf, hcall⟩ := exists_fired hscheduled hquiet hpassed
  have hscheduled' := hsound.scheduled f hf
  have htime := (hsound.delayed f hf).1
  have hone := hsound.filter_fired hf
  rw [hcall] at hscheduled' htime hone
  rw [hscheduled] at hscheduled'
  cases hscheduled'
  rw [hone, ← htime, ← hcall]

/--
A call about the key that comes before the window is over keeps the task from running.
-/
theorem filter_fired_of_disturbed {j : Nat} (hscheduled : course[i]? = some (.schedule key task))
    (hlt : i < j) (hs : course[j]? = some s) (hconcerns : s.Concerns key)
    (hearly : timeAt course j < timeAt course i + window) :
    (timeline window course).fired.filter (·.call = i) = [] := by
  have hsound := sound_timeline window course
  rw [List.filter_eq_nil_iff]
  intro f hf hcall
  obtain rfl : f.call = i := of_decide_eq_true hcall
  have hscheduled' := hsound.scheduled f hf
  rw [hscheduled] at hscheduled'
  cases hscheduled'
  have hlate := hsound.undisturbed f hf j s hlt hs hconcerns
  have htime := (hsound.delayed f hf).1
  omega

/--
What waits is what the last call about the key has scheduled, and it does not wait past its time.
-/
theorem Sound.isPending_iff (h : Sound window course t) (key : κ) :
    t.tasks.isPending key ↔
      ∃ i task, IsLast course i key task ∧ elapsed course ≤ timeAt course i + window ∧
        (elapsed course = timeAt course i + window → ∀ f ∈ t.fired, f.call ≠ i) := by
  unfold Debouncer.isPending
  rw [Option.isSome_iff_exists]
  constructor
  . intro hpending
    have ⟨⟨due, i, task⟩, hget⟩ := hpending
    have ⟨hlast, hdue, hnot⟩ := (h.waits_iff key due i task).1 hget
    have hle := h.punctual _ _ _ hget
    rw [h.now_eq, hdue] at hle
    exact ⟨i, task, hlast, hle, fun _ => hnot⟩
  . intro hwaits
    have ⟨i, task, hlast, hle, hnot⟩ := hwaits
    refine ⟨_, (h.waits_iff key _ i task).2 ⟨hlast, rfl, ?_⟩⟩
    intro f hf hcall
    -- Whatever has run did so when its window was over, so that the time is up already.
    have ⟨htime, hnow⟩ := h.delayed f hf
    rw [hcall] at htime
    rw [h.now_eq, htime] at hnow
    exact hnot (Nat.le_antisymm hle hnow) f hf hcall

theorem fired_cancelAll (t : Timeline (Debouncer κ (Nat × τ)) κ τ)
    (hafter : ∀ s ∈ after, s = .run ∨ s = .tick) :
    (Timeline.follow operations { t with tasks := t.tasks.cancelAll } after).fired = t.fired := by
  refine (fired_of_idle (fun d => d.timers = []) ?_ rfl hafter).1
  intro d now hidle
  show (d.takeDue now).1 = [] ∧ (d.takeDue now).2.timers = []
  rw [takeDue_of_idle hidle]
  exact ⟨rfl, hidle⟩

theorem Table.fired_drop {t : Timeline (Table κ (Nat × τ)) κ τ} (h : t.tasks.WellHeld)
    (hafter : ∀ s ∈ after, s = .run ∨ s = .tick) :
    (Timeline.follow Table.operations { t with tasks := t.tasks.drop } after).fired = t.fired := by
  refine (fired_of_idle (fun t => t.debouncer.timers = []) ?_ h.timers_abortAll hafter).1
  intro t now hidle
  have htake := t.debouncer_takeDue now
  rw [takeDue_of_idle hidle, Prod.mk.injEq] at htake
  refine ⟨htake.1.symm, ?_⟩
  show (t.takeDue now).2.debouncer.timers = []
  rw [← htake.2]
  exact hidle

/--
Tasks are delayed until their key has been quiet for the window, in every course of calls about any
number of keys.
-/
theorem delays (window : Nat) (course : List (Step κ τ)) : Delays window course := by
  have hsound := sound_timeline window course
  have ⟨hheld, hforget⟩ := Table.forget_timeline window course
  have hfired : (Table.timeline window course).fired = (timeline window course).fired :=
    congrArg Timeline.fired hforget
  constructor
  case runs_once =>
    intro i key task hscheduled hquiet hpassed
    exact filter_fired_of_quiet hscheduled hquiet hpassed
  case never_runs =>
    intro i j key task s hscheduled hlt hs hconcerns hearly
    exact filter_fired_of_disturbed hscheduled hlt hs hconcerns hearly
  case fired =>
    intro f hf
    exact ⟨hsound.scheduled f hf, (hsound.delayed f hf).1, hsound.filter_fired hf⟩
  case independent =>
    intro key
    have halike := alike_quietly window key course
    refine ⟨halike.firings, ?_⟩
    rw [isPending_iff_waitingFor, isPending_iff_waitingFor, halike.waiting]
  case single => exact hsound.single
  case isPending_iff => exact hsound.isPending_iff
  case handles =>
    refine ⟨hfired, ?_⟩
    intro key
    rw [hheld.isPending_eq, ← hforget]
    rfl
  case dropped =>
    intro after hafter
    refine ⟨fired_cancelAll _ hafter, ?_⟩
    rw [← hfired]
    exact Table.fired_drop hheld hafter

end ServerLauncher.Debouncer
