import Mathlib.Data.List.Induction
import ServerLauncher.Proofs.Debounce.Course

/-!
This module contains what is known about the tasks of a debouncer at every point of every course: which
of them wait, which have run, and which call has scheduled them.
-/

namespace ServerLauncher.Debouncer

variable {κ τ : Type} [DecidableEq κ] {course : List (Step κ τ)} {s : Step κ τ} {key : κ} {task : τ}
  {i window : Nat}

/--
What is known about the tasks at a point of a course. The call that has scheduled a task is the last one
about its key as long as the task waits, and was so when the task became due.
-/
structure Sound (window : Nat) (course : List (Step κ τ))
    (t : Timeline (Debouncer κ (Nat × τ)) κ τ) : Prop where
  window_eq : t.tasks.window = window
  length_eq : t.length = course.length
  now_eq : t.now = elapsed course
  single : t.tasks.Single
  punctual : ∀ key due waiting, t.tasks.timers.get? key = some (due, waiting) → t.now ≤ due
  waits_iff : ∀ key due i task, t.tasks.timers.get? key = some (due, i, task) ↔
    IsLast course i key task ∧ due = timeAt course i + window ∧ ∀ f ∈ t.fired, f.call ≠ i
  scheduled : ∀ f ∈ t.fired, course[f.call]? = some (.schedule f.key f.task)
  delayed : ∀ f ∈ t.fired, f.time = timeAt course f.call + window ∧ f.time ≤ t.now
  undisturbed : ∀ f ∈ t.fired, ∀ j s, f.call < j → course[j]? = some s → s.Concerns f.key →
    f.time ≤ timeAt course j
  nodup : t.fired.Nodup

variable {t : Timeline (Debouncer κ (Nat × τ)) κ τ}

/--
The task that a call schedules.
-/
def Step.task? : Step κ τ → Option τ
  | .schedule _ task => some task
  | _ => none

theorem get?_timers_act_of_concerns (h : s.Concerns key)
    (t : Timeline (Debouncer κ (Nat × τ)) κ τ) :
    (t.act operations s).tasks.timers.get? key =
      s.task?.map fun task => (t.now + t.tasks.window, t.length, task) := by
  cases s with
  | schedule other task =>
    obtain rfl : other = key := h
    exact get?_timers_schedule_self _ _ _ _
  | cancel other =>
    obtain rfl : other = key := h
    exact get?_timers_cancel_self _ _
  | cancelAll => rfl
  | run => cases h
  | tick => cases h

theorem get?_timers_act_of_not_concerns (h : ¬s.Concerns key) (hcall : s ≠ .run ∧ s ≠ .tick)
    (t : Timeline (Debouncer κ (Nat × τ)) κ τ) :
    (t.act operations s).tasks.timers.get? key = t.tasks.timers.get? key := by
  cases s with
  | schedule other task => exact get?_timers_schedule_of_ne (Ne.symm h) _ _ _
  | cancel other => exact get?_timers_cancel_of_ne (Ne.symm h) _
  | cancelAll => exact absurd trivial h
  | run => exact absurd rfl hcall.1
  | tick => exact absurd rfl hcall.2

/--
A call leaves the time and what has run as they are.
-/
theorem act_of_call (hcall : s ≠ .run ∧ s ≠ .tick) (t : Timeline (Debouncer κ (Nat × τ)) κ τ) :
    (t.act operations s).now = t.now ∧ (t.act operations s).fired = t.fired ∧
      (t.act operations s).tasks.window = t.tasks.window ∧
      (t.tasks.Single → (t.act operations s).tasks.Single) := by
  cases s with
  | schedule key task => exact ⟨rfl, rfl, rfl, fun h => h.schedule _ _ _⟩
  | cancel key => exact ⟨rfl, rfl, rfl, fun h => h.cancel _⟩
  | cancelAll => exact ⟨rfl, rfl, rfl, fun _ => List.nodup_nil⟩
  | run => exact absurd rfl hcall.1
  | tick => exact absurd rfl hcall.2

namespace Sound

theorem lt_length (h : Sound window course t) {f : Fired κ τ} (hf : f ∈ t.fired) :
    f.call < course.length :=
  Debouncer.lt_length (h.scheduled f hf)

/--
What has run is not touched by a later step.
-/
theorem fired_concat (h : Sound window course t) (s : Step κ τ) {f : Fired κ τ} (hf : f ∈ t.fired) :
    (course ++ [s])[f.call]? = some (.schedule f.key f.task) ∧
      f.time = timeAt (course ++ [s]) f.call + window ∧
      ∀ j s', f.call < j → (course ++ [s])[j]? = some s' → s'.Concerns f.key →
        f.time ≤ timeAt (course ++ [s]) j := by
  refine ⟨getElem?_concat_eq_some.2 (.inl (h.scheduled f hf)), ?_, ?_⟩
  . rw [timeAt_concat (Nat.le_of_lt (h.lt_length hf))]
    exact (h.delayed f hf).1
  . intro j s' hlt hs' hconcerns
    rcases getElem?_concat_eq_some.1 hs' with hold | ⟨hj, _⟩
    . rw [timeAt_concat (Nat.le_of_lt (Debouncer.lt_length hold))]
      exact h.undisturbed f hf j s' hlt hold hconcerns
    . rw [hj, timeAt_concat (Nat.le_refl _), timeAt_length, ← h.now_eq]
      exact (h.delayed f hf).2

/--
A step that does not concern a key leaves the task of this key waiting for what it has waited for.
-/
theorem waits_concat_of_not_concerns (h : Sound window course t) (hconcerns : ¬s.Concerns key)
    (due i : Nat) (task : τ) :
    t.tasks.timers.get? key = some (due, i, task) ↔
      IsLast (course ++ [s]) i key task ∧ due = timeAt (course ++ [s]) i + window ∧
        ∀ f ∈ t.fired, f.call ≠ i := by
  rw [isLast_concat_of_not_concerns hconcerns, h.waits_iff]
  constructor
  . intro hwaits
    refine ⟨hwaits.1, ?_, hwaits.2.2⟩
    rw [timeAt_concat (Nat.le_of_lt (Debouncer.lt_length hwaits.1.scheduled))]
    exact hwaits.2.1
  . intro hwaits
    rw [timeAt_concat (Nat.le_of_lt (Debouncer.lt_length hwaits.1.scheduled))] at hwaits
    exact hwaits

/--
A call about a key decides anew whether a task waits for it, and no other key notices.
-/
theorem call (h : Sound window course t) (hcall : s ≠ .run ∧ s ≠ .tick) :
    Sound window (course ++ [s]) (t.step operations s) := by
  have ⟨hnow, hfired, hwindow, hsingle⟩ := act_of_call hcall t
  have helapsed : elapsed (course ++ [s]) = elapsed course := by
    rw [elapsed_concat]
    cases s <;> simp [Step.isTick] at hcall ⊢
  constructor
  case window_eq => exact hwindow.trans h.window_eq
  case length_eq =>
    rw [List.length_append, ← h.length_eq]
    rfl
  case now_eq =>
    rw [helapsed]
    exact hnow.trans h.now_eq
  case single => exact hsingle h.single
  case punctual =>
    intro key due waiting hget
    show (t.act operations s).now ≤ due
    rw [hnow]
    change (t.act operations s).tasks.timers.get? key = _ at hget
    by_cases hconcerns : s.Concerns key
    . rw [get?_timers_act_of_concerns hconcerns] at hget
      have ⟨task, _, heq⟩ := Option.map_eq_some_iff.1 hget
      cases heq
      exact Nat.le_add_right _ _
    . rw [get?_timers_act_of_not_concerns hconcerns hcall] at hget
      exact h.punctual key due waiting hget
  case waits_iff =>
    intro key due i task
    show (t.act operations s).tasks.timers.get? key = _ ↔ _
    change _ ↔ _ ∧ _ ∧ ∀ f ∈ (t.act operations s).fired, f.call ≠ i
    rw [hfired]
    by_cases hconcerns : s.Concerns key
    . rw [get?_timers_act_of_concerns hconcerns, isLast_concat_of_concerns hconcerns,
        Option.map_eq_some_iff]
      constructor
      . intro hget
        have ⟨task', htask, heq⟩ := hget
        cases heq
        refine ⟨⟨h.length_eq, ?_⟩, ?_, ?_⟩
        . cases s with
          | schedule other _ =>
            cases htask
            obtain rfl : other = key := hconcerns
            rfl
          | cancel => cases htask
          | cancelAll => cases htask
          | run => cases htask
          | tick => cases htask
        . rw [h.length_eq, timeAt_concat (Nat.le_refl _), timeAt_length, ← h.now_eq, h.window_eq]
        . intro f hf
          rw [h.length_eq]
          exact Nat.ne_of_lt (h.lt_length hf)
      . intro hlast
        obtain ⟨⟨rfl, rfl⟩, rfl, _⟩ := hlast
        refine ⟨task, rfl, ?_⟩
        rw [h.length_eq, timeAt_concat (Nat.le_refl _), timeAt_length, ← h.now_eq, h.window_eq]
    . rw [get?_timers_act_of_not_concerns hconcerns hcall]
      exact h.waits_concat_of_not_concerns hconcerns due i task
  case scheduled =>
    change ∀ f ∈ (t.act operations s).fired, _
    rw [hfired]
    intro f hf
    exact (h.fired_concat s hf).1
  case delayed =>
    change ∀ f ∈ (t.act operations s).fired, _ ∧ _ ≤ (t.act operations s).now
    rw [hfired, hnow]
    intro f hf
    exact ⟨(h.fired_concat s hf).2.1, (h.delayed f hf).2⟩
  case undisturbed =>
    change ∀ f ∈ (t.act operations s).fired, _
    rw [hfired]
    intro f hf
    exact (h.fired_concat s hf).2.2
  case nodup =>
    show (t.act operations s).fired.Nodup
    rw [hfired]
    exact h.nodup

theorem mem_fired_run (h : Sound window course t) (f : Fired κ τ) :
    f ∈ (t.run operations).fired ↔ f ∈ t.fired ∨
      t.tasks.timers.get? f.key = some (t.now, f.call, f.task) ∧ f.time = t.now := by
  show f ∈ t.fired ++ (t.tasks.takeDue t.now).1.map _ ↔ _
  rw [List.mem_append, List.mem_map]
  apply or_congr_right
  constructor
  . intro hdue
    obtain ⟨⟨due, key, i, task⟩, hdue, rfl⟩ := hdue
    have ⟨hget, hle⟩ := (mem_takeDue h.single).1 hdue
    -- What is due is due now, because nothing has been left behind.
    rw [Nat.le_antisymm hle (h.punctual _ _ _ hget)] at hget
    exact ⟨hget, rfl⟩
  . intro hdue
    refine ⟨(t.now, f.key, f.call, f.task), (mem_takeDue h.single).2 ⟨hdue.1, Nat.le_refl _⟩, ?_⟩
    show Fired.mk t.now f.key f.call f.task = f
    rw [← hdue.2]

theorem get?_timers_run (h : Sound window course t) {due : Nat} {waiting : Nat × τ} :
    (t.run operations).tasks.timers.get? key = some (due, waiting) ↔
      t.tasks.timers.get? key = some (due, waiting) ∧ t.now < due := by
  show (t.tasks.takeDue t.now).2.timers.get? key = _ ↔ _
  rw [get?_timers_takeDue h.single, Option.filter_eq_some_iff, decide_eq_true_iff]

/--
When the runtime gets round to the tasks that are due, they run, and do not wait any longer.
-/
theorem run (h : Sound window course t) : Sound window course (t.run operations) := by
  constructor
  case window_eq => exact h.window_eq
  case length_eq => exact h.length_eq
  case now_eq => exact h.now_eq
  case single => exact h.single.takeDue t.now
  case punctual =>
    intro key due waiting hget
    exact Nat.le_of_lt (h.get?_timers_run.1 hget).2
  case waits_iff =>
    intro key due i task
    rw [h.get?_timers_run]
    constructor
    . intro hget
      have ⟨hlast, hdue, hnot⟩ := (h.waits_iff key due i task).1 hget.1
      refine ⟨hlast, hdue, ?_⟩
      intro f hf hcall
      rcases (h.mem_fired_run f).1 hf with hold | ⟨hnew, _⟩
      . exact hnot f hold hcall
      . -- The call belongs to one key only, and the task of this key is not due.
        have hscheduled := ((h.waits_iff _ _ _ _).1 hnew).1.scheduled
        rw [hcall, hlast.scheduled] at hscheduled
        cases hscheduled
        rw [hget.1] at hnew
        cases hnew
        exact Nat.lt_irrefl _ hget.2
    . intro hwaits
      have ⟨hlast, hdue, hnot⟩ := hwaits
      have hget : t.tasks.timers.get? key = some (due, i, task) := by
        refine (h.waits_iff key due i task).2 ⟨hlast, hdue, ?_⟩
        intro f hf
        exact hnot f ((h.mem_fired_run f).2 (.inl hf))
      refine ⟨hget, Nat.lt_of_le_of_ne (h.punctual _ _ _ hget) ?_⟩
      intro heq
      rw [← heq] at hget
      exact hnot ⟨t.now, key, i, task⟩ ((h.mem_fired_run _).2 (.inr ⟨hget, rfl⟩)) rfl
  case scheduled =>
    intro f hf
    rcases (h.mem_fired_run f).1 hf with hold | ⟨hnew, _⟩
    . exact h.scheduled f hold
    . exact ((h.waits_iff _ _ _ _).1 hnew).1.scheduled
  case delayed =>
    intro f hf
    rcases (h.mem_fired_run f).1 hf with hold | ⟨hnew, htime⟩
    . exact h.delayed f hold
    . rw [htime]
      exact ⟨((h.waits_iff _ _ _ _).1 hnew).2.1, Nat.le_refl _⟩
  case undisturbed =>
    intro f hf j s hlt hs hconcerns
    rcases (h.mem_fired_run f).1 hf with hold | ⟨hnew, _⟩
    . exact h.undisturbed f hold j s hlt hs hconcerns
    . exact absurd hconcerns (((h.waits_iff _ _ _ _).1 hnew).1.undisturbed j s hlt hs)
  case nodup =>
    show (t.fired ++ (t.tasks.takeDue t.now).1.map _).Nodup
    rw [List.nodup_append']
    refine ⟨h.nodup, ?_, ?_⟩
    . apply List.Nodup.map_on ?_ (nodup_takeDue h.single t.now)
      intro due hdue due' hdue' heq
      have hget := ((mem_takeDue h.single).1 hdue).1
      have hget' := ((mem_takeDue h.single).1 hdue').1
      rw [Fired.mk.injEq] at heq
      rw [heq.2.1, hget'] at hget
      exact Prod.ext (Prod.mk.inj (Option.some.inj hget)).1.symm
        (Prod.ext heq.2.1 (Prod.ext heq.2.2.1 heq.2.2.2))
    . intro f hold hmem
      have hnew : f ∈ (t.run operations).fired := List.mem_append_right _ hmem
      obtain ⟨⟨due, key, i, task⟩, hdue, rfl⟩ := List.mem_map.1 hmem
      have hget := ((mem_takeDue h.single).1 hdue).1
      exact ((h.waits_iff _ _ _ _).1 hget).2.2 _ hold rfl

/--
Steps that are not calls only have to respect the tasks that wait.
-/
theorem pass (h : Sound window course t) (hcall : ¬(s ≠ .run ∧ s ≠ .tick))
    (hpunctual : ∀ key due waiting, t.tasks.timers.get? key = some (due, waiting) →
      t.now + (if s.isTick then 1 else 0) ≤ due) :
    Sound window (course ++ [s])
      { t with now := t.now + (if s.isTick then 1 else 0), length := t.length + 1 } := by
  have hconcerns : ∀ key, ¬s.Concerns key := by
    intro key hconcerns
    apply hcall
    cases s <;> simp [Step.Concerns] at hconcerns ⊢
  constructor
  case window_eq => exact h.window_eq
  case length_eq =>
    rw [List.length_append, ← h.length_eq]
    rfl
  case now_eq => rw [elapsed_concat, ← h.now_eq]
  case single => exact h.single
  case punctual => exact hpunctual
  case waits_iff =>
    intro key due i task
    exact h.waits_concat_of_not_concerns (hconcerns key) due i task
  case scheduled =>
    intro f hf
    exact (h.fired_concat s hf).1
  case delayed =>
    intro f hf
    exact ⟨(h.fired_concat s hf).2.1, Nat.le_trans (h.delayed f hf).2 (Nat.le_add_right _ _)⟩
  case undisturbed =>
    intro f hf
    exact (h.fired_concat s hf).2.2
  case nodup => exact h.nodup

theorem step (h : Sound window course t) (s : Step κ τ) :
    Sound window (course ++ [s]) (t.step operations s) := by
  cases s with
  | schedule key task => exact h.call (by simp)
  | cancel key => exact h.call (by simp)
  | cancelAll => exact h.call (by simp)
  | run => exact h.run.pass (by simp) h.run.punctual
  | tick =>
    apply h.run.pass (by simp)
    intro key due waiting hget
    exact (h.get?_timers_run.1 hget).2

end Sound

theorem sound_timeline (window : Nat) (course : List (Step κ τ)) :
    Sound window course (timeline window course) := by
  induction course using List.reverseRecOn with
  | nil =>
    constructor
    case single => exact List.nodup_nil
    case waits_iff =>
      intro key due i task
      constructor
      . intro hget
        cases hget
      . intro hwaits
        cases hwaits.1.scheduled
    case nodup => exact List.nodup_nil
    all_goals simp [timeline, Timeline.follow, new, elapsed, Keyed.get?]
  | append_singleton course s ih =>
    rw [timeline_concat]
    exact ih.step s

end ServerLauncher.Debouncer
