import Mathlib.Data.List.Induction
import ServerLauncher.Proofs.Debounce.Course

/-!
This module contains a debouncer that holds handles of sleeping tasks instead of the tasks themselves.
Handles of tasks that have run stay behind until there are many of them. Nobody can tell this table from
a debouncer.
-/

namespace ServerLauncher.Debouncer

/--
What has become of a task that has been spawned.
-/
inductive Fate where
  | asleep
  | aborted
  | finished
deriving DecidableEq

/--
A task that has been spawned. It sleeps until it is due.
-/
structure Spawned (κ τ : Type) where
  handle : Nat
  due : Nat
  key : κ
  task : τ
  fate : Fate

namespace Spawned

variable {κ τ : Type}

/--
A task that has run already does not notice that it is aborted.
-/
def abort (s : Spawned κ τ) : Spawned κ τ :=
  if s.fate = .asleep then { s with fate := .aborted } else s

def isDue (s : Spawned κ τ) (now : Nat) : Bool :=
  s.fate = .asleep && s.due ≤ now

def wake (s : Spawned κ τ) (now : Nat) : Spawned κ τ :=
  if s.isDue now then { s with fate := .finished } else s

/--
A sleeping task as one that waits in a debouncer.
-/
def waiting? (s : Spawned κ τ) : Option (κ × Nat × τ) :=
  if s.fate = .asleep then some (s.key, s.due, s.task) else none

@[simp]
theorem handle_abort (s : Spawned κ τ) : s.abort.handle = s.handle := by
  unfold abort
  split <;> rfl

@[simp]
theorem waiting?_abort (s : Spawned κ τ) : s.abort.waiting? = none := by
  unfold abort waiting?
  split <;> simp [*]

@[simp]
theorem handle_wake (s : Spawned κ τ) (now : Nat) : (s.wake now).handle = s.handle := by
  unfold wake
  split <;> rfl

@[simp]
theorem key_wake (s : Spawned κ τ) (now : Nat) : (s.wake now).key = s.key := by
  unfold wake
  split <;> rfl

theorem fate_wake (s : Spawned κ τ) (now : Nat) :
    (s.wake now).fate = if s.isDue now then .finished else s.fate := by
  unfold wake
  split <;> rfl

theorem waiting?_wake (s : Spawned κ τ) (now : Nat) :
    (s.wake now).waiting? = s.waiting?.filter fun (_, due, _) => now < due := by
  unfold wake waiting? isDue
  by_cases hasleep : s.fate = .asleep
  . by_cases hdue : s.due ≤ now
    . simp [hasleep, hdue, Option.filter_some]
    . simp [hasleep, hdue, Option.filter_some]
  . simp [hasleep]

end Spawned

/--
All tasks that have ever been spawned, and for each key the handle of the one that was spawned for it
last, unless that has been dropped.
-/
structure Table (κ τ : Type) where
  window : Nat
  spawned : List (Spawned κ τ)
  handles : Keyed κ Nat

namespace Table

/--
How many handles there may be before those of finished tasks are looked for.
-/
def cleanupThreshold : Nat := 32

variable {κ τ : Type}

def new (window : Nat) : Table κ τ := ⟨window, [], []⟩

def isFinished (t : Table κ τ) (handle : Nat) : Bool :=
  t.spawned.any fun s => s.handle = handle && s.fate = .finished

def sweep (t : Table κ τ) : Table κ τ :=
  if cleanupThreshold < t.handles.length then
    { t with handles := t.handles.filter fun (_, handle) => !t.isFinished handle }
  else t

def abort (t : Table κ τ) (test : Nat → Bool) : Table κ τ :=
  { t with spawned := t.spawned.map fun s => if test s.handle then s.abort else s }

def abortAll (t : Table κ τ) : Table κ τ :=
  t.abort fun handle => (t.handles.map Prod.snd).contains handle

def cancelAll (t : Table κ τ) : Table κ τ :=
  { t.abortAll with handles := [] }

/--
What is left behind when the table is dropped.
-/
def drop (t : Table κ τ) : Table κ τ :=
  t.abortAll

def takeDue (t : Table κ τ) (now : Nat) : List (Nat × κ × τ) × Table κ τ :=
  let due := t.spawned.filterMap fun s =>
    if s.isDue now then some (s.due, s.key, s.task) else none
  (due.mergeSort fun a b => a.1 ≤ b.1, { t with spawned := t.spawned.map (·.wake now) })

/--
The sleeping tasks of a table as a debouncer.
-/
def debouncer (t : Table κ τ) : Debouncer κ τ :=
  ⟨t.window, t.spawned.filterMap (·.waiting?)⟩

theorem debouncer_sweep (t : Table κ τ) : t.sweep.debouncer = t.debouncer := by
  unfold sweep
  split <;> rfl

theorem timers_abort (t : Table κ τ) (test : Nat → Bool) :
    (t.abort test).debouncer.timers =
      t.spawned.filterMap fun s => if test s.handle then none else s.waiting? := by
  show (t.spawned.map _).filterMap _ = _
  rw [List.filterMap_map]
  apply List.filterMap_congr
  intro s _
  dsimp only [Function.comp]
  split
  . exact s.waiting?_abort
  . rfl

theorem handles_abort (t : Table κ τ) (test : Nat → Bool) :
    (t.abort test).spawned.map (·.handle) = t.spawned.map (·.handle) := by
  show (t.spawned.map _).map _ = _
  rw [List.map_map]
  apply List.map_congr_left
  intro s _
  dsimp only [Function.comp]
  split
  . exact s.handle_abort
  . rfl

theorem debouncer_takeDue (t : Table κ τ) (now : Nat) :
    t.debouncer.takeDue now = ((t.takeDue now).1, (t.takeDue now).2.debouncer) := by
  have hdue : (t.spawned.filterMap fun s =>
      if s.isDue now then some (s.due, s.key, s.task) else none) =
        t.debouncer.timers.filterMap fun (key, due, task) =>
          if due ≤ now then some (due, key, task) else none := by
    show _ = (t.spawned.filterMap _).filterMap _
    rw [List.filterMap_filterMap]
    apply List.filterMap_congr
    intro s _
    unfold Spawned.isDue Spawned.waiting?
    by_cases hasleep : s.fate = .asleep
    . simp [hasleep]
    . simp [hasleep]
  have hrest : (t.takeDue now).2.debouncer.timers =
      t.debouncer.timers.filter fun (_, due, _) => now < due := by
    show (t.spawned.map _).filterMap _ = (t.spawned.filterMap _).filter _
    rw [List.filterMap_map, List.filter_filterMap]
    apply List.filterMap_congr
    intro s _
    exact s.waiting?_wake now
  unfold Debouncer.takeDue
  rw [← hdue, ← hrest]
  rfl

variable [DecidableEq κ]

def cancel (t : Table κ τ) (key : κ) : Table κ τ :=
  match t.handles.get? key with
  | none => t
  | some handle => { t.abort (· = handle) with handles := t.handles.remove key }

def spawn (t : Table κ τ) (now : Nat) (key : κ) (task : τ) : Table κ τ :=
  { t with
    spawned := t.spawned ++ [⟨t.spawned.length, now + t.window, key, task, .asleep⟩]
    handles := t.handles.put key t.spawned.length }

def schedule (t : Table κ τ) (now : Nat) (key : κ) (task : τ) : Table κ τ :=
  (t.sweep.cancel key).spawn now key task

def isPending (t : Table κ τ) (key : κ) : Bool :=
  (t.handles.get? key).any fun handle => !t.isFinished handle

def operations : Operations (Table κ τ) κ τ where
  schedule := schedule
  cancel := cancel
  cancelAll := cancelAll
  takeDue := takeDue

theorem get?_handles_cancel (t : Table κ τ) (key : κ) : (t.cancel key).handles.get? key = none := by
  unfold cancel
  split
  . next hget => exact hget
  . exact Keyed.get?_eq_none_iff.2 Keyed.not_mem_remove

/--
Every handle is given once, every sleeping task can be reached by its key, and no key leads to a task
that has been aborted.
-/
structure WellHeld (t : Table κ τ) : Prop where
  fresh : ∀ s ∈ t.spawned, s.handle < t.spawned.length
  distinct : (t.spawned.map (·.handle)).Nodup
  single : (t.handles.map Prod.fst).Nodup
  held : ∀ s ∈ t.spawned, s.fate = .asleep → t.handles.get? s.key = some s.handle
  spawned : ∀ key handle, t.handles.get? key = some handle →
    ∃ s ∈ t.spawned, s.handle = handle ∧ s.key = key ∧ s.fate ≠ .aborted

variable {t : Table κ τ} {s s' : Spawned κ τ} {key : κ} {handle now : Nat} {task : τ}

namespace WellHeld

theorem eq_of_handle_eq (h : t.WellHeld) (hs : s ∈ t.spawned) (hs' : s' ∈ t.spawned)
    (heq : s.handle = s'.handle) : s = s' :=
  List.inj_on_of_nodup_map h.distinct hs hs' heq

theorem isFinished_iff (h : t.WellHeld) (hs : s ∈ t.spawned) :
    t.isFinished s.handle = true ↔ s.fate = .finished := by
  unfold isFinished
  rw [List.any_eq_true]
  constructor
  . intro hany
    have ⟨s', hs', hfinished⟩ := hany
    rw [Bool.and_eq_true, decide_eq_true_iff, decide_eq_true_iff] at hfinished
    rw [← h.eq_of_handle_eq hs' hs hfinished.1]
    exact hfinished.2
  . intro hfinished
    exact ⟨s, hs, by simp [hfinished]⟩

/--
Looking for finished tasks loses no other.
-/
theorem sweep (h : t.WellHeld) : t.sweep.WellHeld := by
  unfold Table.sweep
  split
  . constructor
    case fresh => exact h.fresh
    case distinct => exact h.distinct
    case single => exact h.single.sublist (List.filter_sublist.map Prod.fst)
    case held =>
      intro s hs hasleep
      show Keyed.get? (t.handles.filter _) s.key = _
      rw [Keyed.get?_filter h.single, h.held s hs hasleep, Option.filter_some]
      refine if_pos ?_
      rw [Bool.not_eq_true', ← Bool.not_eq_true, h.isFinished_iff hs, hasleep]
      decide
    case spawned =>
      intro key handle hget
      change Keyed.get? (t.handles.filter _) key = _ at hget
      rw [Keyed.get?_filter h.single, Option.filter_eq_some_iff] at hget
      exact h.spawned key handle hget.1
  . exact h

end WellHeld

namespace WellHeld

/--
Tasks can be aborted as long as the handles of the others, and no other ones, are kept.
-/
theorem abort {test : Nat → Bool} {handles : Keyed κ Nat} (h : t.WellHeld)
    (hsingle : (handles.map Prod.fst).Nodup)
    (hkept : ∀ key handle, handles.get? key = some handle →
      t.handles.get? key = some handle ∧ test handle = false)
    (hheld : ∀ s ∈ t.spawned, s.fate = .asleep → test s.handle = false →
      handles.get? s.key = some s.handle) :
    WellHeld { t.abort test with handles } := by
  have hmem : ∀ s ∈ (t.abort test).spawned, ∃ s' ∈ t.spawned,
      s = if test s'.handle then s'.abort else s' := by
    intro s hs
    have ⟨s', hs', heq⟩ := List.mem_map.1 hs
    exact ⟨s', hs', heq.symm⟩
  constructor
  case fresh =>
    intro s hs
    have ⟨s', hs', heq⟩ := hmem s hs
    show s.handle < (t.spawned.map _).length
    rw [List.length_map, heq]
    split
    . rw [s'.handle_abort]
      exact h.fresh s' hs'
    . exact h.fresh s' hs'
  case distinct =>
    show ((t.abort test).spawned.map _).Nodup
    rw [handles_abort]
    exact h.distinct
  case single => exact hsingle
  case held =>
    intro s hs hasleep
    have ⟨s', hs', heq⟩ := hmem s hs
    split at heq
    . rw [heq] at hasleep
      have hwaiting := s'.waiting?_abort
      unfold Spawned.waiting? at hwaiting
      rw [if_pos hasleep] at hwaiting
      cases hwaiting
    . next hnot =>
      rw [heq] at hasleep ⊢
      exact hheld s' hs' hasleep (Bool.not_eq_true _ ▸ hnot)
  case spawned =>
    intro key handle hget
    have ⟨hget', htest⟩ := hkept key handle hget
    have ⟨s, hs, hhandle, hrest⟩ := h.spawned key handle hget'
    refine ⟨s, List.mem_map.2 ⟨s, hs, ?_⟩, hhandle, hrest⟩
    rw [hhandle, htest]
    rfl

theorem cancel (h : t.WellHeld) (key : κ) : (t.cancel key).WellHeld := by
  unfold Table.cancel
  split
  . exact h
  . next handle hget =>
    apply h.abort (Keyed.nodup_remove h.single key)
    . intro other handle' hget'
      by_cases heq : other = key
      . rw [heq, Keyed.get?_eq_none_iff.2 Keyed.not_mem_remove] at hget'
        cases hget'
      . rw [Keyed.remove, Keyed.get?_removeIf_of_false (by simp [heq])] at hget'
        refine ⟨hget', ?_⟩
        rw [decide_eq_false_iff_not]
        intro hsame
        rw [hsame] at hget'
        obtain ⟨s, hs, hhandle, hkey, _⟩ := h.spawned _ _ hget
        obtain ⟨s', hs', hhandle', hkey', _⟩ := h.spawned _ _ hget'
        rw [h.eq_of_handle_eq hs hs' (hhandle.trans hhandle'.symm)] at hkey
        exact heq (hkey'.symm.trans hkey)
    . intro s hs hasleep hother
      have hheld := h.held s hs hasleep
      rw [Keyed.remove, Keyed.get?_removeIf_of_false]
      . exact hheld
      . rw [decide_eq_false_iff_not] at hother ⊢
        intro heq
        rw [heq, hget] at hheld
        exact hother (Option.some.inj hheld).symm

theorem cancelAll (h : t.WellHeld) : t.cancelAll.WellHeld := by
  refine WellHeld.abort h ?_ ?_ ?_
  . exact List.nodup_nil
  . intro key handle hget
    cases hget
  . intro s hs hasleep hother
    have hmem := Keyed.mem_of_get?_eq_some (h.held s hs hasleep)
    rw [← Bool.not_eq_true, List.contains_iff_mem] at hother
    exact absurd (List.mem_map_of_mem hmem) hother

theorem spawn (h : t.WellHeld) (hfree : t.handles.get? key = none) (now : Nat) (task : τ) :
    (t.spawn now key task).WellHeld := by
  have hlt : ∀ s ∈ t.spawned, s.handle ≠ t.spawned.length := by
    intro s hs
    exact Nat.ne_of_lt (h.fresh s hs)
  have hother : ∀ other, other ≠ key →
      (t.spawn now key task).handles.get? other = t.handles.get? other := by
    intro other hne
    exact Keyed.get?_put_of_ne hne _ _
  have hself : (t.spawn now key task).handles.get? key = some t.spawned.length :=
    Keyed.get?_put_self _ _ _
  constructor
  case fresh =>
    intro s hs
    show s.handle < (t.spawned ++ _).length
    rw [List.length_append, List.length_singleton]
    rcases List.mem_append.1 hs with hold | hnew
    . exact Nat.lt_succ_of_lt (h.fresh s hold)
    . rw [List.mem_singleton.1 hnew]
      exact Nat.lt_succ_self _
  case distinct =>
    show ((t.spawned ++ _).map _).Nodup
    rw [List.map_append, List.map_singleton, List.nodup_append']
    refine ⟨h.distinct, List.nodup_singleton _, ?_⟩
    rw [List.disjoint_singleton]
    intro hmem
    have ⟨s, hs, heq⟩ := List.mem_map.1 hmem
    exact hlt s hs heq
  case single =>
    show ((t.handles.put key _).map Prod.fst).Nodup
    rw [Keyed.get?_eq_none_iff] at hfree
    rw [Keyed.put_of_not_mem hfree, List.map_append, List.map_singleton, List.nodup_append']
    exact ⟨h.single, List.nodup_singleton _, List.disjoint_singleton.2 hfree⟩
  case held =>
    intro s hs hasleep
    rcases List.mem_append.1 hs with hold | hnew
    . have hheld := h.held s hold hasleep
      rw [hother s.key ?_]
      . exact hheld
      . intro heq
        rw [heq, hfree] at hheld
        cases hheld
    . rw [List.mem_singleton.1 hnew]
      exact hself
  case spawned =>
    intro other handle hget
    by_cases heq : other = key
    . rw [heq, hself] at hget
      cases hget
      refine ⟨_, List.mem_append_right _ (List.mem_singleton_self _), rfl, heq.symm, ?_⟩
      exact Fate.noConfusion
    . rw [hother other heq] at hget
      have ⟨s, hs, hrest⟩ := h.spawned other handle hget
      exact ⟨s, List.mem_append_left _ hs, hrest⟩

theorem takeDue (h : t.WellHeld) (now : Nat) : (t.takeDue now).2.WellHeld := by
  constructor
  case fresh =>
    intro s hs
    obtain ⟨s', hs', rfl⟩ := List.mem_map.1 hs
    show (s'.wake now).handle < (t.spawned.map _).length
    rw [List.length_map, s'.handle_wake]
    exact h.fresh s' hs'
  case distinct =>
    show ((t.spawned.map _).map _).Nodup
    have hsame : (Spawned.handle ∘ fun s : Spawned κ τ => s.wake now) = Spawned.handle := by
      funext s
      exact s.handle_wake now
    rw [List.map_map, hsame]
    exact h.distinct
  case single => exact h.single
  case held =>
    intro s hs hasleep
    obtain ⟨s', hs', rfl⟩ := List.mem_map.1 hs
    rw [s'.fate_wake] at hasleep
    split at hasleep
    . cases hasleep
    . rw [s'.key_wake, s'.handle_wake]
      exact h.held s' hs' hasleep
  case spawned =>
    intro key handle hget
    have ⟨s, hs, hhandle, hkey, hfate⟩ := h.spawned key handle hget
    refine ⟨s.wake now, List.mem_map_of_mem hs, ?_, ?_, ?_⟩
    . rw [s.handle_wake]
      exact hhandle
    . rw [s.key_wake]
      exact hkey
    . rw [s.fate_wake]
      split
      . decide
      . exact hfate

theorem schedule (h : t.WellHeld) (now : Nat) (key : κ) (task : τ) :
    (t.schedule now key task).WellHeld :=
  (h.sweep.cancel key).spawn (get?_handles_cancel t.sweep key) now task

theorem debouncer_cancel (h : t.WellHeld) (key : κ) :
    (t.cancel key).debouncer = t.debouncer.cancel key := by
  have htimers : (t.cancel key).debouncer.timers = t.debouncer.timers.remove key := by
    show _ = (t.spawned.filterMap _).filter _
    rw [List.filter_filterMap]
    unfold Table.cancel
    split
    . next hget =>
      apply List.filterMap_congr
      intro s hs
      unfold Spawned.waiting?
      split
      . next hasleep =>
        have hne : s.key ≠ key := by
          intro heq
          have hheld := h.held s hs hasleep
          rw [heq, hget] at hheld
          cases hheld
        simp [Option.filter_some, hne]
      . rfl
    . next handle hget =>
      show (t.abort (· = handle)).debouncer.timers = _
      rw [timers_abort]
      apply List.filterMap_congr
      intro s hs
      unfold Spawned.waiting?
      by_cases hasleep : s.fate = .asleep
      . -- The handle of the key is that of the only task that sleeps for it.
        have hiff : s.handle = handle ↔ s.key = key := by
          constructor
          . intro heq
            have ⟨s', hs', hhandle, hkey, _⟩ := h.spawned key handle hget
            rw [h.eq_of_handle_eq hs hs' (heq.trans hhandle.symm)]
            exact hkey
          . intro heq
            have hheld := h.held s hs hasleep
            rw [heq, hget] at hheld
            exact (Option.some.inj hheld).symm
        simp [Option.filter_some, hasleep, hiff]
      . simp [hasleep]
  have hwindow : (t.cancel key).window = t.window := by
    unfold Table.cancel
    split <;> rfl
  show Debouncer.mk (t.cancel key).window (t.cancel key).debouncer.timers = _
  rw [htimers, hwindow]
  rfl

theorem debouncer_schedule (h : t.WellHeld) (now : Nat) (key : κ) (task : τ) :
    (t.schedule now key task).debouncer = t.debouncer.schedule now key task := by
  have hcancel := h.sweep.debouncer_cancel key
  rw [debouncer_sweep] at hcancel
  have htimers := congrArg Debouncer.timers hcancel
  have hwindow := congrArg Debouncer.window hcancel
  have hspawn : (t.schedule now key task).debouncer.timers =
      (t.sweep.cancel key).debouncer.timers ++ [(key, now + (t.sweep.cancel key).window, task)] := by
    show ((t.sweep.cancel key).spawned ++ _).filterMap _ = _
    rw [List.filterMap_append]
    rfl
  show Debouncer.mk (t.sweep.cancel key).window (t.schedule now key task).debouncer.timers = _
  rw [hspawn, htimers, show (t.sweep.cancel key).window = t.window from hwindow]
  show _ = Debouncer.mk t.window (t.debouncer.schedule now key task).timers
  rw [timers_schedule]
  rfl

theorem timers_abortAll (h : t.WellHeld) : t.abortAll.debouncer.timers = [] := by
  unfold abortAll
  rw [timers_abort, List.filterMap_eq_nil_iff]
  intro s hs
  split
  . rfl
  . next hnot =>
    apply if_neg
    intro hasleep
    apply hnot
    rw [List.contains_iff_mem]
    exact List.mem_map_of_mem (Keyed.mem_of_get?_eq_some (h.held s hs hasleep))

theorem isPending_eq (h : t.WellHeld) (key : κ) : t.isPending key = t.debouncer.isPending key := by
  have hsleeping : t.debouncer.isPending key = true ↔
      ∃ s ∈ t.spawned, s.key = key ∧ s.fate = .asleep := by
    unfold Debouncer.isPending
    rw [Option.isSome_iff_ne_none, Ne, Keyed.get?_eq_none_iff, not_not, List.mem_map]
    constructor
    . intro hmem
      obtain ⟨entry, hentry, rfl⟩ := hmem
      have ⟨s, hs, hwaiting⟩ := List.mem_filterMap.1 hentry
      unfold Spawned.waiting? at hwaiting
      split at hwaiting
      . next hasleep =>
        cases hwaiting
        exact ⟨s, hs, rfl, hasleep⟩
      . cases hwaiting
    . intro hsleeps
      have ⟨s, hs, hkey, hasleep⟩ := hsleeps
      refine ⟨_, List.mem_filterMap.2 ⟨s, hs, if_pos hasleep⟩, hkey⟩
  rw [Bool.eq_iff_iff, hsleeping]
  unfold Table.isPending
  rw [Option.any_eq_true]
  constructor
  . intro hpending
    have ⟨handle, hget, hnot⟩ := hpending
    have ⟨s, hs, hhandle, hkey, hfate⟩ := h.spawned key handle hget
    rw [← hhandle, Bool.not_eq_true', ← Bool.not_eq_true, h.isFinished_iff hs] at hnot
    refine ⟨s, hs, hkey, ?_⟩
    cases hs : s.fate with
    | asleep => rfl
    | aborted => exact absurd hs hfate
    | finished => exact absurd hs hnot
  . intro hsleeps
    obtain ⟨s, hs, rfl, hasleep⟩ := hsleeps
    refine ⟨s.handle, h.held s hs hasleep, ?_⟩
    rw [Bool.not_eq_true', ← Bool.not_eq_true, h.isFinished_iff hs, hasleep]
    decide

end WellHeld

/--
What becomes of the tasks in a course that starts with a new table.
-/
def timeline (window : Nat) (course : List (Step κ τ)) : Timeline (Table κ (Nat × τ)) κ τ :=
  (Timeline.mk (new window) 0 0 []).follow operations course

/--
A timeline with a debouncer in the place of the table.
-/
def forget (t : Timeline (Table κ (Nat × τ)) κ τ) : Timeline (Debouncer κ (Nat × τ)) κ τ :=
  { t with tasks := t.tasks.debouncer }

theorem forget_run (t : Timeline (Table κ (Nat × τ)) κ τ) :
    (forget t).run Debouncer.operations = forget (t.run operations) := by
  have htake := t.tasks.debouncer_takeDue t.now
  show Timeline.mk (t.tasks.debouncer.takeDue t.now).2 t.now t.length
    (t.fired ++ (t.tasks.debouncer.takeDue t.now).1.map _) = _
  rw [htake]
  rfl

theorem forget_step {t : Timeline (Table κ (Nat × τ)) κ τ} (h : t.tasks.WellHeld) (s : Step κ τ) :
    (t.step operations s).tasks.WellHeld ∧
      (forget t).step Debouncer.operations s = forget (t.step operations s) := by
  have hrun := forget_run t
  cases s with
  | schedule key task =>
    refine ⟨h.schedule _ _ _, ?_⟩
    show Timeline.mk (t.tasks.debouncer.schedule _ _ _) _ _ _ = _
    rw [← h.debouncer_schedule]
    rfl
  | cancel key =>
    refine ⟨h.cancel key, ?_⟩
    show Timeline.mk (t.tasks.debouncer.cancel key) _ _ _ = _
    rw [← h.debouncer_cancel]
    rfl
  | cancelAll =>
    refine ⟨h.cancelAll, ?_⟩
    show _ = Timeline.mk (Debouncer.mk t.tasks.window t.tasks.abortAll.debouncer.timers) _ _ _
    rw [h.timers_abortAll]
    rfl
  | run =>
    refine ⟨h.takeDue t.now, ?_⟩
    show { (forget t).run Debouncer.operations with length := t.length + 1 } = _
    rw [hrun]
    rfl
  | tick =>
    refine ⟨h.takeDue t.now, ?_⟩
    show { (forget t).run Debouncer.operations with now := t.now + 1, length := t.length + 1 } = _
    rw [hrun]
    rfl

/--
In every course, a table does what a debouncer does.
-/
theorem forget_timeline (window : Nat) (course : List (Step κ τ)) :
    (timeline window course).tasks.WellHeld ∧
      forget (timeline window course) = Debouncer.timeline window course := by
  induction course using List.reverseRecOn with
  | nil =>
    refine ⟨?_, rfl⟩
    constructor
    case distinct => exact List.nodup_nil
    case single => exact List.nodup_nil
    case spawned =>
      intro key handle hget
      cases hget
    all_goals
      intro s hs
      cases hs
  | append_singleton course s ih =>
    have hstep := forget_step ih.1 s
    rw [ih.2, ← timeline_concat] at hstep
    unfold timeline
    rw [Timeline.follow_concat]
    exact ⟨hstep.1, hstep.2.symm⟩

end Table

end ServerLauncher.Debouncer
