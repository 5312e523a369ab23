import ServerLauncher.Debounce
import ServerLauncher.Proofs.Keyed

/-!
This module contains what the operations of a debouncer do to the tasks that wait in it.
-/

namespace ServerLauncher.Debouncer

variable {κ τ : Type} {d : Debouncer κ τ} {key other : κ} {task : τ} {now time : Nat}

/--
No key comes twice among the tasks that wait.
-/
def Single (d : Debouncer κ τ) : Prop :=
  (d.timers.map Prod.fst).Nodup

theorem Single.takeDue (h : d.Single) (now : Nat) : (d.takeDue now).2.Single :=
  List.Nodup.sublist (List.filter_sublist.map Prod.fst) h

/--
What is due is sorted by the time, but nothing is added or lost by that.
-/
theorem perm_takeDue (d : Debouncer κ τ) (now : Nat) :
    (d.takeDue now).1.Perm (d.timers.filterMap fun (key, time, task) =>
      if time ≤ now then some (time, key, task) else none) :=
  List.mergeSort_perm _ _

theorem nodup_takeDue (h : d.Single) (now : Nat) : (d.takeDue now).1.Nodup := by
  rw [(d.perm_takeDue now).nodup_iff]
  apply List.Nodup.filterMap ?_ (List.Nodup.of_map Prod.fst h)
  intro entry entry' due hdue hdue'
  rw [Option.mem_ite_none_right, Option.mem_some_iff] at hdue hdue'
  have heq := hdue.2.trans hdue'.2.symm
  rw [Prod.mk.injEq, Prod.mk.injEq] at heq
  exact Prod.ext heq.2.1 (Prod.ext heq.1 heq.2.2)

theorem takeDue_of_idle (h : d.timers = []) (now : Nat) : d.takeDue now = ([], d) := by
  cases d
  cases h
  simp [takeDue]

variable [DecidableEq κ]

theorem get?_timers_schedule_of_ne (h : other ≠ key) (d : Debouncer κ τ) (now : Nat) (task : τ) :
    (d.schedule now key task).timers.get? other = d.timers.get? other := by
  simp only [schedule, Keyed.remove]
  rw [Keyed.get?_put_of_ne h]
  rw [Keyed.get?_removeIf_of_false (by simp [h])]

theorem get?_timers_cancel_self (d : Debouncer κ τ) (key : κ) :
    (d.cancel key).timers.get? key = none := by
  simp only [cancel, Keyed.remove]
  rw [Keyed.get?_removeIf_of_true (by simp)]

theorem get?_timers_cancel_of_ne (h : other ≠ key) (d : Debouncer κ τ) :
    (d.cancel key).timers.get? other = d.timers.get? other := by
  simp only [cancel, Keyed.remove]
  rw [Keyed.get?_removeIf_of_false (by simp [h])]

/--
The new task goes behind the others.
-/
theorem timers_schedule (d : Debouncer κ τ) (now : Nat) (key : κ) (task : τ) :
    (d.schedule now key task).timers = d.timers.remove key ++ [(key, now + d.window, task)] :=
  Keyed.put_of_not_mem Keyed.not_mem_remove

theorem Single.schedule (h : d.Single) (now : Nat) (key : κ) (task : τ) :
    (d.schedule now key task).Single := by
  have hnodup := List.Nodup.concat Keyed.not_mem_remove (Keyed.nodup_remove h key)
  rw [List.concat_eq_append] at hnodup
  unfold Single
  rw [timers_schedule, List.map_append]
  exact hnodup

theorem Single.cancel (h : d.Single) (key : κ) : (d.cancel key).Single :=
  Keyed.nodup_remove h key

theorem get?_timers_takeDue (h : d.Single) (now : Nat) (key : κ) :
    (d.takeDue now).2.timers.get? key = (d.timers.get? key).filter fun (time, _) => now < time := by
  show Keyed.get? (d.timers.filter fun (_, time, _) => now < time) key = _
  rw [Keyed.get?_filter h]

theorem mem_takeDue (h : d.Single) :
    (time, key, task) ∈ (d.takeDue now).1 ↔
      d.timers.get? key = some (time, task) ∧ time ≤ now := by
  rw [(d.perm_takeDue now).mem_iff, Keyed.get?_eq_some_iff h, List.mem_filterMap]
  constructor
  . intro hdue
    obtain ⟨⟨key', time', task'⟩, hmem, hdue⟩ := hdue
    dsimp only at hdue
    split at hdue
    . next hle =>
      cases hdue
      exact ⟨hmem, hle⟩
    . cases hdue
  . intro hdue
    exact ⟨_, hdue.1, if_pos hdue.2⟩

/--
What is due for a key is the task that waits for it, and nothing else.
-/
theorem filter_takeDue (h : d.Single) (now : Nat) (key : κ) :
    (d.takeDue now).1.filter (fun (_, other, _) => other = key) =
      ((d.timers.get? key).filter fun (time, _) => time ≤ now).toList.map fun (time, task) =>
        (time, key, task) := by
  have hperm := (d.perm_takeDue now).filter fun (_, other, _) => other = key
  have hdue : (d.timers.filterMap fun (key, time, task) =>
      if time ≤ now then some (time, key, task) else none).filter (fun (_, other, _) => other = key) =
        (d.timers.filter fun (other, _) => other = key).filterMap fun (key, time, task) =>
          if time ≤ now then some (time, key, task) else none := by
    rw [List.filter_filterMap, List.filterMap_filter]
    apply List.filterMap_congr
    intro entry _
    dsimp only
    split
    . simp [Option.filter_some]
    . simp
  rw [hdue, Keyed.filter_key h] at hperm
  cases hget : d.timers.get? key with
  | none =>
    rw [hget] at hperm
    exact List.perm_nil.1 hperm
  | some waiting =>
    rw [hget] at hperm
    by_cases hle : waiting.1 ≤ now
    . simpa [Option.filter_some, hle] using hperm
    . simpa [Option.filter_some, hle] using hperm

end ServerLauncher.Debouncer
