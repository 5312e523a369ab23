import Mathlib.Data.List.Nodup
import ServerLauncher.Keyed

/-!
This module contains lemmas about values under keys: which of them are there, and that no key comes
twice.
-/

namespace ServerLauncher.Keyed

variable {κ α : Type} [DecidableEq κ] {m : Keyed κ α} {key : κ} {value : α}

theorem mem_of_get?_eq_some (h : m.get? key = some value) : (key, value) ∈ m := by
  induction m with
  | nil => cases h
  | cons entry rest ih =>
    unfold get? at h
    split at h
    . next heq =>
      cases h
      rw [← heq]
      exact List.mem_cons_self
    . exact List.mem_cons_of_mem _ (ih h)

theorem exists_first (h : key ∈ m.map Prod.fst) :
    ∃ front value back, m = front ++ (key, value) :: back ∧ ∀ entry ∈ front, entry.1 ≠ key := by
  induction m with
  | nil => cases h
  | cons entry rest ih =>
    by_cases hkey : entry.1 = key
    . refine ⟨[], entry.2, rest, ?_, by simp⟩
      rw [← hkey]
      rfl
    . have ⟨front, value, back, hrest, hfront⟩ := ih ((List.mem_cons.1 h).resolve_left (Ne.symm hkey))
      refine ⟨entry :: front, value, back, ?_, List.forall_mem_cons.2 ⟨hkey, hfront⟩⟩
      rw [hrest]
      rfl

/--
The first entry under a key can as well stand in front of all others.
-/
theorem get?_middle {front back : Keyed κ α} (h : ∀ entry ∈ front, entry.1 ≠ key) (other : κ) :
    get? (front ++ (key, value) :: back) other = get? ((key, value) :: (front ++ back)) other := by
  induction front with
  | nil => rfl
  | cons entry front ih =>
    have ⟨hentry, hfront⟩ := List.forall_mem_cons.1 h
    rw [List.cons_append, List.cons_append]
    unfold get?
    rw [ih hfront]
    unfold get?
    split
    . next heq =>
      rw [if_neg]
      intro hkey
      exact hentry (heq.trans hkey.symm)
    . rfl

theorem get?_eq_none_iff : m.get? key = none ↔ key ∉ m.map Prod.fst := by
  induction m with
  | nil => simp [get?]
  | cons entry rest ih =>
    unfold get?
    split
    . next heq => simp [heq]
    . next hne =>
      rw [ih, List.map_cons, List.mem_cons, not_or]
      exact (and_iff_right (Ne.symm hne)).symm

theorem get?_eq_some_iff (h : (m.map Prod.fst).Nodup) :
    m.get? key = some value ↔ (key, value) ∈ m := by
  constructor
  . exact mem_of_get?_eq_some
  . intro hmem
    cases hget : m.get? key with
    | none =>
      rw [get?_eq_none_iff] at hget
      exact absurd (List.mem_map_of_mem hmem) hget
    | some other =>
      have hsame := List.inj_on_of_nodup_map h (mem_of_get?_eq_some hget) hmem rfl
      rw [(Prod.mk.inj hsame).2]

theorem get?_filter (h : (m.map Prod.fst).Nodup) (test : κ × α → Bool) :
    get? (m.filter test) key = (m.get? key).filter fun value => test (key, value) := by
  have hsublist := (List.filter_sublist (p := test) (l := m)).map Prod.fst
  ext value
  rw [get?_eq_some_iff (h.sublist hsublist), List.mem_filter, Option.filter_eq_some_iff,
    get?_eq_some_iff h]

theorem filter_key (h : (m.map Prod.fst).Nodup) (key : κ) :
    m.filter (fun (k, _) => k = key) = (m.get? key).toList.map fun value => (key, value) := by
  induction m with
  | nil => rfl
  | cons entry rest ih =>
    rw [List.map_cons, List.nodup_cons] at h
    have hrest := ih h.2
    unfold get?
    split
    . next heq =>
      rw [heq] at h
      rw [get?_eq_none_iff.2 h.1] at hrest
      rw [List.filter_cons_of_pos (by simpa using heq), hrest, ← heq]
      rfl
    . next hne =>
      rw [List.filter_cons_of_neg (by simpa using hne)]
      exact hrest

theorem nodup_remove (h : (m.map Prod.fst).Nodup) (key : κ) :
    ((m.remove key).map Prod.fst).Nodup :=
  h.sublist (List.filter_sublist.map Prod.fst)

theorem not_mem_remove : key ∉ (m.remove key).map Prod.fst := by
  rw [← get?_eq_none_iff]
  exact get?_removeIf_of_true (by simp) m

theorem put_of_not_mem (h : key ∉ m.map Prod.fst) : m.put key value = m ++ [(key, value)] := by
  induction m with
  | nil => rfl
  | cons entry rest ih =>
    rw [List.map_cons, List.mem_cons, not_or] at h
    unfold put
    rw [if_neg (Ne.symm h.1), ih h.2]
    rfl

end ServerLauncher.Keyed
