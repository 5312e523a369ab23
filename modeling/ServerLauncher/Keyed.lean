/-!
This module contains lists of values under keys, in which every key that is put occurs once and keeps
its place.
-/

namespace ServerLauncher

/--
Values under keys, in the order in which the keys came.
-/
abbrev Keyed (κ α : Type) := List (κ × α)

namespace Keyed

variable {κ α : Type} [DecidableEq κ]

def get? (m : Keyed κ α) (key : κ) : Option α :=
  match m with
  | [] => none
  | (k, a) :: rest => if k = key then some a else get? rest key

/--
Put a value in the place of the one under a key, or behind the others if there is none.
-/
def put (m : Keyed κ α) (key : κ) (value : α) : Keyed κ α :=
  match m with
  | [] => [(key, value)]
  | (k, a) :: rest => if k = key then (key, value) :: rest else (k, a) :: put rest key value

def removeIf (m : Keyed κ α) (test : κ → Bool) : Keyed κ α :=
  m.filter fun (k, _) => !test k

def remove (m : Keyed κ α) (key : κ) : Keyed κ α :=
  m.removeIf (· = key)

@[simp]
theorem get?_put_self (m : Keyed κ α) (key : κ) (value : α) :
    (m.put key value).get? key = some value := by
  induction m with
  | nil => simp [put, get?]
  | cons entry rest ih =>
    by_cases h : entry.1 = key
    · simp [put, get?, h]
    · simp [put, get?, h, ih]

theorem get?_put_of_ne {key other : κ} (h : other ≠ key) (m : Keyed κ α) (value : α) :
    (m.put key value).get? other = m.get? other := by
  induction m with
  | nil => simp [put, get?, Ne.symm h]
  | cons entry rest ih =>
    by_cases hk : entry.1 = key
    · simp [put, get?, hk, Ne.symm h]
    · simp [put, get?, hk, ih]

theorem get?_removeIf_of_false {test : κ → Bool} {key : κ} (h : test key = false)
    (m : Keyed κ α) : (m.removeIf test).get? key = m.get? key := by
  induction m with
  | nil => rfl
  | cons entry rest ih =>
    simp only [removeIf] at ih
    by_cases ht : test entry.1
    · have hk : entry.1 ≠ key := fun e => by simp [e, h] at ht
      simp [removeIf, get?, ht, hk, ih]
    · by_cases hk : entry.1 = key
      · simp [removeIf, get?, hk, h]
      · simp [removeIf, get?, ht, hk, ih]

theorem get?_removeIf_of_true {test : κ → Bool} {key : κ} (h : test key = true)
    (m : Keyed κ α) : (m.removeIf test).get? key = none := by
  induction m with
  | nil => rfl
  | cons entry rest ih =>
    simp only [removeIf] at ih
    by_cases ht : test entry.1
    · simp [removeIf, ht, ih]
    · have hk : entry.1 ≠ key := fun e => by simp [e, h] at ht
      simp [removeIf, get?, ht, hk, ih]

end Keyed

end ServerLauncher
