/-!
This module contains the reading of decimal numbers below a bound. The reading stops as soon as the
bound is reached, so that digits without end do no harm.
-/

namespace ServerLauncher.Text

/--
The number that digits stand for, if it is below a bound.
-/
def numberBelow? (bound : Nat) (digits : List Char) : Option Nat :=
  go 0 digits
where
  /--
  Read on behind digits that stand for `n`.
  -/
  go (n : Nat) : List Char → Option Nat
    | [] => if n < bound then some n else none
    | d :: rest => if n < bound then go (10 * n + (d.toNat - '0'.toNat)) rest else none

theorem le_ofDigitChars (n : Nat) (digits : List Char) : n ≤ Nat.ofDigitChars 10 digits n := by
  induction digits generalizing n with
  | nil => exact Nat.le_refl n
  | cons d rest ih =>
    have h := ih (10 * n + (d.toNat - '0'.toNat))
    simp only [Nat.ofDigitChars, List.foldl_cons] at h ⊢
    omega

theorem numberBelow?_go_eq_some_iff {bound n m : Nat} {digits : List Char} :
    numberBelow?.go bound n digits = some m ↔
      Nat.ofDigitChars 10 digits n = m ∧ m < bound := by
  induction digits generalizing n with
  | nil =>
    simp only [numberBelow?.go, Nat.ofDigitChars, List.foldl_nil]
    split <;> simp_all <;> omega
  | cons d rest ih =>
    simp only [numberBelow?.go]
    split
    · exact ih
    · have h := le_ofDigitChars n (d :: rest)
      simp only [reduceCtorEq, false_iff]
      omega

theorem numberBelow?_eq_some_iff {bound m : Nat} {digits : List Char} :
    numberBelow? bound digits = some m ↔ Nat.ofDigitChars 10 digits 0 = m ∧ m < bound :=
  numberBelow?_go_eq_some_iff

end ServerLauncher.Text
