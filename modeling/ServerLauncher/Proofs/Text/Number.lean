import Mathlib.Data.List.Induction
import ServerLauncher.Text.Number

/-!
This module contains the way back from digits to digits: a number is written with the digits that it
has been read from, unless they start with a redundant zero.
-/

namespace ServerLauncher.Text

theorem digitChar_toNat_sub {d : Char} (h : d.isDigit) : Nat.digitChar (d.toNat - '0'.toNat) = d := by
  have hbounds : 48 ≤ d.toNat ∧ d.toNat ≤ 57 := by
    simpa [Char.isDigit, UInt32.le_iff_toNat_le] using h
  have hzero : '0'.toNat = 48 := rfl
  rw [← Char.toNat_inj]
  rw [Nat.toNat_digitChar_of_lt_ten]
  . omega
  . omega

theorem toDigits_ofDigitChars {cs : List Char} (hne : cs ≠ []) (hdigits : ∀ d ∈ cs, d.isDigit)
    (hzero : cs = ['0'] ∨ cs.head? ≠ some '0') :
    Nat.toDigits 10 (Nat.ofDigitChars 10 cs 0) = cs := by
  induction cs using List.reverseRecOn with
  | nil => exact absurd rfl hne
  | append_singleton front d ih =>
    have hd : d.isDigit := hdigits d (by simp)
    have hlt : d.toNat - '0'.toNat < 10 := by
      have hdigit := Nat.isDigit_digitChar (n := d.toNat - '0'.toNat)
      rw [digitChar_toNat_sub hd, hd] at hdigit
      simpa using hdigit.symm
    have hlast : Nat.toDigits 10 (d.toNat - '0'.toNat) = [d] := by
      rw [Nat.toDigits_of_lt_base hlt]
      rw [digitChar_toNat_sub hd]
    rw [Nat.ofDigitChars_append]
    rw [Nat.ofDigitChars_cons, Nat.ofDigitChars_nil]
    by_cases hfront : front = []
    . rw [hfront]
      simpa using hlast
    . have hhead : front.head? ≠ some '0' := by
        cases hzero with
        | inl h =>
          rw [List.append_eq_singleton_iff] at h
          simp [hfront] at h
        | inr h =>
          intro hfirst
          rw [List.head?_append, hfirst] at h
          exact h rfl
      specialize ih hfront (fun d hd => hdigits d (by simp [hd])) (.inr hhead)
      rw [← Nat.toDigits_append_toDigits (by decide) _ hlt]
      . rw [ih, hlast]
      . apply Nat.pos_of_ne_zero
        intro h
        rw [h, Nat.toDigits_zero] at ih
        simp [← ih] at hhead

end ServerLauncher.Text
