/-!
This module contains lemmas about ASCII characters. What is to be shown of all of them can be checked for
one after another.
-/

namespace ServerLauncher.Text

theorem forall_ascii {P : Char → Prop} (h : ∀ n < 0x80, P (Char.ofNat n)) {c : Char}
    (hc : c.toNat < 0x80) : P c := by
  have hP := h c.toNat hc
  rwa [Char.ofNat_toNat] at hP

theorem toNat_lt_of_isDigit {c : Char} (h : c.isDigit) : c.toNat < 0x80 := by
  simp only [Char.isDigit, Bool.and_eq_true, decide_eq_true_eq] at h
  exact Nat.lt_of_le_of_lt h.2 (by decide)

theorem toNat_lt_of_isAlpha {c : Char} (h : c.isAlpha) : c.toNat < 0x80 := by
  rcases Bool.or_eq_true_iff.1 h with h | h
  . exact Nat.lt_of_le_of_lt (of_decide_eq_true h).2 (by decide)
  . exact Nat.lt_of_le_of_lt (of_decide_eq_true (Bool.and_eq_true_iff.1 h).2) (by decide)

theorem toNat_lt_of_isAlphanum {c : Char} (h : c.isAlphanum) : c.toNat < 0x80 := by
  rcases Bool.or_eq_true_iff.1 h with h | h
  . exact toNat_lt_of_isAlpha h
  . exact toNat_lt_of_isDigit h

/--
Only ASCII characters become one when capital letters become small.
-/
theorem toNat_lt_of_toLower {c : Char} (h : c.toLower.toNat < 0x80) : c.toNat < 0x80 := by
  unfold Char.toLower at h
  split at h
  . next hupper => exact Nat.lt_of_le_of_lt hupper.2 (by decide)
  . exact h

/--
Only letters change when capital letters become small.
-/
theorem eq_of_toLower_eq {c d : Char} (hd : d.toNat < 0x80) (hletter : d.isAlpha = false)
    (h : c.toLower = d) : c = d := by
  have hascii : ∀ n < 0x80, (Char.ofNat n).toLower.isAlpha = false →
      (Char.ofNat n).toLower = Char.ofNat n := by decide
  rw [← h] at hd hletter ⊢
  have hsame : c.toLower.isAlpha = false → c.toLower = c :=
    forall_ascii (P := fun c => c.toLower.isAlpha = false → c.toLower = c) hascii
      (toNat_lt_of_toLower hd)
  exact (hsame hletter).symm

end ServerLauncher.Text
