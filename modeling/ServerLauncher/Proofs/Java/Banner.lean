import Mathlib.Algebra.Group.Nat.Defs
import ServerLauncher.Java.Banner
import ServerLauncher.Proofs.Text.Fronts
import ServerLauncher.Proofs.Text.Pieces

/-!
This module contains which version Java tells by its banner: the number that the first quoted text
starts with. A text that is still open where the banner ends counts as quoted.
-/

namespace ServerLauncher.Java

/--
The first text between double quotes in a banner.
-/
def Quotes (banner : String) (quoted : List Char) : Prop :=
  ∃ front behind, banner.toList = front ++ '"' :: (quoted ++ '"' :: behind) ∧
    '"' ∉ front ∧ '"' ∉ quoted

/--
The text behind the only double quote in a banner.
-/
def LeavesOpen (banner : String) (quoted : List Char) : Prop :=
  ∃ front, banner.toList = front ++ '"' :: quoted ∧ '"' ∉ front ∧ '"' ∉ quoted

/--
The digits at the start of a text, as many as there are, stand for a number.
-/
def StartsWithNumber (cs : List Char) (n : Nat) : Prop :=
  ∃ digits others, cs = digits ++ others ∧ digits ≠ [] ∧ (∀ d ∈ digits, d.isDigit) ∧
    (∀ c ∈ others.head?, c.isDigit = false) ∧ Nat.ofDigitChars 10 digits 0 = n

section Numbers

variable {cs : List Char} {n : Nat}

theorem startsWithNumber_iff :
    StartsWithNumber cs n ↔
      cs.takeWhile Char.isDigit ≠ [] ∧ Nat.ofDigitChars 10 (cs.takeWhile Char.isDigit) 0 = n := by
  constructor
  . intro h
    have ⟨digits, others, hcs, hne, hdigits, hothers, hn⟩ := h
    rw [hcs, Text.takeWhile_append_of_stop hdigits hothers]
    exact ⟨hne, hn⟩
  . intro h
    refine ⟨cs.takeWhile Char.isDigit, cs.dropWhile Char.isDigit, ?_, h.1, ?_, ?_, h.2⟩
    . exact List.takeWhile_append_dropWhile.symm
    . exact List.all_eq_true.1 List.all_takeWhile
    . intro c hc
      have hhead := List.head?_dropWhile_not Char.isDigit cs
      rw [hc] at hhead
      simpa using hhead

theorem exists_startsWithNumber_iff :
    (∃ n, StartsWithNumber cs n) ↔ ∃ c ∈ cs.head?, c.isDigit := by
  simp only [startsWithNumber_iff]
  cases cs with
  | nil => simp
  | cons c rest => cases h : c.isDigit <;> simp [h]

theorem leadingNumber?_eq_some_iff :
    leadingNumber? cs = some n ↔ StartsWithNumber cs n ∧ n < versionBound := by
  rw [startsWithNumber_iff]
  unfold leadingNumber?
  dsimp only
  split
  . next hempty => simp [List.isEmpty_iff.1 hempty]
  . next hempty =>
    rw [List.isEmpty_iff] at hempty
    rw [Text.numberBelow?_eq_some_iff]
    simp [hempty]

theorem StartsWithNumber.unique {m : Nat} (hm : StartsWithNumber cs m) (hn : StartsWithNumber cs n) :
    m = n := by
  rw [startsWithNumber_iff] at hm hn
  exact hm.2.symm.trans hn.2

theorem leadingNumber?_eq_none_iff :
    leadingNumber? cs = none ↔
      (∀ c ∈ cs.head?, c.isDigit = false) ∨ ∃ n, StartsWithNumber cs n ∧ versionBound ≤ n := by
  rw [Option.eq_none_iff_forall_ne_some]
  simp only [ne_eq, leadingNumber?_eq_some_iff, not_and, Nat.not_lt]
  constructor
  . intro h
    by_cases hnumber : ∃ n, StartsWithNumber cs n
    . have ⟨n, hn⟩ := hnumber
      exact .inr ⟨n, hn, h n hn⟩
    . rw [exists_startsWithNumber_iff] at hnumber
      refine .inl fun c hc => ?_
      rw [Bool.eq_false_iff]
      exact fun hdigit => hnumber ⟨c, hc, hdigit⟩
  . intro h n hn
    cases h with
    | inl hnone =>
      have ⟨c, hc, hdigit⟩ := exists_startsWithNumber_iff.1 ⟨n, hn⟩
      rw [hnone c hc] at hdigit
      cases hdigit
    | inr hlarge =>
      have ⟨m, hm, hle⟩ := hlarge
      rwa [hn.unique hm]

end Numbers

section Quoted

variable {banner : String} {quoted : List Char}

theorem firstQuoted?_eq_some_iff :
    firstQuoted? banner.toList = some quoted ↔ Quotes banner quoted ∨ LeavesOpen banner quoted := by
  unfold firstQuoted?
  rw [Option.map_eq_some_iff]
  constructor
  . intro h
    have ⟨behind, hbehind, hquoted⟩ := h
    have ⟨hbanner, hfront⟩ := Text.eq_append_of_cutAt_some (Prod.ext rfl hbehind)
    cases hclosed : Text.cutAt '"' behind with
    | mk first rest =>
      rw [hclosed] at hquoted
      subst hquoted
      cases rest with
      | none =>
        have ⟨hopen, hnot⟩ := Text.eq_of_cutAt_none hclosed
        rw [hopen] at hbanner
        exact .inr ⟨_, hbanner, hfront, hnot⟩
      | some others =>
        have ⟨hsplit, hnot⟩ := Text.eq_append_of_cutAt_some hclosed
        rw [hsplit] at hbanner
        exact .inl ⟨_, others, hbanner, hfront, hnot⟩
  . rintro (⟨front, behind, hbanner, hfront, hquoted⟩ | ⟨front, hbanner, hfront, hquoted⟩)
    . refine ⟨quoted ++ '"' :: behind, ?_, ?_⟩
      . rw [hbanner, Text.cutAt_fst_append hfront]
      . rw [Text.cutAt_fst_append hquoted]
    . refine ⟨quoted, ?_, ?_⟩
      . rw [hbanner, Text.cutAt_fst_append hfront]
      . rw [Text.cutAt_of_not_mem hquoted]

theorem firstQuoted?_eq_none_iff : firstQuoted? banner.toList = none ↔ '"' ∉ banner.toList := by
  unfold firstQuoted?
  rw [Option.map_eq_none_iff]
  constructor
  . intro h
    have ⟨hbanner, hnot⟩ := Text.eq_of_cutAt_none (Prod.ext rfl h)
    rwa [hbanner]
  . intro h
    rw [Text.cutAt_of_not_mem h]

theorem Quotes.two_le_count (h : Quotes banner quoted) : 2 ≤ banner.toList.count '"' := by
  have ⟨front, behind, hbanner, _, _⟩ := h
  rw [hbanner]
  simp only [List.count_append, List.count_cons_self]
  omega

theorem LeavesOpen.count_eq_one (h : LeavesOpen banner quoted) : banner.toList.count '"' = 1 := by
  have ⟨front, hbanner, hfront, hquoted⟩ := h
  rw [hbanner]
  rw [List.count_append, List.count_cons_self]
  rw [List.count_eq_zero_of_not_mem hfront, List.count_eq_zero_of_not_mem hquoted]

end Quoted

section Versions

variable {banner : String} {n : Nat}

theorem parseVersion?_eq_some_iff :
    parseVersion? banner = some n ↔
      ∃ quoted, (Quotes banner quoted ∨ LeavesOpen banner quoted) ∧ StartsWithNumber quoted n ∧
        n < versionBound := by
  unfold parseVersion?
  rw [Option.bind_eq_some_iff]
  simp only [firstQuoted?_eq_some_iff, leadingNumber?_eq_some_iff]

theorem parseVersion?_eq_none_iff :
    parseVersion? banner = none ↔
      '"' ∉ banner.toList ∨
        ∃ quoted, (Quotes banner quoted ∨ LeavesOpen banner quoted) ∧
          ((∀ c ∈ quoted.head?, c.isDigit = false) ∨
            ∃ n, StartsWithNumber quoted n ∧ versionBound ≤ n) := by
  unfold parseVersion?
  rw [← firstQuoted?_eq_none_iff]
  simp only [← firstQuoted?_eq_some_iff, ← leadingNumber?_eq_none_iff]
  cases firstQuoted? banner.toList <;> simp

end Versions

/--
What a banner tells: the number at the start of the first quoted text. In a banner with a single double
quote, that text goes up to the end.
-/
structure TellsNumber (banner : String) : Prop where
  told : ∀ n, parseVersion? banner = some n ↔
    ∃ quoted, (Quotes banner quoted ∨ LeavesOpen banner quoted) ∧ StartsWithNumber quoted n ∧
      n < 2 ^ 32
  closed : banner.toList.count '"' ≠ 1 → ∀ n, parseVersion? banner = some n ↔
    ∃ quoted, Quotes banner quoted ∧ StartsWithNumber quoted n ∧ n < 2 ^ 32
  silent : parseVersion? banner = none ↔
    '"' ∉ banner.toList ∨
      ∃ quoted, (Quotes banner quoted ∨ LeavesOpen banner quoted) ∧
        ((∀ c ∈ quoted.head?, c.isDigit = false) ∨ ∃ n, StartsWithNumber quoted n ∧ 2 ^ 32 ≤ n)

theorem tells_leading_number (banner : String) : TellsNumber banner where
  told n := parseVersion?_eq_some_iff
  closed h n := by
    rw [parseVersion?_eq_some_iff]
    apply exists_congr
    intro quoted
    have hclosed : ¬LeavesOpen banner quoted := fun hopen => h hopen.count_eq_one
    rw [or_iff_left hclosed]
    rfl
  silent := parseVersion?_eq_none_iff

/--
A banner that breaks off within the quotes tells a version, although it has no text between quotes.
-/
theorem exists_told_not_quoted :
    ∃ banner n, parseVersion? banner = some n ∧ ∀ quoted, ¬Quotes banner quoted := by
  refine ⟨"openjdk version \"22.0.1\n", 22, by decide, ?_⟩
  intro quoted h
  exact absurd h.two_le_count (by decide)

end ServerLauncher.Java
