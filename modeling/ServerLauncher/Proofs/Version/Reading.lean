import ServerLauncher.Proofs.Text.Number
import ServerLauncher.Proofs.Text.Pieces
import ServerLauncher.Version.Grammar

/-!
This module contains the reading of versions as the inverse of their writing. The written form of a
version is a single step of a path.
-/

namespace ServerLauncher.Version

theorem isDigit_of_mem_digits {n : Nat} {c : Char} (h : c ∈ digits n) : c.isDigit :=
  Nat.isDigit_of_mem_toDigits (by decide) (by decide) h

theorem not_mem_digits {c : Char} (h : c.isDigit = false) (n : Nat) : c ∉ digits n := by
  intro hc
  rw [isDigit_of_mem_digits hc] at h
  cases h

theorem isCanonical_iff {cs : List Char} :
    isCanonical cs ↔ cs = ['0'] ∨ cs.head? ≠ some '0' := by
  simp [isCanonical]

theorem isCanonical_digits (n : Nat) : isCanonical (digits n) := by
  unfold digits
  induction n using Nat.strongRecOn with
  | ind n ih =>
    rw [Nat.toDigits_eq_if (by decide)]
    split
    . next hlt =>
      rw [isCanonical_iff]
      by_cases hzero : n = 0
      . simp [hzero]
      . simp [hzero]
    . next hle =>
      have hrest := ih (n / 10) (by omega)
      rw [isCanonical_iff] at hrest ⊢
      have hne : Nat.toDigits 10 (n / 10) ≠ [] := Nat.toDigits_ne_nil
      apply Or.inr
      cases hrest with
      | inl hrest =>
        have hvalue := congrArg (Nat.ofDigitChars 10 · 0) hrest
        simp [Nat.ofDigitChars_cons] at hvalue
        omega
      | inr hrest =>
        intro hhead
        cases hdigits : Nat.toDigits 10 (n / 10) with
        | nil => exact hne hdigits
        | cons d others =>
          rw [hdigits] at hhead hrest
          exact hrest hhead

theorem parseNumber?_eq_some_iff {cs : List Char} {n : Nat} :
    parseNumber? cs = some n ↔ cs = digits n ∧ n < numberBound := by
  unfold parseNumber?
  constructor
  . intro h
    split at h
    . next hcs =>
      simp only [Bool.and_eq_true, Bool.not_eq_true', List.isEmpty_eq_false_iff,
        List.all_eq_true] at hcs
      have ⟨⟨hne, hdigits⟩, hcanonical⟩ := hcs
      rw [Text.numberBelow?_eq_some_iff] at h
      have ⟨hn, hlt⟩ := h
      refine ⟨?_, hlt⟩
      unfold digits
      rw [← hn]
      rw [Text.toDigits_ofDigitChars hne hdigits (isCanonical_iff.1 hcanonical)]
    . cases h
  . intro h
    have ⟨hcs, hlt⟩ := h
    rw [hcs]
    rw [if_pos]
    . rw [Text.numberBelow?_eq_some_iff]
      exact ⟨Nat.ofDigitChars_ten_toDigits, hlt⟩
    . simp only [Bool.and_eq_true, Bool.not_eq_true', List.isEmpty_eq_false_iff,
        List.all_eq_true]
      refine ⟨⟨Nat.toDigits_ne_nil, ?_⟩, isCanonical_digits n⟩
      intro c hc
      exact isDigit_of_mem_digits hc

theorem mem_of_isBuild {cs : List Char} (h : isBuild cs) {c : Char} (hc : c ∈ cs) :
    c = '.' ∨ isIdentifierChar c := by
  by_cases hdot : c = '.'
  . exact .inl hdot
  . have ⟨piece, hpiece, hmem⟩ := Text.exists_mem_pieces hc hdot
    unfold isBuild at h
    rw [List.all_eq_true] at h
    have hidentifier := h piece hpiece
    simp only [isBuildIdentifier, Bool.and_eq_true, List.all_eq_true] at hidentifier
    exact .inr (hidentifier.2 c hmem)

theorem isBuild_of_isPreRelease {cs : List Char} (h : isPreRelease cs) : isBuild cs := by
  unfold isPreRelease at h
  unfold isBuild
  rw [List.all_eq_true] at h ⊢
  intro piece hpiece
  have hidentifier := h piece hpiece
  simp only [isPreReleaseIdentifier, Bool.and_eq_true] at hidentifier
  exact hidentifier.1

theorem mem_chars {v : Version} (h : v.WellFormed) {c : Char} (hc : c ∈ v.chars) :
    c = '.' ∨ c = '+' ∨ isIdentifierChar c := by
  have hdigit : ∀ n, c ∈ digits n → isIdentifierChar c := by
    intro n hn
    simp [isIdentifierChar, isDigit_of_mem_digits hn]
  have hidentifier : ∀ text : String, isBuild text.toList → c ∈ text.toList →
      c = '.' ∨ c = '+' ∨ isIdentifierChar c := by
    intro text htext hmem
    cases mem_of_isBuild htext hmem with
    | inl h => exact .inl h
    | inr h => exact .inr (.inr h)
  simp only [chars, List.mem_append, List.mem_cons] at hc
  -- The two numbers and points, the last number, and the two optional parts.
  rcases hc with (((hc | hc | hc) | hc | hc) | hc) | hc
  . exact .inr (.inr (hdigit _ hc))
  . exact .inl hc
  . exact .inr (.inr (hdigit _ hc))
  . exact .inl hc
  . exact .inr (.inr (hdigit _ hc))
  . cases hpart : v.preRelease with
    | none => simp [optionalPart, hpart] at hc
    | some text =>
      simp only [optionalPart, hpart, List.mem_cons] at hc
      cases hc with
      | inl hc => exact .inr (.inr (by simp [hc, isIdentifierChar]))
      | inr hc => exact hidentifier text (isBuild_of_isPreRelease (h.isPreRelease _ hpart)) hc
  . cases hpart : v.build with
    | none => simp [optionalPart, hpart] at hc
    | some text =>
      simp only [optionalPart, hpart, List.mem_cons] at hc
      cases hc with
      | inl hc => exact .inr (.inl hc)
      | inr hc => exact hidentifier text (h.isBuild _ hpart) hc

theorem parsePart?_eq_some_iff {test : List Char → Bool} {part : Option (List Char)}
    {result : Option String} :
    parsePart? test part = some result ↔
      part = result.map String.toList ∧ ∀ text ∈ result, test text.toList := by
  unfold parsePart?
  cases part with
  | none => cases result <;> simp
  | some cs =>
    cases result with
    | none => simp
    | some text =>
      simp only [Option.ite_none_right_eq_some, Option.some.injEq, Option.map_some,
        Option.mem_def, forall_eq']
      constructor
      . intro h
        have ⟨htest, htext⟩ := h
        rw [← htext]
        simp [htest]
      . intro h
        have ⟨hcs, htest⟩ := h
        rw [hcs]
        simp [htest]

theorem cutAt_optionalPart {sep : Char} {front : List Char} (h : sep ∉ front)
    (part : Option String) :
    Text.cutAt sep (front ++ optionalPart sep part) = (front, part.map String.toList) := by
  cases part with
  | none =>
    simp only [optionalPart, List.append_nil]
    exact Text.cutAt_of_not_mem h
  | some text => exact Text.cutAt_fst_append h

theorem eq_optionalPart_of_cutAt {sep : Char} {cs front : List Char} {part : Option String}
    (h : Text.cutAt sep cs = (front, part.map String.toList)) :
    cs = front ++ optionalPart sep part := by
  cases part with
  | none =>
    simp only [optionalPart, List.append_nil]
    exact (Text.eq_of_cutAt_none h).1
  | some text => exact (Text.eq_append_of_cutAt_some h).1

def coreChars (v : Version) : List Char :=
  digits v.major ++ '.' :: digits v.minor ++ '.' :: digits v.patch

theorem chars_eq (v : Version) :
    v.chars = v.coreChars ++ optionalPart '-' v.preRelease ++ optionalPart '+' v.build := rfl

theorem not_mem_coreChars {c : Char} (hdot : c ≠ '.') (hdigit : c.isDigit = false) (v : Version) :
    c ∉ v.coreChars := by
  have hdigits := not_mem_digits hdigit
  simp [coreChars, hdot, hdigits]

theorem pieces_coreChars (v : Version) :
    Text.pieces '.' v.coreChars = [digits v.major, digits v.minor, digits v.patch] := by
  have hdigits := not_mem_digits (c := '.') rfl
  unfold coreChars
  rw [List.append_assoc]
  rw [List.cons_append]
  rw [Text.pieces_append]
  rw [Text.pieces_append]
  rw [Text.pieces_of_not_mem (hdigits _)]
  rw [Text.pieces_of_not_mem (hdigits _)]
  rw [Text.pieces_of_not_mem (hdigits _)]
  rfl

theorem eq_coreChars_of_pieces {core : List Char} {v : Version}
    (h : Text.pieces '.' core = [digits v.major, digits v.minor, digits v.patch]) :
    core = v.coreChars := by
  rw [← Text.joinPieces_pieces '.' core]
  rw [h]
  simp [Text.joinPieces, coreChars]

theorem plus_not_mem_front {v : Version} (h : v.WellFormed) :
    '+' ∉ v.coreChars ++ optionalPart '-' v.preRelease := by
  intro hmem
  cases List.mem_append.1 hmem with
  | inl hmem => exact not_mem_coreChars (by decide) rfl v hmem
  | inr hmem =>
    cases hpart : v.preRelease with
    | none => simp [optionalPart, hpart] at hmem
    | some text =>
      simp only [optionalPart, hpart, List.mem_cons] at hmem
      cases hmem with
      | inl hmem => simp at hmem
      | inr hmem =>
        cases mem_of_isBuild (isBuild_of_isPreRelease (h.isPreRelease _ hpart)) hmem with
        | inl hdot => simp at hdot
        | inr hidentifier => simp [isIdentifierChar] at hidentifier

theorem parseChars?_chars {v : Version} (h : v.WellFormed) : parseChars? v.chars = some v := by
  have hpreRelease : parsePart? isPreRelease (v.preRelease.map String.toList) = some v.preRelease :=
    parsePart?_eq_some_iff.2 ⟨rfl, h.isPreRelease⟩
  have hbuild : parsePart? isBuild (v.build.map String.toList) = some v.build :=
    parsePart?_eq_some_iff.2 ⟨rfl, h.isBuild⟩
  have hmajor := parseNumber?_eq_some_iff.2 ⟨rfl, h.major_lt⟩
  have hminor := parseNumber?_eq_some_iff.2 ⟨rfl, h.minor_lt⟩
  have hpatch := parseNumber?_eq_some_iff.2 ⟨rfl, h.patch_lt⟩
  rw [chars_eq]
  unfold parseChars?
  rw [cutAt_optionalPart (plus_not_mem_front h)]
  dsimp only
  rw [cutAt_optionalPart (not_mem_coreChars (by decide) rfl v)]
  dsimp only
  rw [pieces_coreChars]
  dsimp only
  rw [hmajor, hminor, hpatch, hpreRelease, hbuild]
  rfl

theorem wellFormed_of_parseChars? {cs : List Char} {v : Version} (h : parseChars? cs = some v) :
    v.WellFormed ∧ cs = v.chars := by
  unfold parseChars? at h
  generalize hcut : Text.cutAt '+' cs = cut at h
  rcases cut with ⟨front, build⟩
  dsimp only at h
  generalize hcut' : Text.cutAt '-' front = cut at h
  rcases cut with ⟨core, preRelease⟩
  dsimp only at h
  split at h
  . next hpieces =>
    simp only [Option.bind_eq_bind, Option.bind_eq_some_iff, Option.pure_def,
      Option.some.injEq] at h
    have ⟨major, hmajor, minor, hminor, patch, hpatch, pre, hpre, post, hpost, hv⟩ := h
    rw [parseNumber?_eq_some_iff] at hmajor hminor hpatch
    rw [parsePart?_eq_some_iff] at hpre hpost
    rw [hpre.1] at hcut'
    rw [hpost.1] at hcut
    rw [hmajor.1, hminor.1, hpatch.1] at hpieces
    constructor
    . rw [← hv]
      exact ⟨hmajor.2, hminor.2, hpatch.2, hpre.2, hpost.2⟩
    . rw [eq_optionalPart_of_cutAt hcut]
      rw [eq_optionalPart_of_cutAt hcut']
      rw [chars_eq]
      rw [← hv]
      rw [← eq_coreChars_of_pieces (v := ⟨major, minor, patch, pre, post⟩) hpieces]
  . cases h

theorem parse?_eq_some_iff {s : String} {v : Version} :
    parse? s = some v ↔ v.WellFormed ∧ s = v.text := by
  unfold parse? text
  constructor
  . intro h
    have ⟨hwf, hchars⟩ := wellFormed_of_parseChars? h
    refine ⟨hwf, ?_⟩
    rw [← hchars]
    rw [String.ofList_toList]
  . intro h
    have ⟨hwf, hs⟩ := h
    rw [hs]
    rw [String.toList_ofList]
    exact parseChars?_chars hwf

/--
Nothing of a version is lost in its text.
-/
theorem text_eq_iff {v w : Version} (hv : v.WellFormed) (hw : w.WellFormed) :
    v.text = w.text ↔ v = w := by
  constructor
  . intro h
    have hparse := parse?_eq_some_iff.2 ⟨hv, rfl⟩
    rw [h] at hparse
    exact Option.some.inj (hparse.symm.trans (parse?_eq_some_iff.2 ⟨hw, rfl⟩))
  . intro h
    exact congrArg text h

theorem toList_text (v : Version) : v.text.toList = v.chars :=
  String.toList_ofList

theorem head?_text (v : Version) : ∃ c, v.text.toList.head? = some c ∧ c.isDigit := by
  rw [toList_text]
  cases hdigits : digits v.major with
  | nil => exact absurd hdigits Nat.toDigits_ne_nil
  | cons c rest =>
    refine ⟨c, ?_, isDigit_of_mem_digits (n := v.major) (by simp [hdigits])⟩
    simp [chars, hdigits]

theorem not_mem_text {v : Version} (h : v.WellFormed) {c : Char} (hdot : c ≠ '.') (hplus : c ≠ '+')
    (hidentifier : isIdentifierChar c = false) : c ∉ v.text.toList := by
  intro hc
  rw [toList_text] at hc
  rcases mem_chars h hc with hc | hc | hc
  . exact hdot hc
  . exact hplus hc
  . rw [hidentifier] at hc
    cases hc

end ServerLauncher.Version
