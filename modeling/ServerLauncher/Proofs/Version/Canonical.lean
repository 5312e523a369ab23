import Mathlib.Computability.Language
import Mathlib.Data.List.TakeWhile
import ServerLauncher.Proofs.Json.Quoted
import ServerLauncher.Proofs.Version.Reading

/-!
This module contains the grammar of versions as a regular language, and the proof that reading
accepts exactly its texts whose numbers fit and undoes writing.
-/

namespace ServerLauncher.Version

open scoped Computability

/--
The texts of one character with a property.
-/
def oneOf (P : Char → Prop) : Language Char :=
  {cs | ∃ c, P c ∧ cs = [c]}

def literal (c : Char) : Language Char :=
  oneOf (· = c)

def IsDigit (c : Char) : Prop :=
  '0' ≤ c ∧ c ≤ '9'

def IsLetterOrHyphen (c : Char) : Prop :=
  ('a' ≤ c ∧ c ≤ 'z') ∨ ('A' ≤ c ∧ c ≤ 'Z') ∨ c = '-'

def IsIdentifierCharacter (c : Char) : Prop :=
  IsDigit c ∨ IsLetterOrHyphen c

/--
`0|[1-9][0-9]*`
-/
def numeral : Language Char :=
  literal '0' + oneOf (fun c => '1' ≤ c ∧ c ≤ '9') * (oneOf IsDigit)∗

/--
The numerals of numbers of 64 bits.
-/
def number : Language Char :=
  {cs | cs ∈ numeral ∧ Nat.ofDigitChars 10 cs 0 < 2 ^ 64}

/--
`[0-9a-zA-Z-]+`
-/
def identifier : Language Char :=
  oneOf IsIdentifierCharacter * (oneOf IsIdentifierCharacter)∗

/--
`0|[1-9][0-9]*|[0-9]*[a-zA-Z-][0-9a-zA-Z-]*`
-/
def preReleaseIdentifier : Language Char :=
  numeral + (oneOf IsDigit)∗ * (oneOf IsLetterOrHyphen * (oneOf IsIdentifierCharacter)∗)

def dotted (l : Language Char) : Language Char :=
  l * (literal '.' * l)∗

/--
`number.number.number`
-/
def core : Language Char :=
  number * (literal '.' * (number * (literal '.' * number)))

/--
The canonical texts of versions:
`core(-preReleaseIdentifier(.preReleaseIdentifier)*)?(+identifier(.identifier)*)?`
-/
def canonicalTexts : Language Char :=
  core * ((1 + literal '-' * dotted preReleaseIdentifier) * (1 + literal '+' * dotted identifier))

/--
A text that consists of at least one identifier, with dots between them.
-/
def IsDotted (IsIdentifier : List Char → Prop) (text : String) : Prop :=
  ∃ ids : List (List Char), ids ≠ [] ∧ text.toList = List.intercalate ['.'] ids ∧
    ∀ id ∈ ids, IsIdentifier id

/--
An identifier of a build text.
-/
def IsWord (id : List Char) : Prop :=
  id ≠ [] ∧ ∀ c ∈ id, IsIdentifierCharacter c

/--
An identifier that has no redundant zero in front if it is a number.
-/
def IsCanonicalWord (id : List Char) : Prop :=
  IsWord id ∧ ((∀ c ∈ id, IsDigit c) → id.head? = some '0' → id = ['0'])

/--
The versions that can be written canonically.
-/
structure Canonical (v : Version) : Prop where
  major_lt : v.major < 2 ^ 64
  minor_lt : v.minor < 2 ^ 64
  patch_lt : v.patch < 2 ^ 64
  preRelease : ∀ text, v.preRelease = some text → IsDotted IsCanonicalWord text
  build : ∀ text, v.build = some text → IsDotted IsWord text

section Characters

variable {c : Char}

theorem isDigit_iff : c.isDigit ↔ IsDigit c := by
  simp [Char.isDigit, IsDigit, Char.le_def]

theorem isIdentifierChar_iff : isIdentifierChar c ↔ IsIdentifierCharacter c := by
  simp [isIdentifierChar, IsIdentifierCharacter, IsLetterOrHyphen, isDigit_iff, or_assoc]

/--
The digits that a numeral of several digits starts with.
-/
theorem isDigit_and_ne_zero_iff : '1' ≤ c ∧ c ≤ '9' ↔ IsDigit c ∧ c ≠ '0' := by
  simp only [IsDigit, Char.le_def, ne_eq, ← Char.toNat_inj, UInt32.le_iff_toNat_le]
  change 49 ≤ c.toNat ∧ c.toNat ≤ 57 ↔ (48 ≤ c.toNat ∧ c.toNat ≤ 57) ∧ ¬ c.toNat = 48
  omega

theorem not_isDigit_of_isLetterOrHyphen (h : IsLetterOrHyphen c) : ¬ IsDigit c := by
  simp only [IsLetterOrHyphen, IsDigit, Char.le_def, ← Char.toNat_inj,
    UInt32.le_iff_toNat_le] at h ⊢
  change (97 ≤ c.toNat ∧ c.toNat ≤ 122) ∨ (65 ≤ c.toNat ∧ c.toNat ≤ 90) ∨ c.toNat = 45 at h
  change ¬ (48 ≤ c.toNat ∧ c.toNat ≤ 57)
  omega

end Characters

section Languages

variable {P : Char → Prop} {l : Language Char} {c : Char} {cs : List Char}

theorem mem_oneOf_mul : cs ∈ oneOf P * l ↔ ∃ c rest, P c ∧ rest ∈ l ∧ cs = c :: rest := by
  rw [Language.mem_mul]
  constructor
  . intro h
    have ⟨_, ⟨c, hc, hfront⟩, rest, hrest, hcs⟩ := h
    rw [hfront] at hcs
    exact ⟨c, rest, hc, hrest, hcs.symm⟩
  . intro h
    have ⟨c, rest, hc, hrest, hcs⟩ := h
    exact ⟨[c], ⟨c, hc, rfl⟩, rest, hrest, hcs.symm⟩

theorem mem_literal_mul : cs ∈ literal c * l ↔ ∃ rest ∈ l, cs = c :: rest := by
  unfold literal
  rw [mem_oneOf_mul]
  simp

theorem mem_kstar_oneOf : cs ∈ (oneOf P)∗ ↔ ∀ c ∈ cs, P c := by
  rw [Language.mem_kstar]
  constructor
  . intro h c hc
    have ⟨pieces, hcs, hpieces⟩ := h
    rw [hcs] at hc
    have ⟨piece, hpiece, hmem⟩ := List.mem_flatten.1 hc
    have ⟨d, hd, heq⟩ := hpieces piece hpiece
    rw [heq] at hmem
    rw [List.mem_singleton.1 hmem]
    exact hd
  . intro h
    refine ⟨cs.map ([·]), ?_, ?_⟩
    . clear h
      induction cs with
      | nil => rfl
      | cons c rest ih => exact congrArg (c :: ·) ih
    . intro piece hpiece
      have ⟨c, hc, heq⟩ := List.mem_map.1 hpiece
      exact ⟨c, h c hc, heq.symm⟩

theorem joinPieces_eq_intercalate (sep : Char) (ids : List (List Char)) :
    Text.joinPieces sep ids = List.intercalate [sep] ids := by
  induction ids with
  | nil => rfl
  | cons id ids ih =>
    cases ids with
    | nil => simp [Text.joinPieces, List.intercalate]
    | cons next others =>
      rw [Text.joinPieces_cons (by simp)]
      rw [ih]
      simp [List.intercalate]

theorem joinPieces_cons_eq (sep : Char) (id : List Char) (ids : List (List Char)) :
    Text.joinPieces sep (id :: ids) = id ++ (ids.map (sep :: ·)).flatten := by
  induction ids generalizing id with
  | nil => simp [Text.joinPieces]
  | cons next others ih =>
    rw [Text.joinPieces_cons (by simp)]
    rw [ih]
    simp

theorem mem_kstar_literal_mul :
    cs ∈ (literal c * l)∗ ↔
      ∃ ids : List (List Char), (∀ id ∈ ids, id ∈ l) ∧ cs = (ids.map (c :: ·)).flatten := by
  rw [Language.mem_kstar]
  constructor
  . intro h
    have ⟨parts, hcs, hparts⟩ := h
    have htail : ∀ part ∈ parts, ((c :: ·) ∘ List.tail) part = id part ∧ part.tail ∈ l := by
      intro part hpart
      have ⟨rest, hmem, hrest⟩ := mem_literal_mul.1 (hparts part hpart)
      rw [hrest]
      exact ⟨rfl, hmem⟩
    refine ⟨parts.map List.tail, ?_, ?_⟩
    . intro id hid
      have ⟨part, hpart, hid⟩ := List.mem_map.1 hid
      exact hid ▸ (htail part hpart).2
    . rw [List.map_map]
      rw [List.map_congr_left fun part hpart => (htail part hpart).1]
      rw [List.map_id]
      exact hcs
  . intro h
    have ⟨ids, hids, hcs⟩ := h
    refine ⟨_, hcs, ?_⟩
    intro part hpart
    have ⟨id, hid, heq⟩ := List.mem_map.1 hpart
    exact mem_literal_mul.2 ⟨id, hids id hid, heq.symm⟩

theorem mem_dotted :
    cs ∈ dotted l ↔ ∃ ids, ids ≠ [] ∧ cs = Text.joinPieces '.' ids ∧ ∀ id ∈ ids, id ∈ l := by
  unfold dotted
  rw [Language.mem_mul]
  constructor
  . intro h
    have ⟨first, hfirst, back, hback, hcs⟩ := h
    have ⟨others, hothers, hback⟩ := mem_kstar_literal_mul.1 hback
    refine ⟨first :: others, by simp, ?_, List.forall_mem_cons.2 ⟨hfirst, hothers⟩⟩
    rw [joinPieces_cons_eq]
    rw [← hcs, hback]
  . intro h
    have ⟨ids, hne, hcs, hids⟩ := h
    cases ids with
    | nil => exact absurd rfl hne
    | cons first others =>
      have ⟨hfirst, hothers⟩ := List.forall_mem_cons.1 hids
      refine ⟨first, hfirst, _, mem_kstar_literal_mul.2 ⟨others, hothers, rfl⟩, ?_⟩
      rw [hcs]
      rw [joinPieces_cons_eq]

/--
An optional part of a version is empty, or a text behind its leading character.
-/
theorem mem_one_add_literal_mul :
    cs ∈ 1 + literal c * l ↔
      ∃ part, cs = optionalPart c part ∧ ∀ text, part = some text → text.toList ∈ l := by
  rw [Language.mem_add, Language.mem_one, mem_literal_mul]
  constructor
  . intro h
    cases h with
    | inl h => exact ⟨none, h, by simp⟩
    | inr h =>
      obtain ⟨rest, hrest, hcs⟩ := h
      refine ⟨some (String.ofList rest), ?_, ?_⟩
      . simpa [optionalPart] using hcs
      . intro text htext
        cases htext
        simpa using hrest
  . intro h
    obtain ⟨part, hcs, hpart⟩ := h
    cases part with
    | none => exact .inl hcs
    | some text => exact .inr ⟨text.toList, hpart text rfl, hcs⟩

end Languages

section Identifiers

variable {cs : List Char}

theorem mem_numeral :
    cs ∈ numeral ↔
      cs ≠ [] ∧ (∀ c ∈ cs, IsDigit c) ∧ (cs.head? = some '0' → cs = ['0']) := by
  unfold numeral
  rw [Language.mem_add, mem_oneOf_mul]
  constructor
  . intro h
    rcases h with ⟨c, hc, hcs⟩ | ⟨c, rest, hc, hrest, hcs⟩
    . rw [hcs, hc]
      simp [IsDigit]
    . have ⟨hdigit, hne⟩ := isDigit_and_ne_zero_iff.1 hc
      rw [mem_kstar_oneOf] at hrest
      rw [hcs]
      simpa [hne, hdigit] using hrest
  . intro h
    have ⟨hne, hdigits, hzero⟩ := h
    cases cs with
    | nil => exact absurd rfl hne
    | cons c rest =>
      have ⟨hc, hrest⟩ := List.forall_mem_cons.1 hdigits
      by_cases h : c = '0'
      . exact .inl ⟨c, h, by simpa [h] using hzero⟩
      . exact .inr ⟨c, rest, isDigit_and_ne_zero_iff.2 ⟨hc, h⟩, mem_kstar_oneOf.2 hrest, rfl⟩

/--
A number of 64 bits is written with exactly one numeral.
-/
theorem mem_number : cs ∈ number ↔ ∃ n < 2 ^ 64, cs = digits n := by
  change cs ∈ numeral ∧ Nat.ofDigitChars 10 cs 0 < 2 ^ 64 ↔ _
  rw [mem_numeral]
  constructor
  . intro h
    have ⟨⟨hne, hdigits, hzero⟩, hlt⟩ := h
    refine ⟨_, hlt, ?_⟩
    unfold digits
    rw [Text.toDigits_ofDigitChars hne]
    . intro d hd
      exact isDigit_iff.2 (hdigits d hd)
    . by_cases h : cs.head? = some '0'
      . exact .inl (hzero h)
      . exact .inr h
  . intro h
    have ⟨n, hlt, hcs⟩ := h
    rw [hcs]
    refine ⟨⟨Nat.toDigits_ne_nil, ?_, ?_⟩, ?_⟩
    . intro c hc
      exact isDigit_iff.1 (isDigit_of_mem_digits hc)
    . intro hzero
      cases isCanonical_iff.1 (isCanonical_digits n) with
      | inl h => exact h
      | inr h => exact absurd hzero h
    . unfold digits
      rw [Nat.ofDigitChars_ten_toDigits]
      exact hlt

theorem mem_identifier : cs ∈ identifier ↔ IsWord cs := by
  unfold identifier IsWord
  rw [mem_oneOf_mul]
  cases cs with
  | nil => simp
  | cons c rest => simp [mem_kstar_oneOf]

/--
Identifiers that are no numbers are told by a first character that is no digit.
-/
theorem mem_lettered :
    cs ∈ (oneOf IsDigit)∗ * (oneOf IsLetterOrHyphen * (oneOf IsIdentifierCharacter)∗) ↔
      (∀ c ∈ cs, IsIdentifierCharacter c) ∧ ∃ c ∈ cs, ¬IsDigit c := by
  rw [Language.mem_mul]
  constructor
  . intro h
    have ⟨front, hfront, back, hback, hcs⟩ := h
    have ⟨c, rest, hc, hrest, heq⟩ := mem_oneOf_mul.1 hback
    rw [mem_kstar_oneOf] at hfront hrest
    rw [← hcs, heq]
    constructor
    . intro d hd
      rw [List.mem_append, List.mem_cons] at hd
      rcases hd with hd | hd | hd
      . exact .inl (hfront d hd)
      . exact .inr (hd ▸ hc)
      . exact hrest d hd
    . exact ⟨c, by simp, not_isDigit_of_isLetterOrHyphen hc⟩
  . intro h
    have ⟨hcs, d, hd, hnot⟩ := h
    have hcut := List.takeWhile_append_dropWhile (p := Char.isDigit) (l := cs)
    refine ⟨cs.takeWhile Char.isDigit, ?_, cs.dropWhile Char.isDigit, ?_, hcut⟩
    . rw [mem_kstar_oneOf]
      intro c hc
      exact isDigit_iff.1 (List.mem_takeWhile_imp hc)
    . cases hdrop : cs.dropWhile Char.isDigit with
      | nil =>
        rw [List.dropWhile_eq_nil_iff] at hdrop
        exact absurd (isDigit_iff.1 (hdrop d hd)) hnot
      | cons c rest =>
        rw [hdrop] at hcut
        rw [← hcut, List.forall_mem_append, List.forall_mem_cons] at hcs
        have hfirst := List.head?_dropWhile_not Char.isDigit cs
        rw [hdrop] at hfirst
        have hletter := hcs.2.1.resolve_left fun hc => by simp [isDigit_iff.2 hc] at hfirst
        exact mem_oneOf_mul.2 ⟨c, rest, hletter, mem_kstar_oneOf.2 hcs.2.2, rfl⟩

theorem mem_preReleaseIdentifier : cs ∈ preReleaseIdentifier ↔ IsCanonicalWord cs := by
  unfold preReleaseIdentifier IsCanonicalWord IsWord
  rw [Language.mem_add, mem_numeral, mem_lettered]
  constructor
  . rintro (⟨hne, hdigits, hzero⟩ | ⟨hcs, c, hc, hnot⟩)
    . exact ⟨⟨hne, fun c hc => .inl (hdigits c hc)⟩, fun _ => hzero⟩
    . exact ⟨⟨List.ne_nil_of_mem hc, hcs⟩, fun hdigits => absurd (hdigits c hc) hnot⟩
  . intro h
    have ⟨⟨hne, hcs⟩, hzero⟩ := h
    by_cases hdigits : ∀ c ∈ cs, IsDigit c
    . exact .inl ⟨hne, hdigits, hzero hdigits⟩
    . simp only [not_forall, exists_prop] at hdigits
      exact .inr ⟨hcs, hdigits⟩

theorem isBuildIdentifier_iff : isBuildIdentifier cs ↔ IsWord cs := by
  simp [isBuildIdentifier, IsWord, isIdentifierChar_iff]

theorem isPreReleaseIdentifier_iff : isPreReleaseIdentifier cs ↔ IsCanonicalWord cs := by
  unfold isPreReleaseIdentifier IsCanonicalWord
  rw [Bool.and_eq_true, isBuildIdentifier_iff, Bool.or_eq_true, isCanonical_iff]
  apply and_congr_right
  intro _
  rw [Bool.not_eq_true', List.all_eq_false]
  simp only [isDigit_iff]
  grind

theorem dot_not_mem_of_isWord (h : IsWord cs) : '.' ∉ cs := by
  intro hdot
  have := h.2 '.' hdot
  simp [IsIdentifierCharacter, IsDigit, IsLetterOrHyphen] at this

end Identifiers

section Dotted

variable {P : List Char → Prop} {text : String}

theorem toList_mem_dotted {l : Language Char} (h : ∀ id, id ∈ l ↔ P id) :
    text.toList ∈ dotted l ↔ IsDotted P text := by
  rw [mem_dotted]
  unfold IsDotted
  simp only [joinPieces_eq_intercalate, h]

/--
The pieces between the dots are the identifiers, since no identifier contains a dot.
-/
theorem all_pieces_iff {test : List Char → Bool} (h : ∀ id, test id ↔ P id)
    (hdot : ∀ id, P id → '.' ∉ id) :
    (Text.pieces '.' text.toList).all test ↔ IsDotted P text := by
  rw [List.all_eq_true]
  simp only [h]
  constructor
  . intro hall
    refine ⟨_, Text.pieces_ne_nil '.' text.toList, ?_, hall⟩
    rw [← joinPieces_eq_intercalate]
    rw [Text.joinPieces_pieces]
  . intro hdotted
    have ⟨ids, hne, htext, hids⟩ := hdotted
    rw [htext]
    rw [← joinPieces_eq_intercalate]
    rw [Text.pieces_joinPieces hne fun id hid => hdot id (hids id hid)]
    exact hids

theorem isBuild_iff : isBuild text.toList ↔ IsDotted IsWord text :=
  all_pieces_iff (fun _ => isBuildIdentifier_iff) fun _ => dot_not_mem_of_isWord

theorem isPreRelease_iff : isPreRelease text.toList ↔ IsDotted IsCanonicalWord text :=
  all_pieces_iff (fun _ => isPreReleaseIdentifier_iff) fun _ h => dot_not_mem_of_isWord h.1

end Dotted

/--
What the writer of versions calls well formed is what the grammar describes.
-/
theorem wellFormed_iff_canonical {v : Version} : v.WellFormed ↔ v.Canonical := by
  constructor
  . intro h
    exact ⟨h.major_lt, h.minor_lt, h.patch_lt,
      fun text htext => isPreRelease_iff.1 (h.isPreRelease text htext),
      fun text htext => isBuild_iff.1 (h.isBuild text htext)⟩
  . intro h
    exact ⟨h.major_lt, h.minor_lt, h.patch_lt,
      fun text htext => isPreRelease_iff.2 (h.preRelease text htext),
      fun text htext => isBuild_iff.2 (h.build text htext)⟩

theorem mem_number_mul_literal_mul {l : Language Char} {cs : List Char} :
    cs ∈ number * (literal '.' * l) ↔
      ∃ n < 2 ^ 64, ∃ rest ∈ l, cs = digits n ++ '.' :: rest := by
  rw [Language.mem_mul]
  simp only [mem_number, mem_literal_mul]
  constructor
  . rintro ⟨_, ⟨n, hn, rfl⟩, _, ⟨rest, hrest, rfl⟩, rfl⟩
    exact ⟨n, hn, rest, hrest, rfl⟩
  . rintro ⟨n, hn, rest, hrest, rfl⟩
    exact ⟨_, ⟨n, hn, rfl⟩, _, ⟨rest, hrest, rfl⟩, rfl⟩

theorem mem_core {cs : List Char} :
    cs ∈ core ↔ ∃ major < 2 ^ 64, ∃ minor < 2 ^ 64, ∃ patch < 2 ^ 64,
      cs = digits major ++ '.' :: (digits minor ++ '.' :: digits patch) := by
  unfold core
  simp only [mem_number_mul_literal_mul, mem_number]
  constructor
  . rintro ⟨major, hmajor, _, ⟨minor, hminor, _, ⟨patch, hpatch, rfl⟩, rfl⟩, rfl⟩
    exact ⟨major, hmajor, minor, hminor, patch, hpatch, rfl⟩
  . rintro ⟨major, hmajor, minor, hminor, patch, hpatch, rfl⟩
    exact ⟨major, hmajor, _, ⟨minor, hminor, _, ⟨patch, hpatch, rfl⟩, rfl⟩, rfl⟩

theorem mem_canonicalTexts {cs : List Char} :
    cs ∈ canonicalTexts ↔ ∃ v : Version, v.Canonical ∧ cs = v.chars := by
  unfold canonicalTexts
  simp only [Language.mem_mul, mem_core, mem_one_add_literal_mul,
    toList_mem_dotted fun _ => mem_preReleaseIdentifier, toList_mem_dotted fun _ => mem_identifier]
  constructor
  . rintro ⟨_, ⟨major, hmajor, minor, hminor, patch, hpatch, rfl⟩, _,
      ⟨_, ⟨preRelease, rfl, hpreRelease⟩, _, ⟨build, rfl, hbuild⟩, rfl⟩, rfl⟩
    refine ⟨⟨major, minor, patch, preRelease, build⟩,
      ⟨hmajor, hminor, hpatch, hpreRelease, hbuild⟩, ?_⟩
    simp [chars]
  . rintro ⟨v, h, rfl⟩
    refine ⟨_, ⟨v.major, h.major_lt, v.minor, h.minor_lt, v.patch, h.patch_lt, rfl⟩, _,
      ⟨_, ⟨v.preRelease, rfl, h.preRelease⟩, _, ⟨v.build, rfl, h.build⟩, rfl⟩, ?_⟩
    simp [chars]

section Reading

variable {s : String} {v : Version}

theorem parse?_eq_some_iff_canonical : parse? s = some v ↔ v.Canonical ∧ v.text = s := by
  rw [parse?_eq_some_iff]
  rw [wellFormed_iff_canonical]
  rw [eq_comm (a := s)]

theorem isSome_parse?_iff : (parse? s).isSome ↔ s.toList ∈ canonicalTexts := by
  rw [Option.isSome_iff_exists]
  rw [mem_canonicalTexts]
  apply exists_congr
  intro v
  rw [parse?_eq_some_iff_canonical]
  apply and_congr_right
  intro _
  rw [← toList_text]
  rw [String.toList_inj]
  exact eq_comm

theorem parse_eq_ok_iff : parse s = .ok v ↔ parse? s = some v := by
  unfold parse
  cases parse? s <;> simp

theorem parse_eq_error_iff {e : Invalid} : parse s = .error e ↔ parse? s = none ∧ e = ⟨s⟩ := by
  unfold parse
  cases parse? s <;> simp [eq_comm]

end Reading

/--
Reading accepts exactly the canonical texts and undoes writing, field by field: directly, with an
error that names the text, and through a document that carries the text.
-/
theorem reading_inverts_writing :
    -- The reader finds a version in exactly the text that is written for it.
    (∀ s v, parse? s = some v ↔ v.Canonical ∧ v.text = s) ∧
    (∀ s, (∃ v, parse? s = some v) ↔ s.toList ∈ canonicalTexts) ∧
    (∀ v : Version, parse? v.text = some v ↔ v.Canonical) ∧
    -- So does the reader that reports what it rejects.
    (∀ s v, parse s = .ok v ↔ v.Canonical ∧ v.text = s) ∧
    (∀ s e, parse s = .error e ↔ s.toList ∉ canonicalTexts ∧ e = ⟨s⟩) ∧
    -- A version comes back from the document that is written for it.
    (∀ v : Version, (Json.unquote? (Json.quote v.text)).map parse = some (.ok v) ↔
      v.Canonical) ∧
    ∀ document v, (Json.unquote? document).map parse = some (.ok v) ↔
      v.Canonical ∧ Json.unquote? document = some v.text := by
  refine ⟨?_, ?_, ?_, ?_, ?_, ?_, ?_⟩
  . intro s v
    exact parse?_eq_some_iff_canonical
  . intro s
    rw [← Option.isSome_iff_exists]
    exact isSome_parse?_iff
  . intro v
    simp [parse?_eq_some_iff_canonical]
  . intro s v
    rw [parse_eq_ok_iff]
    exact parse?_eq_some_iff_canonical
  . intro s e
    rw [parse_eq_error_iff]
    rw [← isSome_parse?_iff]
    simp
  . intro v
    rw [Json.unquote?_quote]
    simp [parse_eq_ok_iff, parse?_eq_some_iff_canonical]
  . intro document v
    simp only [Option.map_eq_some_iff, parse_eq_ok_iff, parse?_eq_some_iff_canonical]
    grind

end ServerLauncher.Version
