import ServerLauncher.Proofs.Text.Ascii
import ServerLauncher.Url.Parser

/-!
This module contains lemmas about the percent encoding of URLs: what a text stands for does not change
when it is encoded, and it is encoded only once.
-/

namespace ServerLauncher.Url

/--
Whether a character may occur in the encoded form of a byte.
-/
def isEscape (c : Char) : Bool :=
  c = '%' || (Json.hexValue? c).isSome

/--
A text has no characters of a set.
-/
def Avoids (inSet : Char → Bool) (cs : List Char) : Prop :=
  ∀ c ∈ cs, inSet c = false

/--
The encoded form of a byte is not encoded once more.
-/
def SparesEscapes (inSet : Char → Bool) : Prop :=
  ∀ c, isEscape c → inSet c = false

theorem hexValue?_upperHexDigit : ∀ n < 16, Json.hexValue? (upperHexDigit n) = some n := by
  decide

theorem isEscape_upperHexDigit {n : Nat} (h : n < 16) : isEscape (upperHexDigit n) := by
  unfold isEscape
  rw [hexValue?_upperHexDigit n h]
  exact Bool.or_true _

theorem isEscape_of_mem_encodeChar {c x : Char} (h : x ∈ encodeChar c) : isEscape x := by
  unfold encodeChar at h
  have ⟨b, _, hx⟩ := List.mem_flatMap.1 h
  have hb := b.toNat_lt
  unfold encodeByte at hx
  simp only [List.mem_cons, List.not_mem_nil, or_false] at hx
  rcases hx with hx | hx | hx
  . rw [hx]
    rfl
  . rw [hx]
    exact isEscape_upperHexDigit (by omega)
  . rw [hx]
    exact isEscape_upperHexDigit (by omega)

theorem mem_encode {inSet : Char → Bool} {cs : List Char} {x : Char} (h : x ∈ encode inSet cs) :
    isEscape x ∨ x ∈ cs ∧ inSet x = false := by
  unfold encode at h
  have ⟨c, hc, hx⟩ := List.mem_flatMap.1 h
  split at hx
  . exact .inl (isEscape_of_mem_encodeChar hx)
  . next hnot =>
    rw [List.mem_singleton.1 hx]
    exact .inr ⟨hc, Bool.eq_false_iff.2 hnot⟩

theorem avoids_encode {inSet : Char → Bool} (h : SparesEscapes inSet) (cs : List Char) :
    Avoids inSet (encode inSet cs) := by
  intro x hx
  cases mem_encode hx with
  | inl hescape => exact h x hescape
  | inr hmem => exact hmem.2

@[simp]
theorem encode_nil (inSet : Char → Bool) : encode inSet [] = [] := rfl

theorem encode_of_avoids {inSet : Char → Bool} {cs : List Char} (h : Avoids inSet cs) :
    encode inSet cs = cs := by
  unfold encode
  induction cs with
  | nil => rfl
  | cons c rest ih =>
    have ⟨hc, hrest⟩ := List.forall_mem_cons.1 h
    rw [List.flatMap_cons]
    rw [ih hrest]
    rw [hc]
    rfl

theorem decode_encodeByte (b : UInt8) (cs : List Char) :
    decode (encodeByte b ++ cs) = b :: decode cs := by
  have hb := b.toNat_lt
  have hhigh := hexValue?_upperHexDigit (b.toNat / 16) (by omega)
  have hlow := hexValue?_upperHexDigit (b.toNat % 16) (by omega)
  have hvalue : UInt8.ofNat (16 * (b.toNat / 16) + b.toNat % 16) = b := by
    rw [Nat.div_add_mod]
    exact UInt8.ofNat_toNat
  simp only [encodeByte, List.cons_append, List.nil_append]
  rw [decode]
  rw [hhigh, hlow]
  simp only
  rw [hvalue]

theorem decode_encodeChar (c : Char) (cs : List Char) :
    decode (encodeChar c ++ cs) = String.utf8EncodeChar c ++ decode cs := by
  unfold encodeChar
  induction String.utf8EncodeChar c with
  | nil => rfl
  | cons b bytes ih =>
    rw [List.flatMap_cons]
    rw [List.append_assoc]
    rw [decode_encodeByte]
    rw [ih]
    rfl

theorem decode_cons_of_ne {c : Char} (h : c ≠ '%') (cs : List Char) :
    decode (c :: cs) = String.utf8EncodeChar c ++ decode cs := by
  rw [decode]
  intro a b rest hc _
  exact absurd hc h

/--
No two hexadecimal digits are in front.
-/
def LacksByte (cs : List Char) : Prop :=
  ∀ a b rest, cs = a :: b :: rest → Json.hexValue? a = none ∨ Json.hexValue? b = none

/--
A percent sign stands for itself unless two digits follow.
-/
theorem decode_percent {cs : List Char} (h : LacksByte cs) :
    decode ('%' :: cs) = String.utf8EncodeChar '%' ++ decode cs := by
  match cs with
  | [] => rfl
  | [a] => rfl
  | a :: b :: rest =>
    rw [decode]
    cases h a b rest rfl with
    | inl ha => rw [ha]
    | inr hb =>
      rw [hb]
      cases Json.hexValue? a <;> rfl

theorem exists_encodeChar_eq (c : Char) : ∃ rest, encodeChar c = '%' :: rest := by
  unfold encodeChar
  cases h : String.utf8EncodeChar c with
  | nil => exact absurd h String.utf8EncodeChar_ne_nil
  | cons b bytes => exact ⟨_, rfl⟩

theorem encode_cons (inSet : Char → Bool) (c : Char) (cs : List Char) :
    encode inSet (c :: cs) = (if inSet c then encodeChar c else [c]) ++ encode inSet cs :=
  List.flatMap_cons

/--
An encoded text starts with the same character or with a percent sign.
-/
theorem head_encode {inSet : Char → Bool} {c x : Char} {cs rest : List Char}
    (h : encode inSet (c :: cs) = x :: rest) :
    x = '%' ∨ x = c ∧ rest = encode inSet cs := by
  rw [encode_cons] at h
  split at h
  . have ⟨others, hothers⟩ := exists_encodeChar_eq c
    rw [hothers] at h
    cases h
    exact .inl rfl
  . cases h
    exact .inr ⟨rfl, rfl⟩

theorem LacksByte.encode {cs : List Char} (h : LacksByte cs) (inSet : Char → Bool) :
    LacksByte (encode inSet cs) := by
  intro a b rest heq
  match cs, h with
  | [], _ => cases heq
  | [c], _ =>
    rcases head_encode heq with ha | ⟨_, hrest⟩
    . rw [ha]
      exact .inl rfl
    . cases hrest
  | c :: d :: others, h =>
    rcases head_encode heq with ha | ⟨ha, hrest⟩
    . rw [ha]
      exact .inl rfl
    . rcases head_encode hrest.symm with hb | ⟨hb, _⟩
      . rw [hb]
        exact .inr rfl
      . rw [ha, hb]
        exact h c d others rfl

/--
An encoded text stands for what the text stands for.
-/
theorem decode_encode {inSet : Char → Bool} (hspares : SparesEscapes inSet) (cs : List Char) :
    decode (encode inSet cs) = decode cs := by
  have hpercent : inSet '%' = false := hspares '%' rfl
  fun_induction decode cs with
  | case1 => rfl
  | case2 a b rest m n hn hm ih =>
    have ha : inSet a = false := hspares a (by simp [isEscape, hm])
    have hb : inSet b = false := hspares b (by simp [isEscape, hn])
    simp only [encode_cons, hpercent, ha, hb]
    simp [decode, hm, hn, ih]
  | case3 a b rest hnot ih =>
    have hlacks : LacksByte (a :: b :: rest) := by
      intro x y others heq
      cases heq
      rcases Option.eq_none_or_eq_some (Json.hexValue? a) with ha | ⟨m, ha⟩
      . exact .inl ha
      . rcases Option.eq_none_or_eq_some (Json.hexValue? b) with hb | ⟨n, hb⟩
        . exact .inr hb
        . exact (hnot m n ha hb).elim
    rw [encode_cons, hpercent]
    rw [← ih]
    exact decode_percent (hlacks.encode inSet)
  | case4 c rest hc ih =>
    rw [encode_cons]
    rw [← ih]
    by_cases hset : inSet c
    . rw [if_pos hset]
      exact decode_encodeChar c _
    . rw [if_neg hset]
      by_cases hpercent : c = '%'
      . have hlacks : LacksByte rest := by
          intro a b others heq
          exact (hc a b others hpercent heq).elim
        rw [hpercent]
        exact decode_percent (hlacks.encode inSet)
      . exact decode_cons_of_ne hpercent _

/--
A text is decoded from its front: a percent sign and two digits are a byte, and any other character
stands for itself.
-/
theorem decode_cons (c : Char) (cs : List Char) :
    (∃ a b rest m n, c = '%' ∧ cs = a :: b :: rest ∧ Json.hexValue? a = some m ∧
      Json.hexValue? b = some n ∧ decode (c :: cs) = UInt8.ofNat (16 * m + n) :: decode rest) ∨
    decode (c :: cs) = String.utf8EncodeChar c ++ decode cs := by
  by_cases hpercent : c = '%'
  . rw [hpercent]
    match cs with
    | [] => exact .inr rfl
    | [a] => exact .inr rfl
    | a :: b :: rest =>
      rcases Option.eq_none_or_eq_some (Json.hexValue? a) with ha | ⟨m, ha⟩
      . exact .inr (by simp [decode, ha])
      . rcases Option.eq_none_or_eq_some (Json.hexValue? b) with hb | ⟨n, hb⟩
        . exact .inr (by simp [decode, ha, hb])
        . exact .inl ⟨a, b, rest, m, n, rfl, rfl, ha, hb, by simp [decode, ha, hb]⟩
  . exact .inr (decode_cons_of_ne hpercent cs)

theorem decode_eq_nil_iff {cs : List Char} : decode cs = [] ↔ cs = [] := by
  constructor
  . intro h
    cases cs with
    | nil => rfl
    | cons c cs =>
      rcases decode_cons c cs with ⟨a, b, rest, m, n, _, _, _, _, heq⟩ | heq
      . rw [heq] at h
        cases h
      . rw [heq] at h
        exact absurd (List.append_eq_nil_iff.1 h).1 String.utf8EncodeChar_ne_nil
  . intro h
    rw [h]
    rfl

/--
The bytes of a character outside of ASCII are outside of ASCII.
-/
theorem eq_of_utf8EncodeChar_eq_cons {c : Char} {b : UInt8} {bytes : List UInt8}
    (h : String.utf8EncodeChar c = b :: bytes) (hb : b.toNat < 0x80) :
    c.toNat = b.toNat ∧ bytes = [] := by
  unfold String.utf8EncodeChar at h
  simp only at h
  split at h
  . next hle =>
    cases h
    refine ⟨?_, rfl⟩
    have hlt : c.toNat < 256 := Nat.lt_of_le_of_lt hle (by decide)
    exact (UInt8.toNat_ofNat_of_lt' hlt).symm
  . -- The first byte of several is large.
    repeat' split at h
    all_goals
      cases h
      rw [UInt8.toNat_ofNat'] at hb
      omega

theorem toNat_lt_of_hexValue? {c : Char} {n : Nat} (h : Json.hexValue? c = some n) :
    c.toNat < 0x80 := by
  unfold Json.hexValue? at h
  split at h
  . next hdigit => exact Text.toNat_lt_of_isDigit hdigit
  . split at h
    . next hsmall => exact Nat.lt_of_le_of_lt hsmall.2 (by decide)
    . split at h
      . next hcapital => exact Nat.lt_of_le_of_lt hcapital.2 (by decide)
      . cases h

section Sets

variable {c : Char}

theorem toNat_lt_of_isEscape (h : isEscape c) : c.toNat < 0x80 := by
  unfold isEscape at h
  rw [Bool.or_eq_true, decide_eq_true_eq, Option.isSome_iff_exists] at h
  rcases h with h | ⟨n, hn⟩
  . rw [h]
    decide
  . exact toNat_lt_of_hexValue? hn

/--
No part of a URL encodes the encoded form of a byte.
-/
theorem sparesEscapes_of_ascii {inSet : Char → Bool}
    (h : ∀ n < 0x80, isEscape (Char.ofNat n) → inSet (Char.ofNat n) = false) :
    SparesEscapes inSet := by
  intro c hc
  exact Text.forall_ascii (P := fun c => isEscape c → inSet c = false) h
    (toNat_lt_of_isEscape hc) hc

theorem sparesEscapes_isControl : SparesEscapes isControl :=
  sparesEscapes_of_ascii (by decide)

theorem sparesEscapes_inFragmentSet : SparesEscapes inFragmentSet :=
  sparesEscapes_of_ascii (by decide)

theorem sparesEscapes_inPathSet : SparesEscapes inPathSet :=
  sparesEscapes_of_ascii (by decide)

theorem sparesEscapes_inUserSet : SparesEscapes inUserSet :=
  sparesEscapes_of_ascii (by decide)

theorem sparesEscapes_inQuerySet : SparesEscapes inQuerySet :=
  sparesEscapes_of_ascii (by decide)

theorem sparesEscapes_inSpecialQuerySet : SparesEscapes inSpecialQuerySet :=
  sparesEscapes_of_ascii (by decide)

/--
A set that has the control characters and the space leaves visible characters only.
-/
theorem visible_of_not_isControl (hcontrol : isControl c = false) (hspace : c ≠ ' ') :
    0x20 < c.toNat := by
  have hne : c.toNat ≠ 0x20 := fun h => hspace (Char.toNat_inj.1 h)
  simp only [isControl, Bool.or_eq_false_iff, decide_eq_false_iff_not] at hcontrol
  omega

theorem visible_of_not_inFragmentSet (h : inFragmentSet c = false) : 0x20 < c.toNat := by
  simp [inFragmentSet] at h
  exact visible_of_not_isControl h.1 h.2.1

theorem visible_of_not_inPathSet (h : inPathSet c = false) : 0x20 < c.toNat := by
  simp only [inPathSet, Bool.or_eq_false_iff] at h
  exact visible_of_not_inFragmentSet h.1

theorem visible_of_not_inUserSet (h : inUserSet c = false) : 0x20 < c.toNat := by
  simp only [inUserSet, Bool.or_eq_false_iff] at h
  exact visible_of_not_inPathSet h.1

theorem visible_of_not_inQuerySet (h : inQuerySet c = false) : 0x20 < c.toNat := by
  simp [inQuerySet] at h
  exact visible_of_not_isControl h.1 h.2.1

theorem visible_of_not_inSpecialQuerySet (h : inSpecialQuerySet c = false) : 0x20 < c.toNat := by
  simp only [inSpecialQuerySet, Bool.or_eq_false_iff] at h
  exact visible_of_not_inQuerySet h.1

end Sets

section Dots

variable {cs dot : List Char} {bytes : List UInt8}

theorem isDot_iff :
    isDot cs ↔ cs.map Char.toLower = ['.'] ∨ cs.map Char.toLower = ['%', '2', 'e'] := by
  simp [isDot]

theorem eq_of_isDot (h : isDot dot) :
    dot = ['.'] ∨ dot = ['%', '2', 'e'] ∨ dot = ['%', '2', 'E'] := by
  have hletter : ∀ n < 0x80, (Char.ofNat n).toLower = 'e' →
      Char.ofNat n = 'e' ∨ Char.ofNat n = 'E' := by decide
  rcases isDot_iff.1 h with h | h
  . have ⟨c, rest, hdot, hc, hrest⟩ := List.map_eq_cons_iff.1 h
    rw [hdot]
    rw [List.map_eq_nil_iff.1 hrest]
    rw [Text.eq_of_toLower_eq (by decide) rfl hc]
    exact .inl rfl
  . have ⟨c, rest, hdot, hc, hrest⟩ := List.map_eq_cons_iff.1 h
    have ⟨d, rest', hrest', hd, hlast⟩ := List.map_eq_cons_iff.1 hrest
    have ⟨x, rest'', hrest'', hx, hnil⟩ := List.map_eq_cons_iff.1 hlast
    have hascii : x.toNat < 0x80 := Text.toNat_lt_of_toLower (by rw [hx]; decide)
    rw [hdot, hrest', hrest'']
    rw [List.map_eq_nil_iff.1 hnil]
    rw [Text.eq_of_toLower_eq (by decide) rfl hc]
    rw [Text.eq_of_toLower_eq (by decide) rfl hd]
    have hxe : x = 'e' ∨ x = 'E' :=
      Text.forall_ascii (P := fun c => c.toLower = 'e' → c = 'e' ∨ c = 'E') hletter hascii hx
    rcases hxe with hxe | hxe
    . rw [hxe]
      exact .inr (.inl rfl)
    . rw [hxe]
      exact .inr (.inr rfl)

theorem decode_append_of_isDot (h : isDot dot) (cs : List Char) :
    decode (dot ++ cs) = 0x2e :: decode cs := by
  rcases eq_of_isDot h with h | h | h
  . rw [h]
    exact decode_cons_of_ne (by decide) cs
  . rw [h]
    exact decode_encodeByte 0x2e cs
  . rw [h]
    exact decode_encodeByte 0x2e cs

/--
The value of a digit is below 16, and small letters and capital ones have the same.
-/
theorem lt_and_toLower_of_hexValue? {c : Char} {n : Nat} (h : Json.hexValue? c = some n) :
    n < 16 ∧ c.toLower = Nat.digitChar n := by
  have hascii : ∀ k < 0x80, ∀ n ∈ Json.hexValue? (Char.ofNat k),
      n < 16 ∧ (Char.ofNat k).toLower = Nat.digitChar n := by decide
  exact Text.forall_ascii
    (P := fun c => ∀ n ∈ Json.hexValue? c, n < 16 ∧ c.toLower = Nat.digitChar n)
    hascii (toNat_lt_of_hexValue? h) n h

/--
A text that stands for a dot and something else starts with a dot or its encoded form.
-/
theorem exists_isDot_of_decode (h : decode cs = 0x2e :: bytes) :
    ∃ dot rest, cs = dot ++ rest ∧ isDot dot ∧ decode rest = bytes := by
  cases cs with
  | nil => cases h
  | cons c cs =>
    rcases decode_cons c cs with ⟨a, b, rest, m, n, hc, hcs, hm, hn, heq⟩ | heq
    . rw [heq] at h
      have ⟨hbyte, hrest⟩ := List.cons.inj h
      have hvalue := congrArg UInt8.toNat hbyte
      have ⟨hmlt, hlowa⟩ := lt_and_toLower_of_hexValue? hm
      have ⟨hnlt, hlowb⟩ := lt_and_toLower_of_hexValue? hn
      rw [UInt8.toNat_ofNat'] at hvalue
      have hvalue' : (16 * m + n) % 256 = 46 := hvalue
      have hm' : m = 2 := by omega
      have hn' : n = 14 := by omega
      refine ⟨['%', a, b], rest, ?_, ?_, hrest⟩
      . rw [hc, hcs]
        rfl
      . rw [isDot_iff]
        rw [List.map_cons, List.map_cons, List.map_cons]
        rw [hlowa, hlowb, hm', hn']
        exact .inr rfl
    . rw [heq] at h
      cases hchar : String.utf8EncodeChar c with
      | nil => exact absurd hchar String.utf8EncodeChar_ne_nil
      | cons b more =>
        rw [hchar] at h
        have ⟨hb, hrest⟩ := List.cons.inj h
        have ⟨hc, hmore⟩ := eq_of_utf8EncodeChar_eq_cons hchar (by rw [hb]; decide)
        rw [hmore] at hrest
        rw [hb] at hc
        refine ⟨['.'], cs, ?_, rfl, hrest⟩
        rw [Char.toNat_inj.1 (hc.trans (show _ = '.'.toNat from rfl))]
        rfl

theorem isDot_iff_decode : isDot cs ↔ decode cs = [0x2e] := by
  constructor
  . intro h
    have hdecode := decode_append_of_isDot h []
    rwa [List.append_nil] at hdecode
  . intro h
    have ⟨dot, rest, hcs, hdot, hrest⟩ := exists_isDot_of_decode h
    rw [decode_eq_nil_iff.1 hrest, List.append_nil] at hcs
    rwa [hcs]

theorem isDoubleDot_iff : isDoubleDot cs ↔ ∃ a b, cs = a ++ b ∧ isDot a ∧ isDot b := by
  have hsplit : isDoubleDot cs ↔
      ∃ x ∈ [['.'], ['%', '2', 'e']], ∃ y ∈ [['.'], ['%', '2', 'e']],
        cs.map Char.toLower = x ++ y := by
    simp [isDoubleDot, or_assoc]
  rw [hsplit]
  simp only [isDot_iff]
  constructor
  . intro h
    have ⟨x, hx, y, hy, hmap⟩ := h
    have ⟨a, b, hcs, ha, hb⟩ := List.map_eq_append_iff.1 hmap
    rw [← ha] at hx
    rw [← hb] at hy
    simp only [List.mem_cons, List.not_mem_nil, or_false] at hx hy
    exact ⟨a, b, hcs, hx, hy⟩
  . intro h
    have ⟨a, b, hcs, ha, hb⟩ := h
    refine ⟨a.map Char.toLower, by simpa using ha, b.map Char.toLower, by simpa using hb, ?_⟩
    rw [hcs]
    exact List.map_append

theorem isDoubleDot_iff_decode : isDoubleDot cs ↔ decode cs = [0x2e, 0x2e] := by
  rw [isDoubleDot_iff]
  constructor
  . intro h
    have ⟨a, b, hcs, ha, hb⟩ := h
    rw [hcs]
    rw [decode_append_of_isDot ha]
    rw [isDot_iff_decode.1 hb]
  . intro h
    have ⟨dot, rest, hcs, hdot, hrest⟩ := exists_isDot_of_decode h
    exact ⟨dot, rest, hcs, hdot, isDot_iff_decode.2 hrest⟩

/--
Whether a segment leads somewhere does not depend on its encoding.
-/
theorem isDot_encode {inSet : Char → Bool} (h : SparesEscapes inSet) (cs : List Char) :
    isDot (encode inSet cs) = isDot cs := by
  rw [Bool.eq_iff_iff, isDot_iff_decode, isDot_iff_decode]
  rw [decode_encode h]

theorem isDoubleDot_encode {inSet : Char → Bool} (h : SparesEscapes inSet) (cs : List Char) :
    isDoubleDot (encode inSet cs) = isDoubleDot cs := by
  rw [Bool.eq_iff_iff, isDoubleDot_iff_decode, isDoubleDot_iff_decode]
  rw [decode_encode h]

end Dots

end ServerLauncher.Url
