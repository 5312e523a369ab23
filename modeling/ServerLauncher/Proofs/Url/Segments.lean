import ServerLauncher.Proofs.Text.Fronts
import ServerLauncher.Proofs.Text.Pieces
import ServerLauncher.Proofs.Url.Percent

/-!
This module contains lemmas about the segments of paths: what comes from reading a path reads back as
itself, also behind other segments.
-/

namespace ServerLauncher.Url

/--
A segment in the form that reading a path leads to: it is encoded, and leads nowhere else.
-/
structure IsSegment (special : Bool) (name : String) : Prop where
  encoded : Avoids inPathSet name.toList
  unbroken : Avoids (isSlash special) name.toList
  notDot : isDot name.toList = false
  notDoubleDot : isDoubleDot name.toList = false

variable {special ofFile : Bool} {scheme : String} {cs tail segment : List Char}
  {before names base : List String} {name : String}

theorem IsSegment.slash_not_mem (h : IsSegment special name) : '/' ∉ name.toList := by
  intro hmem
  have hnot := h.unbroken '/' hmem
  simp [isSlash] at hnot

theorem IsSegment.visible (h : IsSegment special name) {c : Char} (hc : c ∈ name.toList) :
    0x20 < c.toNat :=
  visible_of_not_inPathSet (h.encoded c hc)

theorem isSegment_empty (special : Bool) : IsSegment special "" where
  encoded := by simp [Avoids]
  unbroken := by simp [Avoids]
  notDot := rfl
  notDoubleDot := rfl

theorem isSlash_of_isEscape {c : Char} (h : isEscape c) (special : Bool) :
    isSlash special c = false := by
  have hascii : ∀ n < 0x80, isEscape (Char.ofNat n) → ∀ special,
      isSlash special (Char.ofNat n) = false := by decide
  exact Text.forall_ascii (P := fun c => isEscape c → ∀ special, isSlash special c = false) hascii
    (toNat_lt_of_isEscape h) h special

theorem isSegment_encode (hunbroken : Avoids (isSlash special) segment)
    (hdot : isDot segment = false) (hdouble : isDoubleDot segment = false) :
    IsSegment special (String.ofList (encode inPathSet segment)) where
  encoded := by
    rw [String.toList_ofList]
    exact avoids_encode sparesEscapes_inPathSet segment
  unbroken := by
    rw [String.toList_ofList]
    intro c hc
    rcases mem_encode hc with hescape | ⟨hmem, _⟩
    . exact isSlash_of_isEscape hescape special
    . exact hunbroken c hmem
  notDot := by
    rw [String.toList_ofList]
    rwa [isDot_encode sparesEscapes_inPathSet]
  notDoubleDot := by
    rw [String.toList_ofList]
    rwa [isDoubleDot_encode sparesEscapes_inPathSet]

theorem avoids_of_mem_rawSegments (h : segment ∈ rawSegments special cs) :
    Avoids (isSlash special) segment := by
  intro c hc
  have hne : c ≠ '/' := by
    intro heq
    exact Text.sep_not_mem_of_mem_pieces h (heq ▸ hc)
  have ⟨d, _, hd⟩ := List.mem_map.1 (Text.mem_of_mem_pieces h hc)
  split at hd
  . exact absurd hd.symm hne
  . next hnot =>
    rw [← hd]
    exact Bool.eq_false_iff.2 hnot

@[simp]
theorem dropSlash_slash (special : Bool) (cs : List Char) : dropSlash special ('/' :: cs) = cs := by
  simp [dropSlash, isSlash]

theorem dropSegment_sublist (ofFile : Bool) (before : List String) :
    (dropSegment ofFile before).Sublist before := by
  unfold dropSegment
  split
  . exact .refl _
  . split
    . exact .refl _
    . exact List.sublist_cons_self _ _

theorem isSegment_takeSegments {raw : List (List Char)}
    (hbefore : ∀ name ∈ before, IsSegment special name)
    (hraw : ∀ segment ∈ raw, Avoids (isSlash special) segment) :
    ∀ name ∈ takeSegments ofFile before raw, IsSegment special name := by
  induction raw generalizing before with
  | nil => exact hbefore
  | cons segment rest ih =>
    have ⟨hsegment, hrest⟩ := List.forall_mem_cons.1 hraw
    have hslash : ∀ before : List String, (∀ name ∈ before, IsSegment special name) →
        ∀ name ∈ if rest.isEmpty then "" :: before else before, IsSegment special name := by
      intro before hbefore
      split
      . exact List.forall_mem_cons.2 ⟨isSegment_empty special, hbefore⟩
      . exact hbefore
    unfold takeSegments
    apply ih _ hrest
    split
    . apply hslash
      intro name hname
      exact hbefore name ((dropSegment_sublist ofFile before).subset hname)
    . next hdouble =>
      split
      . exact hslash before hbefore
      . next hdot =>
        refine List.forall_mem_cons.2 ⟨?_, hbefore⟩
        exact isSegment_encode hsegment (Bool.eq_false_iff.2 hdot) (Bool.eq_false_iff.2 hdouble)

theorem takeSegments_ne_nil {raw : List (List Char)} (h : raw ≠ []) (ofFile : Bool)
    (before : List String) : takeSegments ofFile before raw ≠ [] := by
  induction raw generalizing before with
  | nil => exact absurd rfl h
  | cons segment rest ih =>
    unfold takeSegments
    by_cases hrest : rest = []
    . -- The last segment leaves a name behind, if only an empty one.
      rw [hrest]
      unfold takeSegments
      dsimp only
      split
      . simp
      . split <;> simp
    . exact ih hrest _

/--
The names that a path has been read as are taken as they are.
-/
theorem takeSegments_names (h : ∀ name ∈ names, IsSegment special name) :
    takeSegments ofFile before (names.map String.toList) = names.reverse ++ before := by
  induction names generalizing before with
  | nil => rfl
  | cons name names ih =>
    have ⟨hname, hnames⟩ := List.forall_mem_cons.1 h
    rw [List.map_cons]
    unfold takeSegments
    rw [hname.notDot, hname.notDoubleDot]
    rw [encode_of_avoids hname.encoded]
    rw [String.ofList_toList]
    simp only [Bool.false_eq_true, if_false]
    rw [ih hnames]
    simp

theorem rawSegments_joinPieces {raw : List (List Char)} (hne : raw ≠ [])
    (h : ∀ segment ∈ raw, Avoids (isSlash special) segment) :
    rawSegments special (Text.joinPieces '/' raw) = raw := by
  have hsame : ∀ c ∈ Text.joinPieces '/' raw, (if isSlash special c then '/' else c) = c := by
    intro c hc
    rcases Text.mem_joinPieces hc with hsep | ⟨segment, hsegment, hmem⟩
    . rw [hsep]
      exact ite_self _
    . rw [h segment hsegment c hmem]
      rfl
  unfold rawSegments
  rw [List.map_congr_left hsame]
  rw [List.map_id']
  apply Text.pieces_joinPieces hne
  intro segment hsegment hsep
  have hslash := h segment hsegment '/' hsep
  simp [isSlash] at hslash

section Names

theorem isSegment_readNames (scheme : String) (cs : List Char) :
    ∀ name ∈ readNames scheme [] cs, IsSegment (isSpecialScheme scheme) name := by
  intro name hname
  unfold readNames at hname
  refine isSegment_takeSegments ?_ ?_ name (List.mem_reverse.1 hname)
  . simp
  . intro segment hsegment
    exact avoids_of_mem_rawSegments hsegment

theorem readNames_ne_nil (scheme : String) (base : List String) (cs : List Char) :
    readNames scheme base cs ≠ [] := by
  unfold readNames rawSegments
  intro h
  exact takeSegments_ne_nil (Text.pieces_ne_nil _ _) _ _ (List.reverse_eq_nil_iff.1 h)

/--
Segments that are written between slashes, in front of query and fragment.
-/
structure AreRaw (special : Bool) (raw : List (List Char)) : Prop where
  ne_nil : raw ≠ []
  unbroken : ∀ segment ∈ raw, Avoids (isSlash special) segment
  unended : ∀ segment ∈ raw, Avoids endsPath segment

theorem areRaw_names (hne : names ≠ []) (hnames : ∀ name ∈ names, IsSegment special name) :
    AreRaw special (names.map String.toList) where
  ne_nil := by simpa using hne
  unbroken := by
    intro segment hsegment
    have ⟨name, hname, heq⟩ := List.mem_map.1 hsegment
    rw [← heq]
    exact (hnames name hname).unbroken
  unended := by
    intro segment hsegment c hc
    have ⟨name, hname, heq⟩ := List.mem_map.1 hsegment
    rw [← heq] at hc
    have hencoded := (hnames name hname).encoded c hc
    simp [inPathSet] at hencoded
    simp [endsPath, hencoded]

variable (htail : ∀ c ∈ tail.head?, endsPath c)

include htail

theorem readNames_raw {raw : List (List Char)} (hraw : AreRaw (isSpecialScheme scheme) raw)
    (base : List String) :
    readNames scheme base (Text.joinPieces '/' raw ++ tail) =
        (takeSegments (scheme = "file") base.reverse raw).reverse ∧
      (Text.joinPieces '/' raw ++ tail).dropWhile (fun c => !endsPath c) = tail := by
  have hfront : ∀ c ∈ Text.joinPieces '/' raw, (!endsPath c) = true := by
    intro c hc
    rcases Text.mem_joinPieces hc with hsep | ⟨segment, hsegment, hmem⟩
    . rw [hsep]
      rfl
    . rw [hraw.unended segment hsegment c hmem]
      rfl
  have hback : ∀ c ∈ tail.head?, (!endsPath c) = false := by
    intro c hc
    rw [htail c hc]
    rfl
  refine ⟨?_, Text.dropWhile_append_of_stop hfront hback⟩
  unfold readNames
  rw [Text.takeWhile_append_of_stop hfront hback]
  rw [rawSegments_joinPieces hraw.ne_nil hraw.unbroken]

variable (hne : names ≠ []) (hnames : ∀ name ∈ names, IsSegment (isSpecialScheme scheme) name)

include hne hnames

/--
The names of a path are read back behind others.
-/
theorem readNames_joinPieces (base : List String) :
    readNames scheme base (Text.joinPieces '/' (names.map String.toList) ++ tail) =
      base ++ names := by
  rw [(readNames_raw htail (areRaw_names hne hnames) base).1]
  rw [takeSegments_names hnames]
  simp

theorem readSegments_joinPieces (base : List String) :
    readSegments scheme base (Text.joinPieces '/' (names.map String.toList) ++ tail) =
      (.segments (if scheme = "file" then trimNames (base ++ names) else base ++ names), tail) := by
  unfold readSegments
  rw [readNames_joinPieces htail hne hnames]
  rw [(readNames_raw htail (areRaw_names hne hnames) base).2]

/--
A dot in front of the names makes no difference.
-/
theorem readSegments_dot (hfile : scheme ≠ "file") :
    readSegments scheme [] (Text.joinPieces '/' (['.'] :: names.map String.toList) ++ tail) =
      (.segments names, tail) := by
  have hsegments := areRaw_names hne hnames
  have hraw : AreRaw (isSpecialScheme scheme) (['.'] :: names.map String.toList) := by
    constructor
    case ne_nil => exact List.cons_ne_nil _ _
    case unbroken =>
      refine List.forall_mem_cons.2 ⟨?_, hsegments.unbroken⟩
      simp [Avoids, isSlash]
    case unended =>
      refine List.forall_mem_cons.2 ⟨?_, hsegments.unended⟩
      simp [Avoids, endsPath]
  have hskip : takeSegments (scheme = "file") [] (['.'] :: names.map String.toList) =
      takeSegments (scheme = "file") [] (names.map String.toList) := by
    rw [takeSegments]
    rw [show isDoubleDot ['.'] = false from rfl, show isDot ['.'] = true from rfl]
    simp [hne]
  unfold readSegments
  rw [(readNames_raw htail hraw []).1, (readNames_raw htail hraw []).2]
  rw [List.reverse_nil]
  rw [hskip]
  rw [takeSegments_names hnames]
  dsimp only
  rw [if_neg hfile]
  simp

end Names

/--
The names of the path of a file do not start with an empty one, unless it is the only one.
-/
theorem trimNames_eq_self_iff :
    trimNames names = names ↔ names = [""] ∨ ∃ first rest, names = first :: rest ∧ first ≠ "" := by
  constructor
  . intro h
    unfold trimNames at h
    split at h
    . exact .inl h.symm
    . cases names with
      | nil => contradiction
      | cons first rest =>
        refine .inr ⟨first, rest, rfl, ?_⟩
        intro hfirst
        have hlength := congrArg List.length h
        rw [List.dropWhile_cons_of_pos (by simp [hfirst])] at hlength
        have hle := (List.dropWhile_sublist (l := rest) (· = "")).length_le
        simp at hlength
        omega
  . rintro (h | ⟨first, rest, h, hfirst⟩)
    . rw [h]
      rfl
    . rw [h]
      unfold trimNames
      rw [List.dropWhile_cons_of_neg (by simp [hfirst])]

theorem trimNames_trimNames (names : List String) :
    trimNames (trimNames names) = trimNames names := by
  rw [trimNames_eq_self_iff]
  unfold trimNames
  split
  . exact .inl rfl
  . next hne =>
    cases hdrop : names.dropWhile (· = "") with
    | nil => exact absurd hdrop hne
    | cons first rest =>
      refine .inr ⟨first, rest, rfl, ?_⟩
      have hnot := List.head?_dropWhile_not (fun name => decide (name = "")) names
      rw [hdrop] at hnot
      exact of_decide_eq_false hnot

theorem isSegment_trimNames (h : ∀ name ∈ names, IsSegment special name) :
    ∀ name ∈ trimNames names, IsSegment special name := by
  unfold trimNames
  split
  . exact List.forall_mem_singleton.2 (isSegment_empty special)
  . intro name hname
    exact h name ((List.dropWhile_sublist _).subset hname)

theorem trimNames_ne_nil (names : List String) : trimNames names ≠ [] := by
  unfold trimNames
  split
  . exact List.cons_ne_nil _ _
  . assumption

/--
A letter for a disk that gets a colon is still a segment.
-/
theorem isSegment_withDiskColon (h : IsSegment special name) :
    IsSegment special (withDiskColon name) := by
  unfold withDiskColon
  split
  . next letter mark heq =>
    split
    . have hletter : letter ∈ name.toList := by
        rw [heq]
        exact List.mem_cons_self
      have hmem : ∀ c ∈ [letter, ':'], inPathSet c = false ∧ isSlash special c = false := by
        simp only [List.forall_mem_cons]
        refine ⟨⟨h.encoded letter hletter, h.unbroken letter hletter⟩, ⟨by decide, ?_⟩, ?_⟩
        . simp [isSlash]
        . intro c hc
          cases hc
      constructor
      case encoded =>
        rw [String.toList_ofList]
        intro c hc
        exact (hmem c hc).1
      case unbroken =>
        rw [String.toList_ofList]
        intro c hc
        exact (hmem c hc).2
      case notDot => simp [isDot]
      case notDoubleDot => simp [isDoubleDot]
    . exact h
  . exact h

theorem withDiskColon_ne_empty (h : name ≠ "") : withDiskColon name ≠ "" := by
  unfold withDiskColon
  split
  . split
    . simp
    . exact h
  . exact h

/--
A path that is written starts with a slash, and slashes are between its names.
-/
theorem toList_text_segments (h : names ≠ []) :
    (UrlPath.segments names).text.toList =
      '/' :: Text.joinPieces '/' (names.map String.toList) := by
  have hcons : ∀ (name : String) (names : List String),
      (UrlPath.segments (name :: names)).text.toList =
        '/' :: name.toList ++ (UrlPath.segments names).text.toList := by
    intro name names
    simp [UrlPath.text, String.toList_join]
  induction names with
  | nil => exact absurd rfl h
  | cons name names ih =>
    rw [hcons]
    cases names with
    | nil =>
      simp [UrlPath.text, Text.joinPieces]
    | cons second others =>
      rw [ih (List.cons_ne_nil second others)]
      rfl

end ServerLauncher.Url
