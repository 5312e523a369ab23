import Mathlib.Logic.Relation
import ServerLauncher.Proofs.Path.Joining

/-!
This module contains what it means for two paths to have the same components: one can be written as
the other by leaving out, or putting in, slashes and dots that lead nowhere.
-/

namespace ServerLauncher.Path

/--
The second path is the first one without something that leads nowhere: a second slash, a dot between
slashes or behind the last one, or a slash at the end. The slash of the root stays.
-/
inductive Shortens : Path → Path → Prop where
  | slash (front back : String) : Shortens ⟨front ++ "//" ++ back⟩ ⟨front ++ "/" ++ back⟩
  | dot (front back : String) : Shortens ⟨front ++ "/./" ++ back⟩ ⟨front ++ "/" ++ back⟩
  | lastDot (front : String) : Shortens ⟨front ++ "/."⟩ ⟨front ++ "/"⟩
  | lastSlash {front : String} (hne : front ≠ "") : Shortens ⟨front ++ "/"⟩ ⟨front⟩

/--
The path that some components spell. Nothing spells the empty path.
-/
def spell : List Component → List Char
  | .root :: rest => '/' :: Text.joinPieces '/' (rest.map Component.chars)
  | components => Text.joinPieces '/' (components.map Component.chars)

variable {p q : Path} {segment front back : List Char} {c : Component}

section Components

theorem ofSegment?_cons_idle (h : segment = [] ∨ segment = ['.']) (rest : List (List Char)) :
    (segment :: rest).filterMap Component.ofSegment? = rest.filterMap Component.ofSegment? := by
  apply List.filterMap_cons_none
  unfold Component.ofSegment?
  rw [if_pos h]

theorem components_of_segments {first : List Char} {rest : List (List Char)}
    (h : p.segments = first :: rest) :
    p.components = (if p.isAbsolute then some .root
      else if first = ['.'] then some .current
      else Component.ofSegment? first).toList ++ rest.filterMap Component.ofSegment? := by
  unfold components
  rw [h]

/--
What stands behind a slash adds its steps to those of what stands in front.
-/
theorem components_of_slash (hp : p.chars = front ++ '/' :: back)
    (hq : q.chars = front ++ ['/']) :
    p.components = q.components ++ (Text.pieces '/' back).filterMap Component.ofSegment? := by
  have habsolute : p.isAbsolute = q.isAbsolute := by
    unfold isAbsolute
    rw [hp, hq]
    cases front <;> rfl
  cases hfront : Text.pieces '/' front with
  | nil => exact absurd hfront (Text.pieces_ne_nil '/' front)
  | cons first rest =>
    have hsegments : p.segments = first :: (rest ++ Text.pieces '/' back) := by
      unfold segments
      rw [hp, Text.pieces_append, hfront]
      rfl
    have hsegments' : q.segments = first :: (rest ++ [[]]) := by
      unfold segments
      rw [hq, Text.pieces_append, hfront]
      rfl
    rw [components_of_segments hsegments, components_of_segments hsegments']
    rw [List.filterMap_append, List.filterMap_append]
    rw [habsolute]
    rw [List.append_assoc, List.append_assoc]
    rfl

/--
A slash at the end adds nothing, unless it is that of the root.
-/
theorem components_of_lastSlash (hp : p.chars = q.chars ++ ['/']) (hne : q.chars ≠ []) :
    p.components = q.components := by
  have habsolute : p.isAbsolute = q.isAbsolute := by
    unfold isAbsolute
    rw [hp]
    rw [List.head?_append]
    cases hchars : q.chars with
    | nil => exact absurd hchars hne
    | cons c rest => rfl
  cases hsegments : q.segments with
  | nil => exact absurd hsegments (Text.pieces_ne_nil '/' q.chars)
  | cons first rest =>
    have hsegments' : p.segments = first :: (rest ++ [[]]) := by
      unfold segments at hsegments ⊢
      rw [hp, Text.pieces_append, hsegments]
      rfl
    rw [components_of_segments hsegments, components_of_segments hsegments']
    rw [List.filterMap_append]
    rw [habsolute]
    rw [ofSegment?_cons_idle (.inl rfl)]
    rw [List.filterMap_nil, List.append_nil]

theorem components_eq_of_shortens (h : Shortens p q) : p.components = q.components := by
  have hslash : ∀ front : String, (Path.mk (front ++ "/")).chars = front.toList ++ ['/'] := by
    simp [chars]
  have hshort : ∀ front back : String,
      (Path.mk (front ++ "/" ++ back)).chars = front.toList ++ '/' :: back.toList := by
    simp [chars]
  cases h with
  | slash front back =>
    have hlong : (Path.mk (front ++ "//" ++ back)).chars =
        front.toList ++ '/' :: '/' :: back.toList := by
      simp [chars]
    have hpieces : Text.pieces '/' ('/' :: back.toList) = [] :: Text.pieces '/' back.toList := rfl
    rw [components_of_slash hlong (hslash front)]
    rw [components_of_slash (hshort front back) (hslash front)]
    rw [hpieces]
    rw [ofSegment?_cons_idle (.inl rfl)]
  | dot front back =>
    have hlong : (Path.mk (front ++ "/./" ++ back)).chars =
        front.toList ++ '/' :: '.' :: '/' :: back.toList := by
      simp [chars]
    have hpieces : Text.pieces '/' ('.' :: '/' :: back.toList) =
        ['.'] :: Text.pieces '/' back.toList :=
      Text.pieces_append '/' ['.'] back.toList
    rw [components_of_slash hlong (hslash front)]
    rw [components_of_slash (hshort front back) (hslash front)]
    rw [hpieces]
    rw [ofSegment?_cons_idle (.inr rfl)]
  | lastDot front =>
    have hlong : (Path.mk (front ++ "/.")).chars = front.toList ++ '/' :: ['.'] := by
      simp [chars]
    rw [components_of_slash hlong (hslash front)]
    exact List.append_nil _
  | lastSlash hne =>
    apply components_of_lastSlash (hslash _)
    intro hnil
    exact hne (String.toList_inj.1 hnil)

end Components

section Spelling

/--
The segments that are left if those that lead nowhere are dropped.
-/
def kept (segments : List (List Char)) : List (List Char) :=
  (segments.filterMap Component.ofSegment?).map Component.chars

theorem chars_of_ofSegment? (h : Component.ofSegment? segment = some c) : c.chars = segment := by
  unfold Component.ofSegment? at h
  split at h
  . cases h
  . split at h
    . next hparent =>
      cases h
      exact hparent.symm
    . cases h
      exact String.toList_ofList

theorem kept_cons_idle (h : segment = [] ∨ segment = ['.']) (rest : List (List Char)) :
    kept (segment :: rest) = kept rest := by
  unfold kept
  rw [ofSegment?_cons_idle h]

theorem kept_cons (h : ¬(segment = [] ∨ segment = ['.'])) (rest : List (List Char)) :
    kept (segment :: rest) = segment :: kept rest := by
  have ⟨c, hc⟩ : ∃ c, Component.ofSegment? segment = some c := by
    unfold Component.ofSegment?
    rw [if_neg h]
    split
    . exact ⟨_, rfl⟩
    . exact ⟨_, rfl⟩
  unfold kept
  rw [List.filterMap_cons_some hc]
  rw [List.map_cons]
  rw [chars_of_ofSegment? hc]

/--
The text in front of a slash, and the segments behind it. If there are none the slash is left out,
unless it is that of the root.
-/
def attach (front : List Char) : List (List Char) → List Char
  | [] => if front = [] then ['/'] else front
  | segments => front ++ '/' :: Text.joinPieces '/' segments

/--
Two paths can be rewritten into each other.
-/
def Alike (p q : Path) : Prop :=
  Relation.EqvGen Shortens p q

def ofChars (cs : List Char) : Path :=
  ⟨String.ofList cs⟩

theorem ofChars_chars (p : Path) : ofChars p.chars = p := by
  unfold ofChars chars
  rw [String.ofList_toList]

theorem alike_of_shortens {cs ds : List Char} (h : Shortens p q) (hp : p.chars = cs)
    (hq : q.chars = ds) : Alike (ofChars cs) (ofChars ds) := by
  rw [← hp, ← hq]
  rw [ofChars_chars, ofChars_chars]
  exact .rel _ _ h

theorem alike_slash (front back : List Char) :
    Alike (ofChars (front ++ '/' :: '/' :: back)) (ofChars (front ++ '/' :: back)) :=
  alike_of_shortens (.slash (String.ofList front) (String.ofList back)) (by simp [chars])
    (by simp [chars])

theorem alike_dot (front back : List Char) :
    Alike (ofChars (front ++ '/' :: '.' :: '/' :: back)) (ofChars (front ++ '/' :: back)) :=
  alike_of_shortens (.dot (String.ofList front) (String.ofList back)) (by simp [chars])
    (by simp [chars])

theorem alike_lastDot (front : List Char) :
    Alike (ofChars (front ++ ['/', '.'])) (ofChars (front ++ ['/'])) :=
  alike_of_shortens (.lastDot (String.ofList front)) (by simp [chars]) (by simp [chars])

theorem alike_lastSlash (front : List Char) :
    Alike (ofChars (front ++ ['/'])) (ofChars (attach front [])) := by
  show Alike _ (ofChars (if front = [] then ['/'] else front))
  split
  . next hnil =>
    rw [hnil]
    exact .refl _
  . next hne =>
    have htext : String.ofList front ≠ "" := by
      simp [hne]
    exact alike_of_shortens (.lastSlash htext) (by simp [chars]) (by simp [chars])

theorem attach_eq_joinPieces (hne : front ≠ []) (segments : List (List Char)) :
    attach front segments = Text.joinPieces '/' (front :: segments) := by
  cases segments with
  | nil => exact if_neg hne
  | cons next rest => rfl

theorem attach_append (front segment : List Char) (segments : List (List Char)) :
    attach (front ++ '/' :: segment) segments = attach front (segment :: segments) := by
  cases segments with
  | nil => simp [attach, Text.joinPieces]
  | cons next rest => simp [attach, Text.joinPieces]

/--
What leads nowhere behind a slash can be dropped, one segment after the other.
-/
theorem alike_attach (front : List Char) {segments : List (List Char)} (hne : segments ≠ []) :
    Alike (ofChars (front ++ '/' :: Text.joinPieces '/' segments))
      (ofChars (attach front (kept segments))) := by
  induction segments generalizing front with
  | nil => exact absurd rfl hne
  | cons segment rest ih =>
    by_cases hlast : rest = []
    . rw [hlast]
      by_cases hidle : segment = [] ∨ segment = ['.']
      . rw [kept_cons_idle hidle]
        cases hidle with
        | inl hempty =>
          rw [hempty]
          exact alike_lastSlash front
        | inr hdot =>
          rw [hdot]
          exact .trans _ _ _ (alike_lastDot front) (alike_lastSlash front)
      . rw [kept_cons hidle]
        exact .refl _
    . rw [Text.joinPieces_cons hlast]
      by_cases hidle : segment = [] ∨ segment = ['.']
      . rw [kept_cons_idle hidle]
        cases hidle with
        | inl hempty =>
          rw [hempty]
          exact .trans _ _ _ (alike_slash front _) (ih front hlast)
        | inr hdot =>
          rw [hdot]
          exact .trans _ _ _ (alike_dot front _) (ih front hlast)
      . rw [kept_cons hidle]
        rw [← attach_append]
        have hrest := ih (front ++ '/' :: segment) hlast
        rw [List.append_assoc] at hrest
        exact hrest

/--
The first segment of a path that does not start at the root is kept also if it is a dot.
-/
theorem exists_chars_eq (hne : segment ≠ []) :
    ∃ c, (if segment = ['.'] then some .current else Component.ofSegment? segment) = some c ∧
      c.chars = segment ∧ c ≠ .root := by
  by_cases hdot : segment = ['.']
  . refine ⟨.current, if_pos hdot, hdot.symm, ?_⟩
    intro hroot
    cases hroot
  . rw [if_neg hdot]
    unfold Component.ofSegment?
    rw [if_neg (not_or.2 ⟨hne, hdot⟩)]
    split
    . next hparent =>
      refine ⟨.parent, rfl, hparent.symm, ?_⟩
      intro hroot
      cases hroot
    . refine ⟨.name _, rfl, String.toList_ofList, ?_⟩
      intro hroot
      cases hroot

theorem alike_spell_of_isAbsolute (h : p.isAbsolute) :
    Alike p (ofChars (spell p.components)) := by
  have ⟨back, hchars⟩ := List.head?_eq_some_iff.1 (of_decide_eq_true h)
  have hsegments : p.segments = [] :: Text.pieces '/' back := by
    unfold segments
    rw [hchars]
    rfl
  have halike := alike_attach [] (Text.pieces_ne_nil '/' back)
  rw [Text.joinPieces_pieces, List.nil_append] at halike
  rw [← hchars, ofChars_chars] at halike
  have hspell : spell p.components = attach [] (kept (Text.pieces '/' back)) := by
    rw [components_of_segments hsegments]
    rw [if_pos h]
    unfold kept
    cases (Text.pieces '/' back).filterMap Component.ofSegment? <;> rfl
  rw [hspell]
  exact halike

theorem alike_spell_of_not_isAbsolute (h : ¬p.isAbsolute) :
    Alike p (ofChars (spell p.components)) := by
  cases hsegments : p.segments with
  | nil => exact absurd hsegments (Text.pieces_ne_nil '/' p.chars)
  | cons first rest =>
    have hchars : Text.joinPieces '/' (first :: rest) = p.chars := by
      rw [← hsegments]
      exact Text.joinPieces_pieces '/' p.chars
    by_cases hfirst : first = []
    -- Only the empty path starts with an empty segment.
    . cases rest with
      | nil =>
        rw [hfirst] at hchars
        have hp : p = ofChars [] := by
          rw [← ofChars_chars p, ← hchars]
          rfl
        rw [hp]
        exact .refl _
      | cons second others =>
        rw [hfirst] at hchars
        apply absurd _ h
        unfold isAbsolute
        rw [← hchars]
        rfl
    . have ⟨c, hc, hcchars, hroot⟩ := exists_chars_eq hfirst
      have hcomponents : p.components = c :: rest.filterMap Component.ofSegment? := by
        rw [components_of_segments hsegments]
        rw [if_neg h, hc]
        rfl
      have hspell : spell p.components = attach first (kept rest) := by
        rw [attach_eq_joinPieces hfirst]
        rw [hcomponents]
        rw [← hcchars]
        cases c with
        | root => exact absurd rfl hroot
        | current => rfl
        | parent => rfl
        | name text => rfl
      rw [hspell]
      cases rest with
      | nil =>
        have hp : ofChars (attach first (kept [])) = p := by
          rw [attach_eq_joinPieces hfirst]
          rw [← ofChars_chars p, ← hchars]
          rfl
        rw [hp]
        exact .refl _
      | cons second others =>
        have halike := alike_attach first (List.cons_ne_nil second others)
        rw [← Text.joinPieces_cons (List.cons_ne_nil second others)] at halike
        rw [hchars, ofChars_chars] at halike
        exact halike

/--
Every path can be rewritten into the one that its components spell.
-/
theorem alike_spell (p : Path) : Alike p (ofChars (spell p.components)) := by
  by_cases h : p.isAbsolute
  . exact alike_spell_of_isAbsolute h
  . exact alike_spell_of_not_isAbsolute h

theorem components_eq_iff_alike : p.components = q.components ↔ Alike p q := by
  constructor
  . intro h
    have hq := alike_spell q
    rw [← h] at hq
    exact .trans _ _ _ (alike_spell p) (.symm _ _ hq)
  . intro h
    induction h with
    | rel p q hshortens => exact components_eq_of_shortens hshortens
    | refl p => rfl
    | symm p q _ ih => exact ih.symm
    | trans p q r _ _ hpq hqr => exact hpq.trans hqr

example : Alike "/c/" "/c" ∧ Alike "/c/." "/c" ∧ ¬Alike "./c" "c" := by
  rw [← components_eq_iff_alike, ← components_eq_iff_alike, ← components_eq_iff_alike]
  decide

end Spelling

end ServerLauncher.Path
