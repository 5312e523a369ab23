import ServerLauncher.Path.Normal
import ServerLauncher.Proofs.Text.Pieces

/-!
This module contains lemmas about paths that lead on to a name in a directory, and about expanded
paths, which are never empty.
-/

namespace ServerLauncher.Path

/--
The text is a name: a path made of it is a single step to an entry.
-/
structure IsName (name : String) : Prop where
  ne_empty : name ≠ ""
  ne_dot : name ≠ "."
  ne_dots : name ≠ ".."
  slash_not_mem : '/' ∉ name.toList

variable {p : Path} {name : String}

theorem isAbsolute_of_isName (h : IsName name) : (Path.mk name).isAbsolute = false := by
  unfold isAbsolute chars
  rw [decide_eq_false_iff_not]
  intro hhead
  exact h.slash_not_mem (List.mem_of_mem_head? hhead)

theorem text_div (h : IsName name) (p : Path) :
    (p / name).text =
      if p.text = "" || p.chars.getLast? = some '/' then p.text ++ name
      else p.text ++ "/" ++ name := by
  show (p.join ⟨name⟩).text = _
  unfold join
  rw [isAbsolute_of_isName h]
  rw [if_neg Bool.false_ne_true]
  split <;> rfl

theorem text_div_ne_empty (h : IsName name) (p : Path) : (p / name).text ≠ "" := by
  rw [text_div h]
  split <;> simp [h.ne_empty]

theorem segments_div (h : IsName name) (p : Path) :
    ∃ front, (p / name).segments = front ++ [name.toList] ∧
      (p.segments = front ∨ p.segments = front ++ [[]]) := by
  have htext := text_div h p
  have hpieces := Text.pieces_of_not_mem h.slash_not_mem
  unfold segments chars
  rw [htext]
  split
  -- The name takes the place of the empty segment behind a slash, which is the only segment of the
  -- empty path.
  . next hslash =>
    rw [String.toList_append]
    by_cases hp : p.text = ""
    . rw [hp]
      refine ⟨[], ?_, .inr rfl⟩
      exact hpieces
    . simp only [Bool.or_eq_true, decide_eq_true_eq, hp, false_or] at hslash
      have ⟨front, hfront⟩ := List.getLast?_eq_some_iff.1 hslash
      unfold chars at hfront
      refine ⟨Text.pieces '/' front, ?_, .inr ?_⟩
      . rw [hfront]
        rw [List.append_assoc]
        rw [List.singleton_append]
        rw [Text.pieces_append]
        rw [hpieces]
      . rw [hfront]
        rw [Text.pieces_append]
        rfl
  . refine ⟨Text.pieces '/' p.text.toList, ?_, .inl rfl⟩
    rw [String.toList_append, String.toList_append]
    rw [List.append_assoc]
    show Text.pieces '/' (p.text.toList ++ '/' :: name.toList) = _
    rw [Text.pieces_append]
    rw [hpieces]

theorem isAbsolute_div (h : IsName name) (p : Path) : (p / name).isAbsolute = p.isAbsolute := by
  have htext := text_div h p
  have hname := isAbsolute_of_isName h
  unfold isAbsolute chars at hname ⊢
  rw [htext]
  cases hchars : p.text.toList with
  | nil =>
    have hp : p.text = "" := String.toList_inj.1 hchars
    simpa [hp] using hname
  | cons c rest => split <;> simp [hchars]

theorem utf8ByteSize_le_join {q : Path} (h : q.isAbsolute = false) (p : Path) :
    p.text.utf8ByteSize ≤ (p.join q).text.utf8ByteSize := by
  unfold join
  rw [h]
  rw [if_neg Bool.false_ne_true]
  split <;> simp only [String.utf8ByteSize_append] <;> omega

namespace Component

/--
The component has a written form, unless it is the root.
-/
def Proper : Component → Prop
  | .name text => text ≠ ""
  | _ => True

theorem proper_ofSegment? {segment : List Char} {c : Component}
    (h : ofSegment? segment = some c) : c.Proper := by
  unfold ofSegment? at h
  split at h
  . cases h
  . next hidle =>
    split at h
    . cases h
      trivial
    . cases h
      simp only [Proper, ne_eq, String.ofList_eq_empty_iff]
      intro hnil
      exact hidle (.inl hnil)

theorem proper_after {before : List Component} {step : Component}
    (hbefore : ∀ c ∈ before, c.Proper) (hstep : step.Proper) :
    ∀ c ∈ after before step, c.Proper := by
  unfold after
  split
  . exact hbefore
  . exact hbefore
  . intro c hc
    exact hbefore c (List.mem_cons_of_mem _ hc)
  . intro c hc
    cases List.mem_cons.1 hc with
    | inl hc =>
      rw [hc]
      exact hstep
    | inr hc => exact hbefore c hc

end Component

theorem proper_components (p : Path) : ∀ c ∈ p.components, c.Proper := by
  unfold components
  cases p.segments with
  | nil => simp
  | cons first rest =>
    intro c hc
    dsimp only at hc
    cases List.mem_append.1 hc with
    | inl hc =>
      split at hc
      . simp only [Option.toList_some, List.mem_singleton] at hc
        rw [hc]
        trivial
      . split at hc
        . simp only [Option.toList_some, List.mem_singleton] at hc
          rw [hc]
          trivial
        . rw [Option.mem_toList] at hc
          exact Component.proper_ofSegment? hc
    | inr hc =>
      have ⟨segment, _, hsegment⟩ := List.mem_filterMap.1 hc
      exact Component.proper_ofSegment? hsegment

theorem proper_normalComponents {components : List Component} (h : ∀ c ∈ components, c.Proper) :
    ∀ c ∈ normalComponents components, c.Proper := by
  have hfold : ∀ before : List Component, (∀ c ∈ before, c.Proper) →
      ∀ c ∈ components.foldl Component.after before, c.Proper := by
    induction components with
    | nil =>
      intro before hbefore
      exact hbefore
    | cons step rest ih =>
      intro before hbefore
      apply ih
      . intro c hc
        exact h c (List.mem_cons_of_mem _ hc)
      . exact Component.proper_after hbefore (h step List.mem_cons_self)
  intro c hc
  unfold normalComponents at hc
  exact hfold [] (by simp) c (List.mem_reverse.1 hc)

theorem text_ofComponents_ne_empty {components : List Component} (h : ∀ c ∈ components, c.Proper) :
    (ofComponents components).text ≠ "" := by
  unfold ofComponents
  split
  . decide
  . decide
  . next hnil hroot =>
    simp only [ne_eq, String.ofList_eq_empty_iff]
    cases components with
    | nil => exact absurd rfl hnil
    | cons first rest =>
      cases rest with
      | nil =>
        cases first with
        | root => exact absurd rfl hroot
        | current => simp [Text.joinPieces, Component.chars]
        | parent => simp [Text.joinPieces, Component.chars]
        | name text =>
          have htext := h _ List.mem_cons_self
          simpa [Text.joinPieces, Component.chars, Component.Proper] using htext
      | cons second rest => simp [Text.joinPieces]

theorem text_expand_ne_empty (home : Option Path) (p : Path) : (expand home p).text ≠ "" := by
  unfold expand
  split
  . next home rest hcomponents =>
    apply text_ofComponents_ne_empty
    apply proper_normalComponents
    intro c hc
    cases List.mem_append.1 hc with
    | inl hc => exact proper_components home c hc
    | inr hc =>
      apply proper_components p c
      rw [hcomponents]
      exact List.mem_cons_of_mem _ hc
  . apply text_ofComponents_ne_empty
    apply proper_normalComponents
    exact proper_components p

end ServerLauncher.Path
