import ServerLauncher.Proofs.Path.Joining

/-!
This module contains the shape of expanded paths: they are written with single slashes between their
steps, and they hold none that could be left out.
-/

namespace ServerLauncher.Path

namespace Component

/--
The component leads from one directory to another one.
-/
def IsStep : Component → Prop
  | .name text => IsName text
  | .parent => True
  | .root | .current => False

variable {c : Component} {segment : List Char}

theorem isStep_ofSegment? (hslash : '/' ∉ segment) (h : ofSegment? segment = some c) :
    c.IsStep := by
  unfold ofSegment? at h
  split at h
  . cases h
  . next hidle =>
    split at h
    . cases h
      trivial
    . next hparent =>
      cases h
      rw [not_or] at hidle
      constructor
      case ne_empty => simpa using hidle.1
      case ne_dot =>
        intro heq
        exact hidle.2 (by simpa using congrArg String.toList heq)
      case ne_dots =>
        intro heq
        exact hparent (by simpa using congrArg String.toList heq)
      case slash_not_mem => simpa using hslash

theorem ofSegment?_chars (h : c.IsStep) : ofSegment? c.chars = some c := by
  cases c with
  | root => cases h
  | current => cases h
  | parent => rfl
  | name text =>
    have hname : IsName text := h
    have hne : ∀ s : String, text ≠ s → text.toList ≠ s.toList := by
      intro s hs heq
      exact hs (String.toList_inj.1 heq)
    have hidle : ¬(text.toList = [] ∨ text.toList = ['.']) := by
      rw [not_or]
      exact ⟨hne "" hname.ne_empty, hne "." hname.ne_dot⟩
    have hdots : text.toList ≠ ['.', '.'] := hne ".." hname.ne_dots
    change ofSegment? text.toList = _
    unfold ofSegment?
    rw [if_neg hidle]
    rw [if_neg hdots]
    rw [String.ofList_toList]

theorem slash_not_mem_chars (h : c.IsStep) : '/' ∉ c.chars := by
  cases c with
  | root => cases h
  | current => cases h
  | parent => decide
  | name text => exact IsName.slash_not_mem h

theorem chars_ne_nil (h : c.IsStep) : c.chars ≠ [] := by
  intro hnil
  have hsegment := ofSegment?_chars h
  rw [hnil] at hsegment
  cases hsegment

end Component

/--
Steps from the root or from the working directory, without any that stays where it is.
-/
inductive IsNormal : List Component → Prop where
  | relative {steps : List Component} (hsteps : ∀ c ∈ steps, c.IsStep) : IsNormal steps
  | absolute {steps : List Component} (hsteps : ∀ c ∈ steps, c.IsStep) : IsNormal (.root :: steps)

variable {p : Path} {steps : List Component} {c : Component} {home : Option Path}

theorem IsNormal.concat (h : IsNormal steps) (hc : c.IsStep) : IsNormal (steps ++ [c]) := by
  have hall : ∀ {steps : List Component}, (∀ d ∈ steps, d.IsStep) →
      ∀ d ∈ steps ++ [c], d.IsStep := by
    intro steps hsteps d hd
    cases List.mem_append.1 hd with
    | inl hd => exact hsteps d hd
    | inr hd => exact List.mem_singleton.1 hd ▸ hc
  cases h with
  | relative hsteps => exact .relative (hall hsteps)
  | absolute hsteps => exact .absolute (hall hsteps)

theorem IsNormal.of_concat (h : IsNormal (steps ++ [c])) : IsNormal steps := by
  generalize hwhole : steps ++ [c] = whole at h
  cases h with
  | relative hsteps =>
    apply IsNormal.relative
    intro d hd
    apply hsteps
    rw [← hwhole]
    exact List.mem_append_left _ hd
  | absolute hsteps =>
    cases steps with
    | nil => exact .relative (by simp)
    | cons first rest =>
      cases hwhole
      apply IsNormal.absolute
      intro d hd
      exact hsteps d (List.mem_append_left _ hd)

theorem isNormal_after {before : List Component} (h : IsNormal before.reverse) (hc : c.IsStep) :
    IsNormal (Component.after before c).reverse := by
  unfold Component.after
  split
  . cases hc
  . exact h
  . rw [List.reverse_cons] at h
    exact h.of_concat
  . rw [List.reverse_cons]
    exact h.concat hc

theorem isNormal_foldl_after {before rest : List Component} (h : IsNormal before.reverse)
    (hrest : ∀ c ∈ rest, c.IsStep) : IsNormal (rest.foldl Component.after before).reverse := by
  induction rest generalizing before with
  | nil => exact h
  | cons c rest ih =>
    have ⟨hc, hothers⟩ := List.forall_mem_cons.1 hrest
    exact ih (isNormal_after h hc) hothers

/--
Only the first component can be the root or the working directory.
-/
theorem components_eq_append (p : Path) :
    ∃ front rest, p.components = front ++ rest ∧ (front = [] ∨ front = [.root] ∨ front = [.current]) ∧
      ∀ c ∈ rest, c.IsStep := by
  have hsegments : ∀ segment ∈ p.segments, ∀ c, Component.ofSegment? segment = some c → c.IsStep := by
    intro segment hsegment c hc
    exact Component.isStep_ofSegment? (Text.sep_not_mem_of_mem_pieces hsegment) hc
  unfold components
  cases hcases : p.segments with
  | nil => exact absurd hcases (Text.pieces_ne_nil _ _)
  | cons first others =>
    rw [hcases] at hsegments
    have ⟨hfirst, hothers⟩ := List.forall_mem_cons.1 hsegments
    have hrest : ∀ c ∈ others.filterMap Component.ofSegment?, c.IsStep := by
      intro c hc
      have ⟨segment, hsegment, heq⟩ := List.mem_filterMap.1 hc
      exact hothers segment hsegment c heq
    dsimp only
    split
    . exact ⟨[.root], _, rfl, .inr (.inl rfl), hrest⟩
    . split
      . exact ⟨[.current], _, rfl, .inr (.inr rfl), hrest⟩
      . refine ⟨[], _, rfl, .inl rfl, ?_⟩
        intro c hc
        cases List.mem_append.1 hc with
        | inl hc => exact hfirst c (Option.mem_toList.1 hc)
        | inr hc => exact hrest c hc

theorem isNormal_normalComponents {rest : List Component} (p : Path)
    (hrest : ∀ c ∈ rest, c.IsStep) : IsNormal (normalComponents (p.components ++ rest)) := by
  have ⟨front, others, hp, hfront, hothers⟩ := components_eq_append p
  have hall : ∀ c ∈ others ++ rest, c.IsStep := by
    intro c hc
    cases List.mem_append.1 hc with
    | inl hc => exact hothers c hc
    | inr hc => exact hrest c hc
  unfold normalComponents
  rw [hp]
  rw [List.append_assoc]
  rw [List.foldl_append]
  refine isNormal_foldl_after ?_ hall
  rcases hfront with hfront | hfront | hfront
  . rw [hfront]
    exact .relative (by simp)
  . rw [hfront]
    exact .absolute (by simp)
  . rw [hfront]
    exact .relative (by simp [Component.after])

theorem exists_isNormal_expand (home : Option Path) (p : Path) :
    ∃ steps, IsNormal steps ∧ expand home p = ofComponents steps := by
  unfold expand
  split
  . next home rest hcomponents =>
    have ⟨front, others, hp, hfront, hothers⟩ := components_eq_append p
    refine ⟨_, isNormal_normalComponents home ?_, rfl⟩
    -- The name that stands for the home directory is a step, as all that follow it.
    intro c hc
    rw [hcomponents] at hp
    rcases hfront with hfront | hfront | hfront
    . rw [hfront] at hp
      rw [List.nil_append] at hp
      apply hothers
      rw [← hp]
      exact List.mem_cons_of_mem _ hc
    . rw [hfront] at hp
      cases hp
    . rw [hfront] at hp
      cases hp
  . refine ⟨_, ?_, rfl⟩
    rw [← List.append_nil p.components]
    exact isNormal_normalComponents p (by simp)

theorem slash_not_mem_map_chars (h : IsNormal steps) :
    ∀ segment ∈ steps.map Component.chars, '/' ∉ segment := by
  intro segment hsegment
  have ⟨c, hc, heq⟩ := List.mem_map.1 hsegment
  rw [← heq]
  cases h with
  | relative hsteps => exact Component.slash_not_mem_chars (hsteps c hc)
  | absolute hsteps =>
    cases List.mem_cons.1 hc with
    | inl hc =>
      rw [hc]
      decide
    | inr hc => exact Component.slash_not_mem_chars (hsteps c hc)

theorem filterMap_ofSegment?_map_chars (h : ∀ c ∈ steps, c.IsStep) :
    (steps.map Component.chars).filterMap Component.ofSegment? = steps := by
  induction steps with
  | nil => rfl
  | cons c rest ih =>
    have ⟨hc, hrest⟩ := List.forall_mem_cons.1 h
    rw [List.map_cons]
    rw [List.filterMap_cons_some (Component.ofSegment?_chars hc)]
    rw [ih hrest]

theorem ofComponents_cons_cons (first second : Component) (rest : List Component) :
    (ofComponents (first :: second :: rest)).chars =
      first.chars ++ '/' :: Text.joinPieces '/' ((second :: rest).map Component.chars) := by
  simp [ofComponents, chars, Text.joinPieces]

theorem segments_ofComponents (h : IsNormal steps) (hnil : steps ≠ []) (hroot : steps ≠ [.root]) :
    (ofComponents steps).segments = steps.map Component.chars := by
  unfold ofComponents segments chars
  split
  . exact absurd rfl hnil
  . exact absurd rfl hroot
  . rw [String.toList_ofList]
    rw [Text.pieces_joinPieces]
    . simp [hnil]
    . exact slash_not_mem_map_chars h

theorem head?_segments_of_isAbsolute (h : p.isAbsolute) : p.segments.head? = some [] := by
  unfold isAbsolute at h
  rw [decide_eq_true_eq] at h
  have ⟨rest, hchars⟩ := List.head?_eq_some_iff.1 h
  unfold segments
  rw [hchars]
  rfl

theorem isAbsolute_ofComponents (hsteps : ∀ c ∈ steps, c.IsStep) :
    (ofComponents (.root :: steps)).isAbsolute := by
  cases steps with
  | nil => rfl
  | cons second rest =>
    unfold isAbsolute
    rw [ofComponents_cons_cons]
    rfl

theorem not_isAbsolute_ofComponents (hsteps : ∀ c ∈ steps, c.IsStep) :
    (ofComponents steps).isAbsolute = false := by
  cases habsolute : (ofComponents steps).isAbsolute with
  | false => rfl
  | true =>
    have hhead := head?_segments_of_isAbsolute habsolute
    cases steps with
    | nil => cases habsolute
    | cons first rest =>
      have hfirst := hsteps first List.mem_cons_self
      rw [segments_ofComponents (.relative hsteps) (by simp)] at hhead
      . exact absurd (Option.some.inj hhead) (Component.chars_ne_nil hfirst)
      . intro hroot
        cases hroot
        cases hfirst

/--
The steps of a path in normal form can be read off again.
-/
theorem components_ofComponents (h : IsNormal steps) (hnil : steps ≠ []) :
    (ofComponents steps).components = steps := by
  by_cases hroot : steps = [.root]
  . rw [hroot]
    rfl
  . unfold components
    rw [segments_ofComponents h hnil hroot]
    cases h with
    | relative hsteps =>
      cases steps with
      | nil => exact absurd rfl hnil
      | cons first rest =>
        have ⟨hfirst, hrest⟩ := List.forall_mem_cons.1 hsteps
        have hsegment := Component.ofSegment?_chars hfirst
        have hdot : first.chars ≠ ['.'] := by
          intro hdot
          rw [hdot] at hsegment
          cases hsegment
        rw [List.map_cons]
        dsimp only
        rw [not_isAbsolute_ofComponents hsteps]
        rw [if_neg Bool.false_ne_true]
        rw [if_neg hdot]
        rw [hsegment]
        rw [filterMap_ofSegment?_map_chars hrest]
        rfl
    | absolute hsteps =>
      rw [List.map_cons]
      dsimp only
      rw [isAbsolute_ofComponents hsteps]
      rw [if_pos rfl]
      rw [filterMap_ofSegment?_map_chars hsteps]
      rfl

theorem slash_mem_ofComponents_iff (h : IsNormal steps) :
    '/' ∈ (ofComponents steps).chars ↔ steps = [.root] ∨ 2 ≤ steps.length := by
  cases steps with
  | nil => decide
  | cons first rest =>
    cases rest with
    | nil =>
      by_cases hroot : first = .root
      . rw [hroot]
        decide
      . have hchars : (ofComponents [first]).chars = first.chars := by
          unfold ofComponents chars
          simp [Text.joinPieces, hroot]
        have hslash := slash_not_mem_map_chars h first.chars (by simp)
        rw [hchars]
        simp [hslash, hroot]
    | cons second rest =>
      rw [ofComponents_cons_cons]
      simp

/--
An expanded path holds no slash if it is a single step from the working directory, however it was
written.
-/
theorem slash_mem_expand_iff :
    '/' ∈ (expand home p).chars ↔
      (expand home p).isAbsolute ∨ 2 ≤ (expand home p).components.length := by
  have ⟨steps, hnormal, hpath⟩ := exists_isNormal_expand home p
  rw [hpath]
  rw [slash_mem_ofComponents_iff hnormal]
  by_cases hnil : steps = []
  . rw [hnil]
    decide
  . rw [components_ofComponents hnormal hnil]
    cases hnormal with
    | relative hsteps =>
      rw [not_isAbsolute_ofComponents hsteps]
      simp only [Bool.false_eq_true, false_or, or_iff_right_iff_imp]
      intro hroot
      rw [hroot] at hsteps
      exact absurd (hsteps .root List.mem_cons_self) id
    | @absolute rest hsteps =>
      rw [isAbsolute_ofComponents hsteps]
      cases rest with
      | nil => simp
      | cons c others => simp

end ServerLauncher.Path
