import ServerLauncher.Proofs.Path.Expanding

/-!
This module contains what expanding a path again does. Normalizing leaves nothing to normalize, but it
can bring a `~` to the front that did not stand there, and that one is expanded the next time.
-/

namespace ServerLauncher.Path

/--
The path starts with the step that stands for the home directory.
-/
def StartsAtHome (p : Path) : Prop :=
  p.components.head? = some (.name "~")

/--
The path does not start with `~`, but only because of steps that lead nowhere or back.
-/
def HidesHome (p : Path) : Prop :=
  ¬p.StartsAtHome ∧ p.normalize.StartsAtHome

instance (p : Path) : Decidable p.StartsAtHome :=
  inferInstanceAs (Decidable (_ = _))

instance (p : Path) : Decidable p.HidesHome :=
  inferInstanceAs (Decidable (_ ∧ _))

section Components

variable {before components : List Component}

/--
A step stays, goes back by a name, or goes on.
-/
theorem after_cases (before : List Component) (c : Component) :
    Component.after before c = before ∨
      (∃ name, before = .name name :: Component.after before c) ∨
      Component.after before c = c :: before := by
  fun_cases Component.after before c with
  | case1 => exact .inl rfl
  | case2 => exact .inl rfl
  | case3 name => exact .inr (.inl ⟨name, rfl⟩)
  | case4 => exact .inr (.inr rfl)

/--
The components, of which the last comes first, are what following them leads to.
-/
def IsStraight (before : List Component) : Prop :=
  before.reverse.foldl Component.after [] = before

theorem isStraight_after (h : IsStraight before) (c : Component) :
    IsStraight (Component.after before c) := by
  rcases after_cases before c with hafter | ⟨name, hafter⟩ | hafter
  . rw [hafter]
    exact h
  . -- A name always goes on, so that it can be taken off again.
    unfold IsStraight at h ⊢
    generalize Component.after before c = rest at hafter ⊢
    rw [hafter] at h
    rw [List.reverse_cons, List.foldl_append] at h
    exact List.tail_eq_of_cons_eq h
  . unfold IsStraight at h ⊢
    rw [hafter]
    rw [List.reverse_cons, List.foldl_append, h]
    exact hafter

theorem isStraight_foldl_after (h : IsStraight before) (components : List Component) :
    IsStraight (components.foldl Component.after before) := by
  induction components generalizing before with
  | nil => exact h
  | cons c rest ih => exact ih (isStraight_after h c)

theorem normalComponents_normalComponents (components : List Component) :
    normalComponents (normalComponents components) = normalComponents components := by
  have hnil : IsStraight [] := rfl
  exact congrArg List.reverse (isStraight_foldl_after hnil components)

/--
What stands for the root stays in front, whatever follows it.
-/
theorem foldl_after_root (rest before : List Component) :
    ∃ others, rest.foldl Component.after (before ++ [.root]) = others ++ [.root] := by
  induction rest generalizing before with
  | nil => exact ⟨before, rfl⟩
  | cons c rest ih =>
    rw [List.foldl_cons]
    rcases after_cases (before ++ [.root]) c with hafter | ⟨name, hafter⟩ | hafter
    . rw [hafter]
      exact ih before
    . cases before with
      | nil => cases hafter
      | cons first before =>
        have hrest := (List.cons.inj hafter).2
        rw [← hrest]
        exact ih before
    . rw [hafter]
      exact ih (c :: before)

theorem head?_normalComponents_root (rest : List Component) :
    (normalComponents (.root :: rest)).head? = some .root := by
  have ⟨others, heq⟩ := foldl_after_root rest []
  have hroot : normalComponents (.root :: rest) = (rest.foldl Component.after [.root]).reverse := rfl
  rw [hroot]
  rw [List.nil_append] at heq
  rw [heq]
  simp

end Components

section Paths

variable {home p : Path} {rest : List Component}

theorem normalComponents_components_normalize (p : Path) :
    normalComponents p.normalize.components = normalComponents p.components := by
  have hnil : ∀ c ∈ ([] : List Component), c.IsStep := by simp
  have hnormal := isNormal_normalComponents p hnil
  rw [List.append_nil] at hnormal
  unfold normalize
  by_cases hnil : normalComponents p.components = []
  . rw [hnil]
    rfl
  . rw [components_ofComponents hnormal hnil]
    exact normalComponents_normalComponents p.components

theorem normalize_normalize (p : Path) : p.normalize.normalize = p.normalize :=
  congrArg ofComponents (normalComponents_components_normalize p)

theorem startsAtHome_iff :
    p.StartsAtHome ↔ ∃ rest, p.components = .name "~" :: rest :=
  List.head?_eq_some_iff

theorem expand_of_startsAtHome (h : p.components = .name "~" :: rest) :
    expand (some home) p = ofComponents (normalComponents (home.components ++ rest)) := by
  unfold expand
  rw [h]
  rfl

theorem expand_of_not_startsAtHome (h : ¬p.StartsAtHome) : expand (some home) p = p.normalize := by
  unfold expand
  split
  . next _ rest _ hcomponents => exact absurd (startsAtHome_iff.2 ⟨rest, hcomponents⟩) h
  . rfl

theorem head?_components_of_isAbsolute (h : p.isAbsolute) :
    ∃ rest, p.components = .root :: rest := by
  unfold components
  cases hsegments : p.segments with
  | nil => exact absurd hsegments (Text.pieces_ne_nil _ _)
  | cons first others =>
    dsimp only
    rw [if_pos h]
    exact ⟨_, rfl⟩

theorem isStep_of_startsAtHome (h : p.components = .name "~" :: rest) : ∀ c ∈ rest, c.IsStep := by
  have ⟨front, others, hp, hfront, hothers⟩ := components_eq_append p
  rw [h] at hp
  intro c hc
  rcases hfront with hfront | hfront | hfront
  . rw [hfront, List.nil_append] at hp
    apply hothers
    rw [← hp]
    exact List.mem_cons_of_mem _ hc
  . rw [hfront] at hp
    cases hp
  . rw [hfront] at hp
    cases hp

/--
Behind an absolute home directory there is an absolute path in normal form, so that nothing is left to
expand.
-/
theorem expand_startsAtHome (hhome : home.isAbsolute) (h : p.StartsAtHome) :
    ¬(expand (some home) p).StartsAtHome ∧
      (expand (some home) p).normalize = expand (some home) p := by
  have ⟨rest, hrest⟩ := startsAtHome_iff.1 h
  have ⟨others, hothers⟩ := head?_components_of_isAbsolute hhome
  have hnormal := isNormal_normalComponents home (isStep_of_startsAtHome hrest)
  have hhead : (normalComponents (home.components ++ rest)).head? = some .root := by
    rw [hothers]
    exact head?_normalComponents_root (others ++ rest)
  have hnil : normalComponents (home.components ++ rest) ≠ [] := by
    intro hnil
    rw [hnil] at hhead
    cases hhead
  have hcomponents := components_ofComponents hnormal hnil
  rw [expand_of_startsAtHome hrest]
  constructor
  . unfold StartsAtHome
    rw [hcomponents, hhead]
    simp
  . unfold normalize
    rw [hcomponents]
    rw [normalComponents_normalComponents]

theorem expand_expand_of_startsAtHome (hhome : home.isAbsolute) (h : p.StartsAtHome) :
    expand (some home) (expand (some home) p) = expand (some home) p := by
  have ⟨hnot, hnormal⟩ := expand_startsAtHome hhome h
  rw [expand_of_not_startsAtHome hnot]
  exact hnormal

/--
Expanding a path again changes it exactly if normalizing has brought a `~` to its front.
-/
theorem expand_expand_iff (hhome : home.isAbsolute) :
    expand (some home) (expand (some home) p) = expand (some home) p ↔ ¬p.HidesHome := by
  unfold HidesHome
  by_cases hstarts : p.StartsAtHome
  . simp only [hstarts, not_true_eq_false, false_and, not_false_eq_true, iff_true]
    exact expand_expand_of_startsAtHome hhome hstarts
  . rw [expand_of_not_startsAtHome hstarts]
    simp only [hstarts, not_false_eq_true, true_and]
    constructor
    . intro heq hhides
      have ⟨hnot, _⟩ := expand_startsAtHome hhome hhides
      rw [heq] at hnot
      exact hnot hhides
    . intro hnot
      rw [expand_of_not_startsAtHome hnot]
      exact normalize_normalize p

/--
Nothing is left to expand the third time.
-/
theorem expand_expand_expand (hhome : home.isAbsolute) (p : Path) :
    expand (some home) (expand (some home) (expand (some home) p)) =
      expand (some home) (expand (some home) p) := by
  by_cases hhides : p.HidesHome
  . rw [expand_of_not_startsAtHome hhides.1]
    exact expand_expand_of_startsAtHome hhome hhides.2
  . rw [(expand_expand_iff hhome).2 hhides]
    exact (expand_expand_iff hhome).2 hhides

end Paths

end ServerLauncher.Path
