import ServerLauncher.Text.Pieces

/-!
This module contains lemmas about cutting texts into pieces: nothing is lost, and cutting undoes
joining.
-/

namespace ServerLauncher.Text

variable {sep : Char} {cs front back : List Char}

theorem pieces_ne_nil (sep : Char) (cs : List Char) : pieces sep cs ≠ [] := by
  cases cs with
  | nil => simp [pieces]
  | cons c rest =>
    unfold pieces
    split
    . simp
    . split <;> simp

theorem pieces_of_not_mem (h : sep ∉ cs) : pieces sep cs = [cs] := by
  induction cs with
  | nil => rfl
  | cons c rest ih =>
    simp only [List.mem_cons, not_or] at h
    unfold pieces
    rw [if_neg (Ne.symm h.1)]
    rw [ih h.2]

theorem pieces_append (sep : Char) (front back : List Char) :
    pieces sep (front ++ sep :: back) = pieces sep front ++ pieces sep back := by
  induction front with
  | nil => simp [pieces]
  | cons c rest ih =>
    generalize pieces sep back = tail at *
    rw [List.cons_append]
    unfold pieces
    split
    . rw [ih]
      rfl
    . rw [ih]
      cases h : pieces sep rest with
      | nil => exact absurd h (pieces_ne_nil sep rest)
      | cons piece others => rfl

theorem exists_mem_pieces {c : Char} (hc : c ∈ cs) (hne : c ≠ sep) :
    ∃ piece ∈ pieces sep cs, c ∈ piece := by
  induction cs with
  | nil => cases hc
  | cons first rest ih =>
    unfold pieces
    split
    . next heq =>
      cases List.mem_cons.1 hc with
      | inl h => exact absurd (h.trans heq) hne
      | inr h =>
        have ⟨piece, hpiece, hmem⟩ := ih h
        exact ⟨piece, List.mem_cons_of_mem _ hpiece, hmem⟩
    . split
      . next hnil => exact absurd hnil (pieces_ne_nil sep rest)
      . next piece others hpieces =>
        cases List.mem_cons.1 hc with
        | inl h => exact ⟨first :: piece, List.mem_cons_self, by simp [h]⟩
        | inr h =>
          have ⟨found, hfound, hmem⟩ := ih h
          rw [hpieces] at hfound
          cases List.mem_cons.1 hfound with
          | inl h =>
            rw [h] at hmem
            exact ⟨first :: piece, List.mem_cons_self, List.mem_cons_of_mem _ hmem⟩
          | inr h => exact ⟨found, List.mem_cons_of_mem _ h, hmem⟩

theorem sep_not_mem_of_mem_pieces {piece : List Char} (h : piece ∈ pieces sep cs) : sep ∉ piece := by
  induction cs generalizing piece with
  | nil =>
    rw [List.mem_singleton.1 h]
    exact List.not_mem_nil
  | cons c rest ih =>
    unfold pieces at h
    split at h
    . cases List.mem_cons.1 h with
      | inl h =>
        rw [h]
        exact List.not_mem_nil
      | inr h => exact ih h
    . next hne =>
      split at h
      . next hnil => exact absurd hnil (pieces_ne_nil sep rest)
      . next first others hpieces =>
        rw [hpieces] at ih
        cases List.mem_cons.1 h with
        | inl h =>
          rw [h]
          rw [List.mem_cons, not_or]
          exact ⟨Ne.symm hne, ih List.mem_cons_self⟩
        | inr h => exact ih (List.mem_cons_of_mem _ h)

theorem joinPieces_cons {piece : List Char} {others : List (List Char)} (h : others ≠ []) :
    joinPieces sep (piece :: others) = piece ++ sep :: joinPieces sep others := by
  cases others with
  | nil => exact absurd rfl h
  | cons => rfl

/--
The first of the pieces is in front, and a separator is behind it.
-/
theorem exists_joinPieces_eq (sep : Char) (piece : List Char) (others : List (List Char)) :
    ∃ behind, joinPieces sep (piece :: others) = piece ++ behind ∧ ∀ c ∈ behind.head?, c = sep := by
  cases others with
  | nil => exact ⟨[], (List.append_nil piece).symm, by simp⟩
  | cons second others => exact ⟨_, rfl, by simp⟩

theorem mem_joinPieces_of_mem {c : Char} {id : List Char} {ids : List (List Char)} (hid : id ∈ ids)
    (hc : c ∈ id) : c ∈ joinPieces sep ids := by
  induction ids with
  | nil => cases hid
  | cons first others ih =>
    by_cases hnil : others = []
    . rw [hnil] at hid ⊢
      rw [List.mem_singleton.1 hid] at hc
      exact hc
    . rw [joinPieces_cons hnil]
      cases List.mem_cons.1 hid with
      | inl h =>
        rw [h] at hc
        exact List.mem_append_left _ hc
      | inr h => exact List.mem_append_right _ (List.mem_cons_of_mem _ (ih h))

theorem mem_joinPieces {c : Char} {ids : List (List Char)} (h : c ∈ joinPieces sep ids) :
    c = sep ∨ ∃ id ∈ ids, c ∈ id := by
  induction ids with
  | nil => cases h
  | cons first others ih =>
    by_cases hnil : others = []
    . rw [hnil] at h
      exact .inr ⟨first, List.mem_cons_self, h⟩
    . rw [joinPieces_cons hnil] at h
      rcases List.mem_append.1 h with h | h
      . exact .inr ⟨first, List.mem_cons_self, h⟩
      . rcases List.mem_cons.1 h with h | h
        . exact .inl h
        . rcases ih h with h | ⟨id, hid, hc⟩
          . exact .inl h
          . exact .inr ⟨id, List.mem_cons_of_mem _ hid, hc⟩

theorem joinPieces_pieces (sep : Char) (cs : List Char) : joinPieces sep (pieces sep cs) = cs := by
  induction cs with
  | nil => rfl
  | cons c rest ih =>
    unfold pieces
    split
    . next heq =>
      rw [joinPieces_cons (pieces_ne_nil sep rest)]
      rw [ih, heq]
      rfl
    . split
      . next hnil => exact absurd hnil (pieces_ne_nil sep rest)
      . next piece others hpieces =>
        rw [hpieces] at ih
        rw [← ih]
        cases others <;> rfl

theorem mem_of_mem_pieces {c : Char} {piece : List Char} (h : piece ∈ pieces sep cs) (hc : c ∈ piece) :
    c ∈ cs := by
  rw [← joinPieces_pieces sep cs]
  exact mem_joinPieces_of_mem h hc

theorem pieces_joinPieces {ids : List (List Char)} (hne : ids ≠ []) (h : ∀ id ∈ ids, sep ∉ id) :
    pieces sep (joinPieces sep ids) = ids := by
  induction ids with
  | nil => exact absurd rfl hne
  | cons id others ih =>
    have ⟨hid, hothers⟩ := List.forall_mem_cons.1 h
    by_cases hnil : others = []
    . rw [hnil]
      exact pieces_of_not_mem hid
    . rw [joinPieces_cons hnil]
      rw [pieces_append]
      rw [pieces_of_not_mem hid]
      rw [ih hnil hothers]
      rfl

theorem eq_append_of_cutAt_some (h : cutAt sep cs = (front, some back)) :
    cs = front ++ sep :: back ∧ sep ∉ front := by
  induction cs generalizing front with
  | nil => simp [cutAt] at h
  | cons c rest ih =>
    unfold cutAt at h
    split at h
    . next heq =>
      cases h
      simp [heq]
    . next hne =>
      generalize cutAt sep rest = cut at *
      rcases cut with ⟨first, second⟩
      simp only [Prod.mk.injEq] at h
      have hcut : (first, second) = (first, some back) := by rw [h.2]
      have hfirst := ih hcut
      rw [← h.1]
      rw [hfirst.1]
      simp [Ne.symm hne, hfirst.2]

theorem eq_of_cutAt_none (h : cutAt sep cs = (front, none)) : cs = front ∧ sep ∉ front := by
  induction cs generalizing front with
  | nil =>
    simp only [cutAt, Prod.mk.injEq, and_true] at h
    simp [← h]
  | cons c rest ih =>
    unfold cutAt at h
    split at h
    . cases h
    . next hne =>
      generalize cutAt sep rest = cut at *
      rcases cut with ⟨first, second⟩
      simp only [Prod.mk.injEq] at h
      have hcut : (first, second) = (first, none) := by rw [h.2]
      have hfirst := ih hcut
      rw [← h.1]
      rw [hfirst.1]
      simp [Ne.symm hne, hfirst.2]

section Reading

variable {α β : Type} {f : α → Option β} {xs : List α} {ys : List β}

/--
What has been read comes from one of the pieces.
-/
theorem exists_of_mem_mapM (h : xs.mapM f = some ys) {y : β} (hy : y ∈ ys) :
    ∃ x ∈ xs, f x = some y := by
  induction xs generalizing ys with
  | nil =>
    cases h
    cases hy
  | cons x rest ih =>
    rw [List.mapM_cons] at h
    simp only [Option.bind_eq_bind, Option.bind_eq_some_iff] at h
    have ⟨first, hfirst, others, hothers, heq⟩ := h
    cases heq
    cases List.mem_cons.1 hy with
    | inl hy => exact ⟨x, List.mem_cons_self, hy ▸ hfirst⟩
    | inr hy =>
      have ⟨x', hx', hy'⟩ := ih hothers hy
      exact ⟨x', List.mem_cons_of_mem _ hx', hy'⟩

theorem mapM_eq_some_map {g : α → β} (h : ∀ x ∈ xs, f x = some (g x)) :
    xs.mapM f = some (xs.map g) := by
  induction xs with
  | nil => rfl
  | cons x rest ih =>
    have ⟨hx, hrest⟩ := List.forall_mem_cons.1 h
    rw [List.mapM_cons]
    rw [hx, ih hrest]
    rfl

end Reading

end ServerLauncher.Text
