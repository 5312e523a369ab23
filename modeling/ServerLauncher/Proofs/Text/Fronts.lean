import Mathlib.Data.List.Basic
import ServerLauncher.Text.Pieces

/-!
This module contains lemmas about the texts that longer ones start or end with, and about what follows
the last occurrence of a separator.
-/

namespace ServerLauncher.Text

variable {front back sep cs rest : List Char}

theorem afterFront?_eq_some_iff : afterFront? front cs = some rest ↔ cs = front ++ rest := by
  constructor
  . exact eq_append_of_afterFront?
  . intro h
    rw [h]
    exact afterFront?_append front rest

theorem afterFront?_eq_none_iff : afterFront? front cs = none ↔ ∀ rest, cs ≠ front ++ rest := by
  rw [Option.eq_none_iff_forall_ne_some]
  simp only [ne_eq, afterFront?_eq_some_iff]

theorem beforeBack?_eq_some_iff : beforeBack? back cs = some rest ↔ cs = rest ++ back := by
  unfold beforeBack?
  rw [Option.map_eq_some_iff]
  simp only [afterFront?_eq_some_iff]
  constructor
  . intro h
    have ⟨reversed, hcs, hrest⟩ := h
    rw [← hrest]
    simpa using congrArg List.reverse hcs
  . intro h
    refine ⟨rest.reverse, ?_, List.reverse_reverse rest⟩
    rw [h]
    exact List.reverse_append

theorem beforeBack?_append (front back : List Char) :
    beforeBack? back (front ++ back) = some front :=
  beforeBack?_eq_some_iff.2 rfl

theorem beforeBack?_eq_none_iff : beforeBack? back cs = none ↔ ∀ front, cs ≠ front ++ back := by
  rw [Option.eq_none_iff_forall_ne_some]
  simp only [ne_eq, beforeBack?_eq_some_iff]

section Runs

variable {p : Char → Bool} (hfront : ∀ c ∈ front, p c) (hback : ∀ c ∈ back.head?, p c = false)

include hfront hback

theorem takeWhile_append_of_stop : (front ++ back).takeWhile p = front := by
  rw [List.takeWhile_append_of_pos hfront]
  cases back with
  | nil => simp
  | cons c back => simp [hback c rfl]

theorem dropWhile_append_of_stop : (front ++ back).dropWhile p = back := by
  rw [List.dropWhile_append_of_pos hfront]
  cases back with
  | nil => rfl
  | cons c back => simp [hback c rfl]

end Runs

section LastPieces

variable {last : Char}

/--
What the search finds is behind an occurrence of the separator.
-/
theorem eq_append_of_lastPiece_go (h : lastPiece.go sep cs = some rest) :
    ∃ front, cs = front ++ (sep ++ rest) := by
  have hnil : ∀ {cs : List Char}, afterFront? sep cs = some rest → cs = [] ++ (sep ++ rest) :=
    afterFront?_eq_some_iff.1
  induction cs with
  | nil => exact ⟨[], hnil h⟩
  | cons c others ih =>
    unfold lastPiece.go at h
    cases hothers : lastPiece.go sep others with
    | some found =>
      rw [hothers] at h ih
      have ⟨front, heq⟩ := ih h
      exact ⟨c :: front, congrArg (c :: ·) heq⟩
    | none =>
      rw [hothers, Option.none_or] at h
      exact ⟨[], hnil h⟩

theorem lastPiece_go_eq_none (h : ∀ front rest, cs ≠ front ++ (sep ++ rest)) :
    lastPiece.go sep cs = none := by
  cases hgo : lastPiece.go sep cs with
  | none => rfl
  | some rest =>
    have ⟨front, heq⟩ := eq_append_of_lastPiece_go hgo
    exact absurd heq (h front rest)

/--
Behind the first character of an occurrence there is no other one, unless the last character of the
separator comes again.
-/
theorem lastPiece_go_tail {c : Char} (hlast : (c :: sep).getLast? = some last) (hrest : last ∉ rest) :
    lastPiece.go (c :: sep) (sep ++ rest) = none := by
  apply lastPiece_go_eq_none
  intro front others heq
  rw [← List.append_assoc] at heq
  cases List.append_eq_append_iff.1 heq with
  | inl h =>
    -- The later occurrence ends within what follows the first one.
    have ⟨middle, hmiddle, hbehind⟩ := h
    have hne : middle ≠ [] := by
      intro hnil
      have hlength := congrArg List.length hmiddle
      simp [hnil] at hlength
      omega
    have hmem : middle.getLast? = some last := by
      rw [← List.getLast?_append_of_ne_nil sep hne]
      rw [← hmiddle]
      rw [List.getLast?_append_of_ne_nil front (List.cons_ne_nil c sep)]
      exact hlast
    apply hrest
    rw [hbehind]
    exact List.mem_append_left others (List.mem_of_getLast? hmem)
  | inr h =>
    have ⟨middle, hmiddle, _⟩ := h
    have hlength := congrArg List.length hmiddle
    simp at hlength
    omega

theorem lastPiece_go_append (hlast : sep.getLast? = some last) (hrest : last ∉ rest)
    (front : List Char) : lastPiece.go sep (front ++ (sep ++ rest)) = some rest := by
  induction front with
  | nil =>
    cases sep with
    | nil => cases hlast
    | cons c sep =>
      rw [List.nil_append, List.cons_append]
      unfold lastPiece.go
      rw [lastPiece_go_tail hlast hrest]
      rw [← List.cons_append]
      rw [afterFront?_append]
      rfl
  | cons c front ih =>
    rw [List.cons_append]
    unfold lastPiece.go
    rw [ih]
    rfl

/--
A text without the last character of the separator is the last piece exactly of the texts that consist
of it alone, or of anything, the separator and it.
-/
theorem lastPiece_eq_iff (hlast : sep.getLast? = some last) (hrest : last ∉ rest) :
    lastPiece sep cs = rest ↔ ∃ front, cs = front ++ rest ∧ (front = [] ∨ sep <:+ front) := by
  unfold lastPiece
  constructor
  . intro h
    cases hgo : lastPiece.go sep cs with
    | none =>
      rw [hgo] at h
      exact ⟨[], h, .inl rfl⟩
    | some found =>
      rw [hgo] at h
      have ⟨front, heq⟩ := eq_append_of_lastPiece_go hgo
      have hfound : found = rest := h
      refine ⟨front ++ sep, ?_, .inr (List.suffix_append front sep)⟩
      rw [List.append_assoc]
      rw [← hfound]
      exact heq
  . intro h
    have ⟨front, hcs, hfront⟩ := h
    rw [hcs]
    rcases hfront with hnil | ⟨banner, hbanner⟩
    . rw [hnil, List.nil_append]
      rw [lastPiece_go_eq_none]
      . rfl
      . intro before behind heq
        apply hrest
        rw [heq]
        simp [List.mem_of_getLast? hlast]
    . rw [← hbanner]
      rw [List.append_assoc]
      rw [lastPiece_go_append hlast hrest]
      rfl

end LastPieces

end ServerLauncher.Text
