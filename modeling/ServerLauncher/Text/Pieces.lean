/-!
This module contains the cutting of text, as a list of characters, at a character or at a longer
separator.
-/

namespace ServerLauncher.Text

/--
Cut a text at the first occurrence of a character: what stands in front of it, and what stands
behind it if it occurs at all.
-/
def cutAt (sep : Char) (cs : List Char) : List Char × Option (List Char) :=
  match cs with
  | [] => ([], none)
  | c :: rest =>
    if c = sep then
      ([], some rest)
    else
      let (front, back) := cutAt sep rest
      (c :: front, back)

/--
The pieces between the occurrences of a character, in order. There is one more of them than there
are occurrences.
-/
def pieces (sep : Char) (cs : List Char) : List (List Char) :=
  match cs with
  | [] => [[]]
  | c :: rest =>
    if c = sep then
      [] :: pieces sep rest
    else
      match pieces sep rest with
      | [] => [[c]]
      | piece :: others => (c :: piece) :: others

/--
What follows a text that a longer one starts with.
-/
def afterFront? (front cs : List Char) : Option (List Char) :=
  match front, cs with
  | [], cs => some cs
  | _ :: _, [] => none
  | f :: front, c :: cs => if f = c then afterFront? front cs else none

/--
What precedes a text that a longer one ends with.
-/
def beforeBack? (back cs : List Char) : Option (List Char) :=
  (afterFront? back.reverse cs.reverse).map List.reverse

/--
Whether `part` occurs in a text.
-/
def occursIn (part cs : List Char) : Bool :=
  match cs with
  | [] => part.isEmpty
  | c :: rest => (afterFront? part (c :: rest)).isSome || occursIn part rest

/--
What follows the last occurrence of a separator in a text, and the whole text if the separator does
not occur. Occurrences may overlap.
-/
def lastPiece (sep cs : List Char) : List Char :=
  (go cs).getD cs
where
  /--
  What follows the last occurrence that starts in `cs`.
  -/
  go (cs : List Char) : Option (List Char) :=
    match cs with
    | [] => afterFront? sep []
    | c :: rest => (go rest).or (afterFront? sep (c :: rest))

/--
Join pieces with a character between them.
-/
def joinPieces (sep : Char) : List (List Char) → List Char
  | [] => []
  | [piece] => piece
  | piece :: others => piece ++ sep :: joinPieces sep others

@[simp]
theorem cutAt_fst_append {sep : Char} {front back : List Char} (h : sep ∉ front) :
    cutAt sep (front ++ sep :: back) = (front, some back) := by
  induction front with
  | nil => simp [cutAt]
  | cons c front ih =>
    simp only [List.mem_cons, not_or] at h
    simp [cutAt, Ne.symm h.1, ih h.2]

theorem cutAt_of_not_mem {sep : Char} {cs : List Char} (h : sep ∉ cs) :
    cutAt sep cs = (cs, none) := by
  induction cs with
  | nil => rfl
  | cons c cs ih =>
    simp only [List.mem_cons, not_or] at h
    simp [cutAt, Ne.symm h.1, ih h.2]

@[simp]
theorem afterFront?_append (front cs : List Char) : afterFront? front (front ++ cs) = some cs := by
  induction front with
  | nil => rfl
  | cons c front ih => simp [afterFront?, ih]

theorem eq_append_of_afterFront? {front cs rest : List Char}
    (h : afterFront? front cs = some rest) : cs = front ++ rest := by
  fun_induction afterFront? front cs with
  | case1 => simpa using h
  | case2 => simp at h
  | case3 front c cs ih => simp [ih h]
  | case4 => simp at h

end ServerLauncher.Text
