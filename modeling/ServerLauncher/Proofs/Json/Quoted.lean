import ServerLauncher.Json.Quoted

/-!
This module contains the reading of string literals as the inverse of their writing: every text is read
again from the document that it has been written as, whatever characters are in it.
-/

namespace ServerLauncher.Json

/--
The characters that are written as a backslash and one more character, and that character.
-/
def shortForms : List (Char × Char) :=
  [('"', '"'), ('\\', '\\'), ('\x08', 'b'), ('\x0c', 'f'), ('\n', 'n'), ('\r', 'r'), ('\t', 't')]

theorem readInside_short {c short : Char} (h : shortForms.lookup c = some short)
    (rest : List Char) :
    readInside ('\\' :: short :: rest) = (readInside rest).map (c :: ·) := by
  unfold shortForms at h
  simp only [List.lookup_cons] at h
  -- One case for each character with a short form.
  repeat' split at h
  all_goals cases h
  all_goals
    next heq =>
    rw [beq_iff_eq] at heq
    rw [heq]
    rfl

theorem hexNumber?_code : ∀ n < 0x20,
    hexNumber? ['0', '0', Nat.digitChar (n / 16), Nat.digitChar (n % 16)] = some n := by
  decide

theorem readInside_code {c : Char} (h : c.toNat < 0x20) (rest : List Char) :
    readInside ('\\' :: 'u' :: '0' :: '0' :: Nat.digitChar (c.toNat / 16) ::
      Nat.digitChar (c.toNat % 16) :: rest) = (readInside rest).map (c :: ·) := by
  have hhigh : isHighSurrogate c.toNat = false := by
    simp [isHighSurrogate]
    omega
  have hlow : isLowSurrogate c.toNat = false := by
    simp [isLowSurrogate]
    omega
  rw [readInside]
  rw [hexNumber?_code c.toNat h]
  simp only [Option.bind_eq_bind, Option.bind_some]
  rw [hhigh, hlow]
  rw [Char.ofNat_toNat]
  rfl

theorem readInside_plain {c : Char} (hquote : c ≠ '"') (hbackslash : c ≠ '\\')
    (h : ¬c.toNat < 0x20) (rest : List Char) :
    readInside (c :: rest) = (readInside rest).map (c :: ·) := by
  rw [readInside.eq_def]
  split
  . next heq => cases heq
  . next heq => exact absurd (List.cons.inj heq).1 hquote
  . next heq => exact absurd (List.cons.inj heq).1 hbackslash
  . next heq => exact absurd (List.cons.inj heq).1 hbackslash
  . next heq =>
    cases heq
    rw [if_neg h]
    rfl

theorem readInside_quoteChar (c : Char) (rest : List Char) :
    readInside (quoteChar c ++ rest) = (readInside rest).map (c :: ·) := by
  unfold quoteChar
  split
  . next short hshort => exact readInside_short hshort rest
  . next hnone =>
    split
    . next hcode => exact readInside_code hcode rest
    . next hcode =>
      have hne : ∀ d, shortForms.lookup d ≠ none → c ≠ d := by
        intro d hd heq
        rw [heq] at hnone
        exact hd hnone
      exact readInside_plain (hne '"' (by decide)) (hne '\\' (by decide)) hcode rest

theorem readInside_flatMap_quoteChar (cs : List Char) :
    readInside (cs.flatMap quoteChar ++ ['"']) = some cs := by
  induction cs with
  | nil => rfl
  | cons c cs ih =>
    rw [List.flatMap_cons]
    rw [List.append_assoc]
    rw [readInside_quoteChar]
    rw [ih]
    rfl

/--
What has been written is read again.
-/
theorem unquote?_quote (s : String) : unquote? (quote s) = some s := by
  unfold unquote? quote
  rw [String.toList_ofList]
  rw [List.dropWhile_cons_of_neg (by decide)]
  change (readInside (s.toList.flatMap quoteChar ++ ['"'])).map String.ofList = some s
  rw [readInside_flatMap_quoteChar]
  rw [Option.map_some]
  rw [String.ofList_toList]

end ServerLauncher.Json
