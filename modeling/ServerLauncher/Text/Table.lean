import ServerLauncher.Text.Pieces

/-!
This module contains tables of characters. A table is written as a text of rows between blanks. A row
consists of the first code point, the last one behind a hyphen if there are several, a character that
says what the row means, and numbers between dots; all numbers are hexadecimal with small digits.
-/

namespace ServerLauncher.Text

/--
What a table says about the code points from `first` to `last`.
-/
structure Table.Row where
  first : Nat
  last : Nat
  kind : Char
  values : List Nat
deriving DecidableEq, Repr

/--
A table of characters, in ascending order.
-/
abbrev Table := Array Table.Row

namespace Table

/--
The value of a hexadecimal digit.
-/
def digitValue? (c : Char) : Option Nat :=
  if c.isDigit then some (c.toNat - '0'.toNat)
  else if 'a' ≤ c ∧ c ≤ 'f' then some (c.toNat - 'a'.toNat + 10)
  else none

/--
Read a number, and tell what is behind it.
-/
def readNumber (cs : List Char) : Nat × List Char :=
  let isDigit (c : Char) : Bool := (digitValue? c).isSome
  let value := (cs.takeWhile isDigit).foldl (fun n c => 16 * n + (digitValue? c).getD 0) 0
  (value, cs.dropWhile isDigit)

def Row.ofChars? (cs : List Char) : Option Row :=
  let (first, rest) := readNumber cs
  let (last, rest) := match rest with
    | '-' :: rest => readNumber rest
    | rest => (first, rest)
  match rest with
  | [] => none
  | [kind] => some ⟨first, last, kind, []⟩
  | kind :: values => some ⟨first, last, kind, (pieces '.' values).map fun v => (readNumber v).1⟩

def parse (text : String) : Table :=
  let rows := pieces ' ' (text.toList.map fun c => if c = '\n' then ' ' else c)
  (rows.filterMap Row.ofChars?).toArray

/--
The row for a code point, which is looked for by halving.
-/
def rowOf? (table : Table) (n : Nat) : Option Row :=
  go 0 table.size
where
  /--
  Look between two places.
  -/
  go (low high : Nat) : Option Row :=
    if low < high then
      let middle := (low + high) / 2
      match table[middle]? with
      | none => none
      | some row =>
        if n < row.first then go low middle
        else if row.last < n then go (middle + 1) high
        else some row
    else none
  termination_by high - low

end Table

end ServerLauncher.Text
