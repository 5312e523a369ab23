import ServerLauncher.Json.Quoted
import ServerLauncher.Text.Number
import ServerLauncher.Text.Pieces

/-!
This module contains the numeric addresses that a URL may have in the place of a domain name.
-/

namespace ServerLauncher.Url

/--
A part of an address with four numbers.
-/
inductive NumberPart where
  | number (n : Nat)
  | tooLarge
  | none
deriving DecidableEq

/--
Read a part of an address with four numbers, which may be written in octal or hexadecimal.
-/
def NumberPart.ofChars (cs : List Char) : NumberPart :=
  let (base, digits) : Nat × List Char := match cs with
    | '0' :: 'x' :: rest => (16, rest)
    | '0' :: 'X' :: rest => (16, rest)
    | '0' :: d :: rest => (8, d :: rest)
    | cs => (10, cs)
  let values := digits.map Json.hexValue?
  if cs.isEmpty then .none
  else if values.all fun v => v.any (· < base) then
    let n := values.foldl (fun n v => min UInt32.size (base * n + v.getD 0)) 0
    if n < UInt32.size then .number n else .tooLarge
  else .none

/--
Whether a domain name has to be an address with four numbers, since its last part is a number.
-/
def endsInNumber (domain : List Char) : Bool :=
  let last : Option (List Char) := match (Text.pieces '.' domain).reverse with
    | [] :: last :: _ => some last
    | [] :: [] => none
    | last :: _ => some last
    | [] => none
  last.any fun last => (!last.isEmpty && last.all Char.isDigit) || NumberPart.ofChars last ≠ .none

/--
The value of an address with four numbers. The last number fills the places of those left out.
-/
def ipv4? (domain : List Char) : Option Nat := do
  let parts := Text.pieces '.' domain
  let parts := if parts.getLast? = some [] then parts.dropLast else parts
  guard (parts.length ≤ 4)
  let numbers ← parts.mapM fun part =>
    match NumberPart.ofChars part with
    | .number n => some n
    | _ => none
  let last ← numbers.getLast?
  let front := numbers.dropLast
  let places := 8 * (4 - front.length)
  guard (front.all (· ≤ 255) && last < 1 <<< places)
  return (front.foldl (fun n part => 256 * n + part) 0) <<< places + last

/--
Write an address with four numbers.
-/
def ipv4Text (address : Nat) : List Char :=
  Text.joinPieces '.' ([3, 2, 1, 0].map fun i => Nat.toDigits 10 ((address >>> (8 * i)) % 256))

/--
Read the two 16 bit groups that an address with four numbers stands for inside of one with eight
groups. No number may have a redundant zero.
-/
def embedded? (cs : List Char) : Option (List Nat) := do
  let parts := Text.pieces '.' cs
  guard (parts.length = 4)
  let numbers ← parts.mapM fun part => do
    guard (!part.isEmpty && part.length ≤ 3 && part.all Char.isDigit)
    guard (part.length = 1 || part.head? != some '0')
    Text.numberBelow? 256 part
  match numbers with
  | [a, b, c, d] => return [256 * a + b, 256 * c + d]
  | _ => none

/--
Read groups with colons between them. The last may be an address with four numbers.
-/
def groups? (cs : List Char) : Option (List Nat) :=
  if cs.isEmpty then some []
  else go (Text.pieces ':' cs)
where
  /--
  Read the groups one by one.
  -/
  go : List (List Char) → Option (List Nat)
    | [] => some []
    | [last] => if last.contains '.' then embedded? last else (fun n => [n]) <$> group? last
    | part :: rest => do
      let n ← group? part
      let rest ← go rest
      return n :: rest
  group? (part : List Char) : Option Nat := do
    guard (!part.isEmpty && part.length ≤ 4)
    Json.hexNumber? part

/--
What stands on both sides of the first double colon.
-/
def splitAtDouble (cs : List Char) : List Char × Option (List Char) :=
  match cs with
  | ':' :: ':' :: rest => ([], some rest)
  | c :: rest =>
    let (front, back) := splitAtDouble rest
    (c :: front, back)
  | [] => ([], none)

/--
The groups of an address with eight groups. A double colon stands for zeros.
-/
def ipv6? (cs : List Char) : Option (List Nat) := do
  match splitAtDouble cs with
  | (front, none) =>
    let groups ← groups? front
    guard (groups.length = 8)
    return groups
  | (front, some back) =>
    guard (!front.contains '.')
    let before ← groups? front
    let after ← groups? back
    guard (before.length + after.length ≤ 7)
    return before ++ List.replicate (8 - before.length - after.length) 0 ++ after

/--
The start and length of the first longest run of zeros.
-/
def longestZeros (groups : List Nat) : Nat × Nat :=
  let runs := (List.range groups.length).map fun i =>
    (i, ((groups.drop i).takeWhile (· = 0)).length)
  runs.foldl (fun best run => if best.2 < run.2 then run else best) (0, 0)

/--
Write an address with eight groups. The first longest run of zeros becomes a double colon, unless it
is a single zero.
-/
def ipv6Text (groups : List Nat) : List Char :=
  let hex (gs : List Nat) : List Char := Text.joinPieces ':' (gs.map (Nat.toDigits 16))
  let (start, length) := longestZeros groups
  if length < 2 then hex groups
  else hex (groups.take start) ++ ':' :: ':' :: hex (groups.drop (start + length))

end ServerLauncher.Url
