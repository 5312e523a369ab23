/-!
This module contains the encoding of domain labels with characters outside of ASCII by labels within
it. Behind the ASCII characters of the label come the others in ascending order, each as the distance
from the one before in a number system of base 36 whose digits end a number by being small.
-/

namespace ServerLauncher.Url.Punycode

def digitChar (d : Nat) : Char :=
  if d < 26 then Char.ofNat ('a'.toNat + d) else Char.ofNat ('0'.toNat + (d - 26))

/--
The digit of a character in lower case.
-/
def digitValue? (c : Char) : Option Nat :=
  if 'a' ≤ c ∧ c ≤ 'z' then some (c.toNat - 'a'.toNat)
  else if c.isDigit then some (c.toNat - '0'.toNat + 26)
  else none

/--
The digits below this one end a number at its place `k`.
-/
def threshold (k bias : Nat) : Nat :=
  max 1 (min 26 (k - bias))

/--
Divide a distance until it is small, and count the places that this takes.
-/
def shrink (delta places : Nat) : Nat × Nat :=
  if 455 < delta then shrink (delta / 35) (places + 36) else (delta, places)
termination_by delta
decreasing_by omega

/--
The bias for the next number, given the distance just written and the number of characters so far.
-/
def adapt (delta count : Nat) (first : Bool) : Nat :=
  let delta := if first then delta / 700 else delta / 2
  let (delta, places) := shrink (delta + delta / count) 0
  places + 36 * delta / (delta + 38)

/--
Write a number.
-/
def encodeNumber (fuel k bias n : Nat) : List Char :=
  let t := threshold k bias
  match fuel with
  | 0 => []
  | fuel + 1 =>
    if n < t then [digitChar n]
    else digitChar (t + (n - t) % (36 - t)) :: encodeNumber fuel (k + 36) bias ((n - t) / (36 - t))

/--
What has been written, the distance that is still to be written, the bias and the number of
characters so far.
-/
structure Progress where
  text : List Char
  delta : Nat
  bias : Nat
  count : Nat

/--
Pass over a character of the label while those with code point `n` are written.
-/
def Progress.pass (basic n : Nat) (p : Progress) (c : Char) : Progress :=
  if c.toNat < n then { p with delta := p.delta + 1 }
  else if c.toNat = n then
    { text := p.text ++ encodeNumber (p.delta + 1) 36 p.bias p.delta
      delta := 0
      bias := adapt p.delta (p.count + 1) (p.count = basic)
      count := p.count + 1 }
  else p

def encode (label : List Char) : List Char :=
  let basic := label.filter fun c => c.toNat < 0x80
  let others := ((label.map Char.toNat).filter (0x80 ≤ ·)).mergeSort.eraseDups
  let front := if basic.isEmpty then [] else basic ++ ['-']
  (go basic.length others 0x80 ⟨front, 0, 72, basic.length⟩).text
where
  /--
  Write the characters with the given code points, of which the smallest could be `n`.
  -/
  go (basic : Nat) (others : List Nat) (n : Nat) (p : Progress) : Progress :=
    match others with
    | [] => p
    | m :: others =>
      let p := { p with delta := p.delta + (m - n) * (p.count + 1) }
      let p := label.foldl (Progress.pass basic m) p
      go basic others (m + 1) { p with delta := p.delta + 1 }

/--
Read a number, add it to `n`, and tell what is behind it. All values stay below 2 to the power of 32.
-/
def addNumber? (k bias weight n : Nat) (cs : List Char) : Option (Nat × List Char) :=
  match cs with
  | [] => none
  | c :: rest => do
    let d ← digitValue? c
    let t := threshold k bias
    let n := n + d * weight
    guard (n < UInt32.size)
    if d < t then return (n, rest)
    else
      let weight := weight * (36 - t)
      guard (weight < UInt32.size)
      addNumber? (k + 36) bias weight n rest

/--
Decode a label. The last hyphen ends the ASCII characters, of which there is at least one if it is
there.
-/
def decode? (cs : List Char) : Option (List Char) :=
  let basic := (cs.reverse.dropWhile (· ≠ '-')).tail.reverse
  let rest := if basic.isEmpty then cs else cs.drop (basic.length + 1)
  go rest.length 0x80 0 72 basic rest
where
  /--
  Insert at most `fuel` characters.
  -/
  go (fuel n i bias : Nat) (label cs : List Char) : Option (List Char) :=
    match fuel, cs with
    | _, [] => some label
    | 0, _ => none
    | fuel + 1, cs => do
      let (next, rest) ← addNumber? 36 bias 1 i cs
      let count := label.length + 1
      let bias := adapt (next - i) count (i = 0)
      let n := n + next / count
      guard n.isValidChar
      let place := next % count
      go fuel n (place + 1) bias (label.take place ++ Char.ofNat n :: label.drop place) rest

end ServerLauncher.Url.Punycode
