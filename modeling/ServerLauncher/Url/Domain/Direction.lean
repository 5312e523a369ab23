import ServerLauncher.Text.Mark

/-!
This module contains the directions in which characters are written, and the rule that keeps the
labels of a domain name apart where some characters are written from right to left.
-/

namespace ServerLauncher.Url.Domain

/--
How a character behaves in a text with several directions.
-/
inductive Direction where
  | leftToRight
  | rightToLeft
  | arabicLetter
  | arabicNumber
  | europeanNumber
  | numberSign
  | numberSeparator
  | numberTerminator
  | neutral
  | invisible
  | mark
deriving DecidableEq, Repr

/--
The characters outside of ASCII that may occur in a domain name and are neither written from left to
right nor, as it is usual for marks without width, along with the character in front of them.
-/
def directions : Text.Table := Text.Table.parse "
a1O a2-a5T a6-aeO b0-b1T b6-d7O f7O 2b9-2baO 2c2-2cfO 2d2-2edO 2ef-2ffO 375O 3f6O 58a-58eO 58fT
5beR 5c0R 5c3R 5c6R 5d0-5f4R 606-607O 608A 609-60aT 60bA 60cC 60dA 60e-60fO 61b-64aA 660-669N 66aT
66b-66cN 66d-66fA 671-6d5A 6deO 6e5-6e6A 6e9O 6ee-6efA 6f0-6f9E 6fa-710A 712-72fA 74d-7a5A 7b1A
7c0-7eaR 7f4-7f5R 7f6-7f9O 7faR 7fe-815R 81aR 824R 828R 830-858R 85eR 860-88fA 8a0-8c9A 9f2-9f3T
9fbT af1T bf3-bf8O bf9T bfaO c78-c7eO cbfL cc6L e3fT f3a-f3dO 1390-1399O 1400O 169b-169cO 17dbT
17f0-180aO 1940-1945O 19de-19ffO 200c-200dB 2010-2027O 2030-2032T 2035-2043O 2044C 2045-205eO
20a0-20c1T 2104-2129O 212eT 213a-214dO 218a-2211O 2212S 2213T 2214-2335O 237b-2394O 2396-26abO
26ad-27ffO 2900-2bffO 2ce5-2ceaO 2cf9-2cffO 2e00-3004O 3008-3020O 3030O 3037O 303d-303fO 30a0O
30fbO 31c0-31e5O 4dc0-4dffO a490-a4c6O a60d-a60fO a673O a67e-a67fO a700-a721O a788O a828-a82bO
a838-a839T a874-a877O ab6a-ab6bO fbb2-fbc2A fbc3-fdffO fe45-fe46O fe73A 10101O 10140-1018cO
10190-101a0O 102e1-102fbE 10800-1091bR 1091fO 10920-10a00R 10a10-10a35R 10a40-10ae4R 10aeb-10b35R
10b39-10b3fO 10b40-10cffR 10d00-10d23A 10d30-10d49N 10d4a-10d4fR 10d6eO 10d6f-10d8fR 10e60-10e7eN
10e80-10ea9R 10ead-10eb1R 10ec2-10ec7A 10ed0-10ed8O 10f00-10f27R 10f30-10f45A 10f51-10f59A
10f70-10f81R 10f86-10ff6R 11052-11065O 11660-1166cO 1171eM 11a07-11a08L 11c3fL 11fd5-11fdcO
11fdd-11fe0T 11fe1-11ff1O 16fe2O 1cc00-1cef0O 1d1e9-1d241O 1d245O 1d300-1d356O 1e2ffT 1e800-1e8cfR
1e922-1e943R 1e94b-1e95fR 1ec71-1ed3dA 1eef0-1f12fO 1f16d-1f16fO 1f1adO 1f260-1fbfaO
"

/--
The directions of ASCII characters. All others are neutral.
-/
def Direction.ofAscii (c : Char) : Direction :=
  if c.isAlpha then .leftToRight
  else if c.isDigit then .europeanNumber
  else if c = '+' ∨ c = '-' then .numberSign
  else if c = ',' ∨ c = '.' ∨ c = '/' ∨ c = ':' then .numberSeparator
  else if c = '#' ∨ c = '$' ∨ c = '%' then .numberTerminator
  else .neutral

/--
The direction of a character.
-/
def Direction.ofChar (c : Char) : Direction :=
  if c.toNat < 0x80 then .ofAscii c
  else match (directions.rowOf? c.toNat).map (·.kind) with
    | some 'R' => .rightToLeft
    | some 'A' => .arabicLetter
    | some 'N' => .arabicNumber
    | some 'E' => .europeanNumber
    | some 'S' => .numberSign
    | some 'C' => .numberSeparator
    | some 'T' => .numberTerminator
    | some 'O' => .neutral
    | some 'B' => .invisible
    | some 'M' => .mark
    | some _ => .leftToRight
    | none => if Text.isNarrowMark c then .mark else .leftToRight

/--
The directions of characters that are written from right to left. Such a character makes the rule
apply to all labels.
-/
def Direction.fromRight : List Direction :=
  [.rightToLeft, .arabicLetter, .arabicNumber]

/--
The directions of characters that labels of both directions may have.
-/
def Direction.common : List Direction :=
  [.europeanNumber, .numberSign, .numberSeparator, .numberTerminator, .neutral, .invisible, .mark]

/--
Whether a label keeps to its direction, which its first character sets. Marks at the end do not
count.
-/
def keepsDirection (label : List Char) : Bool :=
  let ds := label.map Direction.ofChar
  let last := (ds.reverse.dropWhile (· = .mark)).head?
  match ds.head? with
  | none => true
  | some .leftToRight =>
    ds.all (fun d => d = .leftToRight || Direction.common.contains d) &&
      last.any fun d => d = .leftToRight || d = .europeanNumber
  | some first =>
    (first = .rightToLeft || first = .arabicLetter) &&
      ds.all (fun d => Direction.fromRight.contains d || Direction.common.contains d) &&
      last.any (fun d => Direction.fromRight.contains d || d = .europeanNumber) &&
      !(ds.contains .europeanNumber && ds.contains .arabicNumber)

/--
Whether the labels of a domain name keep to their directions, where that matters.
-/
def keepDirections (labels : List (List Char)) : Bool :=
  if labels.any fun label => label.any fun c => Direction.fromRight.contains (.ofChar c) then
    labels.all keepsDirection
  else true

end ServerLauncher.Url.Domain
