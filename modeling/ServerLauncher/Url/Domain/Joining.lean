import ServerLauncher.Text.Mark

/-!
This module contains the joining of characters in cursive scripts, and the places where a domain name
may have one of the two invisible characters that force it or prevent it.
-/

namespace ServerLauncher.Url.Domain

/--
The characters that join both neighbours (`D`), only the left one (`L`) or only the right one (`R`),
as they are seen, and those that are passed over though they are no marks without width (`T`).
-/
def joinings : Text.Table := Text.Table.parse "
620D 622-625R 626D 627R 628D 629R 62a-62eD 62f-632R 633-63fD 641-647D 648R 649-64aD 66e-66fD
671-673R 679-687D 688-699R 69a-6bfD 6c0R 6c1-6c2D 6c3-6cbR 6ccD 6cdR 6ceD 6cfR 6d0-6d1D 6d2-6d3R
6d5R 6ee-6efR 6fa-6fcD 6ffD 710R 712-714D 715-719R 71a-71dD 71eR 71f-727D 728R 729D 72aR 72bD 72cR
72d-72eD 72fR 74dR 74e-758D 759-75bR 75c-76aD 76b-76cR 76d-770D 771R 772D 773-774R 775-777D
778-779R 77a-77fD 7ca-7eaD 840R 841-845D 846-847R 848D 849R 84a-853D 854R 855D 856-858R 860D
862-865D 867R 868D 869-882R 886D 889-88dD 88eR 88fD 8a0-8a9D 8aa-8acR 8aeR 8af-8b0D 8b1-8b2R
8b3-8b8D 8b9R 8ba-8c8D 1807D 1820-1878D 1887-18a8D 18aaD a840-a871D a872L 10ac0-10ac4D 10ac5R
10ac7R 10ac9-10acaR 10acdL 10ace-10ad2R 10ad3-10ad6D 10ad7L 10ad8-10adcD 10addR 10ade-10ae0D
10ae1R 10ae4R 10aeb-10aeeD 10aefR 10b80D 10b81R 10b82D 10b83-10b85R 10b86-10b88D 10b89R
10b8a-10b8bD 10b8cR 10b8dD 10b8e-10b8fR 10b90D 10b91R 10ba9-10bacR 10bad-10baeD 10d00L
10d01-10d21D 10d22R 10d23D 10ec2R 10ec3-10ec4D 10ec6-10ec7D 10f30-10f32D 10f33R 10f34-10f44D
10f51-10f53D 10f54R 10f70-10f73D 10f74-10f75R 10f76-10f81D 10fb0D 10fb2-10fb3D 10fb4-10fb6R 10fb8D
10fb9-10fbaR 10fbb-10fbcD 10fbdR 10fbe-10fbfD 10fc1D 10fc2-10fc3R 10fc4D 10fc9R 10fcaD 10fcbL
1e922-1e943D 1e94bT
"

/--
The way in which a character joins others.
-/
def joining? (c : Char) : Option Char :=
  if c.toNat < 0x300 then none
  else match joinings.rowOf? c.toNat with
    | some row => some row.kind
    | none => if Text.isNarrowMark c then some 'T' else none

/--
Whether the nearest of some characters that is not passed over joins in one of two ways.
-/
def nearestJoins (ways : List Char) (cs : List Char) : Bool :=
  match cs with
  | [] => false
  | c :: rest =>
    match joining? c with
    | some 'T' => nearestJoins ways rest
    | some way => ways.contains way
    | none => false

/--
The invisible character that prevents joining.
-/
def nonJoiner : Char := '\u200c'

/--
The invisible character that forces joining.
-/
def joiner : Char := '\u200d'

/--
Whether an invisible character may stand between some characters, of which the last comes first, and
others: behind a mark that makes a consonant lose its vowel, and, if it prevents joining, between
characters that would be joined.
-/
def mayStand (c : Char) (before behind : List Char) : Bool :=
  before.head?.any (fun mark => Text.markClass mark = Text.vowelKillerClass) ||
    c = nonJoiner && nearestJoins ['L', 'D'] before && nearestJoins ['R', 'D'] behind

/--
Whether all invisible characters of a label may stand where they are.
-/
def joinersMayStand (label : List Char) : Bool :=
  go [] label
where
  /--
  Go on behind some characters, of which the last comes first.
  -/
  go (before : List Char) : List Char → Bool
    | [] => true
    | c :: rest =>
      (c ≠ nonJoiner && c ≠ joiner || mayStand c before rest) && go (c :: before) rest

end ServerLauncher.Url.Domain
