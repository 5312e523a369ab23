/-!
This module contains the class of white space characters that the text rules of the launcher refer
to, together with the operations that cut text at them.
-/

namespace ServerLauncher.Text

/--
The ranges of code points with the Unicode property `White_Space`, in ascending order.
-/
def blankRanges : List (Nat × Nat) :=
  [(0x09, 0x0d), (0x20, 0x20), (0x85, 0x85), (0xa0, 0xa0), (0x1680, 0x1680), (0x2000, 0x200a),
    (0x2028, 0x2029), (0x202f, 0x202f), (0x205f, 0x205f), (0x3000, 0x3000)]

def isBlank (c : Char) : Bool :=
  blankRanges.any fun (low, high) => low ≤ c.toNat && c.toNat ≤ high

/--
Drop the white space in front of a text.
-/
def dropBlank (cs : List Char) : List Char :=
  cs.dropWhile isBlank

/--
Drop the white space on both sides of a text.
-/
def trimBlank (cs : List Char) : List Char :=
  (dropBlank (dropBlank cs).reverse).reverse

/--
The first word of a text: the characters between its leading white space and the next one. A blank
text has the empty word.
-/
def firstWord (cs : List Char) : List Char :=
  (dropBlank cs).takeWhile fun c => !isBlank c

end ServerLauncher.Text
