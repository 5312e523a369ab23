import ServerLauncher.Url.Domain.Composition
import ServerLauncher.Url.Domain.Joining
import ServerLauncher.Url.Domain.Mapping
import ServerLauncher.Url.Punycode

/-!
This module contains the labels of domain names: the form in which they are shown, and the form
within ASCII in which they are written.
-/

namespace ServerLauncher.Url.Domain

/--
What a domain name means by some characters, with everything composed.
-/
def normal? (cs : List Char) : Option (List Char) :=
  (cs.mapM meaning?).map fun meanings => compose meanings.flatten

def isAscii (c : Char) : Bool :=
  c.toNat < 0x80

/--
The characters in front of an encoded label.
-/
def encodedFront : List Char := ['x', 'n', '-', '-']

/--
The number of characters that a label may have if it is to be encoded.
-/
def shownLimit : Nat := 1000

/--
The number of characters that an encoded label may have.
-/
def writtenLimit : Nat := 2000

/--
A label as it is shown and as it is written.
-/
structure Label where
  shown : List Char
  written : List Char
deriving DecidableEq, Repr

/--
Whether a label that is not within ASCII may be shown: it does not start with a mark, and its
invisible characters are where they may be.
-/
def mayBeShown (label : List Char) : Bool :=
  !label.head?.any Text.isMark && joinersMayStand label

/--
The label for an encoded one, given what is behind the characters in front. It is already in the form
that a domain name means by it.
-/
def decodeLabel? (encoded : List Char) : Option (List Char) := do
  guard (encoded.all isAscii && !encoded.isEmpty && encoded.getLast? ≠ some '-')
  guard (encodedFront.length + encoded.length ≤ writtenLimit)
  let label ← Punycode.decode? encoded
  guard (normal? label = some label)
  return label

/--
The label with the given characters, which a domain name means by themselves.
-/
def Label.ofChars? (cs : List Char) : Option Label :=
  match Text.afterFront? encodedFront cs with
  | some encoded => do
    let label ← decodeLabel? encoded
    guard (mayBeShown label)
    return ⟨label, cs⟩
  | none =>
    if cs.all isAscii then some ⟨cs, cs⟩
    else if cs.length ≤ shownLimit && mayBeShown cs then
      some ⟨cs, encodedFront ++ Punycode.encode cs⟩
    else none

end ServerLauncher.Url.Domain
