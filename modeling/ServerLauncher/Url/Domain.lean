import ServerLauncher.Text.Utf8
import ServerLauncher.Url.Domain.Direction
import ServerLauncher.Url.Domain.Label
import ServerLauncher.Url.Percent

/-!
This module contains domain names in their ASCII form: letters are small, and labels with other
characters are encoded.
-/

namespace ServerLauncher.Url

/--
The ASCII characters that a domain name may not have.
-/
def isForbiddenInDomain (c : Char) : Bool :=
  c.toNat ≤ 0x20 || c.toNat = 0x7f ||
    ['%', '#', '/', ':', '<', '>', '?', '@', '[', '\\', ']', '^', '|'].contains c

/--
The ASCII form of a domain name, in which percent encoding is undone.
-/
def asciiDomain? (cs : List Char) : Option (List Char) := do
  let text ← Utf8.decode? (decode cs).toByteArray
  let name ← Domain.normal? text.toList
  guard (name.all fun c => !isForbiddenInDomain c)
  let labels ← (Text.pieces '.' name).mapM Domain.Label.ofChars?
  guard (Domain.keepDirections (labels.map (·.shown)))
  return Text.joinPieces '.' (labels.map (·.written))

end ServerLauncher.Url
