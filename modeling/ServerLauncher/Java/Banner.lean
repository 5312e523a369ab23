import ServerLauncher.Text.Number
import ServerLauncher.Text.Pieces

/-!
This module contains the reading of what `java -version` prints.
-/

namespace ServerLauncher.Java

/--
Major versions are below this bound.
-/
def versionBound : Nat := UInt32.size

def leadingNumber? (cs : List Char) : Option Nat :=
  let digits := cs.takeWhile Char.isDigit
  if digits.isEmpty then none else Text.numberBelow? versionBound digits

/--
The text behind the first double quote, up to the next one if there is another.
-/
def firstQuoted? (cs : List Char) : Option (List Char) :=
  (Text.cutAt '"' cs).2.map fun behind => (Text.cutAt '"' behind).1

/--
The major version in what Java prints: the number at the start of the quoted text. Versions before 9
start with `1.` and therefore count as version 1.
-/
def parseVersion? (output : String) : Option Nat :=
  (firstQuoted? output.toList).bind leadingNumber?

end ServerLauncher.Java
