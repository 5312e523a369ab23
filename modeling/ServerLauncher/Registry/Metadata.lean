import ServerLauncher.Text.Blank
import ServerLauncher.Text.Pieces

/-!
This module contains the search for the latest version in the metadata of an artifact.
-/

namespace ServerLauncher.Registry

/--
Whether a character may be part of the value of an element.
-/
def isValueChar (c : Char) : Bool :=
  c ≠ '<' && !Text.isBlank c

/--
The value of the element that starts a text. White space around the value does not belong to it, and
neither white space nor other elements may be inside.
-/
def elementAt? (tag : String) (cs : List Char) : Option (List Char) := do
  let behind ← Text.afterFront? ("<" ++ tag ++ ">").toList cs
  let inside := Text.dropBlank behind
  let value := inside.takeWhile isValueChar
  guard !value.isEmpty
  let _ ← Text.afterFront? ("</" ++ tag ++ ">").toList (Text.dropBlank (inside.drop value.length))
  return value

/--
The value of the first element with a tag that has a value.
-/
def firstElement? (tag : String) (cs : List Char) : Option (List Char) :=
  match cs with
  | [] => none
  | c :: rest => (elementAt? tag (c :: rest)).or (firstElement? tag rest)

/--
The latest version that the metadata names, or else the last release.
-/
def latestText? (metadata : String) : Option String :=
  ((firstElement? "latest" metadata.toList).or
    (firstElement? "release" metadata.toList)).map String.ofList

end ServerLauncher.Registry
