import ServerLauncher.Text.Number
import ServerLauncher.Text.Pieces
import ServerLauncher.Version.Basic

/-!
This module contains the written form of versions: `Version.text` writes one, `Version.parse?` reads
exactly the texts that `Version.text` writes for a `Version.WellFormed` version.
-/

namespace ServerLauncher

namespace Version

/--
The numbers of a version are below this bound.
-/
def numberBound : Nat := UInt64.size

/--
The characters of which pre-release and build identifiers consist.
-/
def isIdentifierChar (c : Char) : Bool :=
  c.isDigit || ('a' ≤ c && c ≤ 'z') || ('A' ≤ c && c ≤ 'Z') || c = '-'

/--
Whether digits are written without a redundant zero in front.
-/
def isCanonical (cs : List Char) : Bool :=
  cs = ['0'] || cs.head? != some '0'

/--
An identifier of a build text: not empty, and made of identifier characters.
-/
def isBuildIdentifier (cs : List Char) : Bool :=
  !cs.isEmpty && cs.all isIdentifierChar

/--
An identifier of a pre-release text: as in a build text, and canonical if it is a number.
-/
def isPreReleaseIdentifier (cs : List Char) : Bool :=
  isBuildIdentifier cs && (!cs.all Char.isDigit || isCanonical cs)

/--
A pre-release text is a list of identifiers with dots between them.
-/
def isPreRelease (cs : List Char) : Bool :=
  (Text.pieces '.' cs).all isPreReleaseIdentifier

/--
A build text is a list of identifiers with dots between them.
-/
def isBuild (cs : List Char) : Bool :=
  (Text.pieces '.' cs).all isBuildIdentifier

/--
The versions that have a written form.
-/
structure WellFormed (v : Version) : Prop where
  major_lt : v.major < numberBound
  minor_lt : v.minor < numberBound
  patch_lt : v.patch < numberBound
  isPreRelease : ∀ text ∈ v.preRelease, isPreRelease text.toList = true
  isBuild : ∀ text ∈ v.build, isBuild text.toList = true

def digits (n : Nat) : List Char :=
  Nat.toDigits 10 n

/--
A text with a character in front of it, and nothing where there is no text.
-/
def optionalPart (lead : Char) (part : Option String) : List Char :=
  match part with
  | none => []
  | some text => lead :: text.toList

def chars (v : Version) : List Char :=
  digits v.major ++ '.' :: digits v.minor ++ '.' :: digits v.patch ++
    optionalPart '-' v.preRelease ++ optionalPart '+' v.build

/--
The written form of a version.
-/
def text (v : Version) : String :=
  String.ofList v.chars

instance : ToString Version := ⟨text⟩

/--
Read a canonical number below `numberBound`.
-/
def parseNumber? (cs : List Char) : Option Nat :=
  if !cs.isEmpty && cs.all Char.isDigit && isCanonical cs then
    Text.numberBelow? numberBound cs
  else
    none

/--
Read an optional part of a version whose text has to pass a test.
-/
def parsePart? (test : List Char → Bool) (part : Option (List Char)) : Option (Option String) :=
  match part with
  | none => some none
  | some cs => if test cs then some (some (String.ofList cs)) else none

/--
Read a version from its characters. The first `+` starts the build text and the first `-` in front of
it starts the pre-release text, since neither of them occurs further left.
-/
def parseChars? (cs : List Char) : Option Version :=
  let (front, build) := Text.cutAt '+' cs
  let (core, preRelease) := Text.cutAt '-' front
  match Text.pieces '.' core with
  | [major, minor, patch] => do
    let major ← parseNumber? major
    let minor ← parseNumber? minor
    let patch ← parseNumber? patch
    let preRelease ← parsePart? isPreRelease preRelease
    let build ← parsePart? isBuild build
    return ⟨major, minor, patch, preRelease, build⟩
  | _ => none

def parse? (s : String) : Option Version :=
  parseChars? s.toList

/--
A text that was expected to be a version and is none.
-/
structure Invalid where
  text : String
deriving DecidableEq, Repr

def Invalid.message (e : Invalid) : String :=
  "Invalid semantic version: " ++ e.text

/--
Read a version, and keep the text where it is none.
-/
def parse (s : String) : Except Invalid Version :=
  match parse? s with
  | some v => .ok v
  | none => .error ⟨s⟩

end Version

end ServerLauncher
