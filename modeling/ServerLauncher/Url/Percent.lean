import ServerLauncher.Json.Quoted
import ServerLauncher.Text.Utf8

/-!
This module contains the percent encoding of URLs and the sets of characters that the parts of a URL
encode.
-/

namespace ServerLauncher.Url

/--
The characters that every part encodes: control characters, and everything outside of ASCII.
-/
def isControl (c : Char) : Bool :=
  c.toNat < 0x20 || 0x7f ≤ c.toNat

def inFragmentSet (c : Char) : Bool :=
  isControl c || [' ', '"', '<', '>', '\x60'].contains c

def inPathSet (c : Char) : Bool :=
  inFragmentSet c || ['#', '?', '\x7b', '\x7d'].contains c

def inUserSet (c : Char) : Bool :=
  inPathSet c || ['/', ':', ';', '=', '@', '[', '\\', ']', '^', '|'].contains c

def inQuerySet (c : Char) : Bool :=
  isControl c || [' ', '"', '#', '<', '>'].contains c

def inSpecialQuerySet (c : Char) : Bool :=
  inQuerySet c || c = '\x27'

def upperHexDigit (n : Nat) : Char :=
  (Nat.digitChar n).toUpper

/--
The encoded form of a byte.
-/
def encodeByte (b : UInt8) : List Char :=
  ['%', upperHexDigit (b.toNat / 16), upperHexDigit (b.toNat % 16)]

def encodeChar (c : Char) : List Char :=
  (String.utf8EncodeChar c).flatMap encodeByte

/--
Encode the characters of a set.
-/
def encode (inSet : Char → Bool) (cs : List Char) : List Char :=
  cs.flatMap fun c => if inSet c then encodeChar c else [c]

/--
The bytes that an encoded text stands for. A percent sign without two digits stands for itself.
-/
def decode (cs : List Char) : List UInt8 :=
  match cs with
  | [] => []
  | '%' :: a :: b :: rest =>
    match Json.hexValue? a, Json.hexValue? b with
    | some a, some b => UInt8.ofNat (16 * a + b) :: decode rest
    | _, _ => String.utf8EncodeChar '%' ++ decode (a :: b :: rest)
  | c :: rest => String.utf8EncodeChar c ++ decode rest

end ServerLauncher.Url
