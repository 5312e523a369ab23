/-!
This module contains the string literals of JSON: `Json.quote` writes one, `Json.unquote?` reads a
document that consists of one.
-/

namespace ServerLauncher.Json

/--
The characters that stand for white space between the tokens of a document.
-/
def isSpace (c : Char) : Bool :=
  c = ' ' || c = '\t' || c = '\n' || c = '\r'

def hexValue? (c : Char) : Option Nat :=
  if c.isDigit then some (c.toNat - '0'.toNat)
  else if 'a' ≤ c ∧ c ≤ 'f' then some (c.toNat - 'a'.toNat + 10)
  else if 'A' ≤ c ∧ c ≤ 'F' then some (c.toNat - 'A'.toNat + 10)
  else none

def hexNumber? (cs : List Char) : Option Nat :=
  cs.foldlM (fun n c => (hexValue? c).map (16 * n + ·)) 0

/--
The escapes that consist of a backslash and one more character.
-/
def shortEscapes : List (Char × Char) :=
  [('"', '"'), ('\\', '\\'), ('/', '/'), ('b', '\x08'), ('f', '\x0c'), ('n', '\n'), ('r', '\r'),
    ('t', '\t')]

/--
Whether a number is the first half of a surrogate pair.
-/
def isHighSurrogate (n : Nat) : Bool :=
  0xd800 ≤ n && n < 0xdc00

/--
Whether a number is the second half of a surrogate pair.
-/
def isLowSurrogate (n : Nat) : Bool :=
  0xdc00 ≤ n && n < 0xe000

/--
Read the inside of a literal up to its closing quote, which must be the last thing in the document
apart from white space.
-/
def readInside (cs : List Char) : Option (List Char) :=
  match cs with
  | [] => none
  | '"' :: rest => if rest.all isSpace then some [] else none
  | '\\' :: 'u' :: a :: b :: c :: d :: rest => do
    let n ← hexNumber? [a, b, c, d]
    if isHighSurrogate n then
      match rest with
      | '\\' :: 'u' :: a :: b :: c :: d :: rest =>
        let m ← hexNumber? [a, b, c, d]
        if isLowSurrogate m then
          (Char.ofNat (0x10000 + (n - 0xd800) * 0x400 + (m - 0xdc00)) :: ·) <$> readInside rest
        else
          none
      | _ => none
    else if isLowSurrogate n then
      none
    else
      (Char.ofNat n :: ·) <$> readInside rest
  | '\\' :: c :: rest => do
    let c ← shortEscapes.lookup c
    (c :: ·) <$> readInside rest
  | c :: rest => if c.toNat < 0x20 then none else (c :: ·) <$> readInside rest

/--
Read a document that consists of a string literal, with white space around it.
-/
def unquote? (document : String) : Option String :=
  match document.toList.dropWhile isSpace with
  | '"' :: rest => (readInside rest).map String.ofList
  | _ => none

/--
Write a character inside a literal. Quotes, backslashes and control characters are escaped.
-/
def quoteChar (c : Char) : List Char :=
  match [('"', '"'), ('\\', '\\'), ('\x08', 'b'), ('\x0c', 'f'), ('\n', 'n'), ('\r', 'r'),
      ('\t', 't')].lookup c with
  | some short => ['\\', short]
  | none =>
    if c.toNat < 0x20 then
      ['\\', 'u', '0', '0', Nat.digitChar (c.toNat / 16), Nat.digitChar (c.toNat % 16)]
    else
      [c]

/--
Write a string literal.
-/
def quote (s : String) : String :=
  String.ofList ('"' :: (s.toList.flatMap quoteChar ++ ['"']))

end ServerLauncher.Json
