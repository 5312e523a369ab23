import ServerLauncher.Toml.Bare
import ServerLauncher.Toml.Lexeme

/-!
This module contains the reading of keys, values and whole TOML documents as lists of statements.
`Toml.Statement.ofText?` is the entry point; it does not look at what the keys say.
-/

namespace ServerLauncher.Toml

/--
The characters of keys that are written without quotes.
-/
def isKeyChar (c : Char) : Bool :=
  c.isAlphanum || c = '_' || c = '-'

def readSimpleKey (cs : List Char) : Option (String × List Char) :=
  match cs.takeWhile isKeyChar with
  | [] => readQuoted? cs
  | key => some (String.ofList key, cs.dropWhile isKeyChar)

/--
The number of arrays and inline tables that may stand inside each other, and of parts that a key may
have.
-/
def nestingLimit : Nat := 80

/--
Read a key with dots between its parts, and the white space around the parts.
-/
def readKey (cs : List Char) : Option (List String × List Char) :=
  go nestingLimit cs
where
  /--
  Read at most `fuel` parts.
  -/
  go (fuel : Nat) (cs : List Char) : Option (List String × List Char) :=
    match fuel with
    | 0 => none
    | fuel + 1 => do
      let (key, rest) ← readSimpleKey (skipSpace cs)
      match skipSpace rest with
      | '.' :: rest =>
        let (keys, rest) ← go fuel rest
        return (key :: keys, rest)
      | rest => return ([key], rest)

mutual

/--
Read a value at a place inside of which `depth` more arrays and tables may begin.
-/
def readValue (depth fuel : Nat) (cs : List Char) : Option (Literal × List Char) :=
  match fuel with
  | 0 => none
  | fuel + 1 =>
    match depth, cs with
    | depth + 1, '[' :: rest =>
      (fun (items, rest) => (.array items, rest)) <$> readItems depth fuel [] rest
    | depth + 1, '\x7b' :: rest =>
      (fun (entries, rest) => (.inline entries, rest)) <$> readEntries depth fuel [] rest
    | _, cs =>
      match readString? cs with
      | some (s, rest) => some (.scalar (.text s), rest)
      | none => (fun (scalar, rest) => (.scalar scalar, rest)) <$> readWord cs

/--
Read the items of an array behind its opening bracket or behind a comma. The items in front of that
are in `items`, of which the last comes first.
-/
def readItems (depth fuel : Nat) (items : List Literal) (cs : List Char) :
    Option (List Literal × List Char) :=
  match fuel with
  | 0 => none
  | fuel + 1 =>
    match skipLines cs with
    | ']' :: rest => some (items.reverse, rest)
    | cs => do
      let (item, rest) ← readValue depth fuel cs
      match skipLines rest with
      | ',' :: rest => readItems depth fuel (item :: items) rest
      | ']' :: rest => return ((item :: items).reverse, rest)
      | _ => none

/--
Read the entries of an inline table behind its opening brace or behind a comma. The entries in front
of that are in `entries`, of which the last comes first. Line breaks may stand around the equals
sign, but not within a key.
-/
def readEntries (depth fuel : Nat) (entries : List (List String × Literal)) (cs : List Char) :
    Option (List (List String × Literal) × List Char) :=
  match fuel with
  | 0 => none
  | fuel + 1 =>
    match skipLines cs with
    | '\x7d' :: rest => some (entries.reverse, rest)
    | cs => do
      let (key, rest) ← readKey cs
      let '=' :: rest := skipLines rest | none
      let (value, rest) ← readValue depth fuel (skipLines rest)
      match skipLines rest with
      | ',' :: rest => readEntries depth fuel ((key, value) :: entries) rest
      | '\x7d' :: rest => return (((key, value) :: entries).reverse, rest)
      | _ => none

end

/--
Read the statement of a line, and the line break behind it. An empty line says nothing. The steps
into values and their parts are bounded by `fuel`.
-/
def readLine (fuel : Nat) (cs : List Char) : Option (Option Statement × List Char) :=
  match skipSpace cs with
  | '[' :: '[' :: rest => do
    let (path, rest) ← readKey rest
    let ']' :: ']' :: rest := rest | none
    let rest ← endLine? rest
    return (some (.arrayHeader path), rest)
  | '[' :: rest => do
    let (path, rest) ← readKey rest
    let ']' :: rest := rest | none
    let rest ← endLine? rest
    return (some (.header path), rest)
  | cs =>
    match endLine? cs with
    | some rest => some (none, rest)
    | none => do
      let (path, rest) ← readKey cs
      let '=' :: rest := rest | none
      let (value, rest) ← readValue nestingLimit fuel (skipSpace rest)
      let rest ← endLine? rest
      return (some (.assign path value), rest)

/--
Read the statements of a document, of which at most `fuel` lines are looked at. The statements in
front are in `before`, of which the last comes first. No line has more than twice as many steps into
values and their parts as the document has characters.
-/
def readLines (size fuel : Nat) (before : List Statement) (cs : List Char) :
    Option (List Statement) :=
  match fuel, cs with
  | _, [] => some before.reverse
  | 0, _ => none
  | fuel + 1, cs => do
    let (statement, rest) ← readLine (2 * size + 2) cs
    readLines size fuel (statement.toList ++ before) rest

/--
The statements of a document. A byte order mark in front of it is skipped.
-/
def Statement.ofText? (text : String) : Option (List Statement) :=
  let cs := match text.toList with
    | '\uFEFF' :: rest => rest
    | cs => cs
  readLines cs.length (cs.length + 1) [] cs

end ServerLauncher.Toml
