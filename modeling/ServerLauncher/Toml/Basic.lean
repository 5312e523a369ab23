import ServerLauncher.Keyed

/-!
This module contains the values of TOML documents and the pieces that a document is made of.
-/

namespace ServerLauncher.Toml

/--
A value without parts. Of floats and of dates and times only their presence is kept, and of numbers
that are too large for 128 bits or for a float nothing else.
-/
inductive Scalar where
  | text (s : String)
  | integer (n : Int)
  | boolean (b : Bool)
  | float
  | moment
  | huge
deriving DecidableEq, Repr

/--
A value as it is written. The keys of an inline table may be dotted.
-/
inductive Literal where
  | scalar (s : Scalar)
  | array (items : List Literal)
  | inline (entries : List (List String × Literal))

/--
A line of a document that says something.
-/
inductive Statement where
  | header (path : List String)
  | arrayHeader (path : List String)
  | assign (path : List String) (value : Literal)

/--
How a table came into being: by a header of its own, on the way to a table that has one, by a dotted
key, or in one piece as an inline table.
-/
inductive Origin where
  | header
  | implied
  | dotted
  | inline
deriving DecidableEq, Repr

/--
A value of a document. The array that array headers append to consists of its last table, which is
the one that headers and keys go on with, and of the earlier ones, of which the newest comes first.
-/
inductive Value where
  | scalar (s : Scalar)
  | array (items : List Value)
  | tables (last : List (String × Value)) (earlier : List (List (String × Value)))
  | table (origin : Origin) (entries : List (String × Value))

/--
The entries of a table.
-/
abbrev Table := Keyed String Value

mutual

/--
Whether a number that is too large occurs in a value.
-/
def Value.hasHuge : Value → Bool
  | .scalar s => s = .huge
  | .array items => Value.anyHuge items
  | .tables last earlier => Value.entriesHaveHuge last || Value.tablesHaveHuge earlier
  | .table _ entries => Value.entriesHaveHuge entries

/--
Whether a number that is too large occurs in one of several values.
-/
def Value.anyHuge : List Value → Bool
  | [] => false
  | item :: items => item.hasHuge || Value.anyHuge items

/--
Whether a number that is too large occurs in a table.
-/
def Value.entriesHaveHuge : List (String × Value) → Bool
  | [] => false
  | (_, value) :: rest => value.hasHuge || Value.entriesHaveHuge rest

/--
Whether a number that is too large occurs in one of several tables.
-/
def Value.tablesHaveHuge : List (List (String × Value)) → Bool
  | [] => false
  | entries :: rest => Value.entriesHaveHuge entries || Value.tablesHaveHuge rest

end

inductive Error where
  | malformed
  | duplicateKey (key : String)
  | notATable (key : String)
deriving DecidableEq, Repr

def Error.message : Error → String
  | .malformed => "TOML parse error: malformed document"
  | .duplicateKey key => "TOML parse error: duplicate key " ++ key
  | .notATable key => "TOML parse error: " ++ key ++ " is not a table"

end ServerLauncher.Toml
