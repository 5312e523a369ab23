import ServerLauncher.Toml.Statement

/-!
This module contains the assembly of the statements of a TOML document into its root table, and
`Toml.parse`, which reads a document. Keys may not be given twice, tables may not be opened twice,
and a table may not be extended in another way than the one it was made in.
-/

namespace ServerLauncher.Toml

/--
Change the table that a dotted key leads to. Tables on the way are made where they are missing, and
may be entered if no header has opened them. Of an array of tables the last one is entered. The
table at the end has to be one that dotted keys make, exactly if the key leads away from the table
that it is written in.
-/
def Table.enterDotted (table : Table) (path : List String)
    (change : Table → Except Error Table) : Except Error Table :=
  go table false path
where
  /--
  Go on from a table, which may be one that dotted keys make.
  -/
  go (table : Table) (dotted : Bool) : List String → Except Error Table
    | [] => if dotted = path.isEmpty then .error .malformed else change table
    | key :: rest =>
      match table.get? key with
      | none => do return table.put key (.table .dotted (← go [] true rest))
      | some (.table .dotted inner) =>
        do return table.put key (.table .dotted (← go inner true rest))
      | some (.table .implied inner) =>
        do return table.put key (.table .implied (← go inner false rest))
      | some (.tables last earlier) =>
        do return table.put key (.tables (← go last false rest) earlier)
      | some _ => .error (.duplicateKey key)

/--
Give a key that the table does not have yet its value.
-/
def Table.define (key : String) (value : Value) (table : Table) : Except Error Table :=
  if (table.get? key).isSome then .error (.duplicateKey key)
  else .ok (table.put key value)

/--
Give a dotted key its value.
-/
def Table.assign (path : List String) (value : Value) (table : Table) : Except Error Table :=
  match path.getLast? with
  | none => .error .malformed
  | some key => table.enterDotted path.dropLast (Table.define key value)

mutual

/--
The value that a literal stands for.
-/
def Literal.value : Literal → Except Error Value
  | .scalar s => .ok (.scalar s)
  | .array items => do return .array (← Literal.values items)
  | .inline entries => do return .table .inline (← Literal.entries entries [])

/--
The values that the items of an array stand for.
-/
def Literal.values : List Literal → Except Error (List Value)
  | [] => .ok []
  | item :: items => do return (← item.value) :: (← Literal.values items)

/--
The table that the entries of an inline table make, given the ones in front of them.
-/
def Literal.entries : List (List String × Literal) → Table → Except Error Table
  | [], table => .ok table
  | (path, literal) :: rest, table => do
    let table ← table.assign path (← literal.value)
    Literal.entries rest table

end

/--
Change the table that a header leads to. Where an array of tables stands on the way, the header
means its last table.
-/
def Table.enterHeader (table : Table) (path : List String)
    (change : Table → Except Error Table) : Except Error Table :=
  match path with
  | [] => change table
  | key :: rest =>
    match table.get? key with
    | none => do return table.put key (.table .implied (← Table.enterHeader [] rest change))
    | some (.table .inline _) => .error (.notATable key)
    | some (.table origin inner) =>
      do return table.put key (.table origin (← Table.enterHeader inner rest change))
    | some (.tables last earlier) =>
      do return table.put key (.tables (← Table.enterHeader last rest change) earlier)
    | some _ => .error (.notATable key)

/--
Open the table under a key. It may be there already if only headers of tables inside it have been
seen.
-/
def Table.openTable (key : String) (table : Table) : Except Error Table :=
  match table.get? key with
  | none => .ok (table.put key (.table .header []))
  | some (.table .implied inner) => .ok (table.put key (.table .header inner))
  | some _ => .error (.duplicateKey key)

/--
Open one more table of the array of tables under a key.
-/
def Table.openItem (key : String) (table : Table) : Except Error Table :=
  match table.get? key with
  | none => .ok (table.put key (.tables [] []))
  | some (.tables last earlier) => .ok (table.put key (.tables [] (last :: earlier)))
  | some _ => .error (.duplicateKey key)

/--
Open a table or an item of an array at the end of a header.
-/
def Table.enterLast (table : Table) (path : List String)
    (change : String → Table → Except Error Table) : Except Error Table :=
  match path.getLast? with
  | none => .error .malformed
  | some key => table.enterHeader path.dropLast (change key)

/--
A document as far as it has been read: its root table, and the header that keys are relative to.
-/
structure Draft where
  root : Table
  header : List String

/--
Take one more statement into a document.
-/
def Draft.add (draft : Draft) : Statement → Except Error Draft
  | .header path => do return ⟨← draft.root.enterLast path Table.openTable, path⟩
  | .arrayHeader path => do return ⟨← draft.root.enterLast path Table.openItem, path⟩
  | .assign path literal => do
    let value ← literal.value
    let root ← draft.root.enterHeader draft.header (Table.assign path value)
    return { draft with root }

/--
The root table of a document with the given statements.
-/
def assemble (statements : List Statement) : Except Error Table :=
  (·.root) <$> statements.foldlM Draft.add ⟨[], []⟩

def parse (text : String) : Except Error Table :=
  match Statement.ofText? text with
  | none => .error .malformed
  | some statements => assemble statements

end ServerLauncher.Toml
