import ServerLauncher.Text.Pieces

/-!
This module contains paths. A path is kept as it was written, since it is shown to the user and
handed to programs in that form; what it means is given by its components.
-/

namespace ServerLauncher

/--
A path in its written form.
-/
structure Path where
  text : String
deriving DecidableEq, Repr, Inhabited

/--
A step of a path: to the root, to the directory itself, to the directory above, or to an entry.
-/
inductive Path.Component where
  | root
  | current
  | parent
  | name (text : String)
deriving DecidableEq, Repr

namespace Path

instance : Coe String Path := ⟨Path.mk⟩

def chars (p : Path) : List Char :=
  p.text.toList

/--
The texts between the slashes of a path.
-/
def segments (p : Path) : List (List Char) :=
  Text.pieces '/' p.chars

def isAbsolute (p : Path) : Bool :=
  p.chars.head? = some '/'

/--
The step that a segment stands for, if it does.
-/
def Component.ofSegment? (segment : List Char) : Option Component :=
  if segment = [] ∨ segment = ['.'] then none
  else if segment = ['.', '.'] then some .parent
  else some (.name (String.ofList segment))

def components (p : Path) : List Component :=
  match p.segments with
  | [] => []
  | first :: rest =>
    -- A dot counts only where the path starts with it.
    let head : Option Component :=
      if p.isAbsolute then some .root
      else if first = ['.'] then some .current
      else Component.ofSegment? first
    head.toList ++ rest.filterMap Component.ofSegment?

/--
Whether two paths have the same components: `/c/` and `/c//.` are the same path as `/c`, but `./c`
is another one than `c`.
-/
def sameAs (p q : Path) : Bool :=
  p.components == q.components

/--
The path that leads on from `p` along `q`.
-/
def join (p q : Path) : Path :=
  -- An absolute path leaves nothing of the one in front.
  if q.isAbsolute then q
  else if p.text = "" || p.chars.getLast? = some '/' then ⟨p.text ++ q.text⟩
  else ⟨p.text ++ "/" ++ q.text⟩

instance : HDiv Path Path Path := ⟨join⟩

instance : HDiv Path String Path := ⟨fun p name => p.join ⟨name⟩⟩

/--
Drop the segments at the end that stand for no step.
-/
def dropIdle (segments : List (List Char)) : List (List Char) :=
  (segments.reverse.dropWhile fun segment => segment = [] || segment = ['.']).reverse

/--
The path without its last component, if it has one besides the root.
-/
def parent? (p : Path) : Option Path :=
  let inner (tail : List (List Char)) : List (List Char) := dropIdle tail.dropLast
  match p.segments with
  | [] => none
  | first :: rest =>
    let tail := dropIdle rest
    if p.isAbsolute then
      if tail.isEmpty then none
      else some ⟨String.ofList ('/' :: Text.joinPieces '/' (inner tail))⟩
    else if tail.isEmpty then
      if first.isEmpty then none else some ⟨""⟩
    else
      some ⟨String.ofList (Text.joinPieces '/' (first :: inner tail))⟩

instance : ToString Path := ⟨text⟩

theorem sameAs_iff {p q : Path} : p.sameAs q = true ↔ p.components = q.components := by
  simp [sameAs]

end Path

end ServerLauncher
