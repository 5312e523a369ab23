import ServerLauncher.Keyed
import ServerLauncher.Path.Basic

/-!
This module contains the file system that the launcher works on: a tree of directories, links and
files, and the way from a path to a place in it.
-/

namespace ServerLauncher

/--
How a run of a program ends, if it does.
-/
inductive Ending where
  | exited (code : Nat)
  | killed
  | never
deriving DecidableEq, Repr

/--
What a run of a program does as far as the launcher can see.
-/
structure Execution where
  ending : Ending
  stdout : ByteArray
  stderr : ByteArray

def Execution.succeeded (e : Execution) : Bool :=
  e.ending = .exited 0

/--
A program, given by what it does for its arguments and the contents of the files it may read.
-/
abbrev Program := List String → (Path → Option ByteArray) → Execution

/--
A place in the file system: the names that lead to it from the root, the last of them first.
-/
abbrev Location := List String

/--
What is at a place. Files that can be run carry a program.
-/
inductive Entry where
  | directory
  | link (target : Path)
  | file (content : ByteArray) (modified : Int) (program : Option Program)

inductive IoError where
  | notFound
  | alreadyExists
  | notADirectory
  | isADirectory
  | permissionDenied
  | crossesDevices
  | tooManyLinks
  | nameTooLong
  /-- A path holds the character that no path may hold. -/
  | invalidPath
  /-- An argument for a program holds the character that no argument may hold. -/
  | invalidArgument
  | invalidData
  /-- A reason from elsewhere, given by its text. -/
  | other (text : String)
deriving DecidableEq, Repr

def IoError.message : IoError → String
  | .notFound => "No such file or directory (os error 2)"
  | .alreadyExists => "File exists (os error 17)"
  | .notADirectory => "Not a directory (os error 20)"
  | .isADirectory => "Is a directory (os error 21)"
  | .permissionDenied => "Permission denied (os error 13)"
  | .crossesDevices => "Invalid cross-device link (os error 18)"
  | .tooManyLinks => "Too many levels of symbolic links (os error 40)"
  | .nameTooLong => "File name too long (os error 36)"
  | .invalidPath => "file name contained an unexpected NUL byte"
  | .invalidArgument => "nul byte found in provided data"
  | .invalidData => "stream did not contain valid UTF-8"
  | .other text => text

/--
A file system. Everything but the root has an entry, and modification times count nanoseconds.
-/
structure FileSystem where
  entries : Keyed Location Entry
  /-- The place that relative paths start from. -/
  workingDirectory : Location
  /-- The directory for files that nobody else should see. -/
  temporaryDirectory : Path
  /-- The device that a directory is on. Files cannot move from one to another. -/
  device : Location → Nat

namespace FileSystem

def find? (fs : FileSystem) (location : Location) : Option Entry :=
  if location = [] then some .directory else fs.entries.get? location

def put (fs : FileSystem) (location : Location) (entry : Entry) : FileSystem :=
  { fs with entries := fs.entries.put location entry }

def drop (fs : FileSystem) (location : Location) : FileSystem :=
  { fs with entries := fs.entries.remove location }

/--
Where a path leads: to something, or to a name in a directory under which there is nothing. In the
second case the path may end in a slash.
-/
inductive Place where
  | occupied (location : Location) (entry : Entry)
  | vacant (location : Location) (slash : Bool)

/--
The number of bytes that a name may have.
-/
def nameLimit : Nat := 255

/--
Follow the segments of a path from a directory. `jump` goes on behind a link.
-/
def stepAlong (fs : FileSystem) (final : Bool)
    (jump : Location → List String → Except IoError Place) (location : Location) :
    List String → Except IoError Place
  | [] => .ok (.occupied location .directory)
  | segment :: rest =>
    if segment = "" ∨ segment = "." then stepAlong fs final jump location rest
    else if segment = ".." then stepAlong fs final jump location.tail rest
    else if nameLimit < segment.utf8ByteSize then .error .nameTooLong
    else
      match fs.find? (segment :: location) with
      | none =>
        -- Only slashes may come behind a name that is missing.
        if rest.all (· = "") then .ok (.vacant (segment :: location) !rest.isEmpty)
        else .error .notFound
      | some .directory => stepAlong fs final jump (segment :: location) rest
      | some (.file content modified program) =>
        if rest.isEmpty then
          .ok (.occupied (segment :: location) (.file content modified program))
        else
          .error .notADirectory
      | some (.link target) =>
        -- The last link is what the path leads to, unless it is to be followed too.
        if rest.isEmpty && !final then .ok (.occupied (segment :: location) (.link target))
        else
          let start := if target.isAbsolute then [] else location
          jump start (target.segments.map String.ofList ++ rest)

/--
Follow the segments of a path from a directory, through no more than `links` links.
-/
def walk (fs : FileSystem) (final : Bool) (links : Nat) :
    Location → List String → Except IoError Place :=
  match links with
  | 0 => fs.stepAlong final fun _ _ => .error .tooManyLinks
  | links + 1 => fs.stepAlong final (fs.walk final links)

def linkLimit : Nat := 40

/--
The number of bytes that a path may have.
-/
def pathLimit : Nat := 4095

/--
Whether a text holds the character that ends texts for the operating system.
-/
def holdsNul (text : String) : Bool :=
  text.toList.contains '\x00'

/--
The place that a path leads to.
-/
def place (fs : FileSystem) (final : Bool) (p : Path) : Except IoError Place :=
  if holdsNul p.text then .error .invalidPath
  else if p.text = "" then .error .notFound
  else if pathLimit < p.text.utf8ByteSize then .error .nameTooLong
  else
    let start := if p.isAbsolute then [] else fs.workingDirectory
    fs.walk final linkLimit start (p.segments.map String.ofList)

/--
What a path leads to, through all links.
-/
def lookup (fs : FileSystem) (p : Path) : Except IoError (Location × Entry) := do
  match ← fs.place true p with
  | .occupied location entry => return (location, entry)
  | .vacant _ _ => throw .notFound

def contains (fs : FileSystem) (p : Path) : Bool :=
  (fs.lookup p).isOk

def isDirectory (fs : FileSystem) (p : Path) : Bool :=
  match fs.lookup p with
  | .ok (_, .directory) => true
  | _ => false

def isFile (fs : FileSystem) (p : Path) : Bool :=
  match fs.lookup p with
  | .ok (_, .file ..) => true
  | _ => false

/--
The time at which what a path leads to was changed last.
-/
def modified? (fs : FileSystem) (p : Path) : Option Int :=
  match fs.lookup p with
  | .ok (_, .file _ modified _) => some modified
  -- Directories have a time too, but nothing depends on which.
  | .ok (_, _) => some 0
  | .error _ => none

@[simp]
theorem find?_put_self {location : Location} (h : location ≠ []) (fs : FileSystem)
    (entry : Entry) : (fs.put location entry).find? location = some entry := by
  simp [find?, put, h]

theorem find?_put_of_ne {location other : Location} (h : other ≠ location) (fs : FileSystem)
    (entry : Entry) : (fs.put location entry).find? other = fs.find? other := by
  simp [find?, put, Keyed.get?_put_of_ne h]

end FileSystem

end ServerLauncher
