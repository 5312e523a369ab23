import ServerLauncher.FileSystem.Basic
import ServerLauncher.Text.Utf8

/-!
This module contains the operations on a file system: reading and listing, making directories,
writing, moving and removing files, and running programs.
-/

namespace ServerLauncher.FileSystem

def read (fs : FileSystem) (p : Path) : Except IoError ByteArray := do
  match ← fs.lookup p with
  | (_, .file content _ _) => return content
  | _ => throw .isADirectory

def readText (fs : FileSystem) (p : Path) : Except IoError String := do
  match Utf8.decode? (← fs.read p) with
  | some text => return text
  | none => throw .invalidData

/--
The names in a directory, given its place.
-/
def namesIn (fs : FileSystem) (directory : Location) : List String :=
  fs.entries.filterMap fun (location, _) =>
    match location with
    | name :: parent => if parent = directory then some name else none
    | [] => none

def list (fs : FileSystem) (p : Path) : Except IoError (List String) := do
  match ← fs.lookup p with
  | (location, .directory) => return fs.namesIn location
  | _ => throw .notADirectory

def createDirectory (fs : FileSystem) (p : Path) : Except IoError FileSystem := do
  match ← fs.place false p with
  | .vacant location _ => return fs.put location .directory
  | .occupied _ _ => throw .alreadyExists

/--
Make a directory and those it is in, as far as they are missing. The file system is returned also
when that fails half way.
-/
def createDirectories (fs : FileSystem) (p : Path) : Option IoError × FileSystem :=
  go p.chars.length fs p
where
  /--
  The same, for a path with at most `fuel` components.
  -/
  go (fuel : Nat) (fs : FileSystem) (p : Path) : Option IoError × FileSystem :=
    if p.text = "" then (none, fs)
    else match fs.createDirectory p, p.parent?, fuel with
      | .ok fs, _, _ => (none, fs)
      | .error .notFound, some parent, fuel + 1 =>
        match go fuel fs parent with
        | (some e, fs) => (some e, fs)
        | (none, fs) => last fs p
      | .error e, _, _ => if fs.isDirectory p then (none, fs) else (some e, fs)
  last (fs : FileSystem) (p : Path) : Option IoError × FileSystem :=
    match fs.createDirectory p with
    | .ok fs => (none, fs)
    | .error e => if fs.isDirectory p then (none, fs) else (some e, fs)

/--
Write a file at a time, in the place of the content it may have.
-/
def writeFile (fs : FileSystem) (p : Path) (content : ByteArray) (now : Int) :
    Except IoError FileSystem := do
  match ← fs.place true p with
  | .occupied location (.file _ _ program) => return fs.put location (.file content now program)
  | .occupied _ _ => throw .isADirectory
  | .vacant location false => return fs.put location (.file content now none)
  | .vacant _ true => throw .isADirectory

/--
Make a new file in a directory under a name that is not in use, which starts with `front`, and tell
its path.
-/
def createFresh (fs : FileSystem) (directory : Path) (front : String) (content : ByteArray)
    (now : Int) : Except IoError (Path × FileSystem) :=
  go (fs.entries.length + 1) 0
where
  /--
  Try at most `fuel` names.
  -/
  go (fuel number : Nat) : Except IoError (Path × FileSystem) := do
    match fuel with
    | 0 => throw .alreadyExists
    | fuel + 1 =>
      let p := directory / (front ++ toString number ++ ".download")
      match ← fs.place false p with
      | .vacant location _ => return (p, fs.put location (.file content now none))
      | .occupied _ _ => go fuel (number + 1)

/--
Move a file, or a link as it is, in the place of a file or link that may be there.
-/
def rename (fs : FileSystem) (source destination : Path) : Except IoError FileSystem := do
  match ← fs.place false source, ← fs.place false destination with
  | .vacant _ _, _ => throw .notFound
  | .occupied _ .directory, _ => throw .isADirectory
  | .occupied _ _, .occupied _ .directory => throw .isADirectory
  | .occupied _ _, .vacant _ true => throw .notADirectory
  | .occupied old entry, .occupied new _ => move old entry new
  | .occupied old entry, .vacant new false => move old entry new
where
  move (old : Location) (entry : Entry) (new : Location) : Except IoError FileSystem :=
    if fs.device old.tail ≠ fs.device new.tail then .error .crossesDevices
    else if old = new then .ok fs
    else .ok ((fs.drop old).put new entry)

/--
Remove a file or link. Nothing happens if there is none.
-/
def removeFile (fs : FileSystem) (p : Path) : FileSystem :=
  match fs.place false p with
  | .ok (.occupied _ .directory) => fs
  | .ok (.occupied location _) => fs.drop location
  | _ => fs

/--
Remove whatever is at a path, and all that is in it.
-/
def removeTree (fs : FileSystem) (p : Path) : FileSystem :=
  match fs.place false p with
  | .ok (.occupied location _) =>
    { fs with entries := fs.entries.removeIf fun other => location.isSuffixOf other }
  | _ => fs

def createLink (fs : FileSystem) (p target : Path) : Except IoError FileSystem := do
  match ← fs.place false p with
  | .vacant location false => return fs.put location (.link target)
  | _ => throw .alreadyExists

/--
Put a file that can be run in the place of the file or link that may be there.
-/
def install (fs : FileSystem) (p : Path) (program : Program) (now : Int) :
    Except IoError FileSystem := do
  let fs := fs.removeFile p
  match ← fs.place false p with
  | .vacant location false => return fs.put location (.file ByteArray.empty now (some program))
  | _ => throw .alreadyExists

/--
Say when a file was changed last.
-/
def setModified (fs : FileSystem) (p : Path) (time : Int) : FileSystem :=
  match fs.lookup p with
  | .ok (location, .file content _ program) => fs.put location (.file content time program)
  | _ => fs

/--
The program at a path, if what is there can be run.
-/
def programAt (fs : FileSystem) (p : Path) : Except IoError Program := do
  match ← fs.lookup p with
  | (_, .file _ _ (some program)) => return program
  | _ => throw .permissionDenied

/--
The program under a name in the first of several directories that has one.
-/
def programIn (fs : FileSystem) (name : String) : List Path → Except IoError Program
  | [] => .error .notFound
  | directory :: rest =>
    match fs.programAt (directory / name) with
    | .ok program => .ok program
    | .error .notFound | .error .notADirectory => programIn fs name rest
    | .error .permissionDenied =>
      -- Files that cannot be run are passed over, but count in the reason why nothing is found.
      match programIn fs name rest with
      | .ok program => .ok program
      | .error .notFound => .error .permissionDenied
      | .error e => .error e
    -- A path that cannot be followed ends the search.
    | .error e => .error e

/--
The program that a command names: by a path if it holds a slash, and by a name in the directories of
`search` otherwise.
-/
def program (fs : FileSystem) (search : List Path) (command : Path) : Except IoError Program :=
  if command.chars.contains '/' then fs.programAt command
  else if command.text = "" then .error .notFound
  else fs.programIn command.text search

def run (fs : FileSystem) (search : List Path) (command : Path) (arguments : List String) :
    Except IoError Execution := do
  if holdsNul command.text ∨ arguments.any holdsNul then throw .invalidArgument
  let program ← fs.program search command
  return program arguments fun p => (fs.read p).toOption

end ServerLauncher.FileSystem
