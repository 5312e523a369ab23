import ServerLauncher.Version.Grammar

/-!
This module contains the coordinates that name artifacts in a registry, and where the registry keeps
their files.
-/

namespace ServerLauncher.Registry

/--
The name of an artifact: a group with dots between its parts, and a name within it.
-/
structure Coordinate where
  group : String
  artifact : String
deriving DecidableEq, Repr

namespace Coordinate

def server : Coordinate := ⟨"org.pkl-lang", "pkl-lsp"⟩

def text (c : Coordinate) : String :=
  c.group ++ ":" ++ c.artifact

/--
The directory of an artifact relative to the registry.
-/
def directory (c : Coordinate) : String :=
  String.ofList (c.group.toList.map fun ch => if ch = '.' then '/' else ch) ++ "/" ++ c.artifact

def jarName (c : Coordinate) (v : Version) : String :=
  c.artifact ++ "-" ++ v.text ++ ".jar"

/--
The jar of a version relative to the registry.
-/
def jarPath (c : Coordinate) (v : Version) : String :=
  c.directory ++ "/" ++ v.text ++ "/" ++ c.jarName v

def checksumPath (c : Coordinate) (v : Version) : String :=
  c.jarPath v ++ ".sha256"

def metadataPath (c : Coordinate) : String :=
  c.directory ++ "/maven-metadata.xml"

end Coordinate

end ServerLauncher.Registry
