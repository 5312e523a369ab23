import ServerLauncher.FileSystem.Operations
import ServerLauncher.Registry.Coordinate

/-!
This module contains the cache for the metadata of artifacts, which keeps the registry from being
asked all the time.
-/

namespace ServerLauncher.Registry

/--
A cache in a directory. Its documents can be used for some seconds.
-/
structure MetadataCache where
  directory : Path
  lifetime : Nat
deriving DecidableEq, Repr

namespace MetadataCache

/--
The usual number of seconds for which a document can be used.
-/
def defaultLifetime : Nat := 3600

def inDirectory (data : Path) (lifetime : Nat) : MetadataCache :=
  ⟨data / "cache", lifetime⟩

/--
The place of the document of an artifact.
-/
def path (cache : MetadataCache) (c : Coordinate) : Path :=
  cache.directory / c.group / c.artifact / "maven-metadata.xml"

/--
Whether a document that was changed at a time can be used now.
-/
def isFresh (cache : MetadataCache) (modified now : Int) : Bool :=
  -- One from the future cannot.
  modified ≤ now && now - modified ≤ cache.lifetime * 1000000000

/--
The document of an artifact, if it can be used.
-/
def read (cache : MetadataCache) (files : FileSystem) (now : Int) (c : Coordinate) :
    Option String := do
  let modified ← files.modified? (cache.path c)
  guard (cache.isFresh modified now)
  (files.readText (cache.path c)).toOption

/--
Keep the document of an artifact. The files are returned also when that fails half way.
-/
def write (cache : MetadataCache) (files : FileSystem) (now : Int) (c : Coordinate)
    (document : String) : Option IoError × FileSystem :=
  let made := match (cache.path c).parent? with
    | some parent => files.createDirectories parent
    | none => (none, files)
  match made with
  | (some e, files) => (some e, files)
  | (none, files) =>
    match files.writeFile (cache.path c) document.toUTF8 now with
    | .ok files => (none, files)
    | .error e => (some e, files)

end MetadataCache

end ServerLauncher.Registry
