import ServerLauncher.Distribution.Basic
import ServerLauncher.FileSystem.Operations

/-!
This module contains the directory of downloaded servers. Every version has a directory of its own
there, which holds its jar.
-/

namespace ServerLauncher.Distribution

/--
The directory of downloaded servers.
-/
structure Cache where
  root : Path
deriving DecidableEq, Repr

namespace Cache

def jarPath (cache : Cache) (v : Version) : Path :=
  cache.root / v.text / ("pkl-lsp-" ++ v.text ++ ".jar")

/--
Whether the jar of a version is there.
-/
def contains (cache : Cache) (files : FileSystem) (v : Version) : Bool :=
  files.isFile (cache.jarPath v)

/--
The versions that have a directory, whether or not it holds a jar.
-/
def scan (cache : Cache) (files : FileSystem) : List Version :=
  match files.list cache.root with
  | .ok names => names.filterMap Version.parse?
  | .error _ => []

def distribution (cache : Cache) (v : Version) : Distribution :=
  ⟨cache.jarPath v, v, .downloaded⟩

/--
The newest distribution that is compatible with a version and whose jar is there.
-/
def bestCompatible (cache : Cache) (files : FileSystem) (reference : Version) :
    Option Distribution :=
  let candidates := (cache.scan files).filter fun v => v.isCompatibleWith reference
  -- A directory without its jar does not keep an older version from being found.
  ((Version.descending candidates).find? (cache.contains files)).map cache.distribution

end Cache

end ServerLauncher.Distribution
