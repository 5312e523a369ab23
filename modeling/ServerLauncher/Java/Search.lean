import ServerLauncher.Java.Banner
import ServerLauncher.Java.Runtime
import ServerLauncher.World

/-!
This module contains the search for a Java runtime: asking an executable for its version, and looking
for executables in the usual places.
-/

namespace ServerLauncher.Java

/--
The variables that say where to search.
-/
structure Places where
  javaHome : Option Path := none
  path : Option String := none
  pathExtensions : Option String := none
deriving DecidableEq, Repr

/--
The places that the environment names. An empty home of Java is none.
-/
def Places.ofEnvironment (env : Environment) : Places where
  javaHome := (env.javaHome.filter (· ≠ "")).map Path.mk
  path := env.path
  pathExtensions := env.pathExtensions

/--
The names that the executable may have in a directory.
-/
def Places.executableNames (places : Places) : List String :=
  match places.pathExtensions with
  | none => ["java"]
  | some extensions =>
    ((Environment.splitPaths extensions).map fun ext => "java" ++ ext.text).eraseDups

/--
The directories to search, in order.
-/
def Places.directories (places : Places) : List Path :=
  let inHome := places.javaHome.toList.map (· / "bin")
  let onPath := (places.path.map Environment.splitPaths).getD []
  inHome ++ onPath.filter fun directory => directory.text ≠ ""

/--
Ask a file for its version, if it is one that answers like Java.
-/
def probe (m : Machine) (path : Path) : Option Runtime :=
  if m.files.isFile path then
    match m.run path ["-version"] with
    | .ok execution =>
      if execution.succeeded then
        (parseVersion? (Utf8.decodeLossy execution.stderr)).map fun version => ⟨path, version⟩
      else none
    | .error _ => none
  else none

def findIn (m : Machine) (places : Places) (directory : Path) : Option Runtime :=
  places.executableNames.findSome? fun (name : String) => probe m (directory / name)

/--
The runtime of the first directory whose runtime is new enough.
-/
def locate (m : Machine) (places : Places) : Except RuntimeError Runtime :=
  -- A directory counts by its first executable that answers, also if that one is too old.
  let found := places.directories.findSome? fun directory =>
    (findIn m places directory).filter fun runtime => minimumVersion ≤ runtime.version
  match found with
  | some runtime => .ok runtime
  | none => .error (.notFound minimumVersion)

/--
The runtime that the user has configured.
-/
def resolveConfigured (m : Machine) (path : Path) : Except RuntimeError Runtime :=
  match probe m path with
  | none => .error (.invalidConfiguredPath path)
  | some runtime =>
    if runtime.version < minimumVersion then
      .error (.configuredVersionTooLow runtime.path runtime.version minimumVersion)
    else .ok runtime

/--
The runtime for some settings: the configured one, or else one that the search finds.
-/
def find (m : Machine) (places : Places) (configured : Option Path) :
    Except RuntimeError Runtime :=
  match configured with
  | some path => resolveConfigured m path
  | none => locate m places

end ServerLauncher.Java
