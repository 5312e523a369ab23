import ServerLauncher.Path.Basic
import ServerLauncher.Text.Pieces

/-!
This module contains the environment variables that the launcher looks at, and the places in the
user's home directory that follow from them.
-/

namespace ServerLauncher

/--
The environment variables that matter. Those that are not set are missing.
-/
structure Environment where
  home : Option Path := none
  configHome : Option String := none
  dataHome : Option String := none
  javaHome : Option String := none
  path : Option String := none
  pathExtensions : Option String := none
deriving DecidableEq, Repr

namespace Environment

def directoryName : String := "pkl-lsp-launcher"

def splitPaths (list : String) : List Path :=
  (Text.pieces ':' list.toList).map fun piece => ⟨String.ofList piece⟩

/--
A directory that a variable names, or else one in the home directory.
-/
def baseDirectory? (env : Environment) (value : Option String) (inHome : String) :
    Option Path :=
  -- An empty variable counts as one that is not set.
  match value.filter (· ≠ "") with
  | some directory => some ⟨directory⟩
  | none => env.home.map (· / inHome)

def configPath? (env : Environment) : Option Path :=
  (env.baseDirectory? env.configHome ".config").map (· / directoryName / "config.toml")

/--
The directory for data that can be fetched again.
-/
def dataDirectory? (env : Environment) : Option Path :=
  (env.baseDirectory? env.dataHome ".local/share").map (· / directoryName)

/--
The directory for downloaded servers, which other tools share.
-/
def distributionsDirectory? (env : Environment) : Option Path :=
  env.home.map (· / ".pkl/editor-support/lsp-distributions")

/--
The directories in which commands are looked up.
-/
def commandDirectories (env : Environment) : List Path :=
  splitPaths (env.path.getD "/bin:/usr/bin")

end Environment

end ServerLauncher
