import ServerLauncher.FileSystem.Basic
import ServerLauncher.Text.Pieces
import ServerLauncher.Version.Grammar

/-!
This module contains server distributions: jars with a known version. It also holds the choice
between several of them, and the reading of what a jar prints as its version.
-/

namespace ServerLauncher

inductive Distribution.Source where
  | configured
  | downloaded
  | bundled
deriving DecidableEq, Repr

structure Distribution where
  path : Path
  version : Version
  source : Distribution.Source
deriving DecidableEq, Repr

namespace Distribution

def Source.name : Source → String
  | .configured => "configured"
  | .downloaded => "downloaded"
  | .bundled => "bundled"

/--
The version of the server that comes with the launcher.
-/
def bundledVersion : Version := .ofNumbers 0 6 0

/--
The name of its jar beside the launcher.
-/
def bundledName : String := "pkl-lsp.jar"

/--
The distribution to run.
-/
def select (configured downloaded : Option Distribution) (bundled : Distribution) : Distribution :=
  match configured, downloaded with
  | some configured, _ => configured
  | none, some downloaded =>
    -- Strictly, so that the bundled one wins over a download of the same release.
    if downloaded.version.isNewerThan bundled.version then downloaded else bundled
  | none, none => bundled

def dropLineBreak (cs : List Char) : List Char :=
  match Text.beforeBack? ['\n'] cs with
  | none => cs
  | some front => (Text.beforeBack? ['\r'] front).getD front

/--
The version in what a server jar prints: the text behind the last `version` with spaces around it.
-/
def parseVersion? (output : String) : Option Version :=
  Version.parseChars? (Text.lastPiece " version ".toList (dropLineBreak output.toList))

inductive DistributionError where
  | invalidConfiguredPath (path : Path)
  | runtimeUnavailable
  | io (cause : IoError)
deriving DecidableEq, Repr

def DistributionError.message : DistributionError → String
  | .invalidConfiguredPath path =>
    "Configured path " ++ path.text ++ " is not a valid lsp jar."
  | .runtimeUnavailable => "No Java runtime is available to probe the server jar"
  | .io cause => "IO error: " ++ cause.message

end Distribution

end ServerLauncher
