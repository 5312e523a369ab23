import ServerLauncher.FileSystem.Operations
import ServerLauncher.Settings.Decode

/-!
This module contains the loading of settings from a configuration file.
-/

namespace ServerLauncher.Settings

inductive LoadError where
  | unreadable (path : Path) (cause : IoError)
  | invalid (path : Path) (cause : Fault)
deriving DecidableEq, Repr

/--
The part of a message in front of the reason why the text of the file is no configuration.
-/
def invalidIn (path : Path) : String :=
  "Invalid configuration in " ++ path.text

def LoadError.message : LoadError → String
  | .unreadable path cause => "Failed to read " ++ path.text ++ ": " ++ cause.message
  | .invalid path cause => invalidIn path ++ ": " ++ cause.message

/--
Load the settings from a file. If there is no such file, nothing is configured.
-/
def load (files : FileSystem) (home : Option Path) (path : Path) : Except LoadError Settings :=
  match files.readText path with
  | .error .notFound => .ok {}
  | .error cause => .error (.unreadable path cause)
  | .ok text =>
    match parse home text with
    | .ok settings => .ok settings
    | .error cause => .error (.invalid path cause)

end ServerLauncher.Settings
