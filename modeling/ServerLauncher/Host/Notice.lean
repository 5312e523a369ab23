import ServerLauncher.Settings.Basic

/-!
This module contains the messages that the launcher has for its user.
-/

namespace ServerLauncher

inductive Notice.Level where
  | info
  | warning
  | error
deriving DecidableEq, Repr

/--
A message for the user, and the setting that the user may want to change because of it.
-/
structure Notice where
  level : Notice.Level
  message : String
  setting : Option Settings.Key := none
deriving DecidableEq, Repr

namespace Notice

def Level.name : Level → String
  | .info => "info"
  | .warning => "warning"
  | .error => "error"

def info (message : String) : Notice := ⟨.info, message, none⟩

def warning (message : String) : Notice := ⟨.warning, message, none⟩

def error (message : String) : Notice := ⟨.error, message, none⟩

/--
The same notice, pointing to a setting in the place of the one that it may point to.
-/
def withSetting (notice : Notice) (key : Settings.Key) : Notice :=
  { notice with setting := some key }

end Notice

end ServerLauncher
