import ServerLauncher.Environment
import ServerLauncher.FileSystem.Operations
import ServerLauncher.Host.Basic
import ServerLauncher.Http.Basic

/-!
This module contains the surroundings of the launcher, and the actions that depend on them and leave
their traces in them.
-/

namespace ServerLauncher

/--
What the launcher finds on the machine that it runs on.
-/
structure Machine where
  files : FileSystem
  environment : Environment
  /-- The executable of the launcher. -/
  executable : Path

/--
Run a program and wait for it.
-/
def Machine.run (m : Machine) (command : Path) (arguments : List String) :
    Except IoError Execution :=
  m.files.run m.environment.commandDirectories command arguments

/--
The machine together with the time, the web and the host, and with what has been done so far.
-/
structure World extends Machine where
  /-- Nanoseconds since the epoch. -/
  now : Int
  web : Http.Web
  host : Host
  events : List Event

/--
Something that the launcher does.
-/
abbrev Action (α : Type) := StateM World α

/--
Something that the launcher does and that may fail. What it has done before that stays done.
-/
abbrev Attempt (ε α : Type) := ExceptT ε (StateM World) α

/--
Something that has failed or succeeded already.
-/
def Attempt.ofExcept {ε α : Type} (result : Except ε α) : Attempt ε α :=
  ExceptT.mk (pure result)

namespace World

def requests (w : World) : List Url :=
  w.events.filterMap fun
    | .requested url => some url
    | _ => none

def record (w : World) (event : Event) : World :=
  { w with events := w.events ++ [event] }

def withFiles (w : World) (files : FileSystem) : World :=
  { w with files }

end World

namespace Action

def notify (notice : Notice) : Action Unit :=
  modify (·.record (.notified notice))

/--
Ask the user a question, whose affirmative answer is called `label`.
-/
def ask (message label : String) : Action Bool :=
  modifyGet fun w =>
    let (answer, host) := w.host.answer
    (answer, { w.record (.asked message label) with host })

def requestRestart (reason : String) : Action Unit :=
  modify (·.record (.restartRequested reason))

def request (url : Url) : Action (Option Http.Response) :=
  modifyGet fun w => (w.web w.requests url, w.record (.requested url))

/--
The machine as it is now.
-/
def machine : Action Machine :=
  (·.toMachine) <$> get

def setFiles (files : FileSystem) : Action Unit :=
  modify (·.withFiles files)

end Action

end ServerLauncher
