import ServerLauncher.Host.Notice

/-!
This module contains the host for a launcher that talks to an editor. Nobody is there to be asked, and
all messages go to a log.
-/

namespace ServerLauncher.Journal

/--
A line of the log: how serious it is, who says it, and what.
-/
structure Record where
  level : String
  target : String
  text : String
deriving DecidableEq, Repr

/--
The name under which the host writes.
-/
def target : String := "pkl_lsp_launcher::host"

def levelName : Notice.Level → String
  | .info => "INFO"
  | .warning => "WARN"
  | .error => "ERROR"

def noticeRecord (notice : Notice) : Record :=
  let hint := match notice.setting with
    | some key => " (check `" ++ key.id ++ "`)"
    | none => ""
  ⟨levelName notice.level, target, notice.message ++ hint⟩

/--
The record of a question, whose affirmative answer is called `label`.
-/
def questionRecord (assumeYes : Bool) (message label : String) : Record :=
  let answer := if assumeYes then "yes" else "declined, not interactive"
  ⟨"INFO", target, message ++ " [" ++ label ++ ": " ++ answer ++ "]"⟩

def restartRecord (reason : String) : Record :=
  ⟨"WARN", target, reason ++ ". Restart the Pkl language server to use it."⟩

end ServerLauncher.Journal
