import ServerLauncher.Host.Journal
import ServerLauncher.Host.Terminal
import ServerLauncher.Url.Basic

/-!
This module contains what the launcher does that can be seen from outside, and the hosts that it does
it to: they show notices, answer questions and are told when to restart.
-/

namespace ServerLauncher

/--
Something that the launcher does and that can be seen from outside.
-/
inductive Event where
  | requested (url : Url)
  | notified (notice : Notice)
  | asked (message label : String)
  | restartRequested (reason : String)
deriving DecidableEq, Repr

/--
Who the launcher reports to.
-/
inductive Host where
  | terminal (terminal : Terminal)
  | journal (assumeYes : Bool)
  /-- One that always gives the same answer. -/
  | steady (answer : Bool)

namespace Host

def answer : Host → Bool × Host
  | .terminal t => (t.answer.1, .terminal t.answer.2)
  | .journal assumeYes => (assumeYes, .journal assumeYes)
  | .steady answer => (answer, .steady answer)

def terminalText : Host → Event → String
  | .terminal t, .notified notice => t.noticeText notice
  | .terminal t, .asked message label => t.questionText message label
  | .terminal _, .restartRequested reason => Terminal.restartText reason
  | _, _ => ""

def journalRecord? : Host → Event → Option Journal.Record
  | .journal _, .notified notice => some (Journal.noticeRecord notice)
  | .journal assumeYes, .asked message label =>
    some (Journal.questionRecord assumeYes message label)
  | .journal _, .restartRequested reason => some (Journal.restartRecord reason)
  | _, _ => none

end Host

end ServerLauncher
