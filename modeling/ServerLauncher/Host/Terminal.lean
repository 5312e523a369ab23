import ServerLauncher.Host.Notice
import ServerLauncher.Text.Blank
import ServerLauncher.Text.Utf8

/-!
This module contains the host for a user at a terminal, who reads what is written there and answers
questions line by line.
-/

namespace ServerLauncher

/--
A terminal: whether all questions are answered with yes, the configuration file that hints name, and
the bytes that are still to be read.
-/
structure Terminal where
  assumeYes : Bool
  configuration : Option Path
  input : List UInt8

namespace Terminal

/--
The text that tells what to change.
-/
def hint (t : Terminal) (key : Settings.Key) : String :=
  let place := match t.configuration with
    | some path => path.text
    | none => "the launcher config"
  "Set `" ++ key.tomlPath ++ "` (" ++ key.id ++ ") in " ++ place

def noticeText (t : Terminal) (notice : Notice) : String :=
  let hint := match notice.setting with
    | some key => "  hint: " ++ t.hint key ++ "\n"
    | none => ""
  notice.level.name ++ ": " ++ notice.message ++ "\n" ++ hint

/--
The text of a question, whose affirmative answer is called `label`.
-/
def questionText (t : Terminal) (message label : String) : String :=
  if t.assumeYes then message ++ " [" ++ label ++ ": yes]\n"
  else message ++ " " ++ label ++ "? [y/N] "

def restartText (reason : String) : String :=
  reason ++ ". Restart the Pkl language server to use it.\n"

/--
Read a line, which ends behind a line break or where the input ends.
-/
def takeLine (input : List UInt8) : List UInt8 × List UInt8 :=
  match input with
  | [] => ([], [])
  | b :: rest =>
    if b = '\n'.toUInt8 then ([b], rest)
    else
      let (line, behind) := takeLine rest
      (b :: line, behind)

def isYes (line : List UInt8) : Bool :=
  match Utf8.decode? line.toByteArray with
  | none => false
  | some text =>
    let answer := String.ofList ((Text.trimBlank text.toList).map Char.toLower)
    answer = "y" || answer = "yes"

def answer (t : Terminal) : Bool × Terminal :=
  if t.assumeYes then (true, t)
  else
    let (line, input) := takeLine t.input
    (isYes line, { t with input })

end Terminal

end ServerLauncher
