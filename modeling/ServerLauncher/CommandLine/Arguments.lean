import ServerLauncher.Path.Basic
import ServerLauncher.Version.Grammar

/-!
This module contains the reading of the launcher's command line.
-/

namespace ServerLauncher.CommandLine

inductive Command where
  | launch (assumeYes : Bool)
  | resolve (json : Bool)
  | checkUpdate (assumeYes noCache : Bool)
  | download (version : Option Version)
  | configPath
  | configCheck
deriving DecidableEq, Repr

/--
What a command line means: a command and the configuration file to use, a question about the launcher,
or nothing.
-/
inductive Meaning where
  | command (configuration : Option Path) (command : Command)
  | version
  | help
  | misuse
deriving DecidableEq, Repr

/--
Where on the command line the reading is: in front of the name of a command, behind that of the
commands for the configuration, or behind that of a complete command.
-/
inductive Scope where
  | top
  | config
  | inside (command : Command)
deriving DecidableEq, Repr

def Scope.enter? : Scope → String → Option Scope
  | .top, "launch" => some (.inside (.launch false))
  | .top, "resolve" => some (.inside (.resolve false))
  | .top, "check-update" => some (.inside (.checkUpdate false false))
  | .top, "download" => some (.inside (.download none))
  | .top, "config" => some .config
  | .config, "path" => some (.inside .configPath)
  | .config, "check" => some (.inside .configCheck)
  | .inside (.download none), text =>
    (Version.parse? text).map fun v => .inside (.download (some v))
  | _, _ => none

/--
The scope behind a flag. No flag may be given twice.
-/
def Scope.flag? : Scope → String → Option Scope
  | .inside (.launch false), "--yes" => some (.inside (.launch true))
  | .inside (.resolve false), "--json" => some (.inside (.resolve true))
  | .inside (.checkUpdate false noCache), "--yes" => some (.inside (.checkUpdate true noCache))
  | .inside (.checkUpdate yes false), "--no-cache" => some (.inside (.checkUpdate yes true))
  | _, _ => none

/--
What a command line means that ends in a scope. Without a command, the server is launched.
-/
def Scope.finish (scope : Scope) (configuration : Option Path) : Meaning :=
  match scope with
  | .top => .command configuration (.launch false)
  | .config => .misuse
  | .inside command => .command configuration command

def isOption (argument : String) : Bool :=
  argument.length ≠ 1 && argument.toList.head? = some '-'

/--
Read the arguments behind two dashes, none of which is an option.
-/
def readValues (scope : Scope) (configuration : Option Path) : List String → Meaning
  | [] => scope.finish configuration
  | argument :: rest =>
    match scope with
    | .inside command =>
      match (Scope.inside command).enter? argument with
      | some scope => readValues scope configuration rest
      | none => .misuse
    | _ => .misuse

def read (scope : Scope) (configuration : Option Path) : List String → Meaning
  | [] => scope.finish configuration
  | "--" :: rest => readValues scope configuration rest
  | "--config" :: value :: rest =>
    if isOption value ∨ value = "" ∨ configuration.isSome then .misuse
    else read scope (some ⟨value⟩) rest
  | argument :: rest =>
    if isOption argument then
      match Text.afterFront? "--config=".toList argument.toList with
      | some value =>
        if value.isEmpty ∨ configuration.isSome then .misuse
        else read scope (some ⟨String.ofList value⟩) rest
      | none =>
        if argument = "--help" ∨ (argument.toList.take 2) = ['-', 'h'] then .help
        else if scope = .top ∧ (argument = "--version" ∨ argument.toList.take 2 = ['-', 'V']) then
          .version
        else
          match scope.flag? argument with
          | some scope => read scope configuration rest
          | none => .misuse
    else
      match scope.enter? argument with
      | some scope => read scope configuration rest
      | none => .misuse

def parse (arguments : List String) : Meaning :=
  read .top none arguments

end ServerLauncher.CommandLine
