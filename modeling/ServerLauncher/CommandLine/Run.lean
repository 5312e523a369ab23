import ServerLauncher.CommandLine.Arguments
import ServerLauncher.Json.Quoted
import ServerLauncher.Launch.Schedule
import ServerLauncher.Settings.Load

/-!
This module contains the commands of the launcher: what each of them does in a world and what it
writes.
-/

namespace ServerLauncher.CommandLine

def versionText : String := "pkl-lsp-launcher 0.1.0\n"

def helpText : String :=
  "Launch the Pkl language server with a suitable Java runtime\n\n" ++
  "Usage: pkl-lsp-launcher [--config FILE] [COMMAND]\n\n" ++
  "Commands:\n" ++
  "  launch [--yes]                   run the server (the default)\n" ++
  "  resolve [--json]                 show the runtime and the server that would be used\n" ++
  "  check-update [--yes] [--no-cache]  look for a newer server\n" ++
  "  download [VERSION]               download a server\n" ++
  "  config path                      show the configuration file\n" ++
  "  config check                     check the configuration file\n"

/--
What a run of the launcher leaves behind: its exit code and what it has written.
-/
structure Report where
  code : Nat
  stdout : ByteArray
  stderr : String

/--
A run that ends, and the world behind it, or a launcher that goes on.
-/
inductive Outcome where
  | ended (report : Report) (world : World)
  | running (launcher : Launcher)

def errorLine (message : String) : String :=
  "Error: " ++ message ++ "\n"

/--
What the events in a world have written to the terminal.
-/
def terminalText (w : World) : String :=
  String.join (w.events.map w.host.terminalText)

def succeed (text : String) (w : World) : Outcome :=
  .ended ⟨0, text.toUTF8, terminalText w⟩ w

def fail (message : String) (w : World) : Outcome :=
  .ended ⟨1, ByteArray.empty, terminalText w ++ errorLine message⟩ w

/--
The settings of a configuration file, if there is one.
-/
def loadStrict (w : World) (configuration : Option Path) : Except LauncherError Settings :=
  match configuration with
  | none => .ok {}
  | some path =>
    match Settings.load w.files w.environment.home path with
    | .ok settings => .ok settings
    | .error e => .error (.settings e)

/--
Exit codes are bytes. One that is none counts as failure.
-/
def exitByte (code : Nat) : Nat :=
  if code < 256 then code else 1

/--
Run the server.
-/
def launch (w : World) (peers : Peers) (configuration : Option Path) (assumeYes : Bool) :
    Outcome :=
  let w := { w with host := .journal assumeYes }
  -- A broken configuration does not keep the server from running.
  let settings := (loadStrict w configuration).toOption.getD {}
  let launcher := Launcher.ofSettings w ⟨settings, configuration⟩
  let launcher := match configuration with
    | some path => launcher.watch path
    | none => launcher
  let launcher := (launcher.spawnUpdateCheck.run peers).calm
  match launcher.server with
  | .ended (.ok code) => .ended ⟨exitByte code, launcher.output, ""⟩ launcher.world
  | .ended (.error e) => .ended ⟨1, launcher.output, errorLine e.message⟩ launcher.world
  | _ => .running launcher

/--
A terminal that the user sits at.
-/
def withTerminal (w : World) (assumeYes : Bool) (configuration : Option Path) : World :=
  match w.host with
  | .terminal t => { w with host := .terminal ⟨assumeYes, configuration, t.input⟩ }
  | _ => { w with host := .terminal ⟨assumeYes, configuration, []⟩ }

def resolvedText (runtime : Java.Runtime) (d : Distribution) : String :=
  "java:    " ++ runtime.path.text ++ " (version " ++ toString runtime.version ++ ")\n" ++
    "pkl-lsp: " ++ d.path.text ++ " (version " ++ d.version.text ++ ", " ++ d.source.name ++ ")\n"

def resolvedJson (runtime : Java.Runtime) (d : Distribution) : String :=
  "\x7b\n" ++
  "  \"distribution\": \x7b\n" ++
  "    \"path\": " ++ Json.quote d.path.text ++ ",\n" ++
  "    \"source\": " ++ Json.quote d.source.name ++ ",\n" ++
  "    \"version\": " ++ Json.quote d.version.text ++ "\n" ++
  "  \x7d,\n" ++
  "  \"runtime\": \x7b\n" ++
  "    \"path\": " ++ Json.quote runtime.path.text ++ ",\n" ++
  "    \"version\": " ++ toString runtime.version ++ "\n" ++
  "  \x7d\n" ++
  "\x7d\n"

def resolve (w : World) (configuration : Option Path) (json : Bool) : Outcome :=
  let w := withTerminal w false configuration
  match loadStrict w configuration with
  | .error e => fail e.message w
  | .ok settings =>
    match (Launcher.ofSettings w ⟨settings, configuration⟩).resolveAll id with
    | (.error e, launcher) => fail e.message launcher.world
    | (.ok (runtime, d), launcher) =>
      succeed (if json then resolvedJson runtime d else resolvedText runtime d) launcher.world

/--
The line that tells what an update check has led to, if it has not failed.
-/
def outcomeLine : Update.Outcome → Except LauncherError String
  | .incompatible latest =>
    .ok ("Latest pkl-lsp " ++ latest.text ++ " is not compatible with this launcher\n")
  | .alreadyDownloaded latest =>
    .ok ("Latest pkl-lsp " ++ latest.text ++ " is already downloaded\n")
  | .upToDate latest => .ok ("Up to date (latest pkl-lsp is " ++ latest.text ++ ")\n")
  | .declined latest => .ok ("Skipped pkl-lsp " ++ latest.text ++ "\n")
  | .downloaded version path =>
    .ok ("Downloaded pkl-lsp " ++ version.text ++ " to " ++ path.text ++ "\n")
  | .failed cause => .error cause

def loadUpdate (w : World) (configuration : Option Path) : Except LauncherError Update := do
  let settings ← loadStrict w configuration
  Update.ofSettings w.environment settings

def checkUpdate (w : World) (configuration : Option Path) (assumeYes noCache : Bool) : Outcome :=
  let w := withTerminal w assumeYes configuration
  match loadUpdate w configuration with
  | .error e => fail e.message w
  | .ok update =>
    let (outcome, after) := ({ update with useCache := !noCache }.check).run w
    match outcomeLine outcome with
    | .ok line => succeed line after
    | .error cause => fail cause.message after

def download (w : World) (configuration : Option Path) (version : Option Version) : Outcome :=
  let w := withTerminal w false configuration
  match loadUpdate w configuration with
  | .error e => fail e.message w
  | .ok update =>
    match ((update.download version).run).run w with
    | (.error e, after) => fail e.message after
    | (.ok d, after) =>
      succeed ("pkl-lsp " ++ d.version.text ++ " is at " ++ d.path.text ++ "\n") after

def noConfiguration : String :=
  "Could not determine the configuration directory. Please pass --config."

/--
Check the configuration file.
-/
def configCheck (w : World) (path : Path) : Outcome :=
  -- One that does not exist is as good as a valid one.
  if !w.files.contains path then
    succeed (path.text ++ " does not exist; defaults are used\n") w
  else
    match loadStrict w (some path) with
    | .ok _ => succeed (path.text ++ " is valid\n") w
    | .error e => fail e.message w

def carryOut (w : World) (peers : Peers) (configuration : Option Path) : Command → Outcome
  | .launch assumeYes => launch w peers configuration assumeYes
  | .resolve json => resolve w configuration json
  | .checkUpdate assumeYes noCache => checkUpdate w configuration assumeYes noCache
  | .download version => download w configuration version
  | .configPath =>
    match configuration with
    | some path => succeed (path.text ++ "\n") w
    | none => fail noConfiguration w
  | .configCheck =>
    match configuration with
    | some path => configCheck w path
    | none => fail noConfiguration w

def run (w : World) (peers : Peers) (arguments : List String) : Outcome :=
  match parse arguments with
  | .command configuration command =>
    carryOut w peers (configuration.or w.environment.configPath?) command
  | .version => .ended ⟨0, versionText.toUTF8, ""⟩ w
  | .help => .ended ⟨0, helpText.toUTF8, ""⟩ w
  | .misuse => .ended ⟨2, ByteArray.empty, errorLine "wrong usage; try --help"⟩ w

end ServerLauncher.CommandLine
