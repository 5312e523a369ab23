import ServerLauncher.Proofs.CommandLine.Launching
import ServerLauncher.Proofs.Settings.Loading

/-!
This module contains what the check of the configuration file promises about the commands that load it.
The check only loads what it can find, while a command loads the file unless nothing is there: a path
that cannot even be followed passes the check and stops every command.
-/

namespace ServerLauncher.CommandLine

open Settings (load_of_notFound load_of_lookup_error)

/--
The exit code of a run that has ended.
-/
def Outcome.code? : Outcome → Option Nat
  | .ended report _ => some report.code
  | .running _ => none

/--
The commands that do nothing without the settings of a configuration that is not broken.
-/
inductive StrictCommand where
  | resolve (json : Bool)
  | checkUpdate (assumeYes noCache : Bool)
  | download (version : Option Version)

namespace StrictCommand

def command : StrictCommand → Command
  | .resolve json => .resolve json
  | .checkUpdate assumeYes noCache => .checkUpdate assumeYes noCache
  | .download version => .download version

/--
Whether the command has been given the answer to its questions.
-/
def assumesYes : StrictCommand → Bool
  | .checkUpdate assumeYes _ => assumeYes
  | _ => false

end StrictCommand

def resolveWith (w : World) (configuration : Option Path) (settings : Settings) (json : Bool) :
    Outcome :=
  match (Launcher.ofSettings w ⟨settings, configuration⟩).resolveAll id with
  | (.error e, launcher) => fail e.message launcher.world
  | (.ok (runtime, d), launcher) => succeed (shown json runtime d) launcher.world

def checkUpdateWith (w : World) (settings : Settings) (noCache : Bool) : Outcome :=
  match Update.ofSettings w.environment settings with
  | .error e => fail e.message w
  | .ok update =>
    let (outcome, after) := ({ update with useCache := !noCache }.check).run w
    match outcomeLine outcome with
    | .ok line => succeed line after
    | .error cause => fail cause.message after

def downloadWith (w : World) (settings : Settings) (version : Option Version) : Outcome :=
  match Update.ofSettings w.environment settings with
  | .error e => fail e.message w
  | .ok update =>
    match ((update.download version).run).run w with
    | (.error e, after) => fail e.message after
    | (.ok d, after) =>
      succeed ("pkl-lsp " ++ d.version.text ++ " is at " ++ d.path.text ++ "\n") after

/--
What is left of a command once the settings are loaded, at its terminal.
-/
def carryOn (w : World) (configuration : Option Path) (settings : Settings) :
    StrictCommand → Outcome
  | .resolve json => resolveWith w configuration settings json
  | .checkUpdate _ noCache => checkUpdateWith w settings noCache
  | .download version => downloadWith w settings version

/--
The world that a command finds when it has taken its seat at the terminal.
-/
def seated (w : World) (path : Path) (command : StrictCommand) : World :=
  withTerminal w command.assumesYes (some path)

/--
A command has got past loading its configuration: it goes on with the settings that it has loaded.
-/
def GetsPastLoading (w : World) (peers : Peers) (path : Path) (command : StrictCommand) :
    Prop :=
  ∃ settings, Settings.load w.files w.environment.home path = .ok settings ∧
    carryOut w peers (some path) command.command =
      carryOn (seated w path command) (some path) settings command

/--
A command has stopped because it could not load its configuration, and does not do anything else.
-/
def StopsAtLoading (w : World) (peers : Peers) (path : Path) (command : StrictCommand)
    (e : Settings.LoadError) : Prop :=
  Settings.load w.files w.environment.home path = .error e ∧
    carryOut w peers (some path) command.command = fail e.message (seated w path command)

variable {w : World} {peers : Peers} {path : Path} {command : StrictCommand} {settings : Settings}

theorem loadStrict_some_of_ok (h : Settings.load w.files w.environment.home path = .ok settings) :
    loadStrict w (some path) = .ok settings := by
  unfold loadStrict
  dsimp only
  rw [h]

theorem loadStrict_some_of_error {e : Settings.LoadError}
    (h : Settings.load w.files w.environment.home path = .error e) :
    loadStrict w (some path) = .error (.settings e) := by
  unfold loadStrict
  dsimp only
  rw [h]

theorem loadUpdate_eq (w : World) (assumeYes : Bool) (configuration : Option Path) :
    loadUpdate (withTerminal w assumeYes configuration) configuration =
      match loadStrict w configuration with
      | .error e => .error e
      | .ok settings => Update.ofSettings w.environment settings := by
  have hmachine := toMachine_withTerminal w assumeYes configuration
  unfold loadUpdate
  rw [loadStrict_congr hmachine, hmachine]
  cases loadStrict w configuration <;> rfl

theorem resolve_eq_load (w : World) (configuration : Option Path) (json : Bool) :
    resolve w configuration json =
      match loadStrict w configuration with
      | .error e => fail e.message (withTerminal w false configuration)
      | .ok settings =>
        resolveWith (withTerminal w false configuration) configuration settings json := by
  have hmachine := toMachine_withTerminal w false configuration
  unfold resolve
  dsimp only
  rw [loadStrict_congr hmachine]
  cases loadStrict w configuration <;> rfl

theorem checkUpdate_eq_load (w : World) (configuration : Option Path) (assumeYes noCache : Bool) :
    checkUpdate w configuration assumeYes noCache =
      match loadStrict w configuration with
      | .error e => fail e.message (withTerminal w assumeYes configuration)
      | .ok settings =>
        checkUpdateWith (withTerminal w assumeYes configuration) settings noCache := by
  unfold checkUpdate checkUpdateWith
  dsimp only
  rw [loadUpdate_eq, toMachine_withTerminal]
  cases loadStrict w configuration <;> rfl

theorem download_eq_load (w : World) (configuration : Option Path) (version : Option Version) :
    download w configuration version =
      match loadStrict w configuration with
      | .error e => fail e.message (withTerminal w false configuration)
      | .ok settings =>
        downloadWith (withTerminal w false configuration) settings version := by
  unfold download downloadWith
  dsimp only
  rw [loadUpdate_eq, toMachine_withTerminal]
  cases loadStrict w configuration <;> rfl

/--
Each of the commands first loads its configuration, and then does nothing else if that fails.
-/
theorem carryOut_command (w : World) (peers : Peers) (path : Path) (command : StrictCommand) :
    carryOut w peers (some path) command.command =
      match loadStrict w (some path) with
      | .error e => fail e.message (seated w path command)
      | .ok settings => carryOn (seated w path command) (some path) settings command :=
  match command with
  | .resolve json => resolve_eq_load w (some path) json
  | .checkUpdate assumeYes noCache => checkUpdate_eq_load w (some path) assumeYes noCache
  | .download version => download_eq_load w (some path) version

theorem getsPastLoading_of_ok
    (h : Settings.load w.files w.environment.home path = .ok settings) :
    GetsPastLoading w peers path command := by
  refine ⟨settings, h, ?_⟩
  rw [carryOut_command, loadStrict_some_of_ok h]

theorem stopsAtLoading_of_error {e : Settings.LoadError}
    (h : Settings.load w.files w.environment.home path = .error e) :
    StopsAtLoading w peers path command e := by
  refine ⟨h, ?_⟩
  rw [carryOut_command, loadStrict_some_of_error h]
  rfl

/--
A command gets past loading its configuration exactly if that can be loaded.
-/
theorem getsPastLoading_iff :
    GetsPastLoading w peers path command ↔
      ∃ settings, Settings.load w.files w.environment.home path = .ok settings := by
  constructor
  . intro ⟨settings, h, _⟩
    exact ⟨settings, h⟩
  . intro ⟨settings, h⟩
    exact getsPastLoading_of_ok h

def missingText (path : Path) : String :=
  path.text ++ " does not exist; defaults are used\n"

theorem configCheck_of_lookup_error {e : IoError} (h : w.files.lookup path = .error e) :
    configCheck w path = succeed (missingText path) w := by
  have hcontains : w.files.contains path = false := by
    unfold FileSystem.contains
    rw [h]
    rfl
  unfold configCheck
  rw [hcontains]
  rfl

theorem configCheck_of_lookup_ok {found : Location × Entry} (h : w.files.lookup path = .ok found) :
    configCheck w path =
      match Settings.load w.files w.environment.home path with
      | .ok _ => succeed (path.text ++ " is valid\n") w
      | .error e => fail e.message w := by
  have hcontains : w.files.contains path = true := by
    unfold FileSystem.contains
    rw [h]
    rfl
  unfold configCheck
  rw [hcontains]
  cases hload : Settings.load w.files w.environment.home path with
  | ok settings =>
    rw [loadStrict_some_of_ok hload]
    rfl
  | error e =>
    rw [loadStrict_some_of_error hload]
    rfl

/--
The check passes exactly if the configuration can be loaded or its path cannot be followed.
-/
theorem code?_configCheck :
    (configCheck w path).code? = some 0 ↔
      (∃ settings, Settings.load w.files w.environment.home path = .ok settings) ∨
        ∃ e, e ≠ .notFound ∧ w.files.lookup path = .error e := by
  cases hlookup : w.files.lookup path with
  | ok found =>
    rw [configCheck_of_lookup_ok hlookup]
    cases Settings.load w.files w.environment.home path with
    | ok settings => exact ⟨fun _ => .inl ⟨settings, rfl⟩, fun _ => rfl⟩
    | error e =>
      constructor
      . intro h
        cases h
      . intro h
        obtain ⟨_, h⟩ | ⟨_, _, h⟩ := h <;> cases h
  | error e =>
    rw [configCheck_of_lookup_error hlookup]
    refine ⟨fun _ => ?_, fun _ => rfl⟩
    by_cases he : e = .notFound
    . rw [he] at hlookup
      exact .inl ⟨_, load_of_notFound hlookup⟩
    . exact .inr ⟨e, he, rfl⟩

/--
The check of a configuration file and the commands that load the file agree on every path but one that
cannot be followed for another reason than that something is missing, such as one that leads through a
file. There the check finds nothing wrong, and each command fails because it cannot read the file.
-/
theorem checked_iff_loaded_or_blocked (w : World) (peers : Peers) (path : Path) :
    ((carryOut w peers (some path) .configCheck).code? = some 0 ↔
      (∃ settings, Settings.load w.files w.environment.home path = .ok settings) ∨
        ∃ e, e ≠ .notFound ∧ w.files.lookup path = .error e) ∧
    (∀ command : StrictCommand,
      (GetsPastLoading w peers path command ↔
        ∃ settings, Settings.load w.files w.environment.home path = .ok settings) ∧
      ∀ e, Settings.load w.files w.environment.home path = .error e →
        StopsAtLoading w peers path command e) ∧
    ∀ e, e ≠ .notFound → w.files.lookup path = .error e →
      carryOut w peers (some path) .configCheck = succeed (missingText path) w ∧
      ∀ command : StrictCommand,
        StopsAtLoading w peers path command (.unreadable path e) := by
  refine ⟨code?_configCheck, ?_, ?_⟩
  . intro command
    exact ⟨getsPastLoading_iff, fun e h => stopsAtLoading_of_error h⟩
  . intro e he hlookup
    refine ⟨configCheck_of_lookup_error hlookup, ?_⟩
    intro command
    exact stopsAtLoading_of_error (load_of_lookup_error hlookup he)

/--
A world with nothing but a file in it.
-/
def blockedWorld : World :=
  { Update.firstWorld with
    files := {
      Update.firstWorld.files with
      entries := [(["f"], .file "x".toUTF8 0 none)] } }

/--
The check passes a path through a file, which no command can load.
-/
theorem exists_checked_not_loaded :
    ∃ (w : World) (path : Path),
      (∀ settings, Settings.load w.files w.environment.home path ≠ .ok settings) ∧
        ∀ peers : Peers, (carryOut w peers (some path) .configCheck).code? = some 0 ∧
          ∀ command : StrictCommand, ¬GetsPastLoading w peers path command := by
  have hlookup : blockedWorld.files.lookup "/f/c.toml" = .error .notADirectory := by
    rfl
  have hload := load_of_lookup_error hlookup (by decide)
  have hnone : ∀ settings,
      Settings.load blockedWorld.files blockedWorld.environment.home "/f/c.toml" ≠ .ok settings := by
    intro settings h
    rw [hload] at h
    cases h
  refine ⟨blockedWorld, "/f/c.toml", hnone, ?_⟩
  intro peers
  refine ⟨code?_configCheck.2 (.inr ⟨_, by decide, hlookup⟩), ?_⟩
  intro command hpast
  obtain ⟨settings, h⟩ := getsPastLoading_iff.1 hpast
  exact hnone settings h

end ServerLauncher.CommandLine
