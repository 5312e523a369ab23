import ServerLauncher.Debounce
import ServerLauncher.Distribution.Resolver
import ServerLauncher.Java.Locator
import ServerLauncher.Launch.Command
import ServerLauncher.Settings.Store
import ServerLauncher.Update

/-!
This module contains the state of a launcher at work: the runtime and the distribution in use, the
tasks that are going on, and the server process.
-/

namespace ServerLauncher

/--
A task that goes on beside others. Tasks keep what they read from the settings when they began.
-/
inductive Task where
  /-- Find a runtime, the configured one if there is one. -/
  | findRuntime (configured : Option Path)
  /-- Choose between the downloaded and the bundled distributions. -/
  | chooseServer
  /-- Wait for a runtime to ask a configured jar with. -/
  | awaitRuntime (jar : Path)
  /-- Ask a configured jar. -/
  | probeServer (java jar : Path)
  /-- Look for a newer server. -/
  | checkUpdate (update : Update)
deriving DecidableEq, Repr

/--
Why a task is going on: because the launcher has started, or because of a changed setting.
-/
inductive Task.Origin where
  | start
  | change (key : Settings.Key)
deriving DecidableEq, Repr

/--
A watcher of the configuration file: the time of the change that it saw last, if there was a file,
and the time at which it looks again, in milliseconds.
-/
structure Watcher where
  path : Path
  lastSeen : Option Int
  next : Nat
deriving DecidableEq, Repr

/--
The number of milliseconds after which a watcher looks again.
-/
def Watcher.interval : Nat := 1000

/--
How far the server has come.
-/
inductive ServerState where
  | absent
  /-- Runtime and distribution are awaited; each is kept as it was first seen. -/
  | awaited (debugPort : Option UInt16) (runtime : Option Java.Runtime)
    (distribution : Option Distribution)
  /-- The process is there, and later publications are looked for. -/
  | serving (command : ServerCommand) (execution : Execution)
    (runtimeReader distributionReader : Settled.Reader)
  | ended (result : Except LauncherError Nat)

/--
Bytes that a server sends before it closes the connection, for a host and a port.
-/
abbrev Peers := String → UInt16 → Except String ByteArray

/--
A launcher. Times count milliseconds since it was made.
-/
structure Launcher where
  world : World
  store : Settings.Store
  locator : Java.Locator
  resolver : Distribution.Resolver
  debouncer : Debouncer Settings.Key Unit
  tasks : List (Task.Origin × Task)
  watchers : List Watcher
  server : ServerState
  /-- What the server has written to standard output. -/
  output : ByteArray
  cancelled : Bool
  clock : Nat

namespace Launcher

def defaultSocketHost : String := "localhost"

def new (world : World) (store : Settings.Store) (places : Java.Places)
    (resolver : Distribution.Resolver) (window : Nat) : Launcher where
  world
  store
  locator := .new places
  resolver
  debouncer := .new window
  tasks := []
  watchers := []
  server := .absent
  output := ByteArray.empty
  cancelled := false
  clock := 0

def ofSettings (world : World) (store : Settings.Store) : Launcher :=
  new world store (.ofEnvironment world.environment)
    (.ofSettings world.toMachine store.settings) Debouncer.defaultWindow

/--
Do something in the world of a launcher.
-/
def perform {α : Type} (l : Launcher) (action : Action α) : α × Launcher :=
  let (a, world) := action.run l.world
  (a, { l with world })

def findRuntime (l : Launcher) (configured : Option Path) : Launcher :=
  let found := Java.find l.world.toMachine l.locator.places configured
  let (locator, l) := l.perform (l.locator.settle found)
  { l with locator }

def addTask (l : Launcher) (origin : Task.Origin) (task : Task) : Launcher :=
  { l with tasks := l.tasks ++ [(origin, task)] }

/--
Begin to find the runtime and the distribution, as two independent tasks.
-/
def spawnResolution (l : Launcher) : Launcher :=
  let settings := l.store.settings
  let server := match settings.serverPath with
    | some jar => .awaitRuntime jar
    | none => .chooseServer
  (l.addTask .start (.findRuntime settings.javaPath)).addTask .start server

/--
Wait for a setting to be quiet.
-/
def reschedule (l : Launcher) (key : Settings.Key) : Launcher :=
  { l with
    -- What an earlier change has led to is given up, even half way.
    tasks := l.tasks.filter fun (origin, _) => origin ≠ .change key
    debouncer := l.debouncer.schedule l.clock key () }

/--
React to changed settings.
-/
def onSettingsChanged (l : Launcher) (keys : List Settings.Key) : Launcher :=
  keys.foldl (fun l key =>
    -- The others matter at the next start.
    if key = .javaPath ∨ key = .serverPath then l.reschedule key else l) l

/--
Replace the settings and react to what has changed.
-/
def applySettings (l : Launcher) (settings : Settings) : List Settings.Key × Launcher :=
  let (changed, store) := l.store.apply settings
  (changed, { l with store }.onSettingsChanged changed)

def watch (l : Launcher) (path : Path) : Launcher :=
  let watcher := ⟨path, l.world.files.modified? path, l.clock + Watcher.interval⟩
  { l with watchers := l.watchers ++ [watcher] }

/--
The update check for the settings, unless it is switched off or cannot be done.
-/
def updateCheck? (l : Launcher) : Option Update :=
  if l.store.settings.updateCheck then
    (Update.ofSettings l.world.environment l.store.settings).toOption
  else none

def spawnUpdateCheck (l : Launcher) : Launcher :=
  match l.updateCheck? with
  | some update => l.addTask .start (.checkUpdate update)
  | none => l

/--
Whether a program is asked to find the runtime for some settings.
-/
def asksForRuntime (l : Launcher) (settings : Settings) : Bool :=
  settings.javaPath.isSome || !l.locator.places.directories.isEmpty

/--
Find the runtime and then the distribution, and tell the first failure. While a program is being
asked, the other tasks may go on, which is what `meanwhile` does.
-/
def resolveAll (meanwhile : Launcher → Launcher) (l : Launcher) :
    Except LauncherError (Java.Runtime × Distribution) × Launcher :=
  let settings := l.store.settings
  let l := if l.asksForRuntime settings then meanwhile l else l
  let ((found, locator), l) := l.perform (l.locator.resolve settings)
  let l := { l with locator }
  match found with
  | .error e => (.error (.runtime e), l)
  | .ok runtime =>
    let l := if settings.serverPath.isSome then meanwhile l else l
    let ((chosen, resolver), l) := l.perform (l.resolver.resolve settings locator.cell.poll)
    let l := { l with resolver }
    match chosen with
    | some (.ok distribution) => (.ok (runtime, distribution), l)
    | some (.error e) => (.error (.distribution e), l)
    | none => (.error (.distribution .runtimeUnavailable), l)

/--
Connect to a running server and relay to it, which ends when the server closes.
-/
def runRelay (l : Launcher) (peers : Peers) (host : String) (port : UInt16) : Launcher :=
  match peers host port with
  | .error reason =>
    let place := host ++ ":" ++ toString port.toNat
    let cause := "cannot connect to " ++ place ++ ": " ++ reason
    { l with server := .ended (.error (.launch cause)) }
  | .ok bytes => { l with server := .ended (.ok 0), output := l.output ++ bytes }

/--
Begin to run a server: relay to the one that is configured, or begin to find what is needed to start
one.
-/
def run (l : Launcher) (peers : Peers) : Launcher :=
  let settings := l.store.settings
  match settings.socketPort with
  | some port => l.runRelay peers (settings.socketHost.getD defaultSocketHost) port
  | none => { l.spawnResolution with server := .awaited settings.debugPort none none }

/--
Ask everything that goes on to stop.
-/
def cancel (l : Launcher) : Launcher :=
  { l with cancelled := true }

end Launcher

end ServerLauncher
