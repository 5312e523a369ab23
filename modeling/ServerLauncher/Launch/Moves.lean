import ServerLauncher.Launch.State

/-!
This module contains the steps that a launcher takes by itself. Which of the possible steps is taken
next is left open; a run of the launcher is a list of steps.
-/

namespace ServerLauncher.Launcher

inductive Move where
  /-- Keep the runtime that the server is to run with. -/
  | observeRuntime
  /-- Keep the distribution that the server is to run. -/
  | observeDistribution
  /-- Start the server with what has been kept. -/
  | startServer
  /-- Kill the server because of a cancellation. -/
  | killServer
  /-- Tell that another runtime has been published. -/
  | noticeRuntime
  /-- Tell that another distribution has been published. -/
  | noticeDistribution
  /-- The server ends by itself. -/
  | endServer
  /-- A setting has been quiet for long enough. -/
  | fire (key : Settings.Key)
  /-- Go on with the task at a place in the list. -/
  | advance (index : Nat)
  /-- A watcher looks at the configuration file. -/
  | look (index : Nat)
deriving DecidableEq, Repr

def runtimeReason (runtime : Java.Runtime) : String :=
  "Java runtime changed to " ++ runtime.path.text ++ " (version " ++ toString runtime.version ++ ")"

def distributionReason (d : Distribution) : String :=
  "pkl-lsp distribution changed to " ++ d.version.text ++ " (" ++ d.path.text ++ ")"

/--
Start the server process.
-/
def spawn (l : Launcher) (command : ServerCommand) : Launcher :=
  match l.world.toMachine.run command.program command.arguments with
  | .ok execution =>
    -- Everything published so far counts as seen, whether or not the server runs with it.
    let server := .serving command execution l.locator.cell.reader l.resolver.cell.reader
    { l with server, output := l.output ++ execution.stdout }
  | .error e =>
    { l with server := .ended (.error (.launch (command.program.text ++ ": " ++ e.message))) }

/--
The exit code that the end of a process counts as.
-/
def exitCode? : Ending → Option Nat
  | .exited code => some code
  | .killed => some 1
  | .never => none

/--
Begin what a setting that has been quiet for long enough calls for.
-/
def handle (l : Launcher) (key : Settings.Key) : Launcher :=
  let settings := l.store.settings
  match key, settings.javaPath, settings.serverPath with
  | .javaPath, some path, _ => l.addTask (.change key) (.findRuntime (some path))
  | .serverPath, _, some jar => l.addTask (.change key) (.awaitRuntime jar)
  -- A path that is not set any more calls for nothing.
  | _, _, _ => l

/--
Go on with a task, and tell what is left of it.
-/
def advanceTask (l : Launcher) : Task → Option (Option Task × Launcher)
  | .findRuntime configured => some (none, l.findRuntime configured)
  | .chooseServer =>
    let chosen := l.resolver.chooseUnconfigured l.world.files
    some (none, { l with resolver := l.resolver.publish chosen })
  | .awaitRuntime jar =>
    match l.locator.cell.poll with
    | .waiting => none
    | .value runtime => some (some (.probeServer runtime.path jar), l)
    | .closed =>
      let ((_, resolver), l) := l.perform l.resolver.failUnavailable
      some (none, { l with resolver })
  | .probeServer java jar =>
    let version := Distribution.probe l.world.toMachine java jar
    let ((_, resolver), l) := l.perform (l.resolver.settleProbed jar version)
    some (none, { l with resolver })
  | .checkUpdate update =>
    let (_, l) := l.perform update.check
    some (none, l)

/--
Let a watcher look at the configuration file, which is loaded if it has changed.
-/
def lookAt (l : Launcher) (watcher : Watcher) : Watcher × Launcher :=
  let current := l.world.files.modified? watcher.path
  let next := { watcher with lastSeen := current, next := watcher.next + Watcher.interval }
  if current = watcher.lastSeen then (next, l)
  else
    match Settings.load l.world.files l.world.environment.home watcher.path with
    | .ok settings => (next, (l.applySettings settings).2)
    | .error e =>
      let notice := Notice.warning (e.message ++ ". Keeping the previous settings.")
      (next, (l.perform (Action.notify notice)).2)

/--
Take a step, if it is possible.
-/
def step? (l : Launcher) : Move → Option Launcher
  | .observeRuntime =>
    match l.server, l.locator.cell.current with
    | .awaited port none distribution, some runtime =>
      some { l with server := .awaited port (some runtime) distribution }
    | _, _ => none
  | .observeDistribution =>
    match l.server, l.resolver.cell.current with
    | .awaited port runtime none, some distribution =>
      some { l with server := .awaited port runtime (some distribution) }
    | _, _ => none
  | .startServer =>
    match l.server with
    | .awaited port (some runtime) (some distribution) =>
      some (l.spawn (.forDistribution runtime distribution port))
    | _ => none
  | .killServer =>
    match l.server with
    | .serving _ _ _ _ => if l.cancelled then some { l with server := .ended (.ok 0) } else none
    | _ => none
  | .noticeRuntime =>
    match l.server with
    | .serving command execution runtimeReader distributionReader =>
      match l.locator.cell.pollChange runtimeReader with
      | (.value runtime, reader) =>
        let l := { l with server := .serving command execution reader distributionReader }
        some (l.perform (Action.requestRestart (runtimeReason runtime))).2
      | _ => none
    | _ => none
  | .noticeDistribution =>
    match l.server with
    | .serving command execution runtimeReader distributionReader =>
      match l.resolver.cell.pollChange distributionReader with
      | (.value distribution, reader) =>
        let l := { l with server := .serving command execution runtimeReader reader }
        some (l.perform (Action.requestRestart (distributionReason distribution))).2
      | _ => none
    | _ => none
  | .endServer =>
    match l.server with
    | .serving _ execution _ _ =>
      (exitCode? execution.ending).map fun code => { l with server := .ended (.ok code) }
    | _ => none
  | .fire key =>
    match l.debouncer.timers.get? key with
    | some (time, ()) =>
      if time ≤ l.clock then
        some ({ l with debouncer := l.debouncer.cancel key }.handle key)
      else none
    | none => none
  | .advance index =>
    match l.tasks[index]? with
    | some (origin, task) =>
      match l.advanceTask task with
      | some (left, l) =>
        let rest := l.tasks.eraseIdx index
        let tasks := match left with
          | some task => rest ++ [(origin, task)]
          | none => rest
        some { l with tasks }
      | none => none
    | none => none
  | .look index =>
    match l.watchers[index]? with
    | some watcher =>
      if watcher.next ≤ l.clock ∧ !l.cancelled then
        let (watcher, l) := l.lookAt watcher
        some { l with watchers := l.watchers.set index watcher }
      else none
    | none => none

/--
Take several steps. Steps that are not possible are left out.
-/
def runMoves (l : Launcher) (moves : List Move) : Launcher :=
  moves.foldl (fun l move => (l.step? move).getD l) l

end ServerLauncher.Launcher
