import ServerLauncher.Java.Search
import ServerLauncher.Settled

/-!
This module contains the owner of the runtime in use, which finds it and finds another one when the
settings change.
-/

namespace ServerLauncher.Java

/--
The runtime in use, and where to search for one.
-/
structure Locator where
  places : Places
  cell : Settled Runtime

namespace Locator

def new (places : Places) : Locator := ⟨places, .pending⟩

/--
Publish a runtime that has been found, or tell the user why there is none.
-/
def settle (locator : Locator) (found : Except RuntimeError Runtime) : Action Locator :=
  match found with
  | .ok runtime => return { locator with cell := locator.cell.publish runtime }
  | .error e => do
    Action.notify ((Notice.warning e.message).withSetting .javaPath)
    return locator

/--
Find the runtime for the settings that the launcher starts with.
-/
def resolve (locator : Locator) (settings : Settings) :
    Action (Except RuntimeError Runtime × Locator) := do
  let found := find (← Action.machine) locator.places settings.javaPath
  return (found, ← locator.settle found)

/--
Find the runtime again after the settings have changed.
-/
def reconfigure (locator : Locator) (settings : Settings) :
    Action (Option (Except RuntimeError Runtime) × Locator) := do
  match settings.javaPath with
  -- If none is configured any more, the one in use stays.
  | none => return (none, locator)
  | some path =>
    let found := resolveConfigured (← Action.machine) path
    return (some found, ← locator.settle found)

end Locator

end ServerLauncher.Java
