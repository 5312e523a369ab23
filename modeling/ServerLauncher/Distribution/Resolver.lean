import ServerLauncher.Distribution.Cache
import ServerLauncher.Java.Runtime
import ServerLauncher.Settled
import ServerLauncher.World

/-!
This module contains the owner of the distribution in use, which chooses it and chooses another one
when the settings change.
-/

namespace ServerLauncher.Distribution

def probe (m : Machine) (java jar : Path) : Option Version :=
  match m.run java ["-jar", jar.text, "--version"] with
  | .ok execution =>
    if execution.succeeded then parseVersion? (Utf8.decodeLossy execution.stdout) else none
  | .error _ => none

/--
The distribution that came with the launcher.
-/
def bundledBy (settings : Settings) (executable : Path) : Distribution where
  -- Beside the launcher's executable, unless configured otherwise.
  path := settings.bundledPath.getD
    (match executable.parent? with
      | some directory => directory / bundledName
      | none => ⟨bundledName⟩)
  version := settings.bundledVersion.getD bundledVersion
  source := .bundled

/--
The distribution in use, and those to choose from.
-/
structure Resolver where
  bundled : Distribution
  cache : Option Cache
  cell : Settled Distribution

namespace Resolver

def new (bundled : Distribution) (cache : Option Cache) : Resolver :=
  ⟨bundled, cache, .pending⟩

def ofSettings (m : Machine) (settings : Settings) : Resolver :=
  let root := settings.cacheDirectory.or m.environment.distributionsDirectory?
  new (bundledBy settings m.executable) (root.map Cache.mk)

def publish (resolver : Resolver) (d : Distribution) : Resolver :=
  { resolver with cell := resolver.cell.publish d }

/--
The distribution to run if none is configured.
-/
def chooseUnconfigured (resolver : Resolver) (files : FileSystem) : Distribution :=
  let downloaded := resolver.cache.bind fun cache =>
    cache.bestCompatible files resolver.bundled.version
  select none downloaded resolver.bundled

/--
What to tell the user about a version that the launcher was not made for.
-/
def incompatibleNotice (v : Version) : Notice :=
  .warning ("This version of pkl-lsp-launcher is not compatible with pkl-lsp version " ++ v.text ++
    ". Features are not guaranteed to work.")

/--
Take a configured jar that has been asked for its version, or tell the user why it cannot be used.
-/
def settleProbed (resolver : Resolver) (path : Path) (version : Option Version) :
    Action (Except DistributionError Distribution × Resolver) := do
  match version with
  | none =>
    let e : DistributionError := .invalidConfiguredPath path
    Action.notify ((Notice.warning e.message).withSetting .serverPath)
    return (.error e, resolver)
  | some v =>
    -- It is used all the same, since the user has asked for it.
    if !v.isCompatibleWith resolver.bundled.version then
      Action.notify (incompatibleNotice v)
    let chosen : Distribution := ⟨path, v, .configured⟩
    return (.ok chosen, resolver.publish chosen)

/--
Tell the user that there is no runtime to ask a configured jar with.
-/
def failUnavailable (resolver : Resolver) :
    Action (Except DistributionError Distribution × Resolver) := do
  let e : DistributionError := .runtimeUnavailable
  Action.notify ((Notice.error e.message).withSetting .javaPath)
  return (.error e, resolver)

/--
Use a configured jar once there is a runtime to ask it with. Nothing comes of it as long as the
runtime is pending.
-/
def useConfigured (resolver : Resolver) (path : Path) (runtime : Settled.Poll Java.Runtime) :
    Action (Option (Except DistributionError Distribution) × Resolver) := do
  match runtime with
  | .waiting => return (none, resolver)
  | .closed =>
    let (result, resolver) ← resolver.failUnavailable
    return (some result, resolver)
  | .value runtime =>
    let version := probe (← Action.machine) runtime.path path
    let (result, resolver) ← resolver.settleProbed path version
    return (some result, resolver)

/--
Choose the distribution for the settings that the launcher starts with.
-/
def resolve (resolver : Resolver) (settings : Settings) (runtime : Settled.Poll Java.Runtime) :
    Action (Option (Except DistributionError Distribution) × Resolver) := do
  match settings.serverPath with
  | some path => resolver.useConfigured path runtime
  | none =>
    let chosen := resolver.chooseUnconfigured (← Action.machine).files
    return (some (.ok chosen), resolver.publish chosen)

/--
Choose the distribution again after the settings have changed.
-/
def reconfigure (resolver : Resolver) (settings : Settings)
    (runtime : Settled.Poll Java.Runtime) :
    Action (Option (Option (Except DistributionError Distribution)) × Resolver) := do
  match settings.serverPath with
  -- If none is configured any more, the one in use stays.
  | none => return (none, resolver)
  | some path =>
    let (result, resolver) ← resolver.useConfigured path runtime
    return (some result, resolver)

end Resolver

end ServerLauncher.Distribution
