import ServerLauncher.Distribution.Basic
import ServerLauncher.Java.Runtime
import ServerLauncher.Registry.Client
import ServerLauncher.Settings.Load

/-!
This module contains everything that can go wrong in the launcher.
-/

namespace ServerLauncher

inductive LauncherError where
  | settings (cause : Settings.LoadError)
  | runtime (cause : Java.RuntimeError)
  | distribution (cause : Distribution.DistributionError)
  | registry (cause : Registry.RegistryError)
  | fetch (cause : Registry.FetchError)
  | launch (cause : String)
  | io (cause : IoError)
  | internal (cause : String)
deriving DecidableEq, Repr

def LauncherError.message : LauncherError → String
  | .settings cause => cause.message
  | .runtime cause => cause.message
  | .distribution cause => cause.message
  | .registry cause => cause.message
  | .fetch cause => cause.message
  | .launch cause => "Failed to launch pkl-lsp: " ++ cause
  | .io cause => "IO error: " ++ cause.message
  | .internal cause => "Internal error: " ++ cause

end ServerLauncher
