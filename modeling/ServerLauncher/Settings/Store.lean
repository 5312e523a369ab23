import ServerLauncher.Settings.Basic

/-!
This module contains the place where the settings in use are kept while the launcher runs.
-/

namespace ServerLauncher.Settings

/--
The settings in use, and the file that they come from.
-/
structure Store where
  settings : Settings
  origin : Option Path
deriving DecidableEq, Repr

/--
Replace the settings, and tell the keys whose values have changed.
-/
def Store.apply (store : Store) (settings : Settings) : List Key × Store :=
  (store.settings.changedKeys settings, { store with settings })

@[simp]
theorem Store.settings_apply (store : Store) (settings : Settings) :
    (store.apply settings).2.settings = settings := rfl

end ServerLauncher.Settings
