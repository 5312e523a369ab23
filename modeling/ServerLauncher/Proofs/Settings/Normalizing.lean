import ServerLauncher.Proofs.Path.Repeating
import ServerLauncher.Settings.Basic

/-!
This module contains what normalizing settings again does: nothing, unless a configured path has a `~`
that only comes to its front by normalizing.
-/

namespace ServerLauncher.Settings

def paths (s : Settings) : List Path :=
  s.javaPath.toList ++ s.serverPath.toList ++ s.bundledPath.toList ++ s.cacheDirectory.toList

section Options

variable {f : Path → Path} {path : Option Path}

theorem map_map_eq_map_iff :
    (path.map f).map f = path.map f ↔ ∀ p ∈ path.toList, f (f p) = f p := by
  cases path <;> simp

theorem map_map_map (h : ∀ p, f (f (f p)) = f (f p)) :
    ((path.map f).map f).map f = (path.map f).map f := by
  cases path with
  | none => rfl
  | some p => exact congrArg some (h p)

end Options

section Normalized

variable {home : Path} {s : Settings}

theorem normalized_normalized_iff (hhome : home.isAbsolute) :
    (s.normalized (some home)).normalized (some home) = s.normalized (some home) ↔
      ∀ p ∈ s.paths, ¬p.HidesHome := by
  simp only [normalized, mk.injEq, map_map_eq_map_iff, Path.expand_expand_iff hhome, true_and,
    paths, List.forall_mem_append, and_assoc]

theorem normalized_normalized_normalized (hhome : home.isAbsolute) (s : Settings) :
    ((s.normalized (some home)).normalized (some home)).normalized (some home) =
      (s.normalized (some home)).normalized (some home) := by
  have hpath := Path.expand_expand_expand hhome
  simp only [normalized, map_map_map hpath]

end Normalized

/--
How settings come to their normal form under a home directory. Settings none of whose paths hides a
`~` are in normal form once they have been normalized, all others the second time.
-/
structure ReachesNormalForm (home : Path) : Prop where
  path : ∀ p, Path.expand (some home) (Path.expand (some home) p) = Path.expand (some home) p ↔
    ¬p.HidesHome
  once : ∀ s : Settings,
    (s.normalized (some home)).normalized (some home) = s.normalized (some home) ↔
      ∀ p ∈ s.paths, ¬p.HidesHome
  twice : ∀ s : Settings,
    ((s.normalized (some home)).normalized (some home)).normalized (some home) =
      (s.normalized (some home)).normalized (some home)

theorem reaches_normal_form {home : Path} (hhome : home.isAbsolute) : ReachesNormalForm home where
  path _ := Path.expand_expand_iff hhome
  once _ := normalized_normalized_iff hhome
  twice := normalized_normalized_normalized hhome

/--
Settings with a path that leads into the home directory by itself, and with one that goes through it.
-/
def settingsAtHome : Settings :=
  { javaPath := some "~/jdk/../java", serverPath := some "/opt/~/./server.jar" }

theorem reaches_normal_form_at_home :
    ("/home/me" : Path).isAbsolute ∧
      (settingsAtHome.normalized (some "/home/me")).normalized (some "/home/me") =
        settingsAtHome.normalized (some "/home/me") :=
  have hhome : ("/home/me" : Path).isAbsolute := by decide
  ⟨hhome, ((reaches_normal_form hhome).once settingsAtHome).2 (by decide)⟩

/--
A `~` behind a dot is left alone at first, and stands for the home directory the next time.
-/
theorem exists_normalized_ne_normalized :
    ∃ (home : Path) (s : Settings), home.isAbsolute ∧
      (s.normalized (some home)).normalized (some home) ≠ s.normalized (some home) :=
  ⟨"/home/me", { javaPath := some "./~/java" }, by decide, by decide⟩

end ServerLauncher.Settings
