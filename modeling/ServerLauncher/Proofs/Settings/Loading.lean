import ServerLauncher.Settings.Load
import ServerLauncher.World

/-!
This module contains what is loaded from a configuration file, depending on what its path leads to.
-/

namespace ServerLauncher

theorem FileSystem.readText_of_lookup_error {fs : FileSystem} {path : Path} {e : IoError}
    (h : fs.lookup path = .error e) : fs.readText path = .error e := by
  unfold readText read
  rw [h]
  rfl

namespace Settings

/--
What is loaded from the contents of a configuration file.
-/
def loadedFrom (home : Option Path) (path : Path) (content : ByteArray) :
    Except LoadError Settings :=
  match Utf8.decode? content with
  | none => .error (.unreadable path .invalidData)
  | some text => (parse home text).mapError (.invalid path)

variable {w : World} {path : Path}

theorem load_of_notFound (h : w.files.lookup path = .error .notFound) :
    load w.files w.environment.home path = .ok {} := by
  unfold load
  rw [FileSystem.readText_of_lookup_error h]

/--
Only a file that is missing is as good as an empty one.
-/
theorem load_of_lookup_error {e : IoError} (h : w.files.lookup path = .error e)
    (he : e ≠ .notFound) :
    load w.files w.environment.home path = .error (.unreadable path e) := by
  unfold load
  rw [FileSystem.readText_of_lookup_error h]
  split
  . next hread =>
    cases hread
    exact absurd rfl he
  . next cause _ hread =>
    cases hread
    rfl
  . next hread => cases hread

theorem load_of_read {content : ByteArray} (h : w.files.read path = .ok content) :
    load w.files w.environment.home path = loadedFrom w.environment.home path content := by
  unfold load FileSystem.readText loadedFrom
  rw [h]
  dsimp only [bind, Except.bind]
  cases Utf8.decode? content with
  | none => rfl
  | some text =>
    dsimp only [pure, Except.pure]
    cases parse w.environment.home text <;> rfl

end Settings

end ServerLauncher
