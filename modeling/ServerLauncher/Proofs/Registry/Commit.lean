import ServerLauncher.Proofs.FileSystem.Staging
import ServerLauncher.Proofs.World.Running
import ServerLauncher.Registry.Download

/-!
This module contains the moving of verified files to their destinations: it is refused, when nothing is
left behind but directories on the way, or it is done in one step or through a copy.
-/

namespace ServerLauncher.Registry

open FileSystem

theorem run_changeFiles {α : Type} (change : World → Except IoError (α × FileSystem)) (w : World) :
    (changeFiles change).run.run w =
      match change w with
      | .ok (a, files) => (.ok a, w.withFiles files)
      | .error e => (.error (.io e), w) := by
  unfold changeFiles
  rw [Attempt.run_bind_of_ok (Attempt.run_get w)]
  cases change w <;> rfl

theorem run_makeDirectories (directory : Path) (w : World) :
    (makeDirectories directory).run.run w =
      ((w.files.createDirectories directory).1.elim (.ok ()) fun e => .error (.io e),
        w.withFiles (w.files.createDirectories directory).2) := by
  unfold makeDirectories
  rw [Attempt.run_bind_of_ok (Attempt.run_get w)]
  rcases w.files.createDirectories directory with ⟨failed, files⟩
  cases failed <;> rfl

theorem run_moveOrDiscard (source destination : Path) (w : World) :
    (moveOrDiscard source destination).run.run w =
      match w.files.rename source destination with
      | .ok files => (.ok (), w.withFiles files)
      | .error e => (.error (.io e), w.withFiles (w.files.removeFile source)) := by
  unfold moveOrDiscard
  rw [Attempt.run_bind_of_ok (Attempt.run_get w)]
  cases w.files.rename source destination <;> rfl

variable {fs fs₁ fs₂ fs' : FileSystem} {directory destination : Path} {name : String}
  {x c : Location} {via : List Location} {body : ByteArray}

/--
A file with some content has been made at a place where there was nothing.
-/
structure Copied (fs fs' : FileSystem) (c : Location) (body : ByteArray) : Prop where
  ground : SameGround fs fs'
  missing : fs.find? c = none
  content : ∃ modified, fs'.find? c = some (.file body modified none)
  other : ∀ y, y ≠ c → fs'.find? y = fs.find? y

theorem Copied.grows (h : Copied fs fs' c body) : Grows fs fs' := by
  have ⟨modified, hcontent⟩ := h.content
  have hmissing := h.missing
  constructor
  . exact h.ground
  . intro y hy
    rw [h.other]
    . exact hy
    . intro heq
      rw [heq, hmissing] at hy
      cases hy
  . intro y target
    by_cases heq : y = c
    . rw [heq, hcontent, hmissing]
      simp
    . rw [h.other y heq]
  . intro y hy
    by_cases heq : y = c
    . rw [heq]
      exact hmissing
    . rw [← h.other y heq]
      exact hy

theorem Copied.ne_nil (h : Copied fs fs' c body) : c ≠ [] := by
  apply ne_nil_of_find?_ne_directory
  rw [h.missing]
  simp

theorem Copied.sameTree_drop (h : Copied fs fs' c body) : SameTree fs (fs'.drop c) where
  ground := h.ground.trans (ground_drop fs' c)
  find?_eq := by
    intro y
    by_cases heq : y = c
    . rw [heq, h.missing]
      exact find?_drop_self h.ne_nil fs'
    . rw [find?_drop_of_ne heq]
      exact h.other y heq

theorem Copied.makesWay_drop (h : Copied fs₁ fs₂ c body) (hway : MakesWay fs fs₁ destination) :
    MakesWay fs (fs₂.drop c) destination :=
  hway.congr h.sameTree_drop.ground h.sameTree_drop.find?_eq

theorem Copied.makesWay_of_drop (h : Copied fs fs₁ c body) (hway : MakesWay fs₁ fs₂ destination) :
    MakesWay fs (fs₂.drop c) destination where
  grows := {
    ground := h.ground.trans (hway.grows.ground.trans (ground_drop fs₂ c))
    directory := by
      intro z hz
      have hmissing := h.missing
      rw [find?_drop_of_ne]
      . exact hway.grows.directory z (h.grows.directory z hz)
      . intro heq
        rw [heq, hmissing] at hz
        cases hz
    link_iff := by
      intro z target
      by_cases heq : z = c
      . rw [heq, find?_drop_self h.ne_nil, h.missing]
      . rw [find?_drop_of_ne heq, hway.grows.link_iff, h.grows.link_iff]
    missing := by
      intro z hz
      by_cases heq : z = c
      . rw [heq]
        exact h.missing
      . rw [find?_drop_of_ne heq] at hz
        exact h.grows.missing z (hway.grows.missing z hz) }
  made := by
    intro z hz
    by_cases heq : z = c
    . rw [heq, find?_drop_self h.ne_nil, h.missing] at hz
      exact absurd rfl hz
    . have hdrop := find?_drop_of_ne heq fs₂
      rw [hdrop, ← h.other z heq] at hz
      exact ((hway.made z hz).of_grows h.grows).of_find?_eq hdrop

theorem copied_put (hmissing : fs.find? c = none) (body : ByteArray) (now : Int) :
    Copied fs (fs.put c (.file body now none)) c body where
  ground := rfl
  missing := hmissing
  content := by
    refine ⟨now, find?_put_self ?_ _ _⟩
    apply ne_nil_of_find?_ne_directory
    rw [hmissing]
    simp
  other := by
    intro y hy
    exact find?_put_of_ne hy fs _

theorem Copied.put (h : Copied fs fs' c body) (new : ByteArray) (now : Int) :
    Copied fs (fs'.put c (.file new now none)) c new where
  ground := h.ground.trans (ground_put fs' c _)
  missing := h.missing
  content := ⟨now, find?_put_self h.ne_nil _ _⟩
  other := by
    intro y hy
    rw [find?_put_of_ne hy]
    exact h.other y hy

theorem read_of_copied {content : ByteArray} {modified : Int} (h : WayTo fs directory name x via)
    (hcontent : fs.find? (name :: x) = some (.file body modified none))
    (hway : MakesWay fs fs₁ destination) (hcopy : Copied fs₁ fs₂ c content) :
    fs₂.read (directory / name) = .ok body := by
  have hmissing := hcopy.missing
  have hfind := hway.find?_of_some hcontent
  apply (h.grows (hway.grows.trans hcopy.grows)).read_of_file
  -- The copy is at a place where nothing was, so that it is not the staged file.
  rw [hcopy.other]
  . exact hfind
  . intro heq
    rw [heq, hmissing] at hfind
    cases hfind

theorem run_copyContent {w : World} {source copy : Path} {files : FileSystem}
    (hread : w.files.read source = .ok body)
    (hwrite : w.files.writeFile copy body w.now = .ok files) :
    (changeFiles fun w => do
      let content ← w.files.read source
      return ((), ← w.files.writeFile copy content w.now)).run.run w =
        (.ok (), w.withFiles files) := by
  rw [run_changeFiles]
  rw [hread]
  dsimp only [bind, Except.bind]
  rw [hwrite]
  rfl

/--
How the moving of a staged file ends: it is refused, when only directories have been made, or the file
is moved in one step, or a copy of it is moved since that could not be done.
-/
inductive Commits (fs : FileSystem) (staged destination : Path) (body : ByteArray) :
    Except FetchError Bool → FileSystem → Prop where
  | refused (e : IoError) {fs' : FileSystem} (hway : MakesWay fs fs' (directoryOf destination)) :
    Commits fs staged destination body (.error (.io e)) fs'
  | direct {fs₁ fs' : FileSystem} (hway : MakesWay fs fs₁ (directoryOf destination))
    (hrename : fs₁.rename staged destination = .ok fs') :
    Commits fs staged destination body (.ok true) fs'
  | copied {fs₁ fs₂ fs' : FileSystem} {e : IoError} {copy : String} {z : Location}
    {via : List Location} (hway : MakesWay fs fs₁ (directoryOf destination))
    (hfailed : fs₁.rename staged destination = .error e)
    (hcopy : Copied fs₁ fs₂ (copy :: z) body)
    (hway' : WayTo fs₂ (directoryOf destination) copy z via)
    (hrename : fs₂.rename (directoryOf destination / copy) destination = .ok fs') :
    Commits fs staged destination body (.ok false) fs'

theorem commits_moveOrDiscard {w : World} {staged : Path} {copy : String} {z : Location}
    {e : IoError} (hway : MakesWay fs fs₁ (directoryOf destination))
    (hfailed : fs₁.rename staged destination = .error e)
    (hcopy : Copied fs₁ w.files (copy :: z) body)
    (hway' : WayTo w.files (directoryOf destination) copy z via) :
    ∃ result files, (moveOrDiscard (directoryOf destination / copy) destination).run.run w =
      (result, w.withFiles files) ∧
        Commits fs staged destination body (result.map fun _ => false) files := by
  rw [run_moveOrDiscard]
  cases hrename : w.files.rename (directoryOf destination / copy) destination with
  | ok files => exact ⟨_, _, rfl, .copied hway hfailed hcopy hway' hrename⟩
  -- Discarding the copy takes the file system back to where it was before the copy.
  | error e =>
    have ⟨now, hbody⟩ := hcopy.content
    rw [hway'.removeFile_of_file hbody]
    exact ⟨_, _, rfl, .refused _ (hcopy.makesWay_drop hway)⟩

theorem commits_moveCopy {w : World} {modified : Int} {e : IoError}
    (h : WayTo fs directory name x via)
    (hcontent : fs.find? (name :: x) = some (.file body modified none))
    (hway : MakesWay fs w.files (directoryOf destination))
    (hfailed : w.files.rename (directory / name) destination = .error e) :
    ∃ result files, (moveCopy (directory / name) destination).run.run w =
      (result, w.withFiles files) ∧
        Commits fs (directory / name) destination body (result.map fun _ => false) files := by
  unfold moveCopy stage
  have hstage := run_changeFiles (fun w => w.files.createFresh (directoryOf destination)
    ".pkl-lsp-" .empty w.now) w
  cases hfresh : w.files.createFresh (directoryOf destination) ".pkl-lsp-" .empty w.now with
  | error e =>
    rw [hfresh] at hstage
    exact ⟨_, w.files, Attempt.run_bind_of_error hstage, .refused _ hway⟩
  | ok fresh =>
    rcases fresh with ⟨copy, files⟩
    rw [hfresh] at hstage
    have ⟨number, z, via', hcopy, hway', hmissing, hfiles⟩ := createFresh_eq_ok (by decide) hfresh
    rw [Attempt.run_bind_of_ok hstage]
    rw [hcopy, hfiles]
    have hempty := copied_put hmissing .empty w.now
    have hcopied := hempty.put body w.now
    have hread := read_of_copied h hcontent hway hempty
    have ⟨written, hwritten⟩ := hempty.content
    have hwrite := (hway'.grows hempty.grows).writeFile_of_file hwritten body w.now
    generalize w.files.put _ (.file .empty w.now none) = files at hread hwrite hcopied ⊢
    have hfill := run_copyContent (w := w.withFiles files) hread hwrite
    rw [Attempt.run_bind_of_ok hfill]
    exact commits_moveOrDiscard hway hfailed hcopied (hway'.grows hcopied.grows)

theorem commits_commit {w : World} {modified : Int} (destination : Path)
    (h : WayTo w.files directory name x via)
    (hcontent : w.files.find? (name :: x) = some (.file body modified none)) :
    ∃ result files, (commit (directory / name) destination).run.run w =
      (result, w.withFiles files) ∧
        Commits w.files (directory / name) destination body result files := by
  have hmake := run_makeDirectories (directoryOf destination) w
  have hway := makesWay_createDirectories w.files (directoryOf destination)
  rcases hcreate : w.files.createDirectories (directoryOf destination) with ⟨failed, files⟩
  rw [hcreate] at hmake hway
  unfold commit
  cases failed with
  | some e => exact ⟨_, _, Attempt.run_bind_of_error hmake, .refused _ hway⟩
  | none =>
    rw [Attempt.run_bind_of_ok hmake]
    rw [Attempt.run_bind_of_ok (Attempt.run_get _)]
    dsimp only [World.withFiles]
    cases hrename : files.rename (directory / name) destination with
    | ok files' => exact ⟨_, _, rfl, .direct hway hrename⟩
    | error e =>
      have ⟨result, files', hrun, hcommits⟩ :=
        commits_moveCopy (w := w.withFiles files) h hcontent hway hrename
      cases result with
      | ok => exact ⟨_, files', Attempt.run_bind_of_ok hrun, hcommits⟩
      | error e => exact ⟨_, files', Attempt.run_bind_of_error hrun, hcommits⟩

end ServerLauncher.Registry
