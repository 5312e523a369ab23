import ServerLauncher.Proofs.FileSystem.Growth

/-!
This module contains what the operations on a file system change. Making directories makes only such
as were missing on the way to a path, and writing changes only the place that a path leads to.
-/

namespace ServerLauncher

/--
A path is another one or one of the directories that it is in.
-/
inductive Path.IsAbove (q : Path) : Path → Prop where
  | self : IsAbove q q
  | parent {p parent : Path} (hparent : p.parent? = some parent) (hq : IsAbove q parent) :
    IsAbove q p

theorem Path.IsAbove.trans {r q p : Path} (hr : r.IsAbove q) (hq : q.IsAbove p) : r.IsAbove p := by
  induction hq with
  | self => exact hr
  | parent hparent _ ih => exact .parent hparent ih

namespace FileSystem

variable {fs fs' fs'' : FileSystem} {final : Bool} {x : Location} {segments : List String}
  {via : List Location} {place : Place} {p q : Path}

theorem Walks.find?_eq_none {slash : Bool}
    (h : Walks fs final x segments via place) {y : Location} (hplace : place = .vacant y slash) :
    fs.find? y = none := by
  induction h with
  | stop => cases hplace
  | idle _ _ ih => exact ih hplace
  | up _ ih => exact ih hplace
  | missing _ hfind _ =>
    cases hplace
    exact hfind
  | enter _ _ _ ih => exact ih hplace
  | file => cases hplace
  | keep => cases hplace
  | follow _ _ _ _ ih => exact ih hplace

theorem Walks.find?_eq_some (h : Walks fs final x segments via place) {y : Location} {entry : Entry}
    (hplace : place = .occupied y entry) (hentry : entry ≠ .directory) :
    fs.find? y = some entry := by
  induction h with
  | stop =>
    cases hplace
    exact absurd rfl hentry
  | idle _ _ ih => exact ih hplace
  | up _ ih => exact ih hplace
  | missing => cases hplace
  | enter _ _ _ ih => exact ih hplace
  | file _ hfind =>
    cases hplace
    exact hfind
  | keep _ hfind _ =>
    cases hplace
    exact hfind
  | follow _ _ _ _ ih => exact ih hplace

theorem find?_of_place_vacant {slash : Bool} (h : fs.place final p = .ok (.vacant x slash)) :
    fs.find? x = none := by
  have ⟨_, via, hwalks, _⟩ := place_eq_ok_iff.1 h
  exact hwalks.find?_eq_none rfl

theorem find?_of_place_occupied {entry : Entry} (h : fs.place final p = .ok (.occupied x entry))
    (hentry : entry ≠ .directory) : fs.find? x = some entry := by
  have ⟨_, via, hwalks, _⟩ := place_eq_ok_iff.1 h
  exact hwalks.find?_eq_some rfl hentry

theorem Grows.place_of_occupied (h : Grows fs fs') {entry : Entry}
    (hplace : fs.place final p = .ok (.occupied x entry)) (hx : fs'.find? x = fs.find? x) :
    fs'.place final p = .ok (.occupied x entry) := by
  rw [place_eq_ok_iff] at *
  have ⟨hadmissible, via, hwalks, hle⟩ := hplace
  refine ⟨hadmissible, via, ?_, hle⟩
  rw [h.ground.startOf]
  apply hwalks.transfer_of_occupied h.directory
  . intro z hz
    exact h.find?_of_mem hwalks.route hz
  . intro _
    exact hx

theorem read_eq_ok_iff {body : ByteArray} :
    fs.read p = .ok body ↔
      ∃ x modified program, fs.place true p = .ok (.occupied x (.file body modified program)) := by
  unfold read lookup
  constructor
  . intro h
    cases hplace : fs.place true p with
    | error e =>
      rw [hplace] at h
      cases h
    | ok place =>
      rw [hplace] at h
      cases place with
      | vacant x slash => cases h
      | occupied x entry =>
        cases entry with
        | directory => cases h
        | link target => cases h
        | file content modified program =>
          cases h
          exact ⟨x, modified, program, rfl⟩
  . intro h
    have ⟨x, modified, program, hplace⟩ := h
    rw [hplace]
    rfl

/--
A file that stays where it is when the file system grows can still be read there.
-/
theorem Grows.read (h : Grows fs fs') {body : ByteArray} (hread : fs.read p = .ok body)
    (hsame : ∀ x, fs.LeadsTo true p x → fs.find? x ≠ none → fs'.find? x = fs.find? x) :
    fs'.read p = .ok body := by
  have ⟨x, modified, program, hplace⟩ := read_eq_ok_iff.1 hread
  have hfind := find?_of_place_occupied hplace (by simp)
  apply read_eq_ok_iff.2
  refine ⟨x, modified, program, h.place_of_occupied hplace ?_⟩
  apply hsame x (leadsTo_of_place hplace)
  simp [hfind]

theorem isFile_of_read {body : ByteArray} (h : fs.read p = .ok body) : fs.isFile p := by
  have ⟨x, modified, program, hplace⟩ := read_eq_ok_iff.1 h
  unfold isFile lookup
  rw [hplace]
  rfl

/--
A directory that was missing on the way to a path has been made at a place.
-/
structure Made (fs fs' : FileSystem) (p : Path) (x : Location) : Prop where
  missing : fs.find? x = none
  directory : fs'.find? x = some .directory
  onTheWay : ∃ q : Path, q.IsAbove p ∧ fs.LeadsTo false q x

theorem Made.of_find?_eq (h : Made fs fs' p x) (heq : fs''.find? x = fs'.find? x) :
    Made fs fs'' p x where
  missing := h.missing
  directory := by
    rw [heq]
    exact h.directory
  onTheWay := h.onTheWay

theorem Made.of_grows (h : Made fs' fs'' p x) (hgrows : Grows fs fs') : Made fs fs'' p x where
  missing := hgrows.missing x h.missing
  directory := h.directory
  onTheWay := by
    have ⟨q, hq, hleads⟩ := h.onTheWay
    exact ⟨q, hq, hgrows.leadsTo_iff.1 hleads⟩

/--
A file system has become another one just by making directories on the way to a path.
-/
structure MakesWay (fs fs' : FileSystem) (p : Path) : Prop where
  grows : Grows fs fs'
  made : ∀ x, fs'.find? x ≠ fs.find? x → Made fs fs' p x

namespace MakesWay

theorem refl (fs : FileSystem) (p : Path) : MakesWay fs fs p where
  grows := .refl fs
  made := by
    intro x hne
    exact absurd rfl hne

theorem of_isAbove (h : MakesWay fs fs' q) (hq : q.IsAbove p) : MakesWay fs fs' p where
  grows := h.grows
  made := by
    intro x hne
    have hmade := h.made x hne
    have ⟨r, hr, hleads⟩ := hmade.onTheWay
    exact ⟨hmade.missing, hmade.directory, r, hr.trans hq, hleads⟩

theorem trans (h : MakesWay fs fs' p) (h' : MakesWay fs' fs'' p) : MakesWay fs fs'' p where
  grows := h.grows.trans h'.grows
  made := by
    intro x hne
    by_cases heq : fs'.find? x = fs.find? x
    . rw [← heq] at hne
      exact (h'.made x hne).of_grows h.grows
    . have hmade := h.made x heq
      exact ⟨hmade.missing, h'.grows.directory x hmade.directory, hmade.onTheWay⟩

theorem congr (h : MakesWay fs fs' p) (hground : SameGround fs' fs'')
    (hfind : ∀ x, fs''.find? x = fs'.find? x) : MakesWay fs fs'' p where
  grows := {
    ground := h.grows.ground.trans hground
    directory := by
      intro x hx
      rw [hfind]
      exact h.grows.directory x hx
    link_iff := by
      intro x target
      rw [hfind]
      exact h.grows.link_iff x target
    missing := by
      intro x hx
      rw [hfind] at hx
      exact h.grows.missing x hx }
  made := by
    intro x hne
    rw [hfind] at hne
    exact (h.made x hne).of_find?_eq (hfind x)

theorem find?_of_some (h : MakesWay fs fs' p) {entry : Entry} (hx : fs.find? x = some entry) :
    fs'.find? x = some entry := by
  by_cases heq : fs'.find? x = fs.find? x
  . rw [heq]
    exact hx
  . have hmissing := (h.made x heq).missing
    rw [hx] at hmissing
    cases hmissing

/--
All files that are there can be read as before.
-/
theorem read (h : MakesWay fs fs' p) {body : ByteArray} (hread : fs.read q = .ok body) :
    fs'.read q = .ok body := by
  apply h.grows.read hread
  intro x _ hx
  have ⟨entry, hentry⟩ := Option.ne_none_iff_exists'.1 hx
  rw [hentry]
  exact h.find?_of_some hentry

end MakesWay

/--
Two file systems on the same ground have the same at every place.
-/
structure SameTree (fs fs' : FileSystem) : Prop where
  ground : SameGround fs fs'
  find?_eq : ∀ x, fs'.find? x = fs.find? x

/--
The same segments lead to the same place, or fail for the same reason.
-/
theorem stepAlong_congr (h : ∀ x, fs'.find? x = fs.find? x) (final : Bool)
    (jump : Location → List String → Except IoError Place) :
    fs'.stepAlong final jump = fs.stepAlong final jump := by
  funext x segments
  induction segments generalizing x with
  | nil => rfl
  | cons segment rest ih =>
    unfold stepAlong
    rw [h]
    simp only [ih]

theorem walk_congr (h : ∀ x, fs'.find? x = fs.find? x) (final : Bool) (n : Nat) :
    fs'.walk final n = fs.walk final n := by
  induction n with
  | zero => exact stepAlong_congr h final _
  | succ n ih =>
    unfold walk
    rw [ih]
    exact stepAlong_congr h final _

theorem SameTree.place_eq (h : SameTree fs fs') (final : Bool) (p : Path) :
    fs'.place final p = fs.place final p := by
  have hground : fs'.workingDirectory = fs.workingDirectory := by
    rw [h.ground]
  unfold place
  rw [walk_congr h.find?_eq, hground]

theorem MakesWay.of_sameTree (h : SameTree fs fs') (p : Path) : MakesWay fs fs' p :=
  (MakesWay.refl fs p).congr h.ground h.find?_eq

theorem createDirectory_eq_ok (h : fs.createDirectory p = .ok fs') :
    ∃ x, fs' = fs.put x .directory ∧ fs.find? x = none ∧ fs.LeadsTo false p x := by
  unfold createDirectory at h
  cases hplace : fs.place false p with
  | error e =>
    rw [hplace] at h
    cases h
  | ok place =>
    rw [hplace] at h
    cases place with
    | occupied x entry => cases h
    | vacant x slash =>
      cases h
      exact ⟨x, rfl, find?_of_place_vacant hplace, leadsTo_of_place hplace⟩

theorem makesWay_createDirectory (h : fs.createDirectory p = .ok fs') : MakesWay fs fs' p := by
  have ⟨x, hfs, hmissing, hleads⟩ := createDirectory_eq_ok h
  rw [hfs]
  constructor
  . apply grows_put_of_missing hmissing
    simp
  . intro y hne
    by_cases heq : y = x
    case neg => exact absurd (find?_put_of_ne heq fs .directory) hne
    rw [heq]
    have hne : fs.find? x ≠ some .directory := by
      simp [hmissing]
    refine ⟨hmissing, ?_, p, .self, hleads⟩
    exact find?_put_self (ne_nil_of_find?_ne_directory hne) fs .directory

/--
What making one directory does, and what is left by doing such things one after the other, is also
what making a directory with those above it does.
-/
theorem createDirectories_induction {R : FileSystem → FileSystem → Prop} (hrefl : ∀ fs, R fs fs)
    (htrans : ∀ {fs fs' fs''}, R fs fs' → R fs' fs'' → R fs fs'')
    (hmake : ∀ {fs fs' : FileSystem} {q : Path}, q.IsAbove p → fs.createDirectory q = .ok fs' →
      R fs fs') (fs : FileSystem) : R fs (fs.createDirectories p).2 := by
  unfold createDirectories
  generalize p.chars.length = fuel
  -- Each directory is made after those above it.
  have hgo : ∀ q : Path, q.IsAbove p → ∀ fs, R fs (createDirectories.go fuel fs q).2 := by
    induction fuel with
    | zero =>
      intro q hq fs
      unfold createDirectories.go
      split
      . exact hrefl fs
      . split
        . next hcreate => exact hmake hq hcreate
        . contradiction
        . split <;> exact hrefl fs
    | succ fuel ih =>
      intro q hq fs
      unfold createDirectories.go
      split
      . exact hrefl fs
      . split
        . next hcreate => exact hmake hq hcreate
        . next parent _ _ hparent hfuel =>
          cases hfuel
          have hway := ih parent (.trans (.parent hparent .self) hq) fs
          split
          . next hgo =>
            rw [hgo] at hway
            exact hway
          . next hgo =>
            rw [hgo] at hway
            refine htrans hway ?_
            unfold createDirectories.last
            split
            . next hcreate => exact hmake hq hcreate
            . split <;> exact hrefl _
        . split <;> exact hrefl fs
  exact hgo p .self fs

theorem makesWay_createDirectories (fs : FileSystem) (p : Path) :
    MakesWay fs (fs.createDirectories p).2 p := by
  apply createDirectories_induction (R := fun fs fs' => MakesWay fs fs' p)
  . intro fs
    exact .refl fs p
  . intro fs fs' fs'' h h'
    exact h.trans h'
  . intro fs fs' q hq hcreate
    exact (makesWay_createDirectory hcreate).of_isAbove hq

theorem writeFile_eq_ok {content : ByteArray} {now : Int}
    (h : fs.writeFile p content now = .ok fs') :
    ∃ x program, fs' = fs.put x (.file content now program) ∧ fs.LeadsTo true p x ∧
      fs.find? x ≠ some .directory ∧ ∀ target, fs.find? x ≠ some (.link target) := by
  unfold writeFile at h
  cases hplace : fs.place true p with
  | error e =>
    rw [hplace] at h
    cases h
  | ok place =>
    rw [hplace] at h
    have hleads := leadsTo_of_place hplace
    cases place with
    | occupied x entry =>
      cases entry with
      | directory => cases h
      | link target => cases h
      | file old modified program =>
        cases h
        have hfind := find?_of_place_occupied hplace (by simp)
        exact ⟨x, program, rfl, hleads, by simp [hfind], by simp [hfind]⟩
    | vacant x slash =>
      cases slash with
      | true => cases h
      | false =>
        cases h
        have hfind := find?_of_place_vacant hplace
        exact ⟨x, none, rfl, hleads, by simp [hfind], by simp [hfind]⟩

end FileSystem

end ServerLauncher
