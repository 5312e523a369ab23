import ServerLauncher.Proofs.FileSystem.Operations

/-!
This module contains the files that are made in a directory under names of their own, and what can be
done with them later: they can be written, read, moved and removed as long as the way to the directory
is still there.
-/

namespace ServerLauncher.FileSystem

variable {fs fs' : FileSystem} {final : Bool} {x : Location} {via : List Location} {place : Place}
  {directory p : Path} {name : String}

/--
There is a way through a directory at a place to a name in it.
-/
structure WayTo (fs : FileSystem) (directory : Path) (name : String) (x : Location)
    (via : List Location) : Prop where
  isName : Path.IsName name
  le_limit : name.utf8ByteSize ≤ nameLimit
  admissible : Admissible (directory / name)
  walks : Walks fs true (fs.startOf directory) (steps directory) via (.occupied x .directory)
  le_links : via.length ≤ linkLimit

namespace WayTo

theorem place_of_file (h : WayTo fs directory name x via) {content : ByteArray} {modified : Int}
    {program : Option Program} (hfind : fs.find? (name :: x) = some (.file content modified program))
    (final : Bool) :
    fs.place final (directory / name) =
      .ok (.occupied (name :: x) (.file content modified program)) := by
  apply place_div_of_walks h.isName h.admissible h.walks h.le_links
  exact .file (isEntryName_of_isName h.isName h.le_limit) hfind

theorem removeFile_of_file (h : WayTo fs directory name x via) {content : ByteArray}
    {modified : Int} {program : Option Program}
    (hfind : fs.find? (name :: x) = some (.file content modified program)) :
    fs.removeFile (directory / name) = fs.drop (name :: x) := by
  unfold removeFile
  rw [h.place_of_file hfind]

theorem read_of_file (h : WayTo fs directory name x via) {content : ByteArray} {modified : Int}
    {program : Option Program}
    (hfind : fs.find? (name :: x) = some (.file content modified program)) :
    fs.read (directory / name) = .ok content := by
  unfold read lookup
  rw [h.place_of_file hfind]
  rfl

theorem writeFile_of_file (h : WayTo fs directory name x via) {old : ByteArray} {modified : Int}
    {program : Option Program} (hfind : fs.find? (name :: x) = some (.file old modified program))
    (content : ByteArray) (now : Int) :
    fs.writeFile (directory / name) content now =
      .ok (fs.put (name :: x) (.file content now program)) := by
  unfold writeFile
  rw [h.place_of_file hfind]
  rfl

theorem transfer (h : WayTo fs directory name x via) (hground : SameGround fs fs')
    (hdirectory : ∀ z, fs.find? z = some .directory → fs'.find? z = some .directory)
    (hlink : ∀ z ∈ via, fs'.find? z = fs.find? z) : WayTo fs' directory name x via where
  isName := h.isName
  le_limit := h.le_limit
  admissible := h.admissible
  walks := by
    rw [hground.startOf]
    exact h.walks.transfer hdirectory hlink
  le_links := h.le_links

theorem grows (h : WayTo fs directory name x via) (hgrows : Grows fs fs') :
    WayTo fs' directory name x via where
  isName := h.isName
  le_limit := h.le_limit
  admissible := h.admissible
  walks := by
    rw [hgrows.ground.startOf]
    exact hgrows.walks h.walks
  le_links := h.le_links

theorem removeFile_cases (h : WayTo fs directory name x via) (hground : SameGround fs fs')
    (hdirectory : ∀ z, fs'.find? z = some .directory → fs.find? z = some .directory)
    (hlink : ∀ z target, fs'.find? z = some (.link target) → fs.find? z = some (.link target)) :
    fs'.removeFile (directory / name) = fs' ∨ (∃ entry, fs'.find? (name :: x) = some entry) ∧
      fs'.removeFile (directory / name) = fs'.drop (name :: x) := by
  unfold removeFile
  cases hplace : fs'.place false (directory / name) with
  | error e => exact .inl rfl
  | ok place =>
    have ⟨_, y, via₁, via₂, hwalks, hlast, _⟩ := walks_of_place_div h.isName hplace
    -- What is left of the way is part of the old one, which leads nowhere else.
    have hback : Walks fs true (fs.startOf directory) (steps directory) via₁
        (.occupied y .directory) := by
      rw [← hground.startOf]
      apply hwalks.transfer hdirectory
      intro z hz
      have ⟨target, htarget⟩ := hwalks.route.isLink_of_mem hz
      rw [htarget]
      exact hlink z target htarget
    cases walks_unique hback h.walks
    have ⟨_, hsingle⟩ := hlast.singleton h.isName
    rcases hsingle with ⟨hvacant, _⟩ | ⟨⟨entry, hoccupied, hentry⟩, _⟩ | ⟨hfinal, _⟩
    . rw [hvacant]
      exact .inl rfl
    . rw [hoccupied]
      cases entry with
      | directory => exact .inl rfl
      | _ => exact .inr ⟨⟨_, hentry⟩, rfl⟩
    . cases hfinal

end WayTo

/--
The names of unfinished downloads.
-/
def downloadName (front : String) (number : Nat) : String :=
  front ++ toString number ++ ".download"

theorem toList_downloadName (front : String) (number : Nat) :
    (downloadName front number).toList =
      front.toList ++ Nat.toDigits 10 number ++ ".download".toList := by
  simp [downloadName]

theorem getLast?_downloadName (front : String) (number : Nat) :
    (downloadName front number).toList.getLast? = some 'd' := by
  rw [toList_downloadName]
  rw [List.getLast?_append]
  rfl

theorem isName_downloadName {front : String} (hslash : '/' ∉ front.toList) (number : Nat) :
    Path.IsName (downloadName front number) := by
  have hlast := getLast?_downloadName front number
  constructor
  . intro heq
    rw [heq] at hlast
    cases hlast
  . intro heq
    rw [heq] at hlast
    cases hlast
  . intro heq
    rw [heq] at hlast
    cases hlast
  . have hdigits : '/' ∉ Nat.toDigits 10 number := by
      intro hmem
      have hdigit := Nat.isDigit_of_mem_toDigits (by decide) (by decide) hmem
      cases hdigit
    rw [toList_downloadName]
    simp [hslash, hdigits]

theorem createFresh_eq_ok {front : String} {content : ByteArray} {now : Int}
    (hslash : '/' ∉ front.toList)
    (h : fs.createFresh directory front content now = .ok (p, fs')) :
    ∃ number x via, p = directory / downloadName front number ∧
      WayTo fs directory (downloadName front number) x via ∧
      fs.find? (downloadName front number :: x) = none ∧
      fs' = fs.put (downloadName front number :: x) (.file content now none) := by
  unfold createFresh at h
  generalize fs.entries.length + 1 = fuel at h
  generalize 0 = number at h
  induction fuel generalizing number with
  | zero => cases h
  | succ fuel ih =>
    unfold createFresh.go at h
    have hname := isName_downloadName hslash number
    dsimp only at h
    change (fs.place false (directory / downloadName front number) >>= _) = _ at h
    cases hplace : fs.place false (directory / downloadName front number) with
    | error e =>
      rw [hplace] at h
      cases h
    | ok place =>
      rw [hplace] at h
      cases place with
      | occupied location entry => exact ih (number + 1) h
      | vacant location slash =>
        cases h
        have ⟨hadmissible, x, via₁, via₂, hwalks, hlast, hle⟩ := walks_of_place_div hname hplace
        have ⟨hlimit, hsingle⟩ := hlast.singleton hname
        rcases hsingle with ⟨hvacant, hfind, _⟩ | ⟨⟨entry, hoccupied, _⟩, _⟩ | ⟨hfinal, _⟩
        . cases hvacant
          exact ⟨number, x, via₁, rfl, ⟨hname, hlimit, hadmissible, hwalks, hle⟩, hfind, rfl⟩
        . cases hoccupied
        . cases hfinal

/--
A file can be moved to the place: its name is free, or there is something that is no directory.
-/
def Place.IsReplaceable : Place → Prop
  | .occupied _ entry => entry ≠ .directory
  | .vacant _ slash => slash = false

theorem find?_ne_of_isReplaceable (h : fs.place final p = .ok place)
    (hplace : place.IsReplaceable) : fs.find? place.location ≠ some .directory := by
  cases place with
  | occupied y entry =>
    show fs.find? y ≠ some .directory
    rw [find?_of_place_occupied h hplace]
    intro hentry
    exact hplace (Option.some.inj hentry)
  | vacant y slash =>
    show fs.find? y ≠ some .directory
    simp [find?_of_place_vacant h]

/--
What a path leads to when a file has come to the place that it led to. The links that are followed on
the way must have stayed.
-/
theorem Walks.transfer_of_isReplaceable {segments : List String} {content : ByteArray}
    {modified : Int} {program : Option Program} (h : Walks fs false x segments via place)
    (hplace : place.IsReplaceable)
    (hdirectory : ∀ z, fs.find? z = some .directory → fs'.find? z = some .directory)
    (hlink : ∀ z ∈ via, fs'.find? z = fs.find? z)
    (hfile : fs'.find? place.location = some (.file content modified program)) :
    Walks fs' final x segments via
      (.occupied place.location (.file content modified program)) := by
  induction h with
  | stop => exact absurd rfl hplace
  | idle hsegment _ ih => exact .idle hsegment (ih hplace hlink hfile)
  | up _ ih => exact .up (ih hplace hlink hfile)
  | @missing _ _ rest hname _ _ =>
    have hrest : rest = [] := by
      simpa [Place.IsReplaceable] using hplace
    rw [hrest]
    exact .file hname hfile
  | enter hname hfind _ ih =>
    exact .enter hname (hdirectory _ hfind) (ih hplace hlink hfile)
  | file hname _ => exact .file hname hfile
  | keep hname _ _ => exact .file hname hfile
  | follow hname hfind hfinal _ ih =>
    rw [← hlink _ List.mem_cons_self] at hfind
    apply Walks.follow hname hfind
    . intro hnil
      cases hfinal hnil
    . apply ih hplace _ hfile
      intro z hz
      exact hlink z (List.mem_cons_of_mem _ hz)

theorem move_eq_ok {old new : Location} {entry : Entry}
    (h : rename.move fs old entry new = .ok fs') :
    fs' = if old = new then fs else (fs.drop old).put new entry := by
  unfold rename.move at h
  split at h
  . cases h
  . split at h
    . next heq =>
      cases h
      rw [if_pos heq]
    . next hne =>
      cases h
      rw [if_neg hne]

theorem device_ne_of_move {old new : Location} {entry : Entry} {e : IoError}
    (h : rename.move fs old entry new = .error e) : fs.device old.tail ≠ fs.device new.tail := by
  unfold rename.move at h
  split at h
  . next hne => exact hne
  . split at h <;> cases h

theorem rename_eq_ok {source destination : Path} (h : fs.rename source destination = .ok fs') :
    ∃ old entry place, fs.place false source = .ok (.occupied old entry) ∧
      fs.place false destination = .ok place ∧ place.IsReplaceable ∧
      rename.move fs old entry place.location = .ok fs' := by
  unfold rename at h
  cases hsource : fs.place false source with
  | error e =>
    rw [hsource] at h
    cases h
  | ok source =>
    cases hdestination : fs.place false destination with
    | error e =>
      rw [hsource, hdestination] at h
      cases h
    | ok destination =>
      rw [hsource, hdestination] at h
      -- Of the cases of moving, two do not end in an error.
      simp only [Except.bind, bind] at h
      split at h
      . cases h
      . cases h
      . cases h
      . cases h
      . next old entry new e hnot hnot' =>
        refine ⟨_, _, _, rfl, rfl, ?_, h⟩
        intro heq
        exact hnot' heq
      . exact ⟨_, _, _, rfl, rfl, rfl, h⟩

theorem rename_of_isReplaceable {source destination : Path} {old : Location} {content : ByteArray}
    {modified : Int} {program : Option Program}
    (hsource : fs.place false source = .ok (.occupied old (.file content modified program)))
    (hdestination : fs.place false destination = .ok place) (hplace : place.IsReplaceable) :
    fs.rename source destination =
      rename.move fs old (.file content modified program) place.location := by
  unfold rename
  rw [hsource, hdestination]
  cases place with
  | occupied new entry =>
    cases entry with
    | directory => exact absurd rfl hplace
    | link target => rfl
    | file content modified program => rfl
  | vacant new slash =>
    cases hplace
    rfl

/--
An entry has been moved from a place to one that was no directory, which may be the same.
-/
structure Moved (fs fs' : FileSystem) (old new : Location) (entry : Entry) : Prop where
  ground : SameGround fs fs'
  not_directory : fs.find? new ≠ some .directory
  find?_old : old ≠ new → fs'.find? old = none
  find?_new : fs'.find? new = some entry
  other : ∀ y, y ≠ old → y ≠ new → fs'.find? y = fs.find? y

theorem WayTo.moved_of_rename (h : WayTo fs directory name x via) {content : ByteArray}
    {modified : Int} {program : Option Program} {destination : Path}
    (hfind : fs.find? (name :: x) = some (.file content modified program))
    (hrename : fs.rename (directory / name) destination = .ok fs') :
    ∃ place, fs.place false destination = .ok place ∧ place.IsReplaceable ∧
      Moved fs fs' (name :: x) place.location (.file content modified program) := by
  have ⟨old, entry, place, hsource, hplace, hreplaceable, hmove⟩ := rename_eq_ok hrename
  rw [h.place_of_file hfind] at hsource
  cases hsource
  have hnot := find?_ne_of_isReplaceable hplace hreplaceable
  refine ⟨place, hplace, hreplaceable, ?_⟩
  rw [move_eq_ok hmove]
  split
  . next heq =>
    rw [← heq] at hnot ⊢
    exact ⟨.refl fs, hnot, absurd rfl, hfind, fun _ _ _ => rfl⟩
  . next hold =>
    refine ⟨rfl, hnot, ?_, find?_put_self (ne_nil_of_find?_ne_directory hnot) _ _, ?_⟩
    . intro _
      rw [find?_put_of_ne hold]
      exact find?_drop_self (by simp) fs
    . intro z hz hz'
      rw [find?_put_of_ne hz']
      exact find?_drop_of_ne hz fs

end ServerLauncher.FileSystem
