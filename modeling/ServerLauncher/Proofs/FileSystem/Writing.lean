import ServerLauncher.Proofs.FileSystem.Operations

/-!
This module contains the reading of what has been written: a file that has been written under a path
is found under it, with its content and the time of the writing.
-/

namespace ServerLauncher.FileSystem

/--
A file can be written at the place: there is one, or its name is free.
-/
def Place.IsWritable : Place → Prop
  | .occupied _ (.file _ _ _) => True
  | .vacant _ slash => slash = false
  | _ => False

/--
The program of the file at a place, if that can be run.
-/
def Place.program? : Place → Option Program
  | .occupied _ (.file _ _ program) => program
  | _ => none

variable {fs fs' : FileSystem} {final : Bool} {x : Location} {segments : List String}
  {via : List Location} {place : Place} {p : Path} {content : ByteArray} {now : Int}
  {program : Option Program}

theorem Walks.find?_ne_of_isWritable (h : Walks fs final x segments via place)
    (hplace : place.IsWritable) :
    fs.find? place.location ≠ some .directory ∧
      ∀ target, fs.find? place.location ≠ some (.link target) := by
  cases place with
  | vacant y slash =>
    have hmissing : fs.find? y = none := h.find?_eq_none rfl
    simp [Place.location, hmissing]
  | occupied y entry =>
    cases entry with
    | file body modified program =>
      have hfile : fs.find? y = some (.file body modified program) := h.find?_eq_some rfl (by simp)
      simp [Place.location, hfile]
    | directory => cases hplace
    | link target => cases hplace

/--
The way to a place where a file is written leads to this file afterwards.
-/
theorem Walks.put_file (h : Walks fs final x segments via place) (hplace : place.IsWritable) :
    Walks (fs.put place.location (.file content now program)) final x segments via
      (.occupied place.location (.file content now program)) := by
  have ⟨hdirectory, hlink⟩ := h.find?_ne_of_isWritable hplace
  have hself := find?_put_self (ne_nil_of_find?_ne_directory hdirectory) fs
    (.file content now program)
  -- The way goes through directories and links, none of which is what is written.
  induction h with
  | stop => cases hplace
  | idle hsegment _ ih => exact .idle hsegment (ih hplace hdirectory hlink hself)
  | up _ ih => exact .up (ih hplace hdirectory hlink hself)
  | @missing _ _ rest hname _ _ =>
    have hrest : rest = [] := by
      simpa [Place.IsWritable] using hplace
    rw [hrest]
    exact .file hname hself
  | @enter x segment _ _ place hname hfind _ ih =>
    have hne : segment :: x ≠ place.location := by
      intro heq
      rw [← heq] at hdirectory
      exact hdirectory hfind
    apply Walks.enter hname
    . rw [find?_put_of_ne hne]
      exact hfind
    . exact ih hplace hdirectory hlink hself
  | file hname _ => exact .file hname hself
  | keep => cases hplace
  | @follow x segment _ target _ place hname hfind hfinal _ ih =>
    have hne : segment :: x ≠ place.location := by
      intro heq
      rw [← heq] at hlink
      exact hlink target hfind
    refine Walks.follow hname ?_ hfinal (ih hplace hdirectory hlink hself)
    rw [find?_put_of_ne hne]
    exact hfind

theorem place_put_file (h : fs.place final p = .ok place) (hplace : place.IsWritable) :
    (fs.put place.location (.file content now program)).place final p =
      .ok (.occupied place.location (.file content now program)) := by
  rw [place_eq_ok_iff] at *
  have ⟨hadmissible, via, hwalks, hle⟩ := h
  exact ⟨hadmissible, via, hwalks.put_file hplace, hle⟩

theorem writeFile_eq_ok_iff :
    fs.writeFile p content now = .ok fs' ↔
      ∃ place, fs.place true p = .ok place ∧ place.IsWritable ∧
        fs' = fs.put place.location (.file content now place.program?) := by
  unfold writeFile
  constructor
  . intro h
    cases hplace : fs.place true p with
    | error e =>
      rw [hplace] at h
      cases h
    | ok place =>
      rw [hplace] at h
      refine ⟨place, rfl, ?_⟩
      cases place with
      | vacant y slash =>
        cases slash with
        | true => cases h
        | false =>
          cases h
          exact ⟨rfl, rfl⟩
      | occupied y entry =>
        cases entry with
        | file body modified program =>
          cases h
          exact ⟨trivial, rfl⟩
        | directory => cases h
        | link target => cases h
  . intro h
    obtain ⟨place, hplace, hwritable, rfl⟩ := h
    rw [hplace]
    cases place with
    | vacant y slash =>
      cases hwritable
      rfl
    | occupied y entry =>
      cases entry with
      | file body modified program => rfl
      | directory => cases hwritable
      | link target => cases hwritable

/--
What has been written is found under the path.
-/
theorem place_of_writeFile (h : fs.writeFile p content now = .ok fs') :
    ∃ x program, fs'.place true p = .ok (.occupied x (.file content now program)) := by
  have ⟨place, hplace, hwritable, hput⟩ := writeFile_eq_ok_iff.1 h
  rw [hput]
  exact ⟨_, _, place_put_file hplace hwritable⟩

theorem modified?_of_writeFile (h : fs.writeFile p content now = .ok fs') :
    fs'.modified? p = some now := by
  have ⟨x, program, hplace⟩ := place_of_writeFile h
  unfold modified? lookup
  rw [hplace]
  rfl

theorem readText_of_read {text : String} (h : fs.read p = .ok text.toUTF8) :
    fs.readText p = .ok text := by
  unfold readText
  rw [h]
  dsimp only [bind, Except.bind]
  rw [Utf8.decode?_toUTF8]
  rfl

end ServerLauncher.FileSystem
