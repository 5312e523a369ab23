import ServerLauncher.Proofs.Registry.Commit

/-!
This module contains where verified files arrive. A file that has been moved to its destination is
found under it, unless the way there led through a link at that very place, which the file has
replaced. Nothing else changes but for directories on the way, as long as the file was not staged
behind that link.
-/

namespace ServerLauncher.Registry

open FileSystem

/--
The way of a path goes through the link at the place that it leads to.
-/
def CrossesItself (fs : FileSystem) (p : Path) (d : Location) : Prop :=
  ∃ via, Route fs false (fs.startOf p) (steps p) via d ∧ d ∈ via

/--
A file was staged on another device than its destination, behind a link at the destination. The copy
that has been moved there has replaced that link, and so the file is out of reach.
-/
structure Stranded (fs fs' : FileSystem) (directory : Path) (body : ByteArray) (d s : Location) :
    Prop where
  isDownload : ∃ number x, s = downloadName "pkl-lsp-" number :: x
  missing : fs.find? s = none
  content : ∃ modified, fs'.find? s = some (.file body modified none)
  passes : fs.PassesThrough directory d
  device : fs.device s.tail ≠ fs.device d.tail

/--
A file with some content has come to the place that its path led to, where no directory was. Everything
else has stayed, except for directories that were missing on the way and a file that was staged in a
directory and cannot be reached any more.
-/
structure Installed (fs fs' : FileSystem) (directory destination : Path) (body : ByteArray)
    (d : Location) : Prop where
  ground : SameGround fs fs'
  leads : fs.LeadsTo false destination d
  not_directory : fs.find? d ≠ some .directory
  content : ∃ modified, fs'.find? d = some (.file body modified none)
  changed : ∀ y, y ≠ d → fs'.find? y ≠ fs.find? y →
    Made fs fs' (directoryOf destination) y ∨ Stranded fs fs' directory body d y
  read_iff : fs'.read destination = .ok body ↔ ¬CrossesItself fs destination d

variable {fs fs₁ fs₂ fs' : FileSystem} {directory destination p : Path} {name : String}
  {x s c d : Location} {via : List Location} {body : ByteArray} {place : Place}

/--
A staged file that has been moved away from its place has come to the place of its destination. The file
is still there only if it cannot be reached there.
-/
structure Replaces (fs fs' : FileSystem) (directory : Path) (s : Location) (destination : Path)
    (body : ByteArray) (place : Place) : Prop where
  ground : SameGround fs fs'
  found : fs.place false destination = .ok place
  isReplaceable : place.IsReplaceable
  content : ∃ modified, fs'.find? place.location = some (.file body modified none)
  left : s ≠ place.location → fs'.find? s = none ∨ fs'.find? s = fs.find? s ∧
    fs.PassesThrough directory place.location ∧ fs.device s.tail ≠ fs.device place.location.tail
  other : ∀ y, y ≠ s → y ≠ place.location → fs'.find? y = fs.find? y

theorem replaces_of_rename {modified : Int} (h : WayTo fs directory name x via)
    (hcontent : fs.find? (name :: x) = some (.file body modified none))
    (hrename : fs.rename (directory / name) destination = .ok fs') :
    ∃ place, Replaces fs fs' directory (name :: x) destination body place := by
  have ⟨place, hplace, hreplaceable, hmoved⟩ := h.moved_of_rename hcontent hrename
  refine ⟨place, hmoved.ground, hplace, hreplaceable, ⟨modified, hmoved.find?_new⟩, ?_, hmoved.other⟩
  intro hne
  exact .inl (hmoved.find?_old hne)

theorem Copied.walks_of_isReplaceable {segments : List String} (h : Copied fs fs' c body)
    (hwalks : Walks fs' false x segments via place) (hplace : place.IsReplaceable) :
    ∃ place', Walks fs false x segments via place' ∧ place'.IsReplaceable ∧
      place'.location = place.location := by
  have ⟨modified, hcontent⟩ := h.content
  -- The way may end at the copy, where nothing was before, but it does not go through it.
  induction hwalks with
  | stop => exact absurd rfl hplace
  | idle hsegment _ ih =>
    have ⟨place', hwalks, hplace'⟩ := ih hplace
    exact ⟨place', .idle hsegment hwalks, hplace'⟩
  | up _ ih =>
    have ⟨place', hwalks, hplace'⟩ := ih hplace
    exact ⟨place', .up hwalks, hplace'⟩
  | missing hname hfind hrest =>
    exact ⟨_, .missing hname (h.grows.missing _ hfind) hrest, hplace, rfl⟩
  | @enter x segment _ _ _ hname hfind _ ih =>
    have hne : segment :: x ≠ c := by
      intro heq
      rw [heq, hcontent] at hfind
      cases hfind
    rw [h.other _ hne] at hfind
    have ⟨place', hwalks, hplace'⟩ := ih hplace
    exact ⟨place', .enter hname hfind hwalks, hplace'⟩
  | @file x segment _ _ _ hname hfind =>
    by_cases heq : segment :: x = c
    . have hmissing := h.missing
      rw [← heq] at hmissing
      exact ⟨_, .missing hname hmissing rfl, rfl, rfl⟩
    . rw [h.other _ heq] at hfind
      exact ⟨_, .file hname hfind, hplace, rfl⟩
  | keep hname hfind hfinal =>
    rw [h.grows.link_iff] at hfind
    exact ⟨_, .keep hname hfind hfinal, hplace, rfl⟩
  | follow hname hfind hfinal _ ih =>
    rw [h.grows.link_iff] at hfind
    have ⟨place', hwalks, hplace'⟩ := ih hplace
    exact ⟨place', .follow hname hfind hfinal hwalks, hplace'⟩

theorem Copied.place_of_isReplaceable (h : Copied fs fs' c body)
    (hplace : fs'.place false p = .ok place) (hreplaceable : place.IsReplaceable) :
    ∃ place', fs.place false p = .ok place' ∧ place'.IsReplaceable ∧
      place'.location = place.location := by
  have ⟨hadmissible, via, hwalks, hle⟩ := place_eq_ok_iff.1 hplace
  rw [h.ground.startOf] at hwalks
  have ⟨place', hwalks', hreplaceable', hlocation⟩ := h.walks_of_isReplaceable hwalks hreplaceable
  exact ⟨place', place_eq_ok_iff.2 ⟨hadmissible, via, hwalks', hle⟩, hreplaceable', hlocation⟩

section

variable {content : ByteArray} {modified written : Int}

theorem find?_of_moved (h : Moved fs fs' c d (.file content modified none)) {z : Location}
    {entry : Entry} (hz : fs'.find? z = some entry) (hentry : entry ≠ .file content modified none) :
    fs.find? z = some entry := by
  have hd : z ≠ d := by
    intro heq
    rw [heq, h.find?_new] at hz
    exact hentry (Option.some.inj hz).symm
  have hc : z ≠ c := by
    intro heq
    rw [heq] at hd
    rw [heq, h.find?_old hd] at hz
    cases hz
  rw [← h.other z hc hd]
  exact hz

theorem wayTo_of_moved (h : WayTo fs directory name x via)
    (hmoved : Moved fs fs' c d (.file content modified none))
    (hfind : fs.find? c = some (.file content modified none)) (hd : d ∉ via) :
    WayTo fs' directory name x via := by
  apply h.transfer hmoved.ground
  . intro z hz
    rw [hmoved.other]
    . exact hz
    . intro heq
      rw [heq, hfind] at hz
      cases hz
    . intro heq
      rw [heq] at hz
      exact hmoved.not_directory hz
  . intro z hz
    have ⟨target, htarget⟩ := h.walks.route.isLink_of_mem hz
    apply hmoved.other
    . intro heq
      rw [heq, hfind] at htarget
      cases htarget
    . intro heq
      rw [heq] at hz
      exact hd hz

theorem removeFile_of_moved (h : WayTo fs directory name x via)
    (hmoved : Moved fs fs' c d (.file content modified none))
    (hfind : fs.find? c = some (.file content modified none))
    (hstays : fs'.find? (name :: x) = some (.file body written none)) :
    fs'.removeFile (directory / name) = fs' ∧ d ∈ via ∨
      fs'.removeFile (directory / name) = fs'.drop (name :: x) := by
  by_cases hd : d ∈ via
  . rcases h.removeFile_cases hmoved.ground (fun z hz => find?_of_moved hmoved hz (by simp))
      (fun z target hz => find?_of_moved hmoved hz (by simp)) with hsame | hdrop
    . exact .inl ⟨hsame, hd⟩
    . exact .inr hdrop.2
  . exact .inr ((wayTo_of_moved h hmoved hfind hd).removeFile_of_file hstays)

end

theorem replaces_of_copied {modified : Int} {copies : Path} {copy : String} {z : Location}
    {via' : List Location} {e : IoError} (h : WayTo fs directory name x via)
    (hcontent : fs.find? (name :: x) = some (.file body modified none))
    (hfailed : fs.rename (directory / name) destination = .error e)
    (hcopy : Copied fs fs₁ (copy :: z) body) (hway : WayTo fs₁ copies copy z via')
    (hrename : fs₁.rename (copies / copy) destination = .ok fs') :
    ∃ place, Replaces fs (fs'.removeFile (directory / name)) directory (name :: x) destination body
      place := by
  have ⟨written, hwritten⟩ := hcopy.content
  have hmissing := hcopy.missing
  have ⟨_, hplace, hreplaceable, hmoved⟩ := hway.moved_of_rename hwritten hrename
  have ⟨place, hfound, hreplaceable', hlocation⟩ := hcopy.place_of_isReplaceable hplace hreplaceable
  rw [← hlocation] at hmoved
  -- Only another device can have been in the way of moving the staged file itself.
  have hmove := rename_of_isReplaceable (h.place_of_file hcontent false) hfound hreplaceable'
  have hdevice := device_ne_of_move (hmove.symm.trans hfailed)
  have hd : name :: x ≠ place.location := by
    intro heq
    rw [heq] at hdevice
    exact hdevice rfl
  have hs : name :: x ≠ copy :: z := by
    intro heq
    rw [heq, hmissing] at hcontent
    cases hcontent
  have hstays : fs'.find? (name :: x) = fs.find? (name :: x) := by
    rw [hmoved.other _ hs hd]
    exact hcopy.other _ hs
  have hother : ∀ y, y ≠ name :: x → y ≠ place.location → fs'.find? y = fs.find? y := by
    intro y hy hy'
    by_cases heq : y = copy :: z
    . rw [heq] at hy' ⊢
      rw [hmoved.find?_old hy', hmissing]
    . rw [hmoved.other y heq hy']
      exact hcopy.other y heq
  have hground := hcopy.ground.trans hmoved.ground
  refine ⟨place, ?_⟩
  rcases removeFile_of_moved (h.grows hcopy.grows) hmoved hwritten (hstays.trans hcontent) with
    ⟨hsame, hvia⟩ | hdrop
  . rw [hsame]
    refine ⟨hground, hfound, hreplaceable', ⟨written, hmoved.find?_new⟩, ?_, hother⟩
    intro _
    exact .inr ⟨hstays, ⟨via, x, h.walks.route, hvia⟩, hdevice⟩
  . rw [hdrop]
    refine ⟨hground.trans (ground_drop fs' _), hfound, hreplaceable', ⟨written, ?_⟩, ?_, ?_⟩
    . rw [find?_drop_of_ne hd.symm]
      exact hmoved.find?_new
    . intro _
      exact .inl (find?_drop_self (by simp) fs')
    . intro y hy hy'
      rw [find?_drop_of_ne hy]
      exact hother y hy hy'

theorem crossesItself_iff (h : Grows fs fs') : CrossesItself fs' p d ↔ CrossesItself fs p d := by
  unfold CrossesItself
  rw [h.ground.startOf]
  simp only [h.route_iff]

theorem Replaces.read {modified : Int} (h : Replaces fs fs' directory s destination body place)
    (hs : fs.find? s = some (.file body modified none))
    (hcrosses : ¬CrossesItself fs destination place.location) :
    fs'.read destination = .ok body := by
  have ⟨hadmissible, via, hwalks, hle⟩ := place_eq_ok_iff.1 h.found
  have ⟨written, hcontent⟩ := h.content
  have hnot := find?_ne_of_isReplaceable h.found h.isReplaceable
  apply read_eq_ok_iff.2
  refine ⟨place.location, written, none, place_eq_ok_iff.2 ⟨hadmissible, via, ?_, hle⟩⟩
  rw [h.ground.startOf]
  -- What has changed is neither a directory nor a link on the way.
  apply hwalks.transfer_of_isReplaceable h.isReplaceable _ _ hcontent
  . intro z hz
    rw [h.other]
    . exact hz
    . intro heq
      rw [heq, hs] at hz
      cases hz
    . intro heq
      rw [heq] at hz
      exact hnot hz
  . intro z hz
    have ⟨target, htarget⟩ := hwalks.route.isLink_of_mem hz
    apply h.other
    . intro heq
      rw [heq, hs] at htarget
      cases htarget
    . intro heq
      rw [heq] at hz
      exact hcrosses ⟨via, hwalks.route, hz⟩

theorem Replaces.changed (h : Replaces fs₂ fs' directory s destination body place)
    (hway : MakesWay fs₁ fs₂ (directoryOf destination)) (hcopy : Copied fs fs₁ s body)
    (hname : ∃ number x, s = downloadName "pkl-lsp-" number :: x) :
    ∀ y, y ≠ place.location → fs'.find? y ≠ fs.find? y →
      Made fs fs' (directoryOf destination) y ∨
        Stranded fs fs' directory body place.location y := by
  have hgrows := hcopy.grows.trans hway.grows
  intro y hd hy
  by_cases hs : y = s
  . rw [hs] at hd hy ⊢
    have ⟨modified, hcontent⟩ := hcopy.content
    rcases h.left hd with hgone | ⟨hstays, hpasses, hdevice⟩
    . rw [hgone, hcopy.missing] at hy
      exact absurd rfl hy
    . have hground := hgrows.ground
      refine .inr ⟨hname, hcopy.missing, ⟨modified, ?_⟩, hgrows.passesThrough_iff.1 hpasses, ?_⟩
      . exact hstays.trans (hway.find?_of_some hcontent)
      . rw [hground] at hdevice
        exact hdevice
  . have heq := h.other y hs hd
    rw [heq, ← hcopy.other y hs] at hy
    exact .inl (((hway.made y hy).of_grows hcopy.grows).of_find?_eq heq)

/--
A file that has taken the place of a link on the way of its own path cannot be read under it.
-/
theorem not_read_of_crossesItself {modified : Int}
    (hground : SameGround fs fs') (hcontent : fs'.find? d = some (.file body modified none))
    (hchanged : ∀ y, y ≠ d → fs'.find? y ≠ fs.find? y →
      Made fs fs' p y ∨ Stranded fs fs' directory body d y)
    (hcrosses : CrossesItself fs destination d) {content : ByteArray} :
    fs'.read destination ≠ .ok content := by
  intro hread
  have ⟨via, hroute, hd⟩ := hcrosses
  have ⟨x, time, program, hplace⟩ := read_eq_ok_iff.1 hread
  have ⟨_, via', hwalks, _⟩ := place_eq_ok_iff.1 hplace
  rw [hground.startOf] at hwalks
  refine hroute.not_walks hd hcontent ?_ hwalks
  intro y target hy
  by_cases heq : fs'.find? y = fs.find? y
  . rw [heq]
  . rcases hchanged y hy heq with hmade | hstranded
    . simp [hmade.missing, hmade.directory]
    . have ⟨written, hwritten⟩ := hstranded.content
      simp [hstranded.missing, hwritten]

theorem Replaces.installed {modified : Int}
    (h : Replaces fs₂ fs' directory s destination body place)
    (hway : MakesWay fs₁ fs₂ (directoryOf destination)) (hcopy : Copied fs fs₁ s body)
    (hcontent : fs₂.find? s = some (.file body modified none))
    (hname : ∃ number x, s = downloadName "pkl-lsp-" number :: x) :
    Installed fs fs' directory destination body place.location := by
  have hgrows := hcopy.grows.trans hway.grows
  have ⟨written, hwritten⟩ := h.content
  have hchanged := h.changed hway hcopy hname
  constructor
  . exact hgrows.ground.trans h.ground
  . exact hgrows.leadsTo_iff.1 (leadsTo_of_place h.found)
  . intro hdirectory
    exact find?_ne_of_isReplaceable h.found h.isReplaceable (hgrows.directory _ hdirectory)
  . exact ⟨written, hwritten⟩
  . exact hchanged
  . constructor
    . intro hread hcrosses
      exact not_read_of_crossesItself (hgrows.ground.trans h.ground) hwritten hchanged hcrosses hread
    . intro hcrosses
      apply h.read hcontent
      rw [crossesItself_iff hgrows]
      exact hcrosses

/--
A staged file that is moved to its destination is installed there. Unless it has gone there itself, it
is discarded.
-/
theorem Commits.installed {moved : Bool}
    (hcommits : Commits fs₁ (directory / name) destination body (.ok moved) fs')
    (hcopy : Copied fs fs₁ (name :: x) body) (h : WayTo fs₁ directory name x via)
    (hname : ∃ number, name = downloadName "pkl-lsp-" number) :
    ∃ d, Installed fs (if moved then fs' else fs'.removeFile (directory / name)) directory
      destination body d := by
  have ⟨modified, hcontent⟩ := hcopy.content
  have ⟨number, hnumber⟩ := hname
  have hs : ∃ number x', name :: x = downloadName "pkl-lsp-" number :: x' := by
    rw [hnumber]
    exact ⟨number, x, rfl⟩
  cases hcommits with
  | direct hway hrename =>
    have hfind := hway.find?_of_some hcontent
    have ⟨place, hreplaces⟩ := replaces_of_rename (h.grows hway.grows) hfind hrename
    exact ⟨place.location, hreplaces.installed hway hcopy hfind hs⟩
  | copied hway hfailed hcopied hway' hrename =>
    have hfind := hway.find?_of_some hcontent
    have ⟨place, hreplaces⟩ :=
      replaces_of_copied (h.grows hway.grows) hfind hfailed hcopied hway' hrename
    exact ⟨place.location, hreplaces.installed hway hcopy hfind hs⟩

theorem Commits.makesWay {e : FetchError}
    (hcommits : Commits fs₁ (directory / name) destination body (.error e) fs')
    (hcopy : Copied fs fs₁ (name :: x) body) (h : WayTo fs₁ directory name x via) :
    MakesWay fs (fs'.removeFile (directory / name)) (directoryOf destination) := by
  have ⟨modified, hcontent⟩ := hcopy.content
  cases hcommits with
  | refused _ hway =>
    rw [(h.grows hway.grows).removeFile_of_file (hway.find?_of_some hcontent)]
    exact hcopy.makesWay_of_drop hway

end ServerLauncher.Registry
