import ServerLauncher.Proofs.Update.Resolving

/-!
This module contains what comes after an update: once a version has been downloaded, the same version
is not downloaded again, however often the registry is asked, and nobody is asked about it. That holds
as long as the jar has not replaced a link on its own way.
-/

namespace ServerLauncher

open FileSystem Registry

namespace FileSystem

variable {fs fs' : FileSystem} {x y : Location} {segments : List String} {via : List Location}
  {p : Path} {content content' : ByteArray} {modified modified' : Int}
  {program program' : Option Program}

/--
The way to a file stays when the file is written anew.
-/
theorem Walks.transfer_of_file
    (h : Walks fs true x segments via (.occupied y (.file content modified program)))
    (hdirectory : ∀ z, fs.find? z = some .directory → fs'.find? z = some .directory)
    (hlink : ∀ z ∈ via, fs'.find? z = fs.find? z)
    (hfile : fs'.find? y = some (.file content' modified' program')) :
    Walks fs' true x segments via (.occupied y (.file content' modified' program')) := by
  generalize hplace : Place.occupied y (.file content modified program) = place at h
  induction h with
  | stop => cases hplace
  | idle hsegment _ ih => exact .idle hsegment (ih hlink hplace)
  | up _ ih => exact .up (ih hlink hplace)
  | missing => cases hplace
  | enter hname hfind _ ih => exact .enter hname (hdirectory _ hfind) (ih hlink hplace)
  | file hname =>
    cases hplace
    exact .file hname hfile
  | keep => cases hplace
  | follow hname hfind hfinal _ ih =>
    rw [← hlink _ List.mem_cons_self] at hfind
    apply Walks.follow hname hfind hfinal
    apply ih
    . intro z hz
      exact hlink z (List.mem_cons_of_mem _ hz)
    . exact hplace

theorem isFile_iff_exists_read : fs.isFile p ↔ ∃ body, fs.read p = .ok body := by
  constructor
  . intro h
    obtain ⟨place, hplace⟩ := place_of_isFile h
    unfold isFile lookup at h
    rw [hplace] at h
    cases place with
    | vacant => cases h
    | occupied y entry =>
      cases entry with
      | file content modified program =>
        exact ⟨content, read_eq_ok_iff.2 ⟨y, modified, program, hplace⟩⟩
      | _ => cases h
  . rintro ⟨body, hread⟩
    exact isFile_of_read hread

end FileSystem

namespace Registry

/--
A file may get another content when documents are kept, but it stays a file.
-/
theorem isFile_of_kept {fs fs' : FileSystem} {p : Path} (hgrows : Grows fs fs')
    (hkept : ∀ x, fs'.find? x ≠ fs.find? x → ∃ q, Kept fs fs' q x) (h : fs.isFile p) :
    fs'.isFile p := by
  obtain ⟨body, hread⟩ := isFile_iff_exists_read.1 h
  obtain ⟨x, modified, program, hplace⟩ := read_eq_ok_iff.1 hread
  have hfind := find?_of_place_occupied hplace (by simp)
  rw [isFile_iff_exists_read]
  by_cases hsame : fs'.find? x = fs.find? x
  . exact ⟨body, read_eq_ok_iff.2 ⟨x, modified, program, hgrows.place_of_occupied hplace hsame⟩⟩
  obtain ⟨q, hchanged⟩ := hkept x hsame
  cases hchanged with
  | document _ hcontent =>
    obtain ⟨content, written, program', hcontent⟩ := hcontent
    obtain ⟨hadmissible, via, hwalks, hle⟩ := place_eq_ok_iff.1 hplace
    refine ⟨content, read_eq_ok_iff.2 ⟨x, written, program', ?_⟩⟩
    refine place_eq_ok_iff.2 ⟨hadmissible, via, ?_, hle⟩
    rw [hgrows.ground.startOf]
    apply hwalks.transfer_of_file hgrows.directory _ hcontent
    intro z hz
    exact hgrows.find?_of_mem hwalks.route hz
  | directory _ hmade =>
    rw [hmade.missing] at hfind
    cases hfind

end Registry

namespace Update

/--
The way to the jar of a version does not go through a link at the very place of the jar, which the jar
would replace.
-/
def WayLasts (u : Update) (fs : FileSystem) (v : Version) : Prop :=
  ∀ x, fs.LeadsTo false (u.cache.jarPath v) x → ¬CrossesItself fs (u.cache.jarPath v) x

/--
An update has ended well with a version and the path of its jar.
-/
inductive Brings (u : Update) (w : World) (v : Version) : Path → World → Prop where
  | check {path : Path} {w' : World} (h : u.check.run w = (.downloaded v path, w')) :
    Brings u w v path w'
  | download {version : Option Version} {d : Distribution} {w' : World}
    (h : (u.download version).run.run w = (.ok d, w')) (hversion : d.version = v) :
    Brings u w v d.path w'

/--
What may come after an update: the surroundings change, but not the files, and the update is repeated.
The registry still has the same version as the latest one.
-/
inductive Later (u : Update) (v : Version) (w : World) : World → Prop where
  | refl : Later u v w w
  | surround {w₁ w₂ : World} (h : Later u v w w₁) (hfiles : w₂.files = w₁.files) :
    Later u v w w₂
  | check {w₁ : World} (h : Later u v w w₁) (hfound : (u.latest.run.run w₁).1 = .ok v) :
    Later u v w (u.check.run w₁).2
  | download {w₁ : World} (h : Later u v w w₁) :
    Later u v w ((u.download (some v)).run.run w₁).2

/--
A check does nothing but to look the latest version up. Nobody is asked for anything but the metadata,
and nothing changes but the document of the artifact and missing directories on the way to it.
-/
structure OnlyLooks (u : Update) (w looked : World) (outcome : Outcome) : Prop where
  check : u.check.run w = (outcome, looked)
  events : ∃ events, looked.events = w.events ++ events ∧
    u.registry.AsksFor u.coordinate.metadataPath w events
  untouched : u.Untouched w looked fun _ => False

/--
Updates have converged to a version: whatever repeats the update does not download it again.
-/
structure Converged (u : Update) (w : World) (v : Version) (path : Path) : Prop where
  check : ∀ looked, u.latest.run.run w = (.ok v, looked) →
    u.OnlyLooks w looked
      (if v.isCompatibleWith u.bundledVersion then .alreadyDownloaded v else .incompatible v)
  download : ∃ d, (u.download (some v)).run.run w = (.ok d, w) ∧ d.version = v ∧ d.path = path

variable {u : Update} {w w' w₂ looked : World} {v : Version} {path : Path} {fs fs' : FileSystem}

theorem wayLasts_iff (h : Grows fs fs') : u.WayLasts fs' v ↔ u.WayLasts fs v := by
  unfold WayLasts
  simp only [h.leadsTo_iff, crossesItself_iff h]

theorem HasLooked.contains (h : u.HasLooked w looked) (hcontains : u.cache.contains w.files v) :
    u.cache.contains looked.files v := by
  apply isFile_of_kept h.grows _ hcontains
  intro x hx
  obtain ⟨cache, _, hkept⟩ := h.kept x hx
  exact ⟨_, hkept⟩

/--
A jar that has been fetched is there just if its way has not been cut off.
-/
theorem contains_iff_of_fetch (h : (u.fetch v).run.run w = (.ok (), w')) :
    u.cache.contains w'.files v ↔ u.WayLasts w.files v := by
  rcases lands_fetch h with ⟨hfailed, _⟩ | ⟨checksum, _, hlands⟩
  . exact absurd rfl hfailed
  cases hlands with
  | @installed body x _ hinstalled =>
    have hlasts : u.WayLasts w.files v ↔ ¬CrossesItself w.files (u.cache.jarPath v) x := by
      constructor
      . intro hway
        exact hway x hinstalled.leads
      . intro hcrosses y hy
        rw [hinstalled.leads.unique hy]
        exact hcrosses
    rw [hlasts]
    refine isFile_iff_exists_read.trans ?_
    constructor
    . rintro ⟨content, hread⟩ hcrosses
      obtain ⟨written, hwritten⟩ := hinstalled.content
      exact not_read_of_crossesItself hinstalled.ground hwritten hinstalled.changed hcrosses hread
    . intro hcrosses
      exact ⟨body, hinstalled.read_iff.2 hcrosses⟩

theorem contains_of_check (h : u.check.run w = (.downloaded v path, w'))
    (hway : ¬u.cache.contains w.files v → u.WayLasts w.files v) :
    u.cache.contains w'.files v ∧ path = u.cache.jarPath v := by
  have hlooked := hasLooked_latest u w
  rcases hrun : u.latest.run.run w with ⟨found, looked⟩
  rw [hrun] at hlooked
  cases (exit_iff hrun).2 h with
  | downloaded haccepted hfetch =>
    refine ⟨(contains_iff_of_fetch hfetch).2 ?_, rfl⟩
    rw [wayLasts_iff (hasLooked_prompted hlooked v).grows]
    exact hway fun hcontains => haccepted.missing (hlooked.contains hcontains)

theorem provide_eq_ok {d : Distribution} (h : (u.provide v).run.run w = (.ok d, w')) :
    d = u.cache.distribution v ∧
      (u.cache.contains w.files v ∧ w' = w ∨
        ¬u.cache.contains w.files v ∧ (u.fetch v).run.run w = (.ok (), w')) := by
  unfold provide at h
  rw [Attempt.run_bind_of_ok (Attempt.run_machine w)] at h
  dsimp only at h
  -- Otherwise the paths of the two distributions are computed to be compared.
  generalize u.cache.distribution v = there at h ⊢
  split at h
  . next hmissing =>
    rw [Bool.not_eq_true', Bool.eq_false_iff] at hmissing
    rcases hfetch : (u.fetch v).run.run w with ⟨fetched, w₁⟩
    cases fetched with
    | error e =>
      rw [Attempt.run_bind_of_error hfetch] at h
      cases h
    | ok =>
      rw [Attempt.run_bind_of_ok hfetch] at h
      cases h
      exact ⟨rfl, .inr ⟨hmissing, rfl⟩⟩
  . next hthere =>
    cases h
    rw [Bool.not_eq_true', Bool.not_eq_false] at hthere
    exact ⟨rfl, .inl ⟨hthere, rfl⟩⟩

theorem contains_of_download {version : Option Version} {d : Distribution}
    (h : (u.download version).run.run w = (.ok d, w'))
    (hway : ¬u.cache.contains w.files d.version → u.WayLasts w.files d.version) :
    u.cache.contains w'.files d.version ∧ d.path = u.cache.jarPath d.version := by
  have hlooked := hasLooked_chosen u version w
  rw [download_eq] at h
  rcases hchosen : (u.chosen version).run.run w with ⟨result, looked⟩
  rw [hchosen] at hlooked
  cases result with
  | error e =>
    rw [Attempt.run_bind_of_error hchosen] at h
    cases h
  | ok v =>
    rw [Attempt.run_bind_of_ok hchosen] at h
    obtain ⟨rfl, ⟨hthere, rfl⟩ | ⟨hmissing, hfetch⟩⟩ := provide_eq_ok h
    . exact ⟨hthere, rfl⟩
    . refine ⟨(contains_iff_of_fetch hfetch).2 ?_, rfl⟩
      rw [wayLasts_iff hlooked.grows]
      exact hway fun hcontains => hmissing (hlooked.contains hcontains)

theorem Brings.contains (h : u.Brings w v path w')
    (hway : ¬u.cache.contains w.files v → u.WayLasts w.files v) :
    u.cache.contains w'.files v ∧ path = u.cache.jarPath v := by
  cases h with
  | check h => exact contains_of_check h hway
  | download h hversion =>
    rw [← hversion] at hway ⊢
    exact contains_of_download h hway

theorem check_of_incompatible (hfound : u.latest.run.run w = (.ok v, looked))
    (hcompatible : ¬v.isCompatibleWith u.bundledVersion) :
    u.check.run w = (.incompatible v, looked) := by
  apply check_of_run_ok
  rw [run_of_found hfound, if_pos hcompatible]

theorem check_of_contains (hfound : u.latest.run.run w = (.ok v, looked))
    (hcompatible : v.isCompatibleWith u.bundledVersion) (hcontains : u.cache.contains looked.files v) :
    u.check.run w = (.alreadyDownloaded v, looked) := by
  apply check_of_run_ok
  rw [run_of_found hfound, if_neg (not_not_intro hcompatible), if_pos hcontains]

theorem onlyLooks_of_check {outcome : Outcome} (hfound : u.latest.run.run w = (.ok v, looked))
    (hcheck : u.check.run w = (outcome, looked)) : u.OnlyLooks w looked outcome where
  check := hcheck
  events := asksFor_lookup hfound
  untouched := by
    have hlooked := hasLooked_latest u w
    rw [hfound] at hlooked
    exact hlooked.untouched

/--
It is enough that the jar is there.
-/
theorem converged_of_contains (h : u.cache.contains w.files v) :
    u.Converged w v (u.cache.jarPath v) where
  check looked hfound := by
    apply onlyLooks_of_check hfound
    split
    . next hcompatible =>
      have hlooked := hasLooked_latest u w
      rw [hfound] at hlooked
      exact check_of_contains hfound hcompatible (hlooked.contains h)
    . next hcompatible => exact check_of_incompatible hfound hcompatible
  download := ⟨u.cache.distribution v, run_download_of_contains h, rfl, rfl⟩

/--
The jar stays there, whatever comes later.
-/
theorem Later.contains (h : u.Later v w w₂) (hcontains : u.cache.contains w.files v) :
    u.cache.contains w₂.files v := by
  induction h with
  | refl => exact hcontains
  | surround _ hfiles ih =>
    rw [hfiles]
    exact ih
  | @check w₁ _ hfound ih =>
    have hlooked := hasLooked_latest u w₁
    rcases hrun : u.latest.run.run w₁ with ⟨found, looked⟩
    rw [hrun] at hlooked hfound
    rw [show found = .ok v from hfound] at hrun
    rw [((converged_of_contains ih).check looked hrun).check]
    exact hlooked.contains ih
  | download _ ih =>
    rw [run_download_of_contains ih]
    exact ih

/--
After an update, repeating it does nothing but to look the latest version up. An incompatible version
is never looked for among the jars, and any other one is found there, unless its jar was not there
before and has cut off its own way.
-/
theorem converges (hbrings : u.Brings w v path w') (hlater : u.Later v w' w₂) :
    (∀ looked, u.latest.run.run w₂ = (.ok v, looked) → ¬v.isCompatibleWith u.bundledVersion →
      u.OnlyLooks w₂ looked (.incompatible v)) ∧
    ((¬u.cache.contains w.files v → u.WayLasts w.files v) → u.Converged w₂ v path) := by
  constructor
  . intro looked hfound hcompatible
    exact onlyLooks_of_check hfound (check_of_incompatible hfound hcompatible)
  . intro hway
    obtain ⟨hcontains, hpath⟩ := hbrings.contains hway
    rw [hpath]
    exact converged_of_contains (hlater.contains hcontains)

theorem wayLasts_of_no_link (h : ∀ x target, fs.find? x ≠ some (.link target)) :
    u.WayLasts fs v := by
  rintro x _ ⟨via, hroute, hmem⟩
  obtain ⟨target, htarget⟩ := hroute.isLink_of_mem hmem
  exact h x target htarget

/--
A world with these files, where nobody wants an update.
-/
def afterwards (files : FileSystem) : World :=
  { firstWorld with files, host := .steady false }

theorem converges_configured :
    ∃ w' looked,
      configuredUpdate.Brings (configuredWorld []) (.ofNumbers 0 6 1)
        "/servers/0.6.1/pkl-lsp-0.6.1.jar" w' ∧
      configuredUpdate.WayLasts (configuredWorld []).files (.ofNumbers 0 6 1) ∧
      configuredUpdate.OnlyLooks (afterwards w'.files) looked
        (.alreadyDownloaded (.ofNumbers 0 6 1)) ∧
      ∃ d, (configuredUpdate.download (some (.ofNumbers 0 6 1))).run.run (afterwards w'.files) =
        (.ok d, afterwards w'.files) := by
  have houtcome : (configuredUpdate.check.run (configuredWorld [])).1 =
      .downloaded (.ofNumbers 0 6 1) "/servers/0.6.1/pkl-lsp-0.6.1.jar" := by
    decide +kernel
  have hfound : (configuredUpdate.latest.run.run
      (afterwards (configuredUpdate.check.run (configuredWorld [])).2.files)).1 =
      .ok (.ofNumbers 0 6 1) := by
    decide +kernel
  have hway : configuredUpdate.WayLasts (configuredWorld []).files (.ofNumbers 0 6 1) := by
    apply wayLasts_of_no_link
    intro x target
    simp only [configuredWorld, firstWorld, List.append_nil, FileSystem.find?, Keyed.get?]
    split
    . simp
    . split
      . simp
      . split <;> simp
  have hcompatible : (Version.ofNumbers 0 6 1).isCompatibleWith configuredUpdate.bundledVersion := by
    decide
  generalize hcheck : configuredUpdate.check.run (configuredWorld []) = checked at houtcome hfound
  obtain ⟨outcome, w'⟩ := checked
  obtain rfl : outcome = _ := houtcome
  generalize hlatest : configuredUpdate.latest.run.run (afterwards w'.files) = found at hfound
  obtain ⟨result, looked⟩ := found
  obtain rfl : result = _ := hfound
  have hbrings := Brings.check hcheck
  have hlater : configuredUpdate.Later (.ofNumbers 0 6 1) w' (afterwards w'.files) :=
    .surround .refl rfl
  obtain ⟨_, hconverged⟩ := converges hbrings hlater
  have hconverged := hconverged fun _ => hway
  have hlooks := hconverged.check looked hlatest
  rw [if_pos hcompatible] at hlooks
  obtain ⟨d, hdownload, _⟩ := hconverged.download
  exact ⟨w', looked, hbrings, hway, hlooks, d, hdownload⟩

/--
A world where the jars of two versions are there, and where the document of the artifact is a link to
the older one.
-/
def sharedWorld : World :=
  { firstWorld with
    files := {
      firstWorld.files with
      entries := [
        (["tmp"], .directory),
        (["servers"], .directory),
        (["0.6.0", "servers"], .directory),
        (["pkl-lsp-0.6.0.jar", "0.6.0", "servers"], .file "old".toUTF8 0 none),
        (["0.6.1", "servers"], .directory),
        (["pkl-lsp-0.6.1.jar", "0.6.1", "servers"], .file "jar".toUTF8 0 none),
        (["data"], .directory),
        (["org.pkl-lang", "data"], .directory),
        (["pkl-lsp", "org.pkl-lang", "data"], .directory),
        (["maven-metadata.xml", "pkl-lsp", "org.pkl-lang", "data"],
          .link "/servers/0.6.0/pkl-lsp-0.6.0.jar")] } }

theorem exists_offered_again_and_jar_changed :
    (∃ (u : Update) (w : World) (v : Version) (path : Path),
      (u.check.run w).1 = .downloaded v path ∧ v.isCompatibleWith u.bundledVersion ∧
        (u.latest.run.run (afterwards (u.check.run w).2.files)).1 = .ok v ∧
        (u.check.run (afterwards (u.check.run w).2.files)).1 = .declined v) ∧
      ∃ (u : Update) (w : World) (v older : Version) (d : Distribution),
        (u.download (some v)).run.run w = (.ok d, w) ∧ d.version = v ∧
          (u.latest.run.run w).1 = .ok v ∧ u.cache.contains w.files older ∧
          (u.check.run w).2.files.read (u.cache.jarPath older) ≠
            w.files.read (u.cache.jarPath older) := by
  constructor
  . refine ⟨configuredUpdate, configuredWorld selfLinks, .ofNumbers 0 6 1,
      "/servers/0.6.1/pkl-lsp-0.6.1.jar", ?_⟩
    decide +kernel
  . refine ⟨linkedUpdate, sharedWorld, .ofNumbers 0 6 1, .ofNumbers 0 6 0, _,
      run_download_of_contains ?_, rfl, ?_⟩
    . decide +kernel
    . decide +kernel

end Update

end ServerLauncher
