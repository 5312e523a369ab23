import ServerLauncher.Proofs.Distribution.Cache
import ServerLauncher.Proofs.Registry.Keeping
import ServerLauncher.Proofs.Registry.Lookup
import ServerLauncher.Update

/-!
This module contains what updates leave in the file system. Whatever the registry answers, that is the
document of the artifact, the jar of a version if it was downloaded, and directories on the way to
them.
-/

namespace ServerLauncher

open FileSystem Registry

namespace Update

/--
The version that is to be downloaded: the one that is asked for, or the latest one.
-/
def chosen (u : Update) (version : Option Version) : Attempt LauncherError Version :=
  match version with
  | some v => pure v
  | none => u.latest

/--
The registry publishes a text as the checksum of a version.
-/
def Publishes (u : Update) (w : World) (v : Version) (checksum : String) : Prop :=
  ∃ url, u.registry.urlOf (u.coordinate.checksumPath v) = .ok url ∧
    ((Http.getText url).run.run w).1 = .ok checksum

/--
The place of the jar of a version, which is a single name in the directory of downloaded servers, has
become a file with the checksum that the registry has published for it in the meantime.
-/
structure HasFetched (u : Update) (w w' : World) (v : Version) (x : Location) : Prop where
  isName : Path.IsName v.text
  leads : w.files.LeadsTo false (u.cache.jarPath v) x
  content : ∃ w₁ checksum, w.Follows w₁ ∧ w₁.Follows w' ∧ u.Publishes w₁ v checksum ∧
    ∃ body modified, w'.files.find? x = some (.file body modified none) ∧
      Sha256.hexDigest body = Checksum.normalize checksum

/--
The reasons why something has changed at a place, where the jar of a version may have been downloaded.
-/
inductive Change (u : Update) (w w' : World) (wanted fetched : Version → Prop) (x : Location) :
    Prop where
  | metadata {cache : MetadataCache} (hcache : u.registry.cache = some cache)
    (hkept : Kept w.files w'.files (cache.path u.coordinate) x)
  | jar {v : Version} (hfetched : fetched v) (hjar : u.HasFetched w w' v x)
  | jarDirectory {v : Version} (hname : Path.IsName v.text) (hwanted : wanted v)
    (hmade : Made w.files w'.files (directoryOf (u.cache.jarPath v)) x)

/--
Nothing has changed for another reason, and the jars that count as downloaded are there.
-/
structure Footprint (u : Update) (w w' : World) (wanted fetched : Version → Prop) : Prop where
  ground : SameGround w.files w'.files
  changed : ∀ x, w'.files.find? x ≠ w.files.find? x → u.Change w w' wanted fetched x
  jar : ∀ v, fetched v → ∃ x, u.HasFetched w w' v x

/--
If the directory for unfinished downloads, which the environment chooses, is reached through a link at
the place of a jar, then there is only one device. From another device the jar would come as a copy,
replace that link, and cut the launcher off from its own unfinished download.
-/
def Secluded (u : Update) (fs : FileSystem) : Prop :=
  ∀ v, v.WellFormed → ∀ x, fs.LeadsTo false (u.cache.jarPath v) x →
    fs.PassesThrough (u.registry.staging.getD fs.temporaryDirectory) x →
      ∀ y, fs.device y = fs.device x.tail

/--
Nothing but the document of the artifact has been looked up yet.
-/
structure HasLooked (u : Update) (w w' : World) : Prop where
  follows : w.Follows w'
  grows : Grows w.files w'.files
  kept : ∀ x, w'.files.find? x ≠ w.files.find? x →
    ∃ cache, u.registry.cache = some cache ∧ Kept w.files w'.files (cache.path u.coordinate) x

variable {u : Update} {w w' w₁ w₂ : World} {wanted fetched : Version → Prop} {v : Version}

theorem secluded_of_device_eq {fs : FileSystem} (h : ∀ x y, fs.device x = fs.device y) :
    u.Secluded fs := by
  intro v _ x _ _ y
  exact h y x.tail

theorem Secluded.grows {fs fs' : FileSystem} (h : u.Secluded fs) (hgrows : Grows fs fs') :
    u.Secluded fs' := by
  intro v hv x hleads
  have htemporary : fs'.temporaryDirectory = fs.temporaryDirectory := by
    rw [hgrows.ground]
  have hdevice : fs'.device = fs.device := by
    rw [hgrows.ground]
  rw [htemporary, hdevice, hgrows.passesThrough_iff]
  exact h v hv x (hgrows.leadsTo_iff.1 hleads)

theorem HasLooked.refl (u : Update) (w : World) : u.HasLooked w w where
  follows := refl_of World.Follows w
  grows := .refl w.files
  kept := by
    intro x hx
    exact absurd rfl hx

theorem HasLooked.trans (h : u.HasLooked w w₁) (hfollows : w₁.Follows w')
    (hfiles : w'.files = w₁.files) : u.HasLooked w w' where
  follows := trans_of World.Follows h.follows hfollows
  grows := by
    rw [hfiles]
    exact h.grows
  kept := by
    rw [hfiles]
    exact h.kept

theorem hasLooked_latest (u : Update) (w : World) : u.HasLooked w (u.latest.run.run w).2 := by
  have hfollows : w.Follows (u.latest.run.run w).2 :=
    (keeps_latest World.follows_withFiles Action.follows_request _ _ _).adapt _ w
  have hfiles : (u.latest.run.run w).2.files = w.files ∨ _ :=
    files_latest u.registry u.coordinate u.useCache w
  rcases hfiles with hfiles | ⟨cache, now, document, hcache, hfiles⟩
  . exact (HasLooked.refl u w).trans hfollows hfiles
  . have hkeeps := onlyKeeps_write cache w.files now u.coordinate document
    rw [← hfiles] at hkeeps
    refine ⟨hfollows, hkeeps.grows, ?_⟩
    intro x hx
    exact ⟨cache, hcache, hkeeps.kept x hx⟩

theorem hasLooked_chosen (u : Update) (version : Option Version) (w : World) :
    u.HasLooked w ((u.chosen version).run.run w).2 := by
  cases version with
  | some v => exact .refl u w
  | none => exact hasLooked_latest u w

theorem wellFormed_of_latest (h : (u.latest.run.run w).1 = .ok v) : v.WellFormed := by
  unfold latest at h
  rw [Attempt.run_adapt] at h
  cases hlatest : ((u.registry.latest u.coordinate u.useCache).run.run w).1 with
  | error e =>
    rw [hlatest] at h
    cases h
  | ok latest =>
    rw [hlatest] at h
    cases h
    exact Registry.wellFormed_of_latest hlatest

theorem wellFormed_of_chosen {version : Option Version} (hversion : ∀ v ∈ version, v.WellFormed)
    (h : ((u.chosen version).run.run w).1 = .ok v) : v.WellFormed := by
  cases version with
  | some requested =>
    cases h
    exact hversion _ rfl
  | none => exact wellFormed_of_latest h

theorem footprint_of_hasLooked (h : u.HasLooked w w') (hfetched : ∀ v, ¬fetched v) :
    u.Footprint w w' wanted fetched where
  ground := h.grows.ground
  changed := by
    intro x hx
    have ⟨cache, hcache, hkept⟩ := h.kept x hx
    exact .metadata hcache hkept
  jar := by
    intro v hv
    exact absurd hv (hfetched v)

theorem lands_fetch {result : Except LauncherError Unit}
    (h : (u.fetch v).run.run w = (result, w')) :
    (result ≠ .ok () ∧ w'.files = w.files) ∨
      ∃ checksum, u.Publishes w v checksum ∧
        Lands w.files w'.files (u.registry.staging.getD w.files.temporaryDirectory)
          (u.cache.jarPath v) (Checksum.normalize checksum) result := by
  unfold fetch at h
  rw [Attempt.run_adapt] at h
  rcases hrun : (u.registry.downloadArtifact u.coordinate v (u.cache.jarPath v)).run.run w with
    ⟨downloaded, w₁⟩
  rw [hrun] at h
  cases h
  rw [Ne, mapError_eq_ok_iff]
  rcases lands_downloadArtifact hrun with hnothing | ⟨url, checksum, hurl, hchecksum, hlands⟩
  . exact .inl hnothing
  . exact .inr ⟨checksum, ⟨url, hurl, hchecksum⟩, hlands.mapError _⟩

theorem follows_fetch (u : Update) (v : Version) (w : World) :
    w.Follows ((u.fetch v).run.run w).2 :=
  (keeps_downloadArtifact World.follows_withFiles Action.follows_request _ _ _ _).adapt _ w

theorem footprint_of_fetch (hlooked : u.HasLooked w w₁) (hsecluded : u.Secluded w.files)
    (hv : v.WellFormed) (hwanted : wanted v) {result : Except LauncherError Unit}
    (hrun : (u.fetch v).run.run w₁ = (result, w₂))
    (hfetched : ∀ v', fetched v' ↔ v' = v ∧ result = .ok ()) :
    u.Footprint w w₂ wanted fetched := by
  have hfollows : w₁.Follows w₂ := by
    have hfollows := follows_fetch u v w₁
    rw [hrun] at hfollows
    exact hfollows
  rcases lands_fetch hrun with ⟨hfailed, hfiles⟩ | ⟨checksum, hpublishes, hlands⟩
  . apply footprint_of_hasLooked (hlooked.trans hfollows hfiles)
    intro v' hv'
    exact hfailed ((hfetched v').1 hv').2
  have hfetches := hlands.fetches (hsecluded.grows hlooked.grows v hv)
  have hname := Version.isName_text hv
  have hjar : ∀ x, Verified w₁.files w₂.files (u.cache.jarPath v) (Checksum.normalize checksum) x →
      u.HasFetched w w₂ v x := by
    intro x hx
    have ⟨body, modified, hcontent⟩ := hx.content
    refine ⟨hname, hlooked.grows.leadsTo_iff.1 hx.leads, w₁, checksum, ?_, hfollows, hpublishes,
      body, modified, hcontent⟩
    exact hlooked.follows
  constructor
  . exact hlooked.grows.ground.trans hfetches.ground
  . intro x hx
    -- What the lookup has changed is still there after the download, except where the jar is now.
    by_cases heq : w₂.files.find? x = w₁.files.find? x
    . rw [heq] at hx
      have ⟨cache, hcache, hkept⟩ := hlooked.kept x hx
      exact .metadata hcache (hkept.of_find?_eq heq)
    . cases hfetches.changed x heq with
      | inl hmade => exact .jarDirectory hname hwanted (hmade.of_grows hlooked.grows)
      | inr hverified => exact .jar ((hfetched v).2 ⟨rfl, hverified.1⟩) (hjar x hverified.2)
  . intro v' hv'
    have ⟨heq, hok⟩ := (hfetched v').1 hv'
    have ⟨x, hx⟩ := hfetches.verified hok
    rw [heq]
    exact ⟨x, hjar x hx⟩

theorem HasFetched.trans {x : Location} (h : u.HasFetched w w₁ v x) (hfollows : w₁.Follows w')
    (hfiles : w'.files = w₁.files) : u.HasFetched w w' v x where
  isName := h.isName
  leads := h.leads
  content := by
    have ⟨w₀, checksum, hbefore, hafter, hcontent⟩ := h.content
    rw [hfiles]
    exact ⟨w₀, checksum, hbefore, trans_of World.Follows hafter hfollows, hcontent⟩

theorem Footprint.trans (h : u.Footprint w w₁ wanted fetched) (hfollows : w₁.Follows w')
    (hfiles : w'.files = w₁.files) : u.Footprint w w' wanted fetched where
  ground := by
    rw [hfiles]
    exact h.ground
  changed := by
    intro x hx
    rw [hfiles] at hx
    cases h.changed x hx with
    | metadata hcache hkept =>
      apply Change.metadata hcache
      rw [hfiles]
      exact hkept
    | jar hfetched hjar => exact .jar hfetched (hjar.trans hfollows hfiles)
    | jarDirectory hname hwanted hmade =>
      apply Change.jarDirectory hname hwanted
      rw [hfiles]
      exact hmade
  jar := by
    intro v hv
    have ⟨x, hx⟩ := h.jar v hv
    exact ⟨x, hx.trans hfollows hfiles⟩

/--
An attempt ends in the download of a version.
-/
def Downloads (result : Except LauncherError Outcome) (v : Version) : Prop :=
  ∃ path, result = .ok (.downloaded v path)

theorem footprint_pure {outcome : Outcome} (hlooked : u.HasLooked w w')
    (houtcome : ∀ v path, outcome ≠ .downloaded v path) :
    u.Footprint w ((pure outcome : Attempt LauncherError Outcome).run.run w').2 wanted
      (Downloads ((pure outcome : Attempt LauncherError Outcome).run.run w').1) := by
  apply footprint_of_hasLooked hlooked
  intro v hv
  have ⟨path, hpath⟩ := hv
  exact houtcome v path (Except.ok.inj hpath)

theorem footprint_offer (hlooked : u.HasLooked w w₁) (hsecluded : u.Secluded w.files)
    (hv : v.WellFormed) (hwanted : wanted v) :
    u.Footprint w ((u.offer v).run.run w₁).2 wanted
      (Downloads ((u.offer v).run.run w₁).1) := by
  unfold offer
  rw [Attempt.run_bind_of_ok (Attempt.run_lift (Action.ask (question v) downloadLabel) w₁)]
  have hasked : w₁.Follows ((Action.ask (question v) downloadLabel).run w₁).2 :=
    ⟨rfl, List.prefix_append _ _⟩
  have hlooked' := hlooked.trans hasked rfl
  generalize (Action.ask (question v) downloadLabel).run w₁ = answer at hlooked' ⊢
  rcases answer with ⟨accepted, w₂⟩
  cases accepted with
  | false => exact footprint_pure hlooked' (by simp)
  | true =>
    have haccepted : ¬(!true) = true := by decide
    rw [if_neg haccepted]
    rcases hrun : (u.fetch v).run.run w₂ with ⟨result, w₃⟩
    cases result with
    | error e =>
      rw [Attempt.run_bind_of_error hrun]
      apply footprint_of_fetch hlooked' hsecluded hv hwanted hrun
      intro v'
      simp [Downloads]
    | ok =>
      have hfetch : u.Footprint w w₃ wanted
          (Downloads (.ok (.downloaded v (u.cache.jarPath v)))) := by
        apply footprint_of_fetch hlooked' hsecluded hv hwanted hrun
        intro v'
        constructor
        . intro hv'
          have ⟨path, hpath⟩ := hv'
          cases hpath
          exact ⟨rfl, rfl⟩
        . intro hv'
          rw [hv'.1]
          exact ⟨_, rfl⟩
      rw [Attempt.run_bind_of_ok hrun]
      exact hfetch.trans ⟨rfl, List.prefix_append _ _⟩ rfl

theorem footprint_run (hsecluded : u.Secluded w.files) :
    u.Footprint w (u.run.run.run w).2 (fun v => (u.latest.run.run w).1 = .ok v)
      (Downloads (u.run.run.run w).1) := by
  have hlooked := hasLooked_latest u w
  have hwellFormed : ∀ v, (u.latest.run.run w).1 = .ok v → v.WellFormed := by
    intro v h
    exact wellFormed_of_latest h
  unfold run
  rcases hlatest : u.latest.run.run w with ⟨result, w₁⟩
  rw [hlatest] at hlooked hwellFormed
  cases result with
  | error e =>
    rw [Attempt.run_bind_of_error hlatest]
    apply footprint_of_hasLooked hlooked
    simp [Downloads]
  | ok latest =>
    rw [Attempt.run_bind_of_ok hlatest]
    split
    . exact footprint_pure hlooked (by simp)
    rw [Attempt.run_bind_of_ok (Attempt.run_machine w₁)]
    split
    . exact footprint_pure hlooked (by simp)
    split
    . exact footprint_pure hlooked (by simp)
    exact footprint_offer hlooked hsecluded (hwellFormed latest rfl) rfl

theorem run_check (u : Update) (w : World) :
    u.check.run w =
      (match (u.run.run.run w).1 with
      | .ok outcome => outcome
      | .error cause => .failed cause, (u.run.run.run w).2) := by
  show ((match (u.run.run.run w).1 with
    | .ok outcome => (pure outcome : Action Outcome)
    | .error cause => pure (.failed cause)).run (u.run.run.run w).2) = _
  cases (u.run.run.run w).1 <;> rfl

/--
What a check for newer servers may leave.
-/
def CheckFootprint (u : Update) (w : World) : Prop :=
  u.Footprint w (u.check.run w).2 (fun v => (u.latest.run.run w).1 = .ok v)
    (fun v => ∃ path, (u.check.run w).1 = .downloaded v path)

theorem footprint_check (hsecluded : u.Secluded w.files) : u.CheckFootprint w := by
  have hrun := footprint_run hsecluded
  have hdownloads : (fun v => ∃ path, (u.check.run w).1 = .downloaded v path) =
      Downloads (u.run.run.run w).1 := by
    funext v
    rw [run_check]
    cases (u.run.run.run w).1 <;> simp [Downloads]
  unfold CheckFootprint
  rw [hdownloads]
  rw [run_check]
  exact hrun

/--
Download a version unless it is there already.
-/
def provide (u : Update) (v : Version) : Attempt LauncherError Distribution := do
  if !u.cache.contains (← Action.machine).files v then u.fetch v
  return u.cache.distribution v

theorem download_eq (u : Update) (version : Option Version) :
    u.download version = u.chosen version >>= u.provide := by
  cases version with
  | some v => rfl
  | none => rfl

theorem footprint_provide (hlooked : u.HasLooked w w₁) (hsecluded : u.Secluded w.files)
    (hv : v.WellFormed) (hwanted : wanted v) :
    u.Footprint w ((u.provide v).run.run w₁).2 wanted
      (fun v' => u.cache.contains w₁.files v' = false ∧
        ((u.provide v).run.run w₁).1 = .ok (u.cache.distribution v')) := by
  unfold provide
  rw [Attempt.run_bind_of_ok (Attempt.run_machine w₁)]
  dsimp only
  split
  . next hmissing =>
    rw [Bool.not_eq_true'] at hmissing
    rcases hrun : (u.fetch v).run.run w₁ with ⟨result, w₂⟩
    cases result with
    | error e =>
      rw [Attempt.run_bind_of_error hrun]
      apply footprint_of_fetch hlooked hsecluded hv hwanted hrun
      simp
    | ok =>
      rw [Attempt.run_bind_of_ok hrun]
      apply footprint_of_fetch hlooked hsecluded hv hwanted hrun
      intro v'
      constructor
      . intro hv'
        have hsame := congrArg Distribution.version (Except.ok.inj hv'.2)
        exact ⟨hsame.symm, rfl⟩
      . intro hv'
        rw [hv'.1]
        exact ⟨hmissing, rfl⟩
  . next hthere =>
    apply footprint_of_hasLooked hlooked
    intro v' hv'
    have hsame : v = v' := congrArg Distribution.version (Except.ok.inj hv'.2)
    rw [← hsame] at hv'
    apply hthere
    rw [hv'.1]
    rfl

/--
What a download may leave. Nothing is transferred if the jar is there already.
-/
def DownloadFootprint (u : Update) (version : Option Version) (w : World) : Prop :=
  u.Footprint w ((u.download version).run.run w).2
    (fun v => ((u.chosen version).run.run w).1 = .ok v)
    (fun v => u.cache.contains ((u.chosen version).run.run w).2.files v = false ∧
      ((u.download version).run.run w).1 = .ok (u.cache.distribution v))

theorem footprint_download {version : Option Version} (hsecluded : u.Secluded w.files)
    (hversion : ∀ v ∈ version, v.WellFormed) : u.DownloadFootprint version w := by
  have hlooked := hasLooked_chosen u version w
  have hwellFormed : ∀ v, ((u.chosen version).run.run w).1 = .ok v → v.WellFormed := by
    intro v h
    exact wellFormed_of_chosen hversion h
  unfold DownloadFootprint
  rw [download_eq]
  rcases hchosen : (u.chosen version).run.run w with ⟨result, w₁⟩
  rw [hchosen] at hlooked hwellFormed
  cases result with
  | error e =>
    rw [Attempt.run_bind_of_error hchosen]
    apply footprint_of_hasLooked hlooked
    simp
  | ok v =>
    rw [Attempt.run_bind_of_ok hchosen]
    exact footprint_provide hlooked hsecluded (hwellFormed v rfl) rfl

/--
The update of a launcher that knows one registry and has downloaded nothing yet.
-/
def firstUpdate : Update where
  registry := ⟨⟨"http", some ⟨"", "", "r", none⟩, .segments [""], none, none⟩, none, none⟩
  coordinate := .server
  cache := ⟨"/servers"⟩
  bundledVersion := .ofNumbers 0 6 0
  useCache := false

/--
The world of that launcher. The registry has a newer server, and the user wants it.
-/
def firstWorld : World where
  files := {
    entries := [(["tmp"], .directory)]
    workingDirectory := []
    temporaryDirectory := "/tmp"
    device := fun _ => 0 }
  environment := {}
  executable := "/launcher"
  now := 0
  web := fun _ url =>
    let answers := [
      ("http://r/org/pkl-lang/pkl-lsp/maven-metadata.xml", "<latest>0.6.1</latest>"),
      ("http://r/org/pkl-lang/pkl-lsp/0.6.1/pkl-lsp-0.6.1.jar.sha256",
        "0163f1eea7894350060624d315234d40c508ab251ba121714e234503045faadd"),
      ("http://r/org/pkl-lang/pkl-lsp/0.6.1/pkl-lsp-0.6.1.jar", "jar")]
    (answers.lookup url.text).map fun answer => ⟨200, none, answer.toUTF8, true⟩
  host := .steady true
  events := []

end Update

end ServerLauncher
