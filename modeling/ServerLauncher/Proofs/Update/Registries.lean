import ServerLauncher.Proofs.Registry.Remembering
import ServerLauncher.Proofs.Update.Resolving

/-!
This module contains what the registry of an earlier run has to do with a later one. The cache for
metadata does not know where its documents come from. Until the document of the earlier run is too old,
the later one acts on it, whatever its own registry is.
-/

namespace ServerLauncher.Update

open Registry

/--
The versions that are named to the user when a check is over.
-/
def Outcome.version? : Outcome → Option Version
  | .incompatible v | .alreadyDownloaded v | .upToDate v | .declined v | .downloaded v _ => some v
  | .failed _ => none

/--
A run that looks for the latest server: its settings, whether the cache may be used, and the world in
which it starts. Runs over the same directory for data share the cache for metadata.
-/
structure Run (data : Path) where
  settings : Settings
  useCache : Bool
  before : World
  loaded : Update
  hdata : before.environment.dataDirectory? = some data
  hloaded : ofSettings before.environment settings = .ok loaded

def metadataIn (data : Path) : MetadataCache :=
  .inDirectory data MetadataCache.defaultLifetime

variable {data : Path} {first last : Run data} {between : List (Run data)} {u : Update} {w : World}
  {v : Version} {settings : Settings}

theorem registry_of_ofSettings {env : Environment} (h : ofSettings env settings = .ok u) :
    u.registry.cache = env.dataDirectory?.map metadataIn ∧ u.coordinate = .server := by
  unfold ofSettings Client.new at h
  dsimp only at h
  split at h
  . cases h
  . next registry hregistry =>
    split at hregistry
    . cases hregistry
      split at h
      . cases h
      . cases h
        exact ⟨rfl, rfl⟩
    . cases hregistry

theorem found_of_outcome (h : (u.check.run w).1.version? = some v) :
    (u.latest.run.run w).1 = .ok v := by
  have hdecided := decided_check u w
  generalize houtcome : (u.check.run w).1 = outcome at *
  cases outcome with
  | incompatible => cases h; exact ((hdecided.incompatible_iff v).1 rfl).1
  | alreadyDownloaded => cases h; exact ((hdecided.alreadyDownloaded_iff v).1 rfl).1
  | upToDate => cases h; exact ((hdecided.upToDate_iff v).1 rfl).1
  | declined => cases h; exact ((hdecided.declined_iff v).1 rfl).1.found
  | downloaded _ path => cases h; exact ((hdecided.downloaded_iff v path).1 rfl).1.found
  | failed cause => cases h

theorem files_of_declined (h : (u.check.run w).1 = .declined v) :
    (u.check.run w).2.files = (u.latest.run.run w).2.files := by
  rcases hrun : u.latest.run.run w with ⟨found, looked⟩
  rcases hcheck : u.check.run w with ⟨outcome, w'⟩
  rw [hcheck] at h
  cases h
  cases (exit_iff hrun).2 hcheck with
  | declined => rfl

theorem version_of_provide {d : Distribution} (h : ((u.provide v).run.run w).1 = .ok d) :
    d.version = v := by
  unfold provide at h
  rw [Attempt.run_bind_of_ok (Attempt.run_machine w)] at h
  dsimp only at h
  split at h
  . rcases hfetch : (u.fetch v).run.run w with ⟨fetched, w'⟩
    cases fetched with
    | error cause =>
      rw [Attempt.run_bind_of_error hfetch] at h
      cases h
    | ok =>
      rw [Attempt.run_bind_of_ok hfetch] at h
      cases h
      rfl
  . cases h
    rfl

theorem found_of_download {d : Distribution}
    (h : ((u.download none).run.run w).1 = .ok d) : (u.latest.run.run w).1 = .ok d.version := by
  rw [download_eq] at h
  rcases hlatest : u.latest.run.run w with ⟨found, looked⟩
  have hchosen : (u.chosen none).run.run w = (found, looked) := hlatest
  cases found with
  | error cause =>
    rw [Attempt.run_bind_of_error hchosen] at h
    cases h
  | ok v =>
    rw [Attempt.run_bind_of_ok hchosen] at h
    rw [version_of_provide h]

namespace Run

def update (r : Run data) : Update :=
  { r.loaded with useCache := r.useCache }

def inquiry (r : Run data) : Inquiry :=
  ⟨r.loaded.registry.base, r.loaded.registry.staging, r.useCache, r.before⟩

/--
What a run finds to be the latest version, on which everything it does afterwards depends.
-/
def Finds (r : Run data) (v : Version) : Prop :=
  (r.update.latest.run.run r.before).1 = .ok v

/--
The registry of a run answers with metadata that names a version.
-/
def Advertises (r : Run data) (v : Version) : Prop :=
  r.loaded.registry.Advertises .server r.before v

instance (r : Run data) (v : Version) : Decidable (r.Finds v) :=
  inferInstanceAs (Decidable (_ = _))

instance (r : Run data) (v : Version) : Decidable (r.Advertises v) :=
  decidable_of_iff _ Client.advertises_iff_latest.symm

theorem client_inquiry (r : Run data) : r.inquiry.client (metadataIn data) = r.loaded.registry := by
  have hcache := (registry_of_ofSettings r.hloaded).1
  rw [r.hdata, Option.map_some] at hcache
  unfold Inquiry.client inquiry
  rw [← hcache]

theorem latest_eq (r : Run data) :
    r.update.latest.run.run r.before =
      ((r.inquiry.result (metadataIn data) .server).mapError LauncherError.registry,
        r.inquiry.after (metadataIn data) .server) := by
  unfold Inquiry.result Inquiry.after
  rw [client_inquiry]
  unfold Update.latest update
  rw [Attempt.run_adapt]
  rw [(registry_of_ofSettings r.hloaded).2]
  rfl

theorem finds_iff (r : Run data) :
    r.Finds v ↔ r.inquiry.result (metadataIn data) .server = .ok v := by
  unfold Finds
  rw [latest_eq]
  cases r.inquiry.result (metadataIn data) .server with
  | error e => simp [Except.mapError]
  | ok v' => simp [Except.mapError]

theorem finds_iff_of_misses {r : Run data}
    (h : r.loaded.registry.Misses .server r.useCache r.before) : r.Finds v ↔ r.Advertises v := by
  have hlooks := Inquiry.looks (metadataIn data) .server r.inquiry
  rw [client_inquiry] at hlooks
  rw [finds_iff]
  exact hlooks.advertises_iff h

theorem advertises_of_fetches {r : Run data}
    (h : r.inquiry.Fetches (metadataIn data) .server v) : r.Advertises v := by
  have hmisses := Inquiry.misses_of_fetches h
  rw [client_inquiry] at hmisses
  exact (finds_iff_of_misses hmisses).1 ((finds_iff r).2 h.result)

/--
A run comes so soon after another one that it may use what that one has found.
-/
def IsNear (first last : Run data) : Prop :=
  last.useCache ∧
    last.before.now ≤ first.before.now + MetadataCache.defaultLifetime * 1000000000

instance (first last : Run data) : Decidable (first.IsNear last) :=
  inferInstanceAs (Decidable (_ ∧ _))

/--
What a run does for which an earlier run has left a version in the cache.
-/
structure FollowsUp (first last : Run data) (v : Version) : Prop where
  /-- If it comes soon, it finds that version. Else it finds what its own registry names. -/
  finds_iff : ∀ u, last.Finds u ↔ if first.IsNear last then u = v else last.Advertises u
  /-- If it comes soon, it does not ask its own registry at all. -/
  silent : first.IsNear last → (last.update.latest.run.run last.before).2 = last.before
  /-- What it tells the user after a check is about the version that it finds. -/
  told : ∀ u, (last.update.check.run last.before).1.version? = some u → last.Finds u
  /-- What it provides if no version is given is the version that it finds. -/
  provided : ∀ d, ((last.update.download none).run.run last.before).1 = .ok d → last.Finds d.version

/--
A run acts on the version that the last registry to answer has advertised, be it its own or that of an
earlier run, as long as the document is not too old. Only later its own registry takes effect.
-/
theorem followsUp_of_session
    (h : Session (metadataIn data) .server ((first :: (between ++ [last])).map inquiry))
    (hfetches : first.inquiry.Fetches (metadataIn data) .server v)
    (hnone : ∀ r ∈ between, ∀ u, ¬r.inquiry.Fetches (metadataIn data) .server u) :
    first.Advertises v ∧ first.FollowsUp last v := by
  refine ⟨advertises_of_fetches hfetches, ?_⟩
  rw [List.map_cons, List.map_append, List.map_singleton] at h
  have ⟨v', modified, hholds, hle, hle', hkept⟩ := h.holds hfetches
  have hnone' : ∀ q ∈ between.map inquiry, ∀ u, ¬q.Fetches (metadataIn data) .server u := by
    simpa using hnone
  obtain ⟨rfl, rfl⟩ := hkept hnone'
  have hcached := Inquiry.cachedLatest_of_holds hholds
  rw [client_inquiry] at hcached
  -- The document is fresh exactly if the run comes soon enough.
  have hrecalls : first.IsNear last → last.inquiry.Recalls (metadataIn data) .server v' := by
    intro hnear
    exact Inquiry.recalls_of_holds hholds hnear.1 (MetadataCache.isFresh_iff.2 ⟨hle', hnear.2⟩)
  have hmisses : ¬first.IsNear last →
      last.loaded.registry.Misses .server last.useCache last.before := by
    intro hfar
    unfold Client.Misses
    split
    . next huse =>
      refine hcached.trans (if_neg ?_)
      intro hfresh
      exact hfar ⟨huse, (MetadataCache.isFresh_iff.1 hfresh).2⟩
    . rfl
  constructor
  case finds_iff =>
    intro u
    split
    . next hnear =>
      rw [finds_iff, (hrecalls hnear).result, Except.ok.injEq]
      exact eq_comm
    . next hfar => exact finds_iff_of_misses (hmisses hfar)
  case silent =>
    intro hnear
    rw [latest_eq]
    exact (hrecalls hnear).silent
  case told =>
    intro u htold
    exact found_of_outcome htold
  case provided =>
    intro d hprovided
    exact found_of_download hprovided

/--
Settings that name a registry by its host.
-/
def settingsUnder (host : String) : Settings :=
  { registryUrl := some ("http://" ++ host ++ "/"), cacheDirectory := some "/servers" }

def sharedData : Path := "/data/pkl-lsp-launcher"

def updateUnder (host : String) : Update where
  registry := {
    base := ⟨"http", some ⟨"", "", host, none⟩, .segments [""], none, none⟩
    cache := some (metadataIn sharedData)
    staging := none }
  coordinate := .server
  cache := ⟨"/servers"⟩
  bundledVersion := Distribution.bundledVersion
  useCache := true

/--
A world with two registries.
-/
def worldWithRegistries (now : Int) (files : FileSystem) : World where
  files
  environment := { dataHome := some "/data" }
  executable := "/launcher"
  now
  web := fun _ url =>
    let answers := [
      ("http://a/org/pkl-lang/pkl-lsp/maven-metadata.xml", "<latest>0.6.9</latest>"),
      ("http://b/org/pkl-lang/pkl-lsp/maven-metadata.xml", "<latest>0.6.1</latest>")]
    (answers.lookup url.text).map fun answer => ⟨200, none, answer.toUTF8, true⟩
  host := .journal false
  events := []

/--
The directories for the document are there already.
-/
def sharedFiles : FileSystem where
  entries := [
    (["data"], .directory),
    (["pkl-lsp-launcher", "data"], .directory),
    (["cache", "pkl-lsp-launcher", "data"], .directory),
    (["org.pkl-lang", "cache", "pkl-lsp-launcher", "data"], .directory),
    (["pkl-lsp", "org.pkl-lang", "cache", "pkl-lsp-launcher", "data"], .directory)]
  workingDirectory := []
  temporaryDirectory := "/tmp"
  device := fun _ => 0

/--
A run for one of the registries, and one for the other a second after the first has ended.
-/
def runUnderA : Run sharedData where
  settings := settingsUnder "a"
  useCache := true
  before := worldWithRegistries 0 sharedFiles
  loaded := updateUnder "a"
  hdata := by decide +kernel
  hloaded := by decide +kernel

def runUnderB : Run sharedData where
  settings := settingsUnder "b"
  useCache := true
  before := worldWithRegistries 1000000000
    (runUnderA.inquiry.after (metadataIn sharedData) .server).files
  loaded := updateUnder "b"
  hdata := by decide +kernel
  hloaded := by decide +kernel


theorem fetches_runUnderA :
    runUnderA.inquiry.Fetches (metadataIn sharedData) .server (.ofNumbers 0 6 9) := by
  constructor
  . decide +kernel
  . decide +kernel

theorem followsUp_runUnderB :
    Session (metadataIn sharedData) .server [runUnderA.inquiry, runUnderB.inquiry] ∧
      runUnderA.inquiry.Fetches (metadataIn sharedData) .server (.ofNumbers 0 6 9) ∧
      runUnderA.FollowsUp runUnderB (.ofNumbers 0 6 9) := by
  have hsession : Session (metadataIn sharedData) .server [runUnderA.inquiry, runUnderB.inquiry] := by
    constructor
    . refine .cons_cons (Inquiry.precedes_of_files_eq ?_ ?_) (.singleton _)
      . decide +kernel
      . simp only [inquiry, runUnderB, worldWithRegistries]
    . simp only [List.forall_mem_cons, MetadataCache.writable_iff]
      decide +kernel
  refine ⟨hsession, fetches_runUnderA, ?_⟩
  have hfollows := @followsUp_of_session sharedData runUnderA runUnderB [] (.ofNumbers 0 6 9)
  exact (hfollows hsession fetches_runUnderA (by simp)).2

/--
A run may offer the version of a registry that it has nothing to do with.
-/
theorem exists_acts_on_other_registry :
    ∃ (data : Path) (first last : Run data) (v : Version),
      first.settings.registryUrl = some "http://a/" ∧ last.settings.registryUrl = some "http://b/" ∧
        last.before.files = (first.update.check.run first.before).2.files ∧
        first.Advertises v ∧ ¬last.Advertises v ∧ last.Finds v ∧
        (last.update.check.run last.before).1 = .declined v ∧
        ∃ u, last.Advertises u := by
  have hdeclined : (runUnderA.update.check.run runUnderA.before).1 = .declined (.ofNumbers 0 6 9) := by
    decide +kernel
  have hacts : (runUnderB.update.check.run runUnderB.before).1 = .declined (.ofNumbers 0 6 9) := by
    decide +kernel
  have hadvertises : runUnderB.Advertises (.ofNumbers 0 6 1) := by
    decide +kernel
  refine ⟨sharedData, runUnderA, runUnderB, .ofNumbers 0 6 9, rfl, rfl, ?_,
    advertises_of_fetches fetches_runUnderA, ?_, ?_, hacts, _, hadvertises⟩
  . rw [files_of_declined hdeclined]
    rw [latest_eq]
    simp only [runUnderB, worldWithRegistries]
  . intro hother
    cases hadvertises.unique hother
  . apply found_of_outcome
    rw [hacts]
    rfl

end Run

end ServerLauncher.Update
