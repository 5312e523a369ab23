import ServerLauncher.Proofs.Distribution.Selection
import ServerLauncher.Proofs.Update.Checking

/-!
This module contains the way of downloaded servers into use. What an update has downloaded is found by
the next resolver for the same settings, which chooses it, or something newer, in the place of the
bundled server.
-/

namespace ServerLauncher

open FileSystem

def World.SameEnvironment (before after : World) : Prop :=
  after.environment = before.environment

instance : IsPreorder World World.SameEnvironment where
  refl _ := rfl
  trans _ _ _ h₁ h₂ := h₂.trans h₁

namespace Update

/--
The way to the directory of a version does not go through a link at the place of its jar, which the jar
would replace.
-/
def IsClear (u : Update) (fs : FileSystem) (v : Version) : Prop :=
  ∀ x, fs.LeadsTo false (u.cache.jarPath v) x → ¬fs.PassesThrough (u.cache.root / v.text) x

/--
The resolver that is made for settings in a world.
-/
def resolverFor (settings : Settings) (w : World) : Distribution.Resolver :=
  Distribution.Resolver.ofSettings w.toMachine settings

/--
A resolver for the settings chooses a downloaded server that is newer than the bundled one, and not
older than a version.
-/
structure Resolves (settings : Settings) (w : World) (runtime : Settled.Poll Java.Runtime)
    (v : Version) (d : Distribution) : Prop where
  chosen : ((resolverFor settings w).resolve settings runtime).run w =
    ((some (.ok d), (resolverFor settings w).publish d), w)
  isDownloaded : d.source = .downloaded
  isThere : ∃ cache ∈ (resolverFor settings w).cache,
    d.path = cache.jarPath d.version ∧ cache.contains w.files d.version
  isNewer : d.version.isNewerThan (Distribution.bundledBy settings w.executable).version
  notOlder : ¬v.isNewerThan d.version

variable {u : Update} {w w' looked : World} {v : Version} {d : Distribution} {settings : Settings}
  {files : FileSystem} {home : Option Path} {path : Path} {version : Option Version}

theorem ofSettings_eq_ok {env : Environment} (h : ofSettings env settings = .ok u) :
    (settings.cacheDirectory.or env.distributionsDirectory?).map .mk = some u.cache ∧
      u.bundledVersion = settings.bundledVersion.getD Distribution.bundledVersion := by
  unfold ofSettings at h
  dsimp only at h
  split at h
  . cases h
  . split at h
    . cases h
    . next root hroot =>
      cases h
      rw [hroot]
      exact ⟨rfl, rfl⟩

theorem run_resolve_of_unconfigured (hserver : settings.serverPath = none)
    (resolver : Distribution.Resolver) (runtime : Settled.Poll Java.Runtime) (w : World) :
    (resolver.resolve settings runtime).run w =
      ((some (.ok (resolver.chooseUnconfigured w.files)),
        resolver.publish (resolver.chooseUnconfigured w.files)), w) := by
  unfold Distribution.Resolver.resolve
  rw [hserver]
  rfl

theorem resolves_of_contains (hload : Settings.load files home path = .ok settings)
    (hserver : settings.serverPath = none) (hupdate : ofSettings w.environment settings = .ok u)
    (hv : v.WellFormed) (hcompatible : v.isCompatibleWith u.bundledVersion)
    (hnewer : v.isNewerThan u.bundledVersion) (hcontains : u.cache.contains w.files v)
    (runtime : Settled.Poll Java.Runtime) : ∃ d, Resolves settings w runtime v d := by
  have ⟨hcache, hbundled⟩ := ofSettings_eq_ok hupdate
  rw [hbundled] at hcompatible hnewer
  have hcandidate : (resolverFor settings w).Candidate w.files v :=
    Distribution.Resolver.candidate_iff.2
      ⟨hnewer, u.cache, hcache, hv, hcompatible, hcontains⟩
  have hroot : ∀ cache ∈ (resolverFor settings w).cache, cache.root.text ≠ "" := by
    intro cache hmem
    exact Distribution.Resolver.root_ne_empty_of_load hload w.toMachine hmem
  have hoptimal := Distribution.Resolver.optimal_chooseUnconfigured hroot w.files
  have hchosen := run_resolve_of_unconfigured hserver (resolverFor settings w) runtime w
  generalize (resolverFor settings w).chooseUnconfigured w.files = d at hoptimal hchosen
  refine ⟨d, ?_⟩
  cases hoptimal with
  | bundled hnone _ => exact absurd hcandidate (hnone v)
  | downloaded hsource hversion hpath hnewest =>
    have ⟨cache, hmem, hd⟩ := hpath
    have ⟨hnewer, cache', hmem', hoffers⟩ := Distribution.Resolver.candidate_iff.1 hversion
    cases Option.mem_unique hmem hmem'
    exact ⟨hchosen, hsource, ⟨cache, hmem, hd, hoffers.contains⟩, hnewer, hnewest v hcandidate⟩

theorem sameEnvironment_latest (u : Update) : u.latest.Keeps World.SameEnvironment :=
  (Registry.keeps_latest (fun _ _ => rfl) (fun _ _ => rfl) _ _ _).adapt _

theorem sameEnvironment_fetch (u : Update) (v : Version) :
    (u.fetch v).Keeps World.SameEnvironment :=
  (Registry.keeps_downloadArtifact (fun _ _ => rfl) (fun _ _ => rfl) _ _ _ _).adapt _

theorem sameEnvironment_chosen (u : Update) (version : Option Version) :
    (u.chosen version).Keeps World.SameEnvironment := by
  cases version with
  | some v => exact Attempt.keeps_pure v
  | none => exact sameEnvironment_latest u

theorem contains_of_fetch (hlooked : u.HasLooked w looked) (hv : v.WellFormed)
    (hclear : u.IsClear w.files v) (h : (u.fetch v).run.run looked = (.ok (), w')) :
    u.cache.contains w'.files v := by
  have ⟨body, x, hjar⟩ := hasJar_of_fetch hv h
  apply isFile_of_read
  apply hjar.read
  rw [hlooked.grows.passesThrough_iff]
  exact hclear x (hlooked.grows.leadsTo_iff.1 hjar.leads)

/--
What a download that has succeeded leaves behind: the jar is there, be it downloaded or not.
-/
structure Provided (u : Update) (w w' : World) (v : Version) : Prop where
  environment : w'.environment = w.environment
  wellFormed : v.WellFormed
  contains : u.cache.contains w'.files v

theorem provided_of_fetch (hlooked : u.HasLooked w looked)
    (henvironment : looked.environment = w.environment) (hv : v.WellFormed)
    (hclear : u.IsClear w.files v) (h : (u.fetch v).run.run looked = (.ok (), w')) :
    u.Provided w w' v where
  environment := by
    have hfetch : World.SameEnvironment looked ((u.fetch v).run.run looked).2 :=
      sameEnvironment_fetch u v looked
    rw [h] at hfetch
    exact hfetch.trans henvironment
  wellFormed := hv
  contains := contains_of_fetch hlooked hv hclear h

theorem provided_of_check (h : (u.check.run w).1 = .downloaded v path)
    (hclear : u.IsClear w.files v) : u.Provided w (u.check.run w).2 v := by
  have hlooked := hasLooked_latest u w
  have henvironment : World.SameEnvironment w (u.latest.run.run w).2 :=
    sameEnvironment_latest u w
  rcases hrun : u.latest.run.run w with ⟨found, looked⟩
  rw [hrun] at hlooked henvironment
  rcases hcheck : u.check.run w with ⟨outcome, w'⟩
  rw [hcheck] at h
  cases h
  cases (exit_iff hrun).2 hcheck with
  | downloaded haccepted hfetch =>
    have hprovided := provided_of_fetch (hasLooked_prompted hlooked v) henvironment
      (haccepted.wellFormed hrun) hclear hfetch
    exact ⟨hprovided.environment, hprovided.wellFormed, hprovided.contains⟩

theorem provided_of_download (h : ((u.download version).run.run w).1 = .ok d)
    (hversion : ∀ v ∈ version, v.WellFormed) (hclear : u.IsClear w.files d.version) :
    u.Provided w ((u.download version).run.run w).2 d.version := by
  have hlooked := hasLooked_chosen u version w
  have henvironment : World.SameEnvironment w ((u.chosen version).run.run w).2 :=
    sameEnvironment_chosen u version w
  rw [download_eq] at h ⊢
  rcases hchosen : (u.chosen version).run.run w with ⟨result, looked⟩
  rw [hchosen] at hlooked henvironment
  cases result with
  | error e =>
    rw [Attempt.run_bind_of_error hchosen] at h
    cases h
  | ok v =>
    have hv : v.WellFormed := by
      apply wellFormed_of_chosen hversion
      rw [hchosen]
    rw [Attempt.run_bind_of_ok hchosen] at h ⊢
    unfold provide at h ⊢
    rw [Attempt.run_bind_of_ok (Attempt.run_machine looked)] at h ⊢
    dsimp only at h ⊢
    split at h
    . next hmissing =>
      rw [if_pos hmissing]
      rcases hfetch : (u.fetch v).run.run looked with ⟨fetched, w'⟩
      cases fetched with
      | error e =>
        rw [Attempt.run_bind_of_error hfetch] at h
        cases h
      | ok =>
        rw [Attempt.run_bind_of_ok hfetch] at h ⊢
        cases h
        exact provided_of_fetch hlooked henvironment hv hclear hfetch
    . next hthere =>
      rw [if_neg hthere]
      cases h
      rw [Bool.not_eq_true', Bool.not_eq_false] at hthere
      exact ⟨henvironment, hv, hthere⟩

/--
Settings that name a registry and a directory for downloaded servers.
-/
def configuredSettings : Settings :=
  { registryUrl := some "http://r/", cacheDirectory := some "/servers" }

def configuredUpdate : Update :=
  { firstUpdate with useCache := true }

/--
A world with a file for these settings and with some other entries.
-/
def configuredWorld (others : List (Location × Entry)) : World :=
  { firstWorld with
    files := {
      firstWorld.files with
      entries := [
        (["tmp"], .directory),
        (["config"], .file "registry.url='http://r/'\ncache.dir='/servers'".toUTF8 0 none)] ++
          others } }

/--
Links from the directory of a version to the place of its jar and from there back.
-/
def selfLinks : List (Location × Entry) := [
  (["servers"], .directory),
  (["0.6.1", "servers"], .link "pkl-lsp-0.6.1.jar"),
  (["pkl-lsp-0.6.1.jar", "servers"], .link ".")]

/--
A version that no text can be read as, because it names a directory within another one.
-/
def nestedVersion : Version := ⟨0, 6, 1, some "a/b", none⟩

/--
The jar of that version.
-/
def nestedJar : List (Location × Entry) := [
  (["servers"], .directory),
  (["0.6.1-a", "servers"], .directory),
  (["b", "0.6.1-a", "servers"], .directory),
  (["pkl-lsp-0.6.1-a", "b", "0.6.1-a", "servers"], .directory),
  (["b.jar", "pkl-lsp-0.6.1-a", "b", "0.6.1-a", "servers"], .file "jar".toUTF8 0 none)]

theorem run_download_of_contains (h : u.cache.contains w.files v = true) :
    (u.download (some v)).run.run w = (.ok (u.cache.distribution v), w) := by
  rw [download_eq]
  rw [Attempt.run_bind_of_ok (show (u.chosen (some v)).run.run w = (.ok v, w) from rfl)]
  unfold provide
  rw [Attempt.run_bind_of_ok (Attempt.run_machine w)]
  dsimp only
  rw [if_neg (by simp [h])]
  rfl

theorem isClear_of_no_link (h : ∀ x target, files.find? x ≠ some (.link target)) :
    u.IsClear files v := by
  intro x _
  exact not_passesThrough_of_no_link h

end Update

end ServerLauncher
