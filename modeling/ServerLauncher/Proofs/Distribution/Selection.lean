import ServerLauncher.Distribution.Resolver
import ServerLauncher.Proofs.Distribution.Cache
import ServerLauncher.Settings.Load

/-!
This module contains the choice of a resolver when no server is configured: among all versions, it is
the newest one that can be used in the place of the bundled one.
-/

namespace ServerLauncher

namespace Settings

theorem cacheDirectory_ne_empty_of_parse {home : Option Path} {text : String} {settings : Settings}
    (h : parse home text = .ok settings) {directory : Path}
    (hdirectory : settings.cacheDirectory = some directory) : directory.text ≠ "" := by
  unfold parse at h
  split at h
  . cases h
  . next document _ =>
    cases hsettings : ofDocument document with
    | error e =>
      rw [hsettings] at h
      cases h
    | ok raw =>
      rw [hsettings] at h
      cases h
      have ⟨written, _, hexpand⟩ := Option.map_eq_some_iff.1 hdirectory
      rw [← hexpand]
      exact Path.text_expand_ne_empty home written

theorem cacheDirectory_ne_empty_of_load {files : FileSystem} {home : Option Path} {path : Path}
    {settings : Settings} (h : load files home path = .ok settings) {directory : Path}
    (hdirectory : settings.cacheDirectory = some directory) : directory.text ≠ "" := by
  unfold load at h
  split at h
  . cases h
    cases hdirectory
  . cases h
  . split at h
    . next hparse =>
      cases h
      exact cacheDirectory_ne_empty_of_parse hparse hdirectory
    . cases h

end Settings

theorem Environment.distributionsDirectory_ne_empty {env : Environment} {directory : Path}
    (h : env.distributionsDirectory? = some directory) : directory.text ≠ "" := by
  unfold distributionsDirectory? at h
  have ⟨home, _, hdirectory⟩ := Option.map_eq_some_iff.1 h
  rw [← hdirectory]
  show (home.join ⟨".pkl/editor-support/lsp-distributions"⟩).text ≠ ""
  unfold Path.join
  rw [if_neg (by decide)]
  split <;> simp

namespace Distribution.Resolver

/--
A version whose jar is in the cache, which the launcher can use in the place of the bundled one and
which is newer.
-/
structure Candidate (resolver : Resolver) (files : FileSystem) (v : Version) : Prop where
  isVersion : ∃ text, Version.parse? text = some v
  isCompatible : v.isCompatibleWith resolver.bundled.version
  isNewer : v.isNewerThan resolver.bundled.version
  isFile : ∃ cache ∈ resolver.cache, files.isFile (cache.jarPath v)

theorem root_ne_empty_of_load {files : FileSystem} {home : Option Path} {path : Path}
    {settings : Settings} (h : Settings.load files home path = .ok settings) (m : Machine)
    {cache : Cache} (hcache : cache ∈ (ofSettings m settings).cache) : cache.root.text ≠ "" := by
  have ⟨root, hroot, hmk⟩ := Option.map_eq_some_iff.1 hcache
  rw [← hmk]
  cases hdirectory : settings.cacheDirectory with
  | none =>
    rw [hdirectory, Option.none_or] at hroot
    exact Environment.distributionsDirectory_ne_empty hroot
  | some directory =>
    rw [hdirectory, Option.some_or] at hroot
    cases hroot
    exact Settings.cacheDirectory_ne_empty_of_load h hdirectory

theorem candidate_iff {resolver : Resolver} {files : FileSystem} {v : Version} :
    resolver.Candidate files v ↔
      v.isNewerThan resolver.bundled.version ∧
        ∃ cache ∈ resolver.cache, cache.Offers files resolver.bundled.version v := by
  constructor
  . intro h
    have ⟨text, hparse⟩ := h.isVersion
    have ⟨cache, hcache, hfile⟩ := h.isFile
    exact ⟨h.isNewer, cache, hcache, (Version.parse?_eq_some_iff.1 hparse).1, h.isCompatible, hfile⟩
  . intro h
    have ⟨hnewer, cache, hcache, hoffers⟩ := h
    exact ⟨⟨v.text, Version.parse?_eq_some_iff.2 ⟨hoffers.wellFormed, rfl⟩⟩, hoffers.isCompatible,
      hnewer, cache, hcache, hoffers.contains⟩

/--
The bundled distribution is chosen just if there is no candidate; otherwise it is one of the newest
candidates.
-/
inductive Optimal (resolver : Resolver) (files : FileSystem) (d : Distribution) : Prop where
  | bundled (hnone : ∀ v, ¬resolver.Candidate files v) (hd : d = resolver.bundled)
  | downloaded (hsource : d.source = .downloaded) (hversion : resolver.Candidate files d.version)
    (hpath : ∃ cache ∈ resolver.cache, d.path = cache.jarPath d.version)
    (hnewest : ∀ v, resolver.Candidate files v → ¬v.isNewerThan d.version)

theorem optimal_chooseUnconfigured {resolver : Resolver}
    (hroot : ∀ cache ∈ resolver.cache, cache.root.text ≠ "") (files : FileSystem) :
    resolver.Optimal files (resolver.chooseUnconfigured files) := by
  unfold chooseUnconfigured
  cases hcache : resolver.cache with
  | none =>
    refine .bundled ?_ rfl
    intro v hv
    have ⟨_, _, hmem, _⟩ := candidate_iff.1 hv
    rw [hcache] at hmem
    cases hmem
  | some cache =>
    have hne := hroot cache hcache
    rw [Option.bind_some]
    cases hbest : cache.bestCompatible files resolver.bundled.version with
    | none =>
      refine .bundled ?_ rfl
      intro v hv
      have ⟨_, _, hmem, hoffers⟩ := candidate_iff.1 hv
      rw [hcache] at hmem
      cases hmem
      exact Cache.not_offers_of_bestCompatible_none hne hbest v hoffers
    | some d =>
      have ⟨hd, hoffers, hnewest⟩ := Cache.offers_of_bestCompatible hne hbest
      show resolver.Optimal files
        (if d.version.isNewerThan resolver.bundled.version then d else resolver.bundled)
      split
      . next hnewer =>
        apply Optimal.downloaded
        . rw [hd]
          rfl
        . exact candidate_iff.2 ⟨hnewer, cache, hcache, hoffers⟩
        . refine ⟨cache, hcache, ?_⟩
          rw [hd]
          rfl
        . intro v hv
          have ⟨_, _, hmem, hoffersv⟩ := candidate_iff.1 hv
          rw [hcache] at hmem
          cases hmem
          exact hnewest v hoffersv
      . next hnewer =>
        apply Optimal.bundled
        . intro v hv
          have ⟨hnewerv, _, hmem, hoffersv⟩ := candidate_iff.1 hv
          rw [hcache] at hmem
          cases hmem
          apply hnewer
          exact Version.isNewerThan_of_not_isNewerThan hnewerv (hnewest v hoffersv)
        . rfl

/--
A machine with a jar in the usual directory of downloaded servers.
-/
def machineWithJar : Machine where
  files := {
    entries := [
      (["h"], .directory),
      ([".pkl", "h"], .directory),
      (["editor-support", ".pkl", "h"], .directory),
      (["lsp-distributions", "editor-support", ".pkl", "h"], .directory),
      (["0.6.1", "lsp-distributions", "editor-support", ".pkl", "h"], .directory),
      (["pkl-lsp-0.6.1.jar", "0.6.1", "lsp-distributions", "editor-support", ".pkl", "h"],
        .file ByteArray.empty 0 none)]
    workingDirectory := []
    temporaryDirectory := "/tmp"
    device := fun _ => 0 }
  environment := { home := some "/h" }
  executable := "/launcher"

def worldWithJar : World :=
  { machineWithJar with now := 0, web := fun _ _ => none, host := .steady true, events := [] }

example : (ofSettings machineWithJar {}).chooseUnconfigured machineWithJar.files =
    ⟨"/h/.pkl/editor-support/lsp-distributions/0.6.1/pkl-lsp-0.6.1.jar", .ofNumbers 0 6 1,
      .downloaded⟩ := by
  decide +kernel

end Distribution.Resolver

end ServerLauncher
