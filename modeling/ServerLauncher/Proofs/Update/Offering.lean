import ServerLauncher.Proofs.Update.Resolving

/-!
This module contains what an update offers, in comparison with what is selected anyway. A version that
is offered is newer than the bundled one, and therefore newer than the selected one unless that one has
been downloaded before.
-/

namespace ServerLauncher.Update

def HasAsked (w w' : World) (message label : String) : Prop :=
  .asked message label ∈ w.eventsSince w'

instance (w w' : World) (message label : String) : Decidable (HasAsked w w' message label) :=
  inferInstanceAs (Decidable (_ ∈ _))

/--
What may be selected when a version is offered: something older, or something that has been downloaded
before and is not older, although it is another version.
-/
inductive SelectedAgainst (u : Update) (files : FileSystem) (v : Version) (d : Distribution) :
    Prop where
  | older (hnewer : v.isNewerThan d.version)
  | downloaded (hd : d = u.cache.distribution d.version)
    (hoffers : u.cache.Offers files u.bundledVersion d.version)
    (hnewer : d.version.isNewerThan u.bundledVersion) (hnotOlder : ¬v.isNewerThan d.version)
    (hne : d.version ≠ v)

variable {u : Update} {w w' looked : World} {v : Version} {d : Distribution} {settings : Settings}
  {found : Except LauncherError Version} {outcome : Outcome} {message label : String}

theorem asked_not_mem_of_isRequest {events : List Event}
    (h : ∀ event ∈ events, Registry.IsRequest event) (message label : String) :
    .asked message label ∉ events := by
  intro hmem
  have ⟨_, heq⟩ := h _ hmem
  cases heq

theorem asked_not_mem_advice (outcome : Outcome) (message label : String) :
    .asked message label ∉ advice outcome := by
  cases outcome <;> simp [advice]

theorem Recorded.asked_not_mem_fetch {lookup prompt checksum jar : List Event}
    (h : u.Recorded w found looked outcome w' lookup prompt checksum jar) (message label : String) :
    .asked message label ∉ checksum ++ jar := by
  by_cases haccepted : ∃ v, u.Accepted found looked v
  . have ⟨v, hv⟩ := haccepted
    have ⟨hchecksum, hjar⟩ := h.accepted v hv
    rw [List.mem_append, not_or]
    exact ⟨asked_not_mem_of_isRequest hchecksum.isRequest _ _,
      asked_not_mem_of_isRequest hjar.isRequest _ _⟩
  . have ⟨hchecksum, hjar⟩ := h.unaccepted fun v hv => haccepted ⟨v, hv⟩
    rw [hchecksum, hjar]
    exact List.not_mem_nil

theorem Recorded.asked_mem_prompt_iff {lookup prompt checksum jar : List Event}
    (h : u.Recorded w found looked outcome w' lookup prompt checksum jar) :
    .asked message label ∈ prompt ↔
      ∃ v, u.Offered found looked v ∧ message = question v ∧ label = downloadLabel := by
  by_cases hoffered : ∃ v, u.Offered found looked v
  . have ⟨v, hv⟩ := hoffered
    rw [h.offered v hv, List.mem_singleton, Event.asked.injEq]
    constructor
    . intro heq
      exact ⟨v, hv, heq⟩
    . intro hasked
      have ⟨v', hv', heq⟩ := hasked
      rw [hv'.unique hv]
      exact heq
  . rw [h.unoffered fun v hv => hoffered ⟨v, hv⟩]
    constructor
    . intro hmem
      cases hmem
    . intro hasked
      have ⟨v, hv, _⟩ := hasked
      exact absurd ⟨v, hv⟩ hoffered

/--
The user is asked about the version that is offered, and about nothing else.
-/
theorem Recorded.asked_iff {lookup prompt checksum jar : List Event}
    (h : u.Recorded w found looked outcome w' lookup prompt checksum jar) :
    HasAsked w w' message label ↔
      ∃ v, u.Offered found looked v ∧ message = question v ∧ label = downloadLabel := by
  have hevents :
      w'.events = w.events ++ (lookup ++ (prompt ++ (checksum ++ jar ++ advice outcome))) := by
    rw [h.events, h.before]
    simp only [List.append_assoc]
  have hlookup := asked_not_mem_of_isRequest h.metadata.isRequest message label
  have hfetch := h.asked_not_mem_fetch message label
  have hadvice := asked_not_mem_advice outcome message label
  unfold HasAsked
  rw [World.eventsSince_of_eq_append hevents]
  rw [List.mem_append, or_iff_right hlookup, List.mem_append, or_iff_left]
  . exact h.asked_mem_prompt_iff
  . rw [List.mem_append, not_or]
    exact ⟨hfetch, hadvice⟩

theorem selectedAgainst_chooseUnconfigured {resolver : Distribution.Resolver}
    (hcache : resolver.cache = some u.cache) (hbundled : resolver.bundled.version = u.bundledVersion)
    {files : FileSystem} (hmissing : ¬u.cache.contains files v)
    (hnewer : v.isNewerThan u.bundledVersion) :
    u.SelectedAgainst files v (resolver.chooseUnconfigured files) := by
  have holder : u.SelectedAgainst files v resolver.bundled := .older (by rw [hbundled]; exact hnewer)
  unfold Distribution.Resolver.chooseUnconfigured
  rw [hcache, Option.bind_some]
  cases hbest : u.cache.bestCompatible files resolver.bundled.version with
  | none => exact holder
  | some d =>
    have ⟨hd, hoffers⟩ := Distribution.Cache.bestCompatible_eq_some hbest
    rw [hbundled] at hoffers
    show u.SelectedAgainst files v
      (if d.version.isNewerThan resolver.bundled.version then d else resolver.bundled)
    split
    . next hselected =>
      rw [hbundled] at hselected
      by_cases holder : v.isNewerThan d.version
      . exact .older holder
      . refine .downloaded hd hoffers hselected holder ?_
        intro heq
        rw [← heq] at hmissing
        exact hmissing hoffers.contains
    . exact holder

/--
Without a configured server, a version that is offered is compatible and newer than the bundled one, its
jar is not there, and it is newer than the selected distribution or that one has been downloaded before.
-/
theorem asked_against_selected (hserver : settings.serverPath = none)
    (hupdate : ofSettings w.environment settings = .ok { u with useCache := true })
    (hasked : HasAsked w (u.check.run w).2 message label) :
    ∃ found looked v d, u.latest.run.run w = (found, looked) ∧ u.Offered found looked v ∧
      message = question v ∧ label = downloadLabel ∧
      (∀ runtime, (((resolverFor settings looked).resolve settings runtime).run looked).1.1 =
        some (.ok d)) ∧
      u.SelectedAgainst looked.files v d := by
  rcases hrun : u.latest.run.run w with ⟨found, looked⟩
  rcases hcheck : u.check.run w with ⟨outcome, w'⟩
  rw [hcheck] at hasked
  have ⟨_, _, _, _, hrecorded⟩ := ((exit_iff hrun).2 hcheck).recorded hrun
  have ⟨v, hoffered, hmessage, hlabel⟩ := hrecorded.asked_iff.1 hasked
  have henvironment : looked.environment = w.environment := by
    have hsame := sameEnvironment_latest u w
    rw [hrun] at hsame
    exact hsame
  -- The resolver looks into the same cache, since the lookup leaves the environment as it is.
  have ⟨hcache, hbundled⟩ := ofSettings_eq_ok hupdate
  have hresolver : (resolverFor settings looked).cache = some u.cache := by
    rw [← henvironment] at hcache
    exact hcache
  refine ⟨found, looked, v, (resolverFor settings looked).chooseUnconfigured looked.files, rfl,
    hoffered, hmessage, hlabel, ?_, ?_⟩
  . intro runtime
    rw [run_resolve_of_unconfigured hserver]
  . exact selectedAgainst_chooseUnconfigured hresolver hbundled.symm hoffered.missing
      hoffered.isNewer

/--
A jar that is newer than what the registry has to offer.
-/
def newerJar : List (Location × Entry) := [
  (["servers"], .directory),
  (["0.6.5", "servers"], .directory),
  (["pkl-lsp-0.6.5.jar", "0.6.5", "servers"], .file "jar".toUTF8 0 none)]

theorem check_with_newerJar :
    HasAsked (configuredWorld newerJar) (configuredUpdate.check.run (configuredWorld newerJar)).2
        (question (.ofNumbers 0 6 1)) downloadLabel ∧
      (configuredUpdate.check.run (configuredWorld newerJar)).1 =
        .downloaded (.ofNumbers 0 6 1) "/servers/0.6.1/pkl-lsp-0.6.1.jar" ∧
      ofSettings (configuredUpdate.check.run (configuredWorld newerJar)).2.environment
        configuredSettings = .ok configuredUpdate ∧
      configuredUpdate.cache.contains
        (configuredUpdate.check.run (configuredWorld newerJar)).2.files (.ofNumbers 0 6 5) := by
  decide +kernel

theorem asked_against_selected_with_newerJar :
    ofSettings (configuredWorld newerJar).environment configuredSettings = .ok configuredUpdate ∧
      ∃ found looked v d,
        configuredUpdate.latest.run.run (configuredWorld newerJar) = (found, looked) ∧
        configuredUpdate.Offered found looked v ∧
        question (.ofNumbers 0 6 1) = question v ∧ downloadLabel = downloadLabel ∧
        (∀ runtime, (((resolverFor configuredSettings looked).resolve configuredSettings
          runtime).run looked).1.1 = some (.ok d)) ∧
        configuredUpdate.SelectedAgainst looked.files v d := by
  have hupdate : ofSettings (configuredWorld newerJar).environment configuredSettings =
      .ok configuredUpdate := by
    decide +kernel
  exact ⟨hupdate, asked_against_selected rfl hupdate check_with_newerJar.1⟩

/--
A version may be offered that is older than the selected one, and that is not in use even after the
restart for which it has been downloaded.
-/
theorem exists_asked_not_newer :
    ∃ (settings : Settings) (w : World) (u : Update) (v : Version) (d : Distribution) (path : Path),
      settings.serverPath = none ∧ ofSettings w.environment settings = .ok u ∧
        HasAsked w (u.check.run w).2 (question v) downloadLabel ∧
        (∀ runtime, (((resolverFor settings (u.latest.run.run w).2).resolve settings runtime).run
          (u.latest.run.run w).2).1.1 = some (.ok d)) ∧
        ¬v.isNewerThan d.version ∧ (u.check.run w).1 = .downloaded v path ∧
        ∀ runtime d', (((resolverFor settings (u.check.run w).2).resolve settings runtime).run
          (u.check.run w).2).1.1 = some (.ok d') → d'.version ≠ v := by
  have hload : Settings.load (configuredWorld newerJar).files none "/config" =
      .ok configuredSettings := by
    decide +kernel
  obtain ⟨hasked, hdownloaded, hupdate, hcontains⟩ := check_with_newerJar
  have hparse : Version.parse? "0.6.5" = some (.ofNumbers 0 6 5) := by decide +kernel
  have hchoose : (resolverFor configuredSettings
      (configuredUpdate.latest.run.run (configuredWorld newerJar)).2).chooseUnconfigured
        (configuredUpdate.latest.run.run (configuredWorld newerJar)).2.files =
      configuredUpdate.cache.distribution (.ofNumbers 0 6 5) := by
    decide +kernel
  refine ⟨configuredSettings, configuredWorld newerJar, configuredUpdate, .ofNumbers 0 6 1,
    configuredUpdate.cache.distribution (.ofNumbers 0 6 5), "/servers/0.6.1/pkl-lsp-0.6.1.jar", rfl,
    ?_, hasked, ?_, ?_, hdownloaded, ?_⟩
  . decide +kernel
  . intro runtime
    rw [run_resolve_of_unconfigured rfl]
    rw [hchoose]
  . decide +kernel
  . intro runtime d' hselected heq
    have ⟨d, hresolves⟩ := resolves_of_contains hload rfl hupdate
      (Version.parse?_eq_some_iff.1 hparse).1 (by decide) (by decide) hcontains runtime
    rw [hresolves.chosen] at hselected
    cases hselected
    have hnotOlder := hresolves.notOlder
    rw [heq] at hnotOlder
    exact hnotOlder (by decide)

end ServerLauncher.Update
