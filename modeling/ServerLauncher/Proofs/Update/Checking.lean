import ServerLauncher.Proofs.Registry.Asking
import ServerLauncher.Proofs.Update.Fetching
import ServerLauncher.Proofs.Update.Record

/-!
This module contains the law of a check for newer servers: which end it comes to, what it has asked for
until then and in which order, and what has become of the jars.
-/

namespace ServerLauncher

open FileSystem Registry

namespace Update

/--
The version that has been found is offered to the user.
-/
structure Offered (u : Update) (found : Except LauncherError Version) (looked : World) (v : Version) :
    Prop where
  found : found = .ok v
  isCompatible : v.isCompatibleWith u.bundledVersion
  missing : ¬u.cache.contains looked.files v
  isNewer : v.isNewerThan u.bundledVersion

/--
The user wants the version that is offered.
-/
structure Accepted (u : Update) (found : Except LauncherError Version) (looked : World)
    (v : Version) : Prop extends u.Offered found looked v where
  answer : looked.host.answer.1 = true

/--
The world once the user has been asked about a version.
-/
def prompted (w : World) (v : Version) : World :=
  ((Action.ask (question v) downloadLabel).run w).2

/--
How a check goes on from what has been found, and where it ends.
-/
inductive Exit (u : Update) (found : Except LauncherError Version) (looked : World) :
    Outcome → World → Prop where
  | unknown {cause : LauncherError} (hfound : found = .error cause) :
    Exit u found looked (.failed cause) looked
  | incompatible {v : Version} (hfound : found = .ok v)
    (hcompatible : ¬v.isCompatibleWith u.bundledVersion) :
    Exit u found looked (.incompatible v) looked
  | alreadyDownloaded {v : Version} (hfound : found = .ok v)
    (hcompatible : v.isCompatibleWith u.bundledVersion)
    (hcontains : u.cache.contains looked.files v) :
    Exit u found looked (.alreadyDownloaded v) looked
  | upToDate {v : Version} (hfound : found = .ok v)
    (hcompatible : v.isCompatibleWith u.bundledVersion)
    (hmissing : ¬u.cache.contains looked.files v) (hnewer : ¬v.isNewerThan u.bundledVersion) :
    Exit u found looked (.upToDate v) looked
  | declined {v : Version} (hoffered : u.Offered found looked v)
    (hanswer : looked.host.answer.1 = false) :
    Exit u found looked (.declined v) (prompted looked v)
  | failed {v : Version} {w' : World} {cause : LauncherError}
    (haccepted : u.Accepted found looked v)
    (hfetch : (u.fetch v).run.run (prompted looked v) = (.error cause, w')) :
    Exit u found looked (.failed cause) w'
  | downloaded {v : Version} {w' : World} (haccepted : u.Accepted found looked v)
    (hfetch : (u.fetch v).run.run (prompted looked v) = (.ok (), w')) :
    Exit u found looked (.downloaded v (u.cache.jarPath v))
      (w'.record (.restartRequested (restartReason v)))

variable {u : Update} {w w' looked : World} {v : Version} {cause : LauncherError}
  {outcome : Outcome} {found : Except LauncherError Version}

theorem exists_exit (u : Update) (found : Except LauncherError Version) (looked : World) :
    ∃ outcome w', u.Exit found looked outcome w' := by
  cases found with
  | error cause => exact ⟨_, _, .unknown rfl⟩
  | ok v =>
    by_cases hcompatible : v.isCompatibleWith u.bundledVersion
    case neg => exact ⟨_, _, .incompatible rfl hcompatible⟩
    by_cases hcontains : u.cache.contains looked.files v
    case pos => exact ⟨_, _, .alreadyDownloaded rfl hcompatible hcontains⟩
    by_cases hnewer : v.isNewerThan u.bundledVersion
    case neg => exact ⟨_, _, .upToDate rfl hcompatible hcontains hnewer⟩
    have hoffered : u.Offered (.ok v) looked v := ⟨rfl, hcompatible, hcontains, hnewer⟩
    cases hanswer : looked.host.answer.1 with
    | false => exact ⟨_, _, .declined hoffered hanswer⟩
    | true =>
      rcases hfetch : (u.fetch v).run.run (prompted looked v) with ⟨fetched, w'⟩
      cases fetched with
      | error cause => exact ⟨_, _, .failed ⟨hoffered, hanswer⟩ hfetch⟩
      | ok => exact ⟨_, _, .downloaded ⟨hoffered, hanswer⟩ hfetch⟩

theorem run_of_found (hfound : u.latest.run.run w = (.ok v, looked)) :
    u.run.run.run w =
      if ¬v.isCompatibleWith u.bundledVersion then (.ok (.incompatible v), looked)
      else if u.cache.contains looked.files v then (.ok (.alreadyDownloaded v), looked)
      else if ¬v.isNewerThan u.bundledVersion then (.ok (.upToDate v), looked)
      else (u.offer v).run.run looked := by
  unfold run
  rw [Attempt.run_bind_of_ok hfound]
  simp only [Bool.not_eq_true', Bool.not_eq_true]
  split
  . rfl
  rw [Attempt.run_bind_of_ok (Attempt.run_machine looked)]
  split
  . rfl
  split
  . rfl
  . rfl

theorem run_offer (u : Update) (v : Version) (w : World) :
    (u.offer v).run.run w =
      if w.host.answer.1 = true then
        (do
          u.fetch v
          Action.requestRestart (restartReason v)
          return .downloaded v (u.cache.jarPath v) : Attempt LauncherError Outcome).run.run
            (prompted w v)
      else (.ok (.declined v), prompted w v) := by
  unfold offer
  rw [Attempt.run_bind_of_ok (Attempt.run_lift (Action.ask (question v) downloadLabel) w)]
  show (if !w.host.answer.1 then _ else _ : Attempt LauncherError Outcome).run.run _ = _
  cases w.host.answer.1 with
  | false => rfl
  | true => rfl

theorem run_of_offered (hrun : u.latest.run.run w = (found, looked))
    (hoffered : u.Offered found looked v) :
    u.run.run.run w = (u.offer v).run.run looked := by
  rw [hoffered.found] at hrun
  rw [run_of_found hrun]
  rw [if_neg (not_not_intro hoffered.isCompatible)]
  rw [if_neg hoffered.missing]
  rw [if_neg (not_not_intro hoffered.isNewer)]

theorem check_of_run_ok (h : u.run.run.run w = (.ok outcome, w')) :
    u.check.run w = (outcome, w') := by
  rw [run_check, h]

theorem check_of_run_error (h : u.run.run.run w = (.error cause, w')) :
    u.check.run w = (.failed cause, w') := by
  rw [run_check, h]

theorem Exit.check_eq (h : u.Exit found looked outcome w')
    (hrun : u.latest.run.run w = (found, looked)) : u.check.run w = (outcome, w') := by
  cases h with
  | unknown hfound =>
    rw [hfound] at hrun
    apply check_of_run_error
    unfold run
    exact Attempt.run_bind_of_error hrun
  | incompatible hfound hcompatible =>
    rw [hfound] at hrun
    apply check_of_run_ok
    rw [run_of_found hrun]
    rw [if_pos hcompatible]
  | alreadyDownloaded hfound hcompatible hcontains =>
    rw [hfound] at hrun
    apply check_of_run_ok
    rw [run_of_found hrun]
    rw [if_neg (not_not_intro hcompatible)]
    rw [if_pos hcontains]
  | upToDate hfound hcompatible hmissing hnewer =>
    rw [hfound] at hrun
    apply check_of_run_ok
    rw [run_of_found hrun]
    rw [if_neg (not_not_intro hcompatible)]
    rw [if_neg hmissing]
    rw [if_pos hnewer]
  | declined hoffered hanswer =>
    apply check_of_run_ok
    rw [run_of_offered hrun hoffered]
    rw [run_offer]
    rw [if_neg (by simp [hanswer])]
  | failed haccepted hfetch =>
    apply check_of_run_error
    rw [run_of_offered hrun haccepted.toOffered]
    rw [run_offer]
    rw [if_pos haccepted.answer]
    exact Attempt.run_bind_of_error hfetch
  | downloaded haccepted hfetch =>
    apply check_of_run_ok
    rw [run_of_offered hrun haccepted.toOffered]
    rw [run_offer]
    rw [if_pos haccepted.answer]
    rw [Attempt.run_bind_of_ok hfetch]
    rfl

theorem exit_iff (hrun : u.latest.run.run w = (found, looked)) :
    u.Exit found looked outcome w' ↔ u.check.run w = (outcome, w') := by
  constructor
  . intro h
    exact h.check_eq hrun
  . intro h
    have ⟨outcome₁, w₁, hexit⟩ := exists_exit u found looked
    rw [hexit.check_eq hrun] at h
    cases h
    exact hexit

theorem Exit.outcome_eq {outcome' : Outcome} {w'' : World} (h : u.Exit found looked outcome w')
    (hrun : u.latest.run.run w = (found, looked)) (h' : u.Exit found looked outcome' w'') :
    outcome = outcome' := by
  have hcheck := h.check_eq hrun
  rw [h'.check_eq hrun] at hcheck
  exact (Prod.mk.inj hcheck).1.symm

/--
The outcome of a check is decided by the version that has been found, by whether it is compatible, there
already and newer, by the user, and by the download.
-/
structure Decided (u : Update) (found : Except LauncherError Version) (looked : World)
    (outcome : Outcome) : Prop where
  failed_iff : ∀ cause, outcome = .failed cause ↔
    found = .error cause ∨
      ∃ v, u.Accepted found looked v ∧
        ((u.fetch v).run.run (prompted looked v)).1 = .error cause
  incompatible_iff : ∀ v, outcome = .incompatible v ↔
    found = .ok v ∧ ¬v.isCompatibleWith u.bundledVersion
  alreadyDownloaded_iff : ∀ v, outcome = .alreadyDownloaded v ↔
    found = .ok v ∧ v.isCompatibleWith u.bundledVersion ∧ u.cache.contains looked.files v
  upToDate_iff : ∀ v, outcome = .upToDate v ↔
    found = .ok v ∧ v.isCompatibleWith u.bundledVersion ∧ ¬u.cache.contains looked.files v ∧
      ¬v.isNewerThan u.bundledVersion
  declined_iff : ∀ v, outcome = .declined v ↔
    u.Offered found looked v ∧ looked.host.answer.1 = false
  downloaded_iff : ∀ v path, outcome = .downloaded v path ↔
    u.Accepted found looked v ∧ ((u.fetch v).run.run (prompted looked v)).1 = .ok () ∧
      path = u.cache.jarPath v

theorem Exit.decided (h : u.Exit found looked outcome w')
    (hrun : u.latest.run.run w = (found, looked)) : u.Decided found looked outcome where
  failed_iff cause := by
    constructor
    . intro heq
      rw [heq] at h
      cases h with
      | unknown hfound => exact .inl hfound
      | failed haccepted hfetch =>
        refine .inr ⟨_, haccepted, ?_⟩
        rw [hfetch]
    . intro hcases
      rcases hcases with hfound | ⟨v, haccepted, hfetch⟩
      . exact h.outcome_eq hrun (.unknown hfound)
      . rcases hresult : (u.fetch v).run.run (prompted looked v) with ⟨fetched, w₁⟩
        rw [hresult] at hfetch
        cases hfetch
        exact h.outcome_eq hrun (.failed haccepted hresult)
  incompatible_iff v := by
    constructor
    . intro heq
      rw [heq] at h
      cases h with
      | incompatible hfound hcompatible => exact ⟨hfound, hcompatible⟩
    . intro hall
      exact h.outcome_eq hrun (.incompatible hall.1 hall.2)
  alreadyDownloaded_iff v := by
    constructor
    . intro heq
      rw [heq] at h
      cases h with
      | alreadyDownloaded hfound hcompatible hcontains =>
        exact ⟨hfound, hcompatible, hcontains⟩
    . intro hall
      have ⟨hfound, hcompatible, hcontains⟩ := hall
      exact h.outcome_eq hrun (.alreadyDownloaded hfound hcompatible hcontains)
  upToDate_iff v := by
    constructor
    . intro heq
      rw [heq] at h
      cases h with
      | upToDate hfound hcompatible hmissing hnewer =>
        exact ⟨hfound, hcompatible, hmissing, hnewer⟩
    . intro hall
      have ⟨hfound, hcompatible, hmissing, hnewer⟩ := hall
      exact h.outcome_eq hrun (.upToDate hfound hcompatible hmissing hnewer)
  declined_iff v := by
    constructor
    . intro heq
      rw [heq] at h
      cases h with
      | declined hoffered hanswer => exact ⟨hoffered, hanswer⟩
    . intro hall
      exact h.outcome_eq hrun (.declined hall.1 hall.2)
  downloaded_iff v path := by
    constructor
    . intro heq
      rw [heq] at h
      cases h with
      | downloaded haccepted hfetch =>
        refine ⟨haccepted, ?_, rfl⟩
        rw [hfetch]
    . intro hall
      have ⟨haccepted, hfetch, hpath⟩ := hall
      rcases hresult : (u.fetch v).run.run (prompted looked v) with ⟨fetched, w₁⟩
      rw [hresult] at hfetch
      cases hfetch
      rw [hpath]
      exact h.outcome_eq hrun (.downloaded haccepted hresult)

theorem decided_check (u : Update) (w : World) :
    u.Decided (u.latest.run.run w).1 (u.latest.run.run w).2 (u.check.run w).1 := by
  rcases hrun : u.latest.run.run w with ⟨found, looked⟩
  rcases hcheck : u.check.run w with ⟨outcome, w'⟩
  exact ((exit_iff hrun).2 hcheck).decided hrun

/--
The advice to restart that belongs to an outcome.
-/
def advice : Outcome → List Event
  | .downloaded v _ => [.restartRequested (restartReason v)]
  | _ => []

/--
The events of a check in their order. Only the metadata is asked for before the user is, and only a
checksum and then a jar afterwards.
-/
structure Recorded (u : Update) (w : World) (found : Except LauncherError Version) (looked : World)
    (outcome : Outcome) (w' : World) (lookup prompt checksum jar : List Event) : Prop where
  before : looked.events = w.events ++ lookup
  events : w'.events = looked.events ++ prompt ++ checksum ++ jar ++ advice outcome
  metadata : u.registry.AsksFor u.coordinate.metadataPath w lookup
  offered : ∀ v, u.Offered found looked v → prompt = [.asked (question v) downloadLabel]
  unoffered : (∀ v, ¬u.Offered found looked v) → prompt = []
  accepted : ∀ v, u.Accepted found looked v →
    u.registry.AsksFor (u.coordinate.checksumPath v) (prompted looked v) checksum ∧
      u.registry.AsksForJar u.coordinate v (prompted looked v) jar
  unaccepted : (∀ v, ¬u.Accepted found looked v) → checksum = [] ∧ jar = []

theorem Offered.unique {v' : Version} (h : u.Offered found looked v) (h' : u.Offered found looked v') :
    v' = v := by
  have hfound := h.found
  rw [h'.found] at hfound
  exact Except.ok.inj hfound

theorem not_offered_of_found (hfound : found = .ok v) (h : ¬u.Offered found looked v)
    (v' : Version) : ¬u.Offered found looked v' := by
  intro hoffered
  have hsame := hoffered.found
  rw [hfound] at hsame
  cases hsame
  exact h hoffered

theorem recorded_of_unoffered {lookup : List Event} (hlooked : looked.events = w.events ++ lookup)
    (hmetadata : u.registry.AsksFor u.coordinate.metadataPath w lookup)
    (hunoffered : ∀ v, ¬u.Offered found looked v) (hadvice : advice outcome = []) :
    u.Recorded w found looked outcome looked lookup [] [] [] where
  before := hlooked
  events := by
    rw [hadvice]
    simp
  metadata := hmetadata
  offered v hoffered := absurd hoffered (hunoffered v)
  unoffered _ := rfl
  accepted v haccepted := absurd haccepted.toOffered (hunoffered v)
  unaccepted _ := ⟨rfl, rfl⟩

theorem asksFor_lookup (h : u.latest.run.run w = (found, looked)) :
    ∃ events, looked.events = w.events ++ events ∧
      u.registry.AsksFor u.coordinate.metadataPath w events := by
  unfold latest at h
  rw [Attempt.run_adapt, Prod.mk.injEq] at h
  rw [← h.2]
  exact asksFor_latest u.registry u.coordinate u.useCache w

theorem asksForJar_fetch {fetched : Except LauncherError Unit}
    (h : (u.fetch v).run.run w = (fetched, w')) :
    ∃ checksum jar, w'.events = w.events ++ checksum ++ jar ∧
      u.registry.AsksFor (u.coordinate.checksumPath v) w checksum ∧
      u.registry.AsksForJar u.coordinate v w jar := by
  unfold fetch at h
  rw [Attempt.run_adapt, Prod.mk.injEq] at h
  rw [← h.2]
  exact asksForJar_downloadArtifact u.registry u.coordinate v (u.cache.jarPath v) w

theorem recorded_of_accepted {lookup : List Event} (hlooked : looked.events = w.events ++ lookup)
    (hmetadata : u.registry.AsksFor u.coordinate.metadataPath w lookup)
    (haccepted : u.Accepted found looked v) {fetched : Except LauncherError Unit} {w₁ : World}
    (hfetch : (u.fetch v).run.run (prompted looked v) = (fetched, w₁))
    (hadvice : w'.events = w₁.events ++ advice outcome) :
    ∃ prompt checksum jar, u.Recorded w found looked outcome w' lookup prompt checksum jar := by
  have ⟨checksum, jar, hevents, hchecksum, hjar⟩ := asksForJar_fetch hfetch
  refine ⟨[.asked (question v) downloadLabel], checksum, jar, ?_⟩
  constructor
  . exact hlooked
  . rw [hadvice, hevents]
    rfl
  . exact hmetadata
  . intro v' hoffered
    rw [haccepted.unique hoffered]
  . intro hunoffered
    exact absurd haccepted.toOffered (hunoffered v)
  . intro v' haccepted'
    rw [haccepted.unique haccepted'.toOffered]
    exact ⟨hchecksum, hjar⟩
  . intro hunaccepted
    exact absurd haccepted (hunaccepted v)

theorem Exit.recorded (h : u.Exit found looked outcome w')
    (hrun : u.latest.run.run w = (found, looked)) :
    ∃ lookup prompt checksum jar,
      u.Recorded w found looked outcome w' lookup prompt checksum jar := by
  have ⟨lookup, hlooked, hmetadata⟩ := asksFor_lookup hrun
  refine ⟨lookup, ?_⟩
  cases h with
  | unknown hfound =>
    refine ⟨[], [], [], recorded_of_unoffered hlooked hmetadata ?_ rfl⟩
    intro v hoffered
    rw [hoffered.found] at hfound
    cases hfound
  | incompatible hfound hcompatible =>
    refine ⟨[], [], [], recorded_of_unoffered hlooked hmetadata ?_ rfl⟩
    exact not_offered_of_found hfound fun hoffered => hcompatible hoffered.isCompatible
  | alreadyDownloaded hfound hcompatible hcontains =>
    refine ⟨[], [], [], recorded_of_unoffered hlooked hmetadata ?_ rfl⟩
    exact not_offered_of_found hfound fun hoffered => hoffered.missing hcontains
  | upToDate hfound hcompatible hmissing hnewer =>
    refine ⟨[], [], [], recorded_of_unoffered hlooked hmetadata ?_ rfl⟩
    exact not_offered_of_found hfound fun hoffered => hnewer hoffered.isNewer
  | @declined v hoffered hanswer =>
    refine ⟨[.asked (question v) downloadLabel], [], [], ?_⟩
    constructor
    . exact hlooked
    . show looked.events ++ _ = _
      simp [advice]
    . exact hmetadata
    . intro v' hoffered'
      rw [hoffered.unique hoffered']
    . intro hunoffered
      exact absurd hoffered (hunoffered v)
    . intro v' haccepted
      rw [haccepted.answer] at hanswer
      cases hanswer
    . intro _
      exact ⟨rfl, rfl⟩
  | failed haccepted hfetch =>
    apply recorded_of_accepted hlooked hmetadata haccepted hfetch
    simp [advice]
  | downloaded haccepted hfetch =>
    exact recorded_of_accepted hlooked hmetadata haccepted hfetch rfl

/--
Everything that can be said about a check: its outcome, its events, and the files it leaves. The advice
to restart is the last thing that happens, when the jar is there already.
-/
structure Lawful (u : Update) (w : World) (found : Except LauncherError Version) (looked : World)
    (outcome : Outcome) (w' : World) : Prop where
  decided : u.Decided found looked outcome
  recorded : ∃ lookup prompt checksum jar,
    u.Recorded w found looked outcome w' lookup prompt checksum jar
  silent : w.Adds (fun event => ∀ notice, event ≠ .notified notice) w'
  downloaded : ∀ v path, outcome = .downloaded v path →
    ∃ w₁ body x, u.HasJar (prompted looked v) w₁ v body x ∧
      w' = w₁.record (.restartRequested (restartReason v))
  untouched : (∀ v path, outcome ≠ .downloaded v path) →
    u.Untouched w w' (u.Accepted found looked)

theorem hasLooked_prompted (h : u.HasLooked w looked) (v : Version) :
    u.HasLooked w (prompted looked v) :=
  h.trans ⟨rfl, List.prefix_append _ _⟩ rfl

theorem silent_check (u : Update) (w : World) :
    w.Adds (fun event => ∀ notice, event ≠ .notified notice) (u.check.run w).2 := by
  apply World.Adds.mono (adds_check u w)
  intro event htrace notice
  cases htrace <;> simp

theorem Offered.wellFormed (h : u.Offered found looked v)
    (hrun : u.latest.run.run w = (found, looked)) : v.WellFormed := by
  rw [h.found] at hrun
  apply wellFormed_of_latest
  rw [hrun]

theorem Exit.untouched (h : u.Exit found looked outcome w')
    (hrun : u.latest.run.run w = (found, looked)) (houtcome : ∀ v path, outcome ≠ .downloaded v path) :
    u.Untouched w w' (u.Accepted found looked) := by
  have hlooked := hasLooked_latest u w
  rw [hrun] at hlooked
  cases h with
  | unknown => exact hlooked.untouched
  | incompatible => exact hlooked.untouched
  | alreadyDownloaded => exact hlooked.untouched
  | upToDate => exact hlooked.untouched
  | @declined v => exact (hasLooked_prompted hlooked v).untouched
  | @failed v w' cause haccepted hfetch =>
    have hv := haccepted.wellFormed hrun
    apply untouched_of_makesWay (hasLooked_prompted hlooked v) hv haccepted
    exact makesWay_of_fetch hfetch
  | @downloaded v => exact absurd rfl (houtcome v _)

/--
Every check is lawful, whatever the registry answers, the user says and the files are.
-/
theorem lawful_check (u : Update) (w : World) :
    u.Lawful w (u.latest.run.run w).1 (u.latest.run.run w).2 (u.check.run w).1
      (u.check.run w).2 := by
  have hdecided := decided_check u w
  have hsilent := silent_check u w
  rcases hrun : u.latest.run.run w with ⟨found, looked⟩
  rcases hcheck : u.check.run w with ⟨outcome, w'⟩
  rw [hrun, hcheck] at hdecided
  rw [hcheck] at hsilent
  have hexit := (exit_iff hrun).2 hcheck
  constructor
  . exact hdecided
  . exact hexit.recorded hrun
  . exact hsilent
  . intro v path heq
    cases heq
    cases hexit with
    | @downloaded v w₁ haccepted hfetch =>
      have ⟨body, x, hjar⟩ := hasJar_of_fetch (haccepted.wellFormed hrun) hfetch
      exact ⟨w₁, body, x, hjar, rfl⟩
  . exact hexit.untouched hrun

/--
A world where links lead from one thing to another: from the directory of a version to the place of its
jar and from there back, and from the document of the artifact to the jar of another version.
-/
def linkedWorld (answer : Bool) : World :=
  { firstWorld with
    files := {
      firstWorld.files with
      entries := [
        (["tmp"], .directory),
        (["servers"], .directory),
        (["0.6.1", "servers"], .link "pkl-lsp-0.6.1.jar"),
        (["pkl-lsp-0.6.1.jar", "servers"], .link "."),
        (["0.6.0", "servers"], .directory),
        (["pkl-lsp-0.6.0.jar", "0.6.0", "servers"], .file "old".toUTF8 0 none),
        (["data"], .directory),
        (["org.pkl-lang", "data"], .directory),
        (["pkl-lsp", "org.pkl-lang", "data"], .directory),
        (["maven-metadata.xml", "pkl-lsp", "org.pkl-lang", "data"],
          .link "/servers/0.6.0/pkl-lsp-0.6.0.jar")] }
    host := .steady answer }

/--
The update that keeps its document behind one of these links.
-/
def linkedUpdate : Update :=
  { firstUpdate with registry := { firstUpdate.registry with cache := some ⟨"/data", 3600⟩ } }

theorem exists_jar_lost_and_jar_changed :
    (∃ (u : Update) (w : World) (v : Version) (path : Path),
      (u.check.run w).1 = .downloaded v path ∧ ¬(u.check.run w).2.files.isFile path) ∧
      ∃ (u : Update) (w : World) (latest v : Version),
        (u.check.run w).1 = .declined latest ∧ u.cache.contains w.files v ∧
          (u.check.run w).2.files.read (u.cache.jarPath v) ≠
            w.files.read (u.cache.jarPath v) := by
  constructor
  . refine ⟨linkedUpdate, linkedWorld true, .ofNumbers 0 6 1,
      "/servers/0.6.1/pkl-lsp-0.6.1.jar", ?_⟩
    decide +kernel
  . refine ⟨linkedUpdate, linkedWorld false, .ofNumbers 0 6 1, .ofNumbers 0 6 0, ?_⟩
    decide +kernel

end Update

end ServerLauncher
