import Mathlib.Data.List.Induction
import ServerLauncher.Proofs.Launch.Choosing

/-!
This module contains which distribution prevails when the path of the server changes while tasks that
began with earlier settings are still going on. What a change publishes is for the settings in use at
that time. A task that belongs to the start keeps the settings it began with, and nothing gives it up.
-/

namespace ServerLauncher.Launcher

/--
No distribution is being chosen, and no change waits to make the launcher choose one.
-/
structure Idle (l : Launcher) : Prop where
  choices : l.choices = []
  waits : ¬l.Waits
  bundled : l.resolver.bundled.source = .bundled

/--
On the course the launcher was made to choose a distribution for this configured jar.
-/
def StartedFor (l : Launcher) (course : List Deed) (configured : Option Path) : Prop :=
  ∃ before d after, course = before ++ d :: after ∧ d.Starts ∧
    (l.deeds before).store.settings.serverPath = configured

/--
What a task has published is for the settings that it was for: those with which the launcher once
started, or, if it was a change, those in use at that time.
-/
inductive Ending.Sound (l : Launcher) (course : List Deed) (e : Ending) : Prop where
  | start (horigin : e.origin = .start)
    (hfor : ∀ d ∈ e.published, ∃ configured, l.StartedFor course configured ∧ d.IsFor configured)
  | change (horigin : e.origin = .change .serverPath)
    (hfor : ∀ d ∈ e.published, d.IsFor e.settings.serverPath)

/--
What is still to come, or has come, of the configured jar that the settings in use name.
-/
inductive Phase (l : Launcher) (course : List Deed) : Prop where
  | unchanged
    (hchoices : ∀ choice ∈ (l.deeds course).choices,
      SameJar choice.2 (l.deeds course).store.settings.serverPath)
    (hendings : ∀ e ∈ l.endings course, ∀ d ∈ e.published,
      d.IsFor (l.deeds course).store.settings.serverPath)
  | waiting (hwaits : (l.deeds course).Waits)
  | choosing (configured : Option Path)
    (hmem : (.change .serverPath, configured) ∈ (l.deeds course).choices)
  | chosen (before : List Ending) (e : Ending) (after : List Ending)
    (hendings : l.endings course = before ++ e :: after) (horigin : e.origin = .change .serverPath)
    (hfor : ∀ d ∈ e.published, d.IsFor (l.deeds course).store.settings.serverPath)
    (hafter : ∀ later ∈ after, later.origin = .start)
  | unset (hserver : (l.deeds course).store.settings.serverPath = none)

/--
What holds after every course of an idle launcher.
-/
structure Orderly (l : Launcher) (course : List Deed) : Prop where
  tidy : (l.deeds course).Tidy
  bundled : (l.deeds course).resolver.bundled.source = .bundled
  starting : ∀ configured, (.start, configured) ∈ (l.deeds course).choices →
    l.StartedFor course configured
  changing : ∀ configured, (.change .serverPath, configured) ∈ (l.deeds course).choices →
    SameJar configured (l.deeds course).store.settings.serverPath
  current : (l.deeds course).resolver.cell.current =
    ((l.endings course).filterMap Ending.published).getLast?.or l.resolver.cell.current
  sound : ∀ e ∈ l.endings course, e.Sound l course
  phase : l.Phase course

variable {l : Launcher} {course : List Deed} {d : Deed}

theorem deeds_concat (l : Launcher) (course : List Deed) (d : Deed) :
    l.deeds (course ++ [d]) = (l.deeds course).deed d := by
  rw [deeds_append]
  rfl

theorem StartedFor.concat {configured : Option Path} (h : l.StartedFor course configured)
    (d : Deed) : l.StartedFor (course ++ [d]) configured := by
  obtain ⟨before, d', after, rfl, hstarts, hconfigured⟩ := h
  refine ⟨before, d', after ++ [d], ?_, hstarts, hconfigured⟩
  simp

theorem startedFor_concat (l : Launcher) (course : List Deed) (hstarts : d.Starts) :
    l.StartedFor (course ++ [d]) (l.deeds course).store.settings.serverPath :=
  ⟨course, d, [], rfl, hstarts, rfl⟩

theorem Ending.Sound.concat {e : Ending} (h : e.Sound l course) (d : Deed) :
    e.Sound l (course ++ [d]) := by
  cases h with
  | start horigin hfor =>
    apply Ending.Sound.start horigin
    intro value hvalue
    obtain ⟨configured, hstarted, hconfigured⟩ := hfor value hvalue
    exact ⟨configured, hstarted.concat d, hconfigured⟩
  | change horigin hfor => exact .change horigin hfor

theorem orderly_nil (hidle : l.Idle) : l.Orderly [] where
  tidy := by
    intro choice hmem
    simp [deeds, hidle.choices] at hmem
  bundled := hidle.bundled
  starting := by simp [deeds, hidle.choices]
  changing := by simp [deeds, hidle.choices]
  current := by simp [deeds, endings]
  sound := by simp [endings]
  phase := by
    apply Phase.unchanged
    . simp [deeds, hidle.choices]
    . simp [endings]

theorem Orderly.of_quiet (h : l.Orderly course) (d : Deed)
    (hending : (l.deeds course).ending? d = none)
    (htidy : (l.deeds (course ++ [d])).Tidy)
    (hresolver : (l.deeds (course ++ [d])).resolver = (l.deeds course).resolver)
    (hstarting : ∀ configured, (.start, configured) ∈ (l.deeds (course ++ [d])).choices →
      l.StartedFor (course ++ [d]) configured)
    (hchanging : ∀ configured,
      (.change .serverPath, configured) ∈ (l.deeds (course ++ [d])).choices →
      SameJar configured (l.deeds (course ++ [d])).store.settings.serverPath)
    (hphase : l.Phase (course ++ [d])) : l.Orderly (course ++ [d]) := by
  have hendings : l.endings (course ++ [d]) = l.endings course := by
    rw [endings_concat, hending]
    simp
  constructor
  . exact htidy
  . rw [hresolver]
    exact h.bundled
  . exact hstarting
  . exact hchanging
  . rw [hendings, hresolver]
    exact h.current
  . rw [hendings]
    intro e he
    exact (h.sound e he).concat d
  . exact hphase

theorem phase_concat_of_sameJar (h : l.Phase course) (hending : (l.deeds course).ending? d = none)
    (hjar : SameJar (l.deeds course).store.settings.serverPath
      (l.deeds (course ++ [d])).store.settings.serverPath)
    (hold : ∀ choice ∈ (l.deeds course).choices, choice ∈ (l.deeds (course ++ [d])).choices)
    (hnew : ∀ choice ∈ (l.deeds (course ++ [d])).choices, choice ∈ (l.deeds course).choices ∨
      SameJar choice.2 (l.deeds (course ++ [d])).store.settings.serverPath)
    (hwaits : (l.deeds course).Waits → (l.deeds (course ++ [d])).Waits) :
    l.Phase (course ++ [d]) := by
  have hendings' : l.endings (course ++ [d]) = l.endings course := by
    rw [endings_concat, hending]
    simp
  cases h with
  | unchanged hchoices hendings =>
    apply Phase.unchanged
    . intro choice hmem
      cases hnew choice hmem with
      | inl hmem => exact (hchoices choice hmem).trans hjar
      | inr hsame => exact hsame
    . rw [hendings']
      intro e he value hvalue
      exact (hendings e he value hvalue).of_sameJar hjar
  | waiting h => exact .waiting (hwaits h)
  | choosing configured hmem => exact .choosing configured (hold _ hmem)
  | chosen before e after hendings horigin hfor hafter =>
    apply Phase.chosen before e after
    . rw [hendings', hendings]
    . exact horigin
    . intro value hvalue
      exact (hfor value hvalue).of_sameJar hjar
    . exact hafter
  | unset hserver => exact .unset (hjar.eq_none_iff.1 hserver)

theorem Orderly.sound_of_mem (h : l.Orderly course) {origin : Task.Origin}
    {configured : Option Path} (hmem : (origin, configured) ∈ (l.deeds course).choices)
    {published : Option Distribution} (hfor : ∀ value, published = some value → value.IsFor configured) :
    Ending.Sound l course ⟨origin, (l.deeds course).store.settings, published⟩ := by
  cases h.tidy _ hmem with
  | inl horigin =>
    subst horigin
    apply Ending.Sound.start rfl
    intro value hvalue
    exact ⟨configured, h.starting configured hmem, hfor value hvalue⟩
  | inr horigin =>
    subst horigin
    apply Ending.Sound.change rfl
    intro value hvalue
    exact (hfor value hvalue).of_sameJar (h.changing configured hmem)

theorem phase_concat_of_finish (h : l.Orderly course) {origin : Task.Origin}
    {configured : Option Path} {published : Option Distribution}
    (hending : (l.deeds course).ending? d =
      some ⟨origin, (l.deeds course).store.settings, published⟩)
    (hstore : (l.deeds (course ++ [d])).store = (l.deeds course).store)
    (hchoices : ∀ choice, choice ∈ (l.deeds course).choices ↔
      choice = (origin, configured) ∨ choice ∈ (l.deeds (course ++ [d])).choices)
    (hwaits : (l.deeds (course ++ [d])).Waits ↔ (l.deeds course).Waits)
    (hfor : ∀ value, published = some value → value.IsFor configured) :
    l.Phase (course ++ [d]) := by
  have hmem := (hchoices _).2 (.inl rfl)
  have hendings' := l.endings_concat course d
  rw [hending] at hendings'
  cases h.tidy _ hmem with
  | inr horigin =>
    -- The task belongs to a change, so what it has published is for the settings in use.
    subst horigin
    apply Phase.chosen _ _ [] hendings' rfl
    . intro value hvalue
      rw [hstore]
      exact (hfor value hvalue).of_sameJar (h.changing configured hmem)
    . simp
  | inl horigin =>
    subst horigin
    cases h.phase with
    | unchanged hold hendings =>
      apply Phase.unchanged
      . intro choice hchoice
        rw [hstore]
        exact hold choice ((hchoices choice).2 (.inr hchoice))
      . rw [hendings', hstore]
        intro e he value hvalue
        cases List.mem_append.1 he with
        | inl he => exact hendings e he value hvalue
        | inr he =>
          rw [List.mem_singleton.1 he] at hvalue
          exact (hfor value hvalue).of_sameJar (hold _ hmem)
    | waiting h => exact .waiting (hwaits.2 h)
    | choosing other hother =>
      apply Phase.choosing other
      cases (hchoices _).1 hother with
      | inl heq => cases heq
      | inr hother => exact hother
    | chosen before e after hendings horigin hfor' hafter =>
      apply Phase.chosen before e (after ++ [⟨.start, (l.deeds course).store.settings, published⟩])
      . rw [hendings', hendings]
        simp
      . exact horigin
      . rw [hstore]
        exact hfor'
      . intro later hlater
        cases List.mem_append.1 hlater with
        | inl hlater => exact hafter later hlater
        | inr hlater => rw [List.mem_singleton.1 hlater]
    | unset hserver =>
      apply Phase.unset
      rw [hstore]
      exact hserver

theorem orderly_concat (h : l.Orderly course) (d : Deed) : l.Orderly (course ++ [d]) := by
  have heffect := effect_deed h.tidy d
  have htidy := heffect.tidy h.tidy
  rw [← deeds_concat] at heffect htidy
  generalize hending : (l.deeds course).ending? d = ending at heffect
  cases heffect with
  | none hjar hchoices hwaits hresolver =>
    apply h.of_quiet d hending htidy hresolver
    . intro configured hmem
      exact (h.starting configured ((hchoices _).1 hmem)).concat d
    . intro configured hmem
      exact (h.changing configured ((hchoices _).1 hmem)).trans hjar
    . apply phase_concat_of_sameJar h.phase hending hjar
      . intro choice hmem
        exact (hchoices choice).2 hmem
      . intro choice hmem
        exact .inl ((hchoices choice).1 hmem)
      . exact hwaits.2
  | start hstarts hstore hchoices hwaits hresolver =>
    apply h.of_quiet d hending htidy hresolver
    . intro configured hmem
      cases (hchoices _).1 hmem with
      | inl hmem => exact (h.starting configured hmem).concat d
      | inr heq =>
        cases heq
        exact startedFor_concat l course hstarts
    . intro configured hmem
      cases (hchoices _).1 hmem with
      | inl hmem =>
        rw [hstore]
        exact h.changing configured hmem
      | inr heq => cases heq
    . apply phase_concat_of_sameJar h.phase hending
      . rw [hstore]
        exact .refl _
      . intro choice hmem
        exact (hchoices choice).2 (.inl hmem)
      . intro choice hmem
        cases (hchoices choice).1 hmem with
        | inl hmem => exact .inl hmem
        | inr heq =>
          rw [heq, hstore]
          exact .inr (.refl _)
      . exact hwaits.2
  | change hchoices hwaits hresolver =>
    apply h.of_quiet d hending htidy hresolver
    . intro configured hmem
      exact (h.starting configured ((hchoices _).1 hmem).1).concat d
    . intro configured hmem
      exact absurd rfl ((hchoices _).1 hmem).2
    . exact .waiting hwaits
  | fire hstore hchoices hresolver =>
    apply h.of_quiet d hending htidy hresolver
    . intro configured hmem
      cases (hchoices _).1 hmem with
      | inl hmem => exact (h.starting configured hmem).concat d
      | inr heq => cases heq.1
    . intro configured hmem
      rw [hstore]
      cases (hchoices _).1 hmem with
      | inl hmem => exact h.changing configured hmem
      | inr heq =>
        cases heq.1
        exact .refl _
    . cases hserver : (l.deeds course).store.settings.serverPath with
      | none =>
        apply Phase.unset
        rw [hstore]
        exact hserver
      | some jar =>
        apply Phase.choosing (some jar)
        apply (hchoices _).2
        rw [hserver]
        exact .inr ⟨rfl, nofun⟩
  | finish origin configured published hstore hchoices hwaits hresolver hfor =>
    have hmem := (hchoices _).2 (.inl rfl)
    have hold : ∀ choice ∈ (l.deeds (course ++ [d])).choices, choice ∈ (l.deeds course).choices := by
      intro choice hmem
      exact (hchoices choice).2 (.inr hmem)
    have hendings := l.endings_concat course d
    rw [hending] at hendings
    constructor
    . exact htidy
    . rw [hresolver]
      cases published <;> exact h.bundled
    . intro configured hmem
      exact (h.starting configured (hold _ hmem)).concat d
    . intro configured hmem
      rw [hstore]
      exact h.changing configured (hold _ hmem)
    . rw [hendings, hresolver]
      cases published with
      | none => simpa using h.current
      | some value => simp [Distribution.Resolver.publish]
    . rw [hendings]
      intro e he
      cases List.mem_append.1 he with
      | inl he => exact (h.sound e he).concat d
      | inr he =>
        rw [List.mem_singleton.1 he]
        exact (h.sound_of_mem hmem (hfor h.bundled)).concat d
    . exact phase_concat_of_finish h hending hstore hchoices hwaits (hfor h.bundled)

theorem orderly_deeds (hidle : l.Idle) (course : List Deed) : l.Orderly course := by
  induction course using List.reverseRecOn with
  | nil => exact orderly_nil hidle
  | append_singleton course d ih => exact orderly_concat ih d

theorem exists_split_of_unchanged {endings : List Ending} {jar : Path}
    (hfor : ∀ e ∈ endings, ∀ value ∈ e.published, value.IsFor (some jar))
    (hanswered : ∀ e ∈ endings, e.published.isSome) (hsome : endings ≠ []) :
    ∃ before e after, endings = before ++ e :: after ∧
      (∃ value ∈ e.published, value.IsFor (some jar)) ∧ ∀ later ∈ after, later.origin = .start := by
  have hmem := List.getLast_mem hsome
  have ⟨value, hvalue⟩ := Option.isSome_iff_exists.1 (hanswered _ hmem)
  refine ⟨endings.dropLast, endings.getLast hsome, [], ?_, ?_, ?_⟩
  . exact (List.dropLast_append_getLast hsome).symm
  . exact ⟨value, hvalue, hfor _ hmem value hvalue⟩
  . simp

/--
What a change of the path of the server publishes is for the settings in use at that time. So once no
task is left and all jars have answered, a distribution for the settings in use has been published, and
nothing can have replaced it but what tasks of the start have published for the settings they began with.
-/
theorem superseded_only_by_start (l : Launcher) (hidle : l.Idle) (course : List Deed) :
    (l.deeds course).resolver.cell.current =
        ((l.endings course).filterMap Ending.published).getLast?.or l.resolver.cell.current ∧
      (∀ e ∈ l.endings course, e.Sound l course) ∧
      ((l.deeds course).choices = [] → ¬(l.deeds course).Waits → l.endings course ≠ [] →
        (∀ e ∈ l.endings course, e.published.isSome) →
        ∀ jar, (l.deeds course).store.settings.serverPath = some jar →
        ∃ before e after, l.endings course = before ++ e :: after ∧
          (∃ value ∈ e.published, value.IsFor (some jar)) ∧
          ∀ later ∈ after, later.origin = .start) := by
  have h := orderly_deeds hidle course
  refine ⟨h.current, h.sound, ?_⟩
  intro hchoices hwaits hsome hanswered jar hjar
  have hphase := h.phase
  cases hphase with
  | unchanged _ hendings =>
    rw [hjar] at hendings
    exact exists_split_of_unchanged hendings hanswered hsome
  | waiting h => exact absurd h hwaits
  | choosing _ hmem =>
    rw [hchoices] at hmem
    cases hmem
  | chosen before e after hendings _ hfor hafter =>
    rw [hjar] at hfor
    have hmem : e ∈ l.endings course := by simp [hendings]
    have ⟨value, hvalue⟩ := Option.isSome_iff_exists.1 (hanswered e hmem)
    exact ⟨before, e, after, hendings, ⟨value, hvalue, hfor value hvalue⟩, hafter⟩
  | unset hserver =>
    rw [hjar] at hserver
    cases hserver

/--
A machine with a Java executable that finds the same version in every jar.
-/
def machineWithJava : Machine where
  files := {
    entries := [(["java"], .file ByteArray.empty 0 (some fun _ _ =>
      ⟨.exited 0, "pkl-lsp version 0.6.1".toUTF8, "openjdk version \"22\"".toUTF8⟩))]
    workingDirectory := []
    temporaryDirectory := "/"
    device := fun _ => 0 }
  environment := {}
  executable := "/launcher"

/--
Settings for that machine.
-/
def settingsFor (javaPath : Path) (serverPath : Option Path) : Settings :=
  { javaPath := some javaPath, serverPath, cacheDirectory := some "/cache" }

/--
A launcher there that is configured to run the first of two jars.
-/
def onFirstJar (javaPath : Path) : Launcher :=
  ofSettings
    { machineWithJava with now := 0, web := fun _ _ => none, host := .steady true, events := [] }
    ⟨settingsFor javaPath (some "/first.jar"), none⟩

/--
The second jar is configured while the first one is being asked, and answers before it.
-/
def overtakingCourse : List Deed :=
  [.resolve, .turn (.move (.advance 0)), .turn (.move (.advance 0)),
    .turn (.apply (settingsFor "/java" (some "/second.jar"))), .turn (.pass Debouncer.defaultWindow),
    .turn (.move (.fire .serverPath)), .turn (.move (.advance 1)), .turn (.move (.advance 1)),
    .turn (.move (.advance 0))]

/--
There is no runtime to ask the first jar with until no jar is configured any more and the bundled
distribution has been chosen.
-/
def revivingCourse : List Deed :=
  [.resolve, .turn (.move (.advance 0)), .turn (.apply (settingsFor "/missing" none)),
    .turn (.pass Debouncer.defaultWindow), .turn (.move (.fire .serverPath)), .resolve,
    .turn (.move (.advance 2)), .turn (.move (.advance 1)),
    .turn (.apply (settingsFor "/java" none)), .turn (.pass Debouncer.defaultWindow),
    .turn (.move (.fire .javaPath)), .turn (.move (.advance 1)), .turn (.move (.advance 0)),
    .turn (.move (.advance 0))]

theorem idle_onFirstJar (javaPath : Path) : (onFirstJar javaPath).Idle :=
  ⟨rfl, nofun, rfl⟩

theorem superseded_only_by_start_on_overtakingCourse :
    (onFirstJar "/java").Idle ∧
      ∃ before e after, (onFirstJar "/java").endings overtakingCourse = before ++ e :: after ∧
        (∃ value ∈ e.published, value.IsFor (some "/second.jar")) ∧
        ∀ later ∈ after, later.origin = .start := by
  refine ⟨idle_onFirstJar _, ?_⟩
  apply (superseded_only_by_start _ (idle_onFirstJar _) overtakingCourse).2.2
  . decide +kernel
  . decide +kernel
  . apply List.ne_nil_of_length_pos
    decide +kernel
  . decide +kernel
  . decide +kernel

theorem exists_superseded_in_use :
    (∃ d, ((onFirstJar "/java").deeds overtakingCourse).choices = [] ∧
      ¬((onFirstJar "/java").deeds overtakingCourse).Waits ∧
      (∀ e ∈ (onFirstJar "/java").endings overtakingCourse, e.published.isSome) ∧
      ((onFirstJar "/java").deeds overtakingCourse).store.settings.serverPath =
        some "/second.jar" ∧
      ((onFirstJar "/java").deeds overtakingCourse).resolver.cell.current = some d ∧
      ¬d.IsFor (some "/second.jar")) ∧
    ∃ bundled d, ((onFirstJar "/missing").endings revivingCourse).map Ending.published =
        [some bundled, some d] ∧
      ((onFirstJar "/missing").deeds revivingCourse).store.settings.serverPath = none ∧
      bundled.IsFor none ∧
      ((onFirstJar "/missing").deeds revivingCourse).resolver.cell.current = some d ∧
      ¬d.IsFor none := by
  constructor
  . refine ⟨⟨"/first.jar", .ofNumbers 0 6 1, .configured⟩, ?_, ?_, ?_, ?_, ?_, ?_⟩
    . decide +kernel
    . decide +kernel
    . decide +kernel
    . decide +kernel
    . decide +kernel
    . intro h
      exact absurd h.2 (by decide)
  . refine ⟨⟨"/pkl-lsp.jar", .ofNumbers 0 6 0, .bundled⟩,
      ⟨"/first.jar", .ofNumbers 0 6 1, .configured⟩, ?_, ?_, ?_, ?_, ?_⟩
    . decide +kernel
    . decide +kernel
    . exact nofun
    . decide +kernel
    . intro h
      exact h rfl

end ServerLauncher.Launcher
