import Mathlib.Data.List.Perm.Basic
import ServerLauncher.Proofs.Launch.Course

/-!
This module contains what can happen to the choice of a distribution while a launcher is at work: which
tasks are going to choose one, what each of them chooses it for, and what it publishes when it ends.
-/

namespace ServerLauncher

/--
The distribution is one for this configured jar, or one for no configured jar.
-/
def Distribution.IsFor (d : Distribution) : Option Path → Prop
  | some jar => d.source = .configured ∧ d.path.sameAs jar
  | none => d.source ≠ .configured

/--
Both configure the same jar, or both none.
-/
def SameJar (configured other : Option Path) : Prop :=
  Settings.sameOption Path.sameAs configured other

section

variable {configured other third : Option Path}

theorem sameJar_iff :
    SameJar configured other ↔ configured.map Path.components = other.map Path.components :=
  Settings.sameOption_sameAs_iff

theorem SameJar.refl (configured : Option Path) : SameJar configured configured :=
  sameJar_iff.2 rfl

theorem SameJar.trans (h₁ : SameJar configured other) (h₂ : SameJar other third) :
    SameJar configured third :=
  sameJar_iff.2 ((sameJar_iff.1 h₁).trans (sameJar_iff.1 h₂))

theorem SameJar.eq_none_iff (h : SameJar configured other) : configured = none ↔ other = none := by
  cases configured <;> cases other <;> simp_all [SameJar, Settings.sameOption]

theorem Distribution.IsFor.of_sameJar {d : Distribution} (h : d.IsFor configured)
    (hsame : SameJar configured other) : d.IsFor other := by
  cases configured with
  | none =>
    cases other with
    | none => exact h
    | some jar => cases hsame
  | some jar =>
    cases other with
    | none => cases hsame
    | some jar' =>
      have hjars : jar.sameAs jar' := hsame
      refine ⟨h.1, ?_⟩
      rw [Path.sameAs_iff, Path.sameAs_iff.1 h.2]
      exact Path.sameAs_iff.1 hjars

end

/--
The configured jar that a task is to use, or that it is to do without one. Other tasks than these do
not choose a distribution.
-/
def Task.choice? : Task → Option (Option Path)
  | .chooseServer => some none
  | .awaitRuntime jar | .probeServer _ jar => some (some jar)
  | .findRuntime _ | .checkUpdate _ => none

namespace Launcher

/--
What someone who uses a launcher does, or a turn in the course of things.
-/
inductive Deed where
  | turn (t : Turn)
  | resolve
  | run (peers : Peers)
  | watch (path : Path)
  | checkUpdate

def deed (l : Launcher) : Deed → Launcher
  | .turn t => l.turn t
  | .resolve => l.spawnResolution
  | .run peers => l.run peers
  | .watch path => l.watch path
  | .checkUpdate => l.spawnUpdateCheck

def deeds (l : Launcher) (course : List Deed) : Launcher :=
  course.foldl deed l

/--
The deed makes the launcher choose a distribution for the settings in use.
-/
def Deed.Starts : Deed → Prop
  | .resolve | .run _ => True
  | _ => False

/--
Why the distribution is going to be chosen, and which configured jar it is to be, for every task that
is going to choose one.
-/
def choices (l : Launcher) : List (Task.Origin × Option Path) :=
  l.tasks.filterMap fun (origin, task) => task.choice?.map (origin, ·)

/--
The tasks that choose a distribution belong to the start or to a change of the path of the server.
-/
def Tidy (l : Launcher) : Prop :=
  ∀ choice ∈ l.choices, choice.1 = .start ∨ choice.1 = .change .serverPath

/--
A change of the path of the server waits for being quiet.
-/
def Waits (l : Launcher) : Prop :=
  (l.debouncer.timers.get? .serverPath).isSome

instance : DecidablePred Waits :=
  fun l => inferInstanceAs (Decidable (l.debouncer.timers.get? .serverPath).isSome)

/--
The end of a task that chooses a distribution: why it was going on, the settings in use at that time,
and what it has published, if the jar it asked has answered.
-/
structure Ending where
  origin : Task.Origin
  settings : Settings
  published : Option Distribution

/--
What has been published between two states of a launcher that are one step apart.
-/
def published? (before after : Launcher) : Option Distribution :=
  if after.resolver.cell.publications = before.resolver.cell.publications then none
  else after.resolver.cell.current

/--
The end of a task that comes with a deed.
-/
def ending? (l : Launcher) : Deed → Option Ending
  | .turn (.move (.advance index)) =>
    match l.tasks[index]? with
    | some (origin, task) =>
      match l.advanceTask task, task.choice? with
      | some (none, after), some _ => some ⟨origin, l.store.settings, l.published? after⟩
      | _, _ => none
    | none => none
  | _ => none

/--
The ends of tasks on a course, in their order.
-/
def endings (l : Launcher) : List Deed → List Ending
  | [] => []
  | d :: course => (l.ending? d).toList ++ (l.deed d).endings course

theorem endings_append (l : Launcher) (first second : List Deed) :
    l.endings (first ++ second) = l.endings first ++ (l.deeds first).endings second := by
  induction first generalizing l with
  | nil => rfl
  | cons d first ih =>
    rw [List.cons_append]
    simp only [endings]
    rw [ih]
    rw [List.append_assoc]
    rfl

theorem endings_concat (l : Launcher) (course : List Deed) (d : Deed) :
    l.endings (course ++ [d]) = l.endings course ++ ((l.deeds course).ending? d).toList := by
  rw [endings_append]
  simp [endings]

theorem deeds_append (l : Launcher) (first second : List Deed) :
    l.deeds (first ++ second) = (l.deeds first).deeds second :=
  List.foldl_append

/--
What a deed may do to the choice of a distribution, and which end of a task comes with it.
-/
inductive Effect (d : Deed) (l l' : Launcher) : Option Ending → Prop where
  | none (hjar : SameJar l.store.settings.serverPath l'.store.settings.serverPath)
    (hchoices : ∀ choice, choice ∈ l'.choices ↔ choice ∈ l.choices)
    (hwaits : l'.Waits ↔ l.Waits) (hcell : l'.resolver = l.resolver) : Effect d l l' none
  | start (hstarts : d.Starts) (hsettings : l'.store = l.store)
    (hchoices : ∀ choice, choice ∈ l'.choices ↔
      choice ∈ l.choices ∨ choice = (.start, l.store.settings.serverPath))
    (hwaits : l'.Waits ↔ l.Waits) (hcell : l'.resolver = l.resolver) : Effect d l l' none
  | change (hchoices : ∀ choice, choice ∈ l'.choices ↔
      choice ∈ l.choices ∧ choice.1 ≠ .change .serverPath)
    (hwaits : l'.Waits) (hcell : l'.resolver = l.resolver) : Effect d l l' none
  | fire (hsettings : l'.store = l.store)
    (hchoices : ∀ choice, choice ∈ l'.choices ↔ choice ∈ l.choices ∨
      choice = (.change .serverPath, l.store.settings.serverPath) ∧ choice.2 ≠ Option.none)
    (hcell : l'.resolver = l.resolver) : Effect d l l' none
  | finish (origin : Task.Origin) (configured : Option Path) (published : Option Distribution)
    (hsettings : l'.store = l.store)
    (hchoices : ∀ choice, choice ∈ l.choices ↔ choice = (origin, configured) ∨ choice ∈ l'.choices)
    (hwaits : l'.Waits ↔ l.Waits)
    (hcell : l'.resolver = published.elim l.resolver l.resolver.publish)
    (hfor : l.resolver.bundled.source = .bundled → ∀ d, published = some d → d.IsFor configured) :
    Effect d l l' (some ⟨origin, l.store.settings, published⟩)

variable {l l' : Launcher}

theorem mem_choices_iff {choice : Task.Origin × Option Path} :
    choice ∈ l.choices ↔ ∃ task, (choice.1, task) ∈ l.tasks ∧ task.choice? = some choice.2 := by
  unfold choices
  rw [List.mem_filterMap]
  constructor
  . intro h
    obtain ⟨entry, hmem, hentry⟩ := h
    obtain ⟨configured, hchoice, rfl⟩ := Option.map_eq_some_iff.1 hentry
    exact ⟨entry.2, hmem, hchoice⟩
  . intro h
    obtain ⟨task, hmem, hchoice⟩ := h
    refine ⟨_, hmem, ?_⟩
    simp only [hchoice, Option.map_some]

theorem mem_choices_addTask_iff {origin : Task.Origin} {task : Task}
    {choice : Task.Origin × Option Path} :
    choice ∈ (l.addTask origin task).choices ↔
      choice ∈ l.choices ∨ choice.1 = origin ∧ task.choice? = some choice.2 := by
  simp only [mem_choices_iff, addTask, List.mem_append, List.mem_singleton, Prod.mk.injEq]
  grind

theorem mem_choices_eraseIdx_iff {index : Nat} {origin : Task.Origin} {task : Task}
    (h : l.tasks[index]? = some (origin, task)) {choice : Task.Origin × Option Path} :
    choice ∈ l.choices ↔ (choice.1 = origin ∧ task.choice? = some choice.2) ∨
      choice ∈ { l with tasks := l.tasks.eraseIdx index }.choices := by
  have ⟨hindex, hentry⟩ := List.getElem?_eq_some_iff.1 h
  have hperm := List.getElem_cons_eraseIdx_perm hindex
  rw [hentry] at hperm
  simp only [mem_choices_iff, ← hperm.mem_iff, List.mem_cons, Prod.mk.injEq]
  grind

theorem waits_reschedule_serverPath (l : Launcher) : (l.reschedule .serverPath).Waits := by
  unfold Waits reschedule
  rw [Debouncer.get?_timers_schedule_self]
  rfl

theorem waits_reschedule_javaPath (l : Launcher) : (l.reschedule .javaPath).Waits ↔ l.Waits := by
  unfold Waits reschedule
  simp only [Debouncer.schedule, Keyed.remove]
  rw [Keyed.get?_put_of_ne (by decide)]
  rw [Keyed.get?_removeIf_of_false (by decide)]

theorem mem_choices_reschedule_iff {key : Settings.Key} {choice : Task.Origin × Option Path} :
    choice ∈ (l.reschedule key).choices ↔ choice ∈ l.choices ∧ choice.1 ≠ .change key := by
  simp only [mem_choices_iff, reschedule, List.mem_filter, decide_eq_true_eq]
  grind

/--
How a launcher reacts to changed settings: if the path of the server is among them, the tasks of an
earlier change are given up.
-/
structure Reaction (changed : Prop) (l l' : Launcher) : Prop where
  store : l'.store = l.store
  resolver : l'.resolver = l.resolver
  mem_choices_iff {choice : Task.Origin × Option Path} :
    choice ∈ l'.choices ↔ choice ∈ l.choices ∧ (changed → choice.1 ≠ .change .serverPath)
  waits_iff : l'.Waits ↔ changed ∨ l.Waits

theorem Reaction.refl (l : Launcher) : Reaction False l l := by
  constructor <;> simp

theorem Reaction.trans {p q : Prop} {l'' : Launcher} (h₁ : Reaction p l l')
    (h₂ : Reaction q l' l'') : Reaction (p ∨ q) l l'' where
  store := h₂.store.trans h₁.store
  resolver := h₂.resolver.trans h₁.resolver
  mem_choices_iff := by
    intro choice
    rw [h₂.mem_choices_iff, h₁.mem_choices_iff]
    tauto
  waits_iff := by
    rw [h₂.waits_iff, h₁.waits_iff]
    tauto

theorem Reaction.tidy {changed : Prop} (h : Reaction changed l l') (htidy : l.Tidy) : l'.Tidy := by
  intro choice hmem
  exact htidy choice (h.mem_choices_iff.1 hmem).1

theorem reaction_reschedule_serverPath (l : Launcher) :
    Reaction True l (l.reschedule .serverPath) where
  store := rfl
  resolver := rfl
  mem_choices_iff := by
    intro choice
    rw [mem_choices_reschedule_iff]
    rw [forall_const]
  waits_iff := by simp [waits_reschedule_serverPath]

theorem reaction_reschedule_javaPath (htidy : l.Tidy) :
    Reaction False l (l.reschedule .javaPath) where
  store := rfl
  resolver := rfl
  mem_choices_iff := by
    intro choice
    rw [mem_choices_reschedule_iff]
    constructor
    . intro h
      exact ⟨h.1, False.elim⟩
    . intro h
      refine ⟨h.1, ?_⟩
      cases htidy choice h.1 with
      | inl horigin => simp [horigin]
      | inr horigin => simp [horigin]
  waits_iff := by simp [waits_reschedule_javaPath]

theorem reaction_onSettingsChanged (htidy : l.Tidy) (keys : List Settings.Key) :
    Reaction (.serverPath ∈ keys) l (l.onSettingsChanged keys) := by
  unfold onSettingsChanged
  induction keys generalizing l with
  | nil =>
    simp only [List.not_mem_nil]
    exact .refl l
  | cons key keys ih =>
    rw [List.foldl_cons]
    have hkey : Reaction (key = .serverPath) l
        (if key = .javaPath ∨ key = .serverPath then l.reschedule key else l) := by
      cases key with
      | javaPath => simpa using reaction_reschedule_javaPath htidy
      | serverPath => simpa using reaction_reschedule_serverPath l
      | _ => simpa using Reaction.refl l
    have htrans := hkey.trans (ih (hkey.tidy htidy))
    simpa [eq_comm] using htrans

theorem not_sameJar_iff_mem_changedKeys {settings : Settings} :
    .serverPath ∈ l.store.settings.changedKeys settings ↔
      ¬SameJar l.store.settings.serverPath settings.serverPath := by
  rw [Settings.mem_changedKeys]
  simp [SameJar, Settings.sameAt]

theorem effect_applySettings (htidy : l.Tidy) (d : Deed) (settings : Settings) :
    Effect d l (l.applySettings settings).2 none := by
  have h := reaction_onSettingsChanged (l := { l with store := (l.store.apply settings).2 }) htidy
    (l.store.settings.changedKeys settings)
  have hsettings : (l.applySettings settings).2.store.settings = settings :=
    congrArg Settings.Store.settings h.store
  by_cases hjar : SameJar l.store.settings.serverPath settings.serverPath
  . have hkey := mt not_sameJar_iff_mem_changedKeys.1 (not_not.2 hjar)
    apply Effect.none
    . rw [hsettings]
      exact hjar
    . intro choice
      refine h.mem_choices_iff.trans ?_
      exact and_iff_left hkey.elim
    . refine h.waits_iff.trans ?_
      exact or_iff_right hkey
    . exact h.resolver
  . have hkey := not_sameJar_iff_mem_changedKeys.2 hjar
    apply Effect.change
    . intro choice
      refine h.mem_choices_iff.trans ?_
      exact and_congr_right fun _ => forall_prop_of_true hkey
    . exact h.waits_iff.2 (.inl hkey)
    . exact h.resolver

/--
Nothing has happened that concerns the choice of a distribution.
-/
structure Untouched (l l' : Launcher) : Prop where
  store : l'.store = l.store
  tasks : l'.tasks = l.tasks
  debouncer : l'.debouncer = l.debouncer
  resolver : l'.resolver = l.resolver

theorem Untouched.effect (h : Untouched l l') (d : Deed) : Effect d l l' none := by
  apply Effect.none
  . rw [h.store]
    exact .refl _
  . intro choice
    unfold choices
    rw [h.tasks]
  . unfold Waits
    rw [h.debouncer]
  . exact h.resolver

theorem effect_of_eq {d : Deed} (hstore : l'.store = l.store) (htasks : l'.tasks = l.tasks)
    (hdebouncer : l'.debouncer = l.debouncer) (hresolver : l'.resolver = l.resolver) :
    Effect d l l' none :=
  Untouched.effect ⟨hstore, htasks, hdebouncer, hresolver⟩ d

/--
What may become of a task: the one that it leaves behind, and the launcher afterwards.
-/
inductive Progress (l : Launcher) : Task → Option Task → Launcher → Prop where
  | other {task : Task} {l' : Launcher} (hchoice : task.choice? = none)
    (hresolver : l'.resolver = l.resolver) : Progress l task none l'
  | ask (java jar : Path) : Progress l (.awaitRuntime jar) (some (.probeServer java jar)) l
  | finish {task : Task} {l' : Launcher} (configured : Option Path)
    (published : Option Distribution) (hchoice : task.choice? = some configured)
    (hresolver : l'.resolver = published.elim l.resolver l.resolver.publish)
    (hfor : l.resolver.bundled.source = .bundled → ∀ d, published = some d → d.IsFor configured) :
    Progress l task none l'

theorem source_chooseUnconfigured_ne {resolver : Distribution.Resolver}
    (h : resolver.bundled.source = .bundled) (files : FileSystem) :
    (resolver.chooseUnconfigured files).source ≠ .configured := by
  have hbundled : resolver.bundled.source ≠ .configured := by simp [h]
  unfold Distribution.Resolver.chooseUnconfigured
  cases hdownloaded : resolver.cache.bind fun cache =>
      cache.bestCompatible files resolver.bundled.version with
  | none => exact hbundled
  | some d =>
    have ⟨cache, _, hbest⟩ := Option.bind_eq_some_iff.1 hdownloaded
    have ⟨v, _, hd⟩ := Option.map_eq_some_iff.1 hbest
    show Distribution.source (if _ then d else resolver.bundled) ≠ .configured
    split
    . rw [← hd]
      exact nofun
    . exact hbundled

theorem progress_advanceTask {task : Task} {left : Option Task}
    (h : l.advanceTask task = some (left, l')) : Progress l task left l' := by
  unfold advanceTask at h
  cases task with
  | findRuntime configured =>
    cases h
    exact .other rfl rfl
  | chooseServer =>
    cases h
    apply Progress.finish none (some (l.resolver.chooseUnconfigured l.world.files)) rfl rfl
    intro hbundled d hd
    cases hd
    exact source_chooseUnconfigured_ne hbundled _
  | awaitRuntime jar =>
    dsimp only at h
    split at h
    . cases h
    . next runtime _ =>
      cases h
      exact .ask runtime.path jar
    . cases h
      exact .finish (some jar) none rfl rfl nofun
  | probeServer java jar =>
    cases h
    cases hversion : Distribution.probe l.world.toMachine java jar with
    | none => exact .finish (some jar) none rfl rfl nofun
    | some v =>
      apply Progress.finish (some jar) (some ⟨jar, v, .configured⟩) rfl
      . have hrun := Distribution.Resolver.run_settleProbed_some l.resolver jar v l.world
        exact congrArg (fun result => result.1.2) hrun
      . intro _ d hd
        cases hd
        exact ⟨rfl, by simp [Path.sameAs]⟩
  | checkUpdate update =>
    cases h
    exact .other rfl rfl

/--
A task changes neither the settings nor what else is going on.
-/
theorem store_advanceTask {task : Task} {left : Option Task}
    (h : l.advanceTask task = some (left, l')) :
    l'.store = l.store ∧ l'.debouncer = l.debouncer ∧ l'.tasks = l.tasks := by
  unfold advanceTask at h
  cases task with
  | awaitRuntime jar =>
    dsimp only at h
    split at h <;> cases h <;> exact ⟨rfl, rfl, rfl⟩
  | _ =>
    cases h
    exact ⟨rfl, rfl, rfl⟩

theorem published?_of_resolver_eq {published : Option Distribution}
    (h : l'.resolver = published.elim l.resolver l.resolver.publish) :
    l.published? l' = published := by
  unfold published?
  rw [h]
  cases published with
  | none => exact if_pos rfl
  | some d =>
    show (if l.resolver.cell.publications + 1 = l.resolver.cell.publications then _ else _) = _
    rw [if_neg (Nat.succ_ne_self _)]
    rfl

theorem turn_advance_of_some {index : Nat} {origin : Task.Origin} {task : Task}
    {left : Option Task} (hentry : l.tasks[index]? = some (origin, task))
    (hadvance : l.advanceTask task = some (left, l')) :
    l.turn (.move (.advance index)) =
      { l' with tasks := l.tasks.eraseIdx index ++ (left.map (origin, ·)).toList } := by
  have ⟨_, _, htasks⟩ := store_advanceTask hadvance
  simp only [turn, step?, hentry, hadvance, Option.getD_some]
  rw [htasks]
  cases left with
  | none => simp
  | some task => rfl

theorem effect_advance (l : Launcher) (index : Nat) :
    Effect (.turn (.move (.advance index))) l (l.turn (.move (.advance index)))
      (l.ending? (.turn (.move (.advance index)))) := by
  cases hentry : l.tasks[index]? with
  | none =>
    simp only [turn, step?, ending?, hentry]
    exact effect_of_eq rfl rfl rfl rfl
  | some entry =>
    obtain ⟨origin, task⟩ := entry
    cases hadvance : l.advanceTask task with
    | none =>
      simp only [turn, step?, ending?, hentry, hadvance]
      exact effect_of_eq rfl rfl rfl rfl
    | some result =>
      obtain ⟨left, l'⟩ := result
      obtain ⟨hstore, hdebouncer, -⟩ := store_advanceTask hadvance
      simp only [ending?, hentry, hadvance]
      rw [turn_advance_of_some hentry hadvance]
      cases progress_advanceTask hadvance with
      | other hchoice hresolver =>
        simp only [hchoice]
        apply Effect.none
        . rw [hstore]
          exact .refl _
        . intro choice
          rw [mem_choices_eraseIdx_iff hentry]
          simp [hchoice, choices]
        . unfold Waits
          rw [hdebouncer]
        . exact hresolver
      | ask java jar =>
        apply Effect.none
        . exact .refl _
        . intro choice
          rw [mem_choices_eraseIdx_iff hentry]
          simp [mem_choices_iff, Task.choice?]
          grind
        . rfl
        . rfl
      | finish configured published hchoice hresolver hfor =>
        simp only [hchoice]
        rw [published?_of_resolver_eq hresolver]
        apply Effect.finish origin configured published
        . exact hstore
        . intro choice
          rw [mem_choices_eraseIdx_iff hentry]
          simp [hchoice, mem_choices_iff]
          grind
        . unfold Waits
          rw [hdebouncer]
        . exact hresolver
        . exact hfor

theorem waits_cancel {key : Settings.Key} (h : key ≠ .serverPath) :
    { l with debouncer := l.debouncer.cancel key }.Waits ↔ l.Waits := by
  unfold Waits Debouncer.cancel
  dsimp only
  rw [Keyed.remove]
  rw [Keyed.get?_removeIf_of_false (by simp [h.symm])]

theorem effect_handle (l : Launcher) (d : Deed) (key : Settings.Key) :
    Effect d l ({ l with debouncer := l.debouncer.cancel key }.handle key) none := by
  cases key with
  | javaPath =>
    have hwaits : { l with debouncer := l.debouncer.cancel .javaPath }.Waits ↔ l.Waits :=
      waits_cancel (by decide)
    unfold handle
    cases hjava : l.store.settings.javaPath with
    | none =>
      simp only [hjava]
      apply Effect.none
      . exact .refl _
      . intro choice
        rfl
      . exact hwaits
      . rfl
    | some path =>
      simp only [hjava]
      apply Effect.none
      . exact .refl _
      . intro choice
        rw [mem_choices_addTask_iff]
        simp [mem_choices_iff, Task.choice?]
      . exact hwaits
      . rfl
  | serverPath =>
    unfold handle
    cases hserver : l.store.settings.serverPath with
    | none =>
      simp only [hserver]
      apply Effect.fire
      . rfl
      . intro choice
        rw [hserver]
        simp only [mem_choices_iff]
        grind
      . rfl
    | some jar =>
      simp only [hserver]
      apply Effect.fire
      . rfl
      . intro choice
        rw [mem_choices_addTask_iff]
        simp only [mem_choices_iff, Task.choice?, hserver]
        grind
      . rfl
  | _ =>
    apply Effect.none
    . exact .refl _
    . intro choice
      rfl
    . exact waits_cancel (by decide)
    . rfl

theorem effect_lookAt (htidy : l.Tidy) (d : Deed) (watcher : Watcher) :
    Effect d l (l.lookAt watcher).2 none := by
  unfold lookAt
  dsimp only
  split
  . exact effect_of_eq rfl rfl rfl rfl
  . split
    . exact effect_applySettings htidy d _
    . exact effect_of_eq rfl rfl rfl rfl

theorem Effect.of_untouched {d : Deed} {l'' : Launcher} {ending : Option Ending}
    (h : Effect d l l' ending) (hother : Untouched l' l'') : Effect d l l'' ending := by
  have hchoices' : l''.choices = l'.choices := congrArg (List.filterMap _) hother.tasks
  have hwaits' : l''.Waits ↔ l'.Waits := by
    unfold Waits
    rw [hother.debouncer]
  have hresolver' := hother.resolver
  have hstore' := hother.store
  cases h with
  | none hjar hchoices hwaits hcell =>
    apply Effect.none
    . rwa [hstore']
    . rwa [hchoices']
    . exact hwaits'.trans hwaits
    . rwa [hresolver']
  | start hstarts hsettings hchoices hwaits hcell =>
    apply Effect.start hstarts
    . rwa [hstore']
    . rwa [hchoices']
    . exact hwaits'.trans hwaits
    . rwa [hresolver']
  | change hchoices hwaits hcell =>
    apply Effect.change
    . rwa [hchoices']
    . exact hwaits'.2 hwaits
    . rwa [hresolver']
  | fire hsettings hchoices hcell =>
    apply Effect.fire
    . rwa [hstore']
    . rwa [hchoices']
    . rwa [hresolver']
  | finish origin configured published hsettings hchoices hwaits hcell hfor =>
    apply Effect.finish origin configured published
    . rwa [hstore']
    . rwa [hchoices']
    . exact hwaits'.trans hwaits
    . rwa [hresolver']
    . exact hfor

theorem effect_step {move : Move} (htidy : l.Tidy) (h : l.step? move = some l')
    (hmove : ∀ index, move ≠ .advance index) : Effect (.turn (.move move)) l l' none := by
  cases move with
  | observeRuntime =>
    simp only [step?] at h
    split at h <;> cases h
    exact effect_of_eq rfl rfl rfl rfl
  | observeDistribution =>
    simp only [step?] at h
    split at h <;> cases h
    exact effect_of_eq rfl rfl rfl rfl
  | startServer =>
    simp only [step?] at h
    split at h <;> cases h
    unfold spawn
    split <;> exact effect_of_eq rfl rfl rfl rfl
  | killServer =>
    simp only [step?] at h
    split at h
    . split at h <;> cases h
      exact effect_of_eq rfl rfl rfl rfl
    . cases h
  | noticeRuntime =>
    simp only [step?] at h
    split at h
    . split at h <;> cases h
      exact effect_of_eq rfl rfl rfl rfl
    . cases h
  | noticeDistribution =>
    simp only [step?] at h
    split at h
    . split at h <;> cases h
      exact effect_of_eq rfl rfl rfl rfl
    . cases h
  | endServer =>
    simp only [step?] at h
    split at h
    . obtain ⟨code, _, rfl⟩ := Option.map_eq_some_iff.1 h
      exact effect_of_eq rfl rfl rfl rfl
    . cases h
  | fire key =>
    simp only [step?] at h
    split at h
    . split at h <;> cases h
      exact effect_handle l _ key
    . cases h
  | advance index => exact absurd rfl (hmove index)
  | look index =>
    simp only [step?] at h
    split at h
    . next watcher _ =>
      split at h <;> cases h
      exact (effect_lookAt htidy _ watcher).of_untouched ⟨rfl, rfl, rfl, rfl⟩
    . cases h

theorem effect_turn (htidy : l.Tidy) (t : Turn) :
    Effect (.turn t) l (l.turn t) (l.ending? (.turn t)) := by
  cases t with
  | move move =>
    by_cases hmove : ∃ index, move = .advance index
    . obtain ⟨index, rfl⟩ := hmove
      exact effect_advance l index
    . have hending : l.ending? (.turn (.move move)) = none := by
        unfold ending?
        split
        . next index heq =>
          cases heq
          exact absurd ⟨index, rfl⟩ hmove
        . rfl
      rw [hending]
      unfold turn
      dsimp only
      cases h : l.step? move with
      | none => exact effect_of_eq rfl rfl rfl rfl
      | some l' =>
        apply effect_step htidy h
        intro index heq
        exact hmove ⟨index, heq⟩
  | apply settings => exact effect_applySettings htidy _ settings
  | surround machine now web host => exact effect_of_eq rfl rfl rfl rfl
  | pass milliseconds => exact effect_of_eq rfl rfl rfl rfl
  | cancel => exact effect_of_eq rfl rfl rfl rfl

theorem effect_spawnResolution (l : Launcher) {d : Deed} (hstarts : d.Starts) :
    Effect d l l.spawnResolution none := by
  apply Effect.start hstarts
  . rfl
  . intro choice
    unfold spawnResolution
    rw [mem_choices_addTask_iff, mem_choices_addTask_iff]
    cases hserver : l.store.settings.serverPath with
    | none =>
      simp [Task.choice?]
      grind
    | some jar =>
      simp [Task.choice?]
      grind
  . rfl
  . rfl

theorem effect_deed (htidy : l.Tidy) (d : Deed) : Effect d l (l.deed d) (l.ending? d) := by
  cases d with
  | turn t => exact effect_turn htidy t
  | resolve => exact effect_spawnResolution l trivial
  | run peers =>
    show Effect _ l (l.run peers) none
    unfold run
    dsimp only
    split
    . unfold runRelay
      split
      . exact effect_of_eq rfl rfl rfl rfl
      . exact effect_of_eq rfl rfl rfl rfl
    . have hstarts : (Deed.run peers).Starts := trivial
      exact (effect_spawnResolution l hstarts).of_untouched ⟨rfl, rfl, rfl, rfl⟩
  | watch path => exact effect_of_eq rfl rfl rfl rfl
  | checkUpdate =>
    show Effect _ l l.spawnUpdateCheck none
    unfold spawnUpdateCheck
    split
    . apply Effect.none
      . exact .refl _
      . intro choice
        rw [mem_choices_addTask_iff]
        simp [Task.choice?]
      . rfl
      . rfl
    . exact effect_of_eq rfl rfl rfl rfl

theorem Effect.tidy {d : Deed} {ending : Option Ending} (h : Effect d l l' ending)
    (htidy : l.Tidy) : l'.Tidy := by
  intro choice hmem
  cases h with
  | none _ hchoices =>
    exact htidy choice ((hchoices choice).1 hmem)
  | start _ _ hchoices =>
    cases (hchoices choice).1 hmem with
    | inl hmem => exact htidy choice hmem
    | inr heq => exact .inl (heq ▸ rfl)
  | change hchoices =>
    exact htidy choice ((hchoices choice).1 hmem).1
  | fire _ hchoices =>
    cases (hchoices choice).1 hmem with
    | inl hmem => exact htidy choice hmem
    | inr heq => exact .inr (heq.1 ▸ rfl)
  | finish _ _ _ _ hchoices =>
    exact htidy choice ((hchoices choice).2 (.inr hmem))

end Launcher

end ServerLauncher
