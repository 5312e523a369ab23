import Mathlib.Data.List.Induction
import ServerLauncher.Proofs.Launch.Replacement
import ServerLauncher.Proofs.Launch.Searching

/-!
This module contains what becomes of a launcher when another runtime and another jar are configured at
the same time. The jar is asked with the runtime that is in use when its turn comes, so that the order
of the two reconfigurations decides what is in use in the end.
-/

namespace ServerLauncher

/--
The runtime and the distribution that are in use, and those that are to replace them: a runtime, and a
jar in which it finds a version.
-/
structure Renewal where
  old : Java.Runtime
  kept : Distribution
  new : Java.Runtime
  jar : Path
  version : Version

namespace Renewal

/--
The new runtime answers on a machine, and finds the version in the jar.
-/
def Answers (r : Renewal) (m : Machine) : Prop :=
  Java.probe m r.new.path = some r.new ∧
    Distribution.probe m r.new.path r.jar = some r.version

instance (r : Renewal) (m : Machine) : Decidable (r.Answers m) :=
  inferInstanceAs (Decidable (_ ∧ _))

/--
The distribution in use behind the question for a version. Without an answer it stays what it was.
-/
def outcome (r : Renewal) (answer : Option Version) : Distribution :=
  match answer with
  | some v => ⟨r.jar, v, .configured⟩
  | none => r.kept

end Renewal

namespace Launcher

/--
The entry of a task that is to use a configured jar or to choose a distribution.
-/
def chooserOf? (entry : Task.Origin × Task) : Option (Task.Origin × Task) :=
  entry.2.choice?.map fun _ => entry

def choosers (l : Launcher) : List (Task.Origin × Task) :=
  l.tasks.filterMap chooserOf?

def RuntimeDone (l : Launcher) : Prop :=
  l.debouncer.timers.get? .javaPath = none ∧ l.searches = []

def DistributionDone (l : Launcher) : Prop :=
  l.debouncer.timers.get? .serverPath = none ∧ l.choosers = []

instance : DecidablePred RuntimeDone :=
  fun _ => inferInstanceAs (Decidable (_ ∧ _))

instance : DecidablePred DistributionDone :=
  fun _ => inferInstanceAs (Decidable (_ ∧ _))

end Launcher

open Launcher

namespace Renewal

/--
A launcher is about to be given settings that configure the new runtime and the jar. What is going on
belongs to earlier changes of these settings, or looks for an update.
-/
structure Begins (r : Renewal) (l : Launcher) (settings : Settings) : Prop where
  runtime : l.locator.cell.current = some r.old
  distribution : l.resolver.cell.current = some r.kept
  tasks : ∀ entry ∈ l.tasks, entry.1 = .change .javaPath ∨ entry.1 = .change .serverPath ∨
    ∃ update, entry.2 = .checkUpdate update
  javaPath : settings.javaPath = some r.new.path
  serverPath : settings.serverPath = some r.jar
  javaChanged : .javaPath ∈ l.store.settings.changedKeys settings
  serverChanged : .serverPath ∈ l.store.settings.changedKeys settings
  minimum : Java.minimumVersion ≤ r.new.version

/--
On a course no settings come into use, and the new runtime keeps answering.
-/
def Governs (r : Renewal) (l : Launcher) : List Turn → Prop
  | [] => r.Answers l.world.toMachine
  | t :: course =>
    r.Answers l.world.toMachine ∧ l.applied? t = none ∧ r.Governs (l.turn t) course

instance decidableGoverns (r : Renewal) (l : Launcher) :
    (course : List Turn) → Decidable (r.Governs l course)
  | [] => inferInstanceAs (Decidable (r.Answers _))
  | t :: course =>
    have := decidableGoverns r (l.turn t) course
    inferInstanceAs (Decidable (_ ∧ _ ∧ _))

/--
How far the search for the new runtime has come.
-/
inductive RuntimeStage (r : Renewal) (l : Launcher) : Prop where
  | waiting (htimer : (l.debouncer.timers.get? .javaPath).isSome) (hsearches : l.searches = [])
    (hcurrent : l.locator.cell.current = some r.old)
  | searching (htimer : l.debouncer.timers.get? .javaPath = none)
    (hsearches : l.searches = [(.change .javaPath, some r.new.path)])
    (hcurrent : l.locator.cell.current = some r.old)
  | done (hdone : l.RuntimeDone) (hcurrent : l.locator.cell.current = some r.new)

/--
The runtime with which the jar is asked: the one that is in use at that time.
-/
def asker (r : Renewal) (l : Launcher) : Java.Runtime :=
  if l.RuntimeDone then r.new else r.old

/--
After the turns `before` of a course the reconfiguration of the distribution goes on with the runtime
that is in use.
-/
def LooksAfter (l : Launcher) (course before : List Turn) : Prop :=
  ∃ index after, course = before ++ .move (.advance index) :: after ∧
    ∃ jar, (l.turns before).tasks[index]? = some (.change .serverPath, .awaitRuntime jar)

/--
After the turns `between` of a course a jar is asked with a runtime.
-/
def AsksAfter (l : Launcher) (course between : List Turn) (java jar : Path) : Prop :=
  ∃ index after, course = between ++ .move (.advance index) :: after ∧
    (l.turns between).tasks[index]? = some (.change .serverPath, .probeServer java jar)

/--
How far the reconfiguration of the distribution has come.
-/
inductive DistributionStage (r : Renewal) (l : Launcher) (course : List Turn) : Prop where
  | waiting (htimer : ((l.turns course).debouncer.timers.get? .serverPath).isSome)
    (hchoosers : (l.turns course).choosers = [])
    (hcurrent : (l.turns course).resolver.cell.current = some r.kept)
  | awaiting (htimer : (l.turns course).debouncer.timers.get? .serverPath = none)
    (hchoosers : (l.turns course).choosers = [(.change .serverPath, .awaitRuntime r.jar)])
    (hcurrent : (l.turns course).resolver.cell.current = some r.kept)
  | asking (before : List Turn) (hlooks : LooksAfter l course before)
    (htimer : (l.turns course).debouncer.timers.get? .serverPath = none)
    (hchoosers : (l.turns course).choosers =
      [(.change .serverPath, .probeServer (r.asker (l.turns before)).path r.jar)])
    (hcurrent : (l.turns course).resolver.cell.current = some r.kept)
  | done (before between : List Turn) (hlooks : LooksAfter l course before)
    (hstart : before <+: between)
    (hasks : AsksAfter l course between (r.asker (l.turns before)).path r.jar)
    (hdone : (l.turns course).DistributionDone)
    (hcurrent : (l.turns course).resolver.cell.current = some (r.outcome
      (Distribution.probe (l.turns between).world.toMachine (r.asker (l.turns before)).path r.jar)))

variable {r : Renewal} {l l' : Launcher} {course : List Turn} {t : Turn}

theorem governs_concat :
    r.Governs l (course ++ [t]) ↔ r.Governs l course ∧ (l.turns course).applied? t = none ∧
      r.Answers (l.turns (course ++ [t])).world.toMachine := by
  induction course generalizing l with
  | nil => exact Iff.rfl
  | cons first course ih =>
    simp only [List.cons_append, Governs]
    rw [ih]
    grind [Launcher.turns]

theorem Governs.answers (h : r.Governs l course) : r.Answers (l.turns course).world.toMachine := by
  induction course generalizing l with
  | nil => exact h
  | cons t course ih => exact ih h.2.2

theorem RuntimeStage.of_same (h : r.RuntimeStage l)
    (htimer : l'.debouncer.timers.get? .javaPath = l.debouncer.timers.get? .javaPath)
    (hsearches : l'.searches = l.searches) (hlocator : l'.locator = l.locator) :
    r.RuntimeStage l' := by
  cases h with
  | waiting htimer' hsearches' hcurrent =>
    apply RuntimeStage.waiting
    . rw [htimer]
      exact htimer'
    . exact hsearches.trans hsearches'
    . rw [hlocator]
      exact hcurrent
  | searching htimer' hsearches' hcurrent =>
    apply RuntimeStage.searching
    . exact htimer.trans htimer'
    . exact hsearches.trans hsearches'
    . rw [hlocator]
      exact hcurrent
  | done hdone hcurrent =>
    apply RuntimeStage.done
    . exact ⟨htimer.trans hdone.1, hsearches.trans hdone.2⟩
    . rw [hlocator]
      exact hcurrent

theorem RuntimeStage.current (h : r.RuntimeStage l) :
    l.locator.cell.current = some (r.asker l) := by
  unfold asker
  cases h with
  | waiting htimer _ hcurrent =>
    rw [if_neg]
    . exact hcurrent
    . intro hdone
      rw [hdone.1] at htimer
      cases htimer
  | searching _ hsearches hcurrent =>
    rw [if_neg]
    . exact hcurrent
    . intro hdone
      rw [hdone.2] at hsearches
      cases hsearches
  | done hdone hcurrent =>
    rw [if_pos hdone]
    exact hcurrent

theorem RuntimeStage.fire {key : Settings.Key} {time : Nat} (h : r.RuntimeStage l)
    (hset : l.store.settings.javaPath = some r.new.path)
    (htimer : l.debouncer.timers.get? key = some (time, ())) : r.RuntimeStage (l.fired key) := by
  have hsearches := searches_fired l key
  by_cases hkey : key = .javaPath
  . rw [if_pos hkey, hset] at hsearches
    cases h with
    | waiting _ hidle hcurrent =>
      rw [hidle] at hsearches
      apply RuntimeStage.searching
      . rw [hkey]
        exact Debouncer.get?_timers_cancel_self _ _
      . exact hsearches
      . exact hcurrent
    | searching htimer' =>
      rw [hkey, htimer'] at htimer
      cases htimer
    | done hdone =>
      rw [hkey, hdone.1] at htimer
      cases htimer
  . rw [if_neg hkey, List.append_nil] at hsearches
    exact h.of_same (Debouncer.get?_timers_cancel_of_ne (Ne.symm hkey) _) hsearches rfl

theorem RuntimeStage.search {index : Nat} {origin : Task.Origin} {configured : Option Path}
    (h : r.RuntimeStage l) (hanswers : r.Answers l.world.toMachine)
    (hminimum : Java.minimumVersion ≤ r.new.version)
    (hentry : l.tasks[index]? = some (origin, .findRuntime configured)) :
    r.RuntimeStage { l.findRuntime configured with tasks := l.tasks.eraseIdx index } := by
  have hmem := mem_searches hentry
  cases h with
  | waiting _ hsearches =>
    rw [hsearches] at hmem
    cases hmem
  | done hdone =>
    rw [hdone.2] at hmem
    cases hmem
  | searching htimer hsearches =>
    obtain ⟨heq, hrest⟩ := searches_findRuntime hentry hsearches
    cases heq
    apply RuntimeStage.done
    . exact ⟨htimer, hrest⟩
    . apply current_findRuntime
      exact Java.Search.find_some_iff.2 ⟨hanswers.1, hminimum⟩

theorem RuntimeStage.turn (h : r.RuntimeStage l)
    (hset : l.store.settings.javaPath = some r.new.path)
    (hminimum : Java.minimumVersion ≤ r.new.version) (hanswers : r.Answers l.world.toMachine)
    (happlied : l.applied? t = none) : r.RuntimeStage (l.turn t) := by
  have hwork := work_turn l t
  generalize l.turn t = l' at hwork
  cases hwork with
  | rest _ _ _ _ _ hsame =>
    apply h.of_same
    . rw [hsame.debouncer]
    . unfold searches
      rw [hsame.tasks]
    . exact hsame.locator
  | adopt settings happlied' =>
    rw [happlied] at happlied'
    cases happlied'
  | fire htimer => exact h.fire hset htimer
  | @advance index origin task left l₁ hentry hadvance =>
    cases hsearch : task.search? with
    | none =>
      have ⟨_, hdebouncer, _⟩ := store_advanceTask hadvance
      have hlocator := locator_advanceTask hsearch hadvance
      refine h.of_same ?_ (searches_advance hentry hadvance hsearch) hlocator
      rw [hdebouncer]
    | some configured =>
      rw [eq_findRuntime_of_search? hsearch] at hentry hadvance
      cases hadvance
      rw [Option.map_none, Option.toList_none, List.append_nil]
      exact h.search hanswers hminimum hentry

theorem choosers_fired (l : Launcher) (key : Settings.Key) :
    (l.fired key).choosers = l.choosers ++ if key = .serverPath then
      (l.store.settings.serverPath.map fun jar => (.change .serverPath, .awaitRuntime jar)).toList
        else [] := by
  unfold choosers fired
  rw [List.filterMap_append]
  cases key with
  | serverPath =>
    cases hserver : l.store.settings.serverPath <;>
      simp [taskFor?, hserver, chooserOf?, Task.choice?]
  | javaPath =>
    cases hjava : l.store.settings.javaPath <;> simp [taskFor?, hjava, chooserOf?, Task.choice?]
  | _ => simp [taskFor?]

theorem LooksAfter.concat {before : List Turn} (h : LooksAfter l course before) (t : Turn) :
    LooksAfter l (course ++ [t]) before := by
  obtain ⟨index, after, rfl, htask⟩ := h
  exact ⟨index, after ++ [t], by simp, htask⟩

theorem AsksAfter.concat {between : List Turn} {java jar : Path}
    (h : AsksAfter l course between java jar) (t : Turn) :
    AsksAfter l (course ++ [t]) between java jar := by
  obtain ⟨index, after, rfl, htask⟩ := h
  exact ⟨index, after ++ [t], by simp, htask⟩

theorem LooksAfter.isPrefix {before : List Turn} (h : LooksAfter l course before) :
    before <+: course := by
  obtain ⟨index, after, rfl, _⟩ := h
  exact List.prefix_append _ _

theorem DistributionStage.of_same (h : r.DistributionStage l course)
    (htimer : ((l.turns course).turn t).debouncer.timers.get? .serverPath =
      (l.turns course).debouncer.timers.get? .serverPath)
    (hchoosers : ((l.turns course).turn t).choosers = (l.turns course).choosers)
    (hresolver : ((l.turns course).turn t).resolver = (l.turns course).resolver) :
    r.DistributionStage l (course ++ [t]) := by
  rw [← turns_concat] at htimer hchoosers hresolver
  cases h with
  | waiting htimer' hchoosers' hcurrent =>
    apply DistributionStage.waiting
    . rw [htimer]
      exact htimer'
    . exact hchoosers.trans hchoosers'
    . rw [hresolver]
      exact hcurrent
  | awaiting htimer' hchoosers' hcurrent =>
    apply DistributionStage.awaiting
    . exact htimer.trans htimer'
    . exact hchoosers.trans hchoosers'
    . rw [hresolver]
      exact hcurrent
  | asking before hlooks htimer' hchoosers' hcurrent =>
    apply DistributionStage.asking before
    . exact hlooks.concat t
    . exact htimer.trans htimer'
    . exact hchoosers.trans hchoosers'
    . rw [hresolver]
      exact hcurrent
  | done before between hlooks hstart hasks hdone hcurrent =>
    apply DistributionStage.done before between
    . exact hlooks.concat t
    . exact hstart
    . exact hasks.concat t
    . exact ⟨htimer.trans hdone.1, hchoosers.trans hdone.2⟩
    . rw [hresolver]
      exact hcurrent

theorem DistributionStage.fire {key : Settings.Key} {time : Nat}
    (h : r.DistributionStage l course)
    (hset : (l.turns course).store.settings.serverPath = some r.jar)
    (htimer : (l.turns course).debouncer.timers.get? key = some (time, ()))
    (hturn : (l.turns course).turn t = (l.turns course).fired key) :
    r.DistributionStage l (course ++ [t]) := by
  have hchoosers := choosers_fired (l.turns course) key
  by_cases hkey : key = .serverPath
  . rw [if_pos hkey, hset] at hchoosers
    rw [hkey] at htimer
    cases h with
    | waiting _ hidle hcurrent =>
      rw [hidle] at hchoosers
      apply DistributionStage.awaiting
      . rw [turns_concat, hturn, hkey]
        exact Debouncer.get?_timers_cancel_self _ _
      . rw [turns_concat, hturn]
        exact hchoosers
      . rw [turns_concat, hturn]
        exact hcurrent
    | awaiting htimer' =>
      rw [htimer'] at htimer
      cases htimer
    | asking _ _ htimer' =>
      rw [htimer'] at htimer
      cases htimer
    | done _ _ _ _ _ hdone =>
      rw [hdone.1] at htimer
      cases htimer
  . rw [if_neg hkey, List.append_nil] at hchoosers
    apply h.of_same
    . rw [hturn]
      exact Debouncer.get?_timers_cancel_of_ne (Ne.symm hkey) _
    . rw [hturn]
      exact hchoosers
    . rw [hturn]
      rfl

theorem chooserOf?_eq_none {origin : Task.Origin} {task : Task} (h : task.choice? = none) :
    chooserOf? (origin, task) = none := by
  simp [chooserOf?, h]

theorem chooserOf?_eq_some {origin : Task.Origin} {task : Task} {configured : Option Path}
    (h : task.choice? = some configured) :
    chooserOf? (origin, task) = some (origin, task) := by
  simp [chooserOf?, h]

theorem choosers_advance {index : Nat} {origin : Task.Origin} {task : Task} {left : Option Task}
    (hentry : l.tasks[index]? = some (origin, task))
    (hadvance : l.advanceTask task = some (left, l')) (hchoice : task.choice? = none) :
    { l' with tasks := l.tasks.eraseIdx index ++ (left.map (origin, ·)).toList }.choosers =
        l.choosers ∧ l'.resolver = l.resolver := by
  have hnone : chooserOf? (origin, task) = none := chooserOf?_eq_none hchoice
  have hrest := filterMap_eraseIdx_of_none hentry hnone
  cases progress_advanceTask hadvance with
  | other _ hresolver =>
    refine ⟨?_, hresolver⟩
    unfold choosers
    rw [List.filterMap_append, hrest]
    simp
  | ask => cases hchoice
  | finish configured published hchoice' =>
    rw [hchoice] at hchoice'
    cases hchoice'

theorem current_probeServer {java jar : Path} {left : Option Task}
    (hkept : l.resolver.cell.current = some r.kept) (hjar : jar = r.jar)
    (hadvance : l.advanceTask (.probeServer java jar) = some (left, l')) :
    left = none ∧ l'.resolver.cell.current =
      some (r.outcome (Distribution.probe l.world.toMachine java jar)) := by
  cases hadvance
  refine ⟨rfl, ?_⟩
  cases hversion : Distribution.probe l.world.toMachine java jar with
  | none => exact hkept
  | some v =>
    have hrun := Distribution.Resolver.run_settleProbed_some l.resolver jar v l.world
    rw [hjar] at *
    exact congrArg (fun result => result.1.2.cell.current) hrun

theorem DistributionStage.advance {index : Nat} {origin : Task.Origin} {task : Task}
    {left : Option Task} (h : r.DistributionStage l course) (hruntime : r.RuntimeStage (l.turns course))
    (hentry : (l.turns course).tasks[index]? = some (origin, task))
    (hadvance : (l.turns course).advanceTask task = some (left, l')) :
    r.DistributionStage l (course ++ [.move (.advance index)]) := by
  have ⟨_, hdebouncer, _⟩ := store_advanceTask hadvance
  have hturn := turn_advance_of_some hentry hadvance
  cases hchoice : task.choice? with
  | none =>
    have ⟨hchoosers, hresolver⟩ := choosers_advance hentry hadvance hchoice
    apply h.of_same
    . rw [hturn, hdebouncer]
    . rw [hturn]
      exact hchoosers
    . rw [hturn]
      exact hresolver
  | some configured =>
    have hchooser : chooserOf? (origin, task) = some (origin, task) := chooserOf?_eq_some hchoice
    have hmem : (origin, task) ∈ (l.turns course).choosers :=
      List.mem_filterMap.2 ⟨_, List.mem_of_getElem? hentry, hchooser⟩
    cases h with
    | waiting _ hchoosers =>
      rw [hchoosers] at hmem
      cases hmem
    | done _ _ _ _ _ hdone =>
      rw [hdone.2] at hmem
      cases hmem
    | awaiting htimer hchoosers hcurrent =>
      obtain ⟨heq, hrest⟩ := filterMap_eraseIdx_of_singleton hentry hchooser hchoosers
      cases heq
      have hpoll : (l.turns course).locator.cell.poll = .value (r.asker (l.turns course)) := by
        unfold Settled.poll
        rw [hruntime.current]
      simp only [advanceTask, hpoll] at hadvance
      cases hadvance
      -- From here on it is settled which runtime the jar is asked with.
      apply DistributionStage.asking course
      . exact ⟨index, [], rfl, _, hentry⟩
      . rw [turns_concat, hturn]
        exact htimer
      . rw [turns_concat, hturn]
        unfold choosers
        rw [List.filterMap_append, hrest]
        rfl
      . rw [turns_concat, hturn]
        exact hcurrent
    | asking before hlooks htimer hchoosers hcurrent =>
      obtain ⟨heq, hrest⟩ := filterMap_eraseIdx_of_singleton hentry hchooser hchoosers
      cases heq
      -- The machine is that of this moment, and not of the look at the runtime.
      obtain ⟨rfl, hcurrent'⟩ := current_probeServer hcurrent rfl hadvance
      apply DistributionStage.done before course
      . exact hlooks.concat _
      . exact hlooks.isPrefix
      . exact ⟨index, [], rfl, hentry⟩
      . constructor
        . rw [turns_concat, hturn, hdebouncer]
          exact htimer
        . rw [turns_concat, hturn]
          unfold choosers
          rw [List.filterMap_append, hrest]
          rfl
      . rw [turns_concat, hturn]
        exact hcurrent'

theorem DistributionStage.turn (h : r.DistributionStage l course)
    (hruntime : r.RuntimeStage (l.turns course))
    (hset : (l.turns course).store.settings.serverPath = some r.jar)
    (happlied : (l.turns course).applied? t = none) : r.DistributionStage l (course ++ [t]) := by
  have hwork := work_turn (l.turns course) t
  generalize hturn : (l.turns course).turn t = l' at hwork
  cases hwork with
  | rest _ _ _ _ _ hsame =>
    apply h.of_same
    . rw [hturn, hsame.debouncer]
    . unfold choosers
      rw [hturn, hsame.tasks]
    . rw [hturn]
      exact hsame.resolver
  | adopt settings happlied' =>
    rw [happlied] at happlied'
    cases happlied'
  | fire htimer => exact h.fire hset htimer hturn
  | advance hentry hadvance => exact h.advance hruntime hentry hadvance

theorem Begins.entry_of_mem {settings : Settings} (h : r.Begins l settings)
    {entry : Task.Origin × Task}
    (hmem : entry ∈ keptTasks (l.store.settings.changedKeys settings) l.tasks) :
    ∃ update, entry.2 = .checkUpdate update := by
  have ⟨hentry, hkept⟩ := List.mem_filter.1 hmem
  have hkept := of_decide_eq_true hkept
  rcases h.tasks entry hentry with hjava | hserver | hcheck
  . exact absurd hjava (hkept _ h.javaChanged (.inl rfl))
  . exact absurd hserver (hkept _ h.serverChanged (.inr rfl))
  . exact hcheck

theorem Begins.runtimeStage {settings : Settings} (h : r.Begins l settings) :
    r.RuntimeStage (l.applySettings settings).2 := by
  have hadopts := adopts_applySettings l settings
  apply RuntimeStage.waiting
  . rw [hadopts.timer, if_pos ⟨h.javaChanged, .inl rfl⟩]
    rfl
  . rw [searches_eq_nil_iff]
    intro entry hmem
    rw [hadopts.tasks] at hmem
    obtain ⟨update, hcheck⟩ := h.entry_of_mem hmem
    rw [hcheck]
    rfl
  . rw [hadopts.locator]
    exact h.runtime

theorem Begins.distributionStage {settings : Settings} (h : r.Begins l settings) :
    r.DistributionStage (l.applySettings settings).2 [] := by
  have hadopts := adopts_applySettings l settings
  apply DistributionStage.waiting
  . show (Keyed.get? (l.applySettings settings).2.debouncer.timers .serverPath).isSome
    rw [hadopts.timer, if_pos ⟨h.serverChanged, .inr rfl⟩]
    rfl
  . apply List.filterMap_eq_nil_iff.2
    intro entry hmem
    have hmem : entry ∈ (l.applySettings settings).2.tasks := hmem
    rw [hadopts.tasks] at hmem
    obtain ⟨update, hcheck⟩ := h.entry_of_mem hmem
    unfold chooserOf?
    rw [hcheck]
    rfl
  . show (l.applySettings settings).2.resolver.cell.current = some r.kept
    rw [hadopts.resolver]
    exact h.distribution

structure Run (r : Renewal) (l : Launcher) (course : List Turn) : Prop where
  javaPath : (l.turns course).store.settings.javaPath = some r.new.path
  serverPath : (l.turns course).store.settings.serverPath = some r.jar
  runtime : r.RuntimeStage (l.turns course)
  distribution : r.DistributionStage l course

theorem Begins.run {settings : Settings} (h : r.Begins l settings)
    (hgoverns : r.Governs (l.applySettings settings).2 course) :
    r.Run (l.applySettings settings).2 course := by
  induction course using List.reverseRecOn with
  | nil =>
    have hinUse := (adopts_applySettings l settings).inUse
    constructor
    . exact (congrArg Settings.javaPath hinUse).trans h.javaPath
    . exact (congrArg Settings.serverPath hinUse).trans h.serverPath
    . exact h.runtimeStage
    . exact h.distributionStage
  | append_singleton course t ih =>
    have ⟨hcourse, happlied, _⟩ := governs_concat.1 hgoverns
    have hrun := ih hcourse
    have hstore := store_turn_of_applied? happlied
    constructor
    . rw [turns_concat, hstore]
      exact hrun.javaPath
    . rw [turns_concat, hstore]
      exact hrun.serverPath
    . rw [turns_concat]
      exact hrun.runtime.turn hrun.javaPath h.minimum hcourse.answers happlied
    . exact hrun.distribution.turn hrun.runtime hrun.serverPath happlied

theorem Governs.of_isPrefix {before : List Turn} (h : r.Governs l course)
    (hstart : before <+: course) : r.Governs l before := by
  obtain ⟨after, rfl⟩ := hstart
  induction after using List.reverseRecOn with
  | nil =>
    rw [List.append_nil] at h
    exact h
  | append_singleton after t ih =>
    rw [← List.append_assoc] at h
    exact ih (governs_concat.1 h).1

theorem AsksAfter.isPrefix {between : List Turn} {java jar : Path}
    (h : AsksAfter l course between java jar) : between <+: course := by
  obtain ⟨index, after, rfl, _⟩ := h
  exact List.prefix_append _ _

/--
The version is found if the new runtime is in use in time, or if the old one finds it too.
-/
theorem Governs.probe_asker (h : r.Governs l course) {before between : List Turn}
    (hstart : between <+: course)
    (hfound : (l.turns before).RuntimeDone ∨
      Distribution.probe (l.turns between).world.toMachine r.old.path r.jar = some r.version) :
    Distribution.probe (l.turns between).world.toMachine (r.asker (l.turns before)).path r.jar =
      some r.version := by
  unfold asker
  split
  . exact (h.of_isPrefix hstart).answers.2
  . next hdone => exact hfound.resolve_left hdone

/--
As there is a runtime, every task can go on.
-/
theorem RuntimeStage.isSome_advance (h : r.RuntimeStage l) {index : Nat}
    (hindex : index < l.tasks.length) : (l.step? (.advance index)).isSome := by
  cases hentry : l.tasks[index] with
  | mk origin task =>
    have hentry := List.getElem?_eq_some_iff.2 ⟨hindex, hentry⟩
    have hadvance : (l.advanceTask task).isSome := by
      cases task with
      | awaitRuntime jar =>
        have hpoll : l.locator.cell.poll = .value (r.asker l) := by
          unfold Settled.poll
          rw [h.current]
        simp [advanceTask, hpoll]
      | _ => rfl
    obtain ⟨⟨left, l₁⟩, hadvance⟩ := Option.isSome_iff_exists.1 hadvance
    simp [step?, hentry, hadvance]

/--
A machine with two Java executables, of which only the second one finds a version in a jar.
-/
def machineWithFinder : Machine where
  files := {
    entries := [(["a"], java "22" ""), (["b"], java "23" "pkl-lsp version 0.6.1")]
    workingDirectory := []
    temporaryDirectory := "/"
    device := fun _ => 0 }
  environment := {}
  executable := "/launcher"
where
  /--
  An executable that answers like a version of Java, and in the same way for every jar.
  -/
  java (version answer : String) : Entry :=
    .file ByteArray.empty 0 (some fun _ _ =>
      ⟨.exited 0, answer.toUTF8, ("openjdk version \"" ++ version ++ "\"").toUTF8⟩)

/--
A launcher there that has found the first runtime and chosen the bundled distribution.
-/
def beforeRenewal : Launcher :=
  (ofSettings
    { machineWithFinder with now := 0, web := fun _ _ => none, host := .steady true, events := [] }
    ⟨{ javaPath := some "/a", cacheDirectory := some "/cache" }, none⟩).spawnResolution.turns
      [.move (.advance 0), .move (.advance 0)]

def renewedSettings : Settings :=
  { javaPath := some "/b", serverPath := some "/first.jar", cacheDirectory := some "/cache" }

def renewal : Renewal where
  old := ⟨"/a", 22⟩
  kept := ⟨"/pkl-lsp.jar", .ofNumbers 0 6 0, .bundled⟩
  new := ⟨"/b", 23⟩
  jar := "/first.jar"
  version := .ofNumbers 0 6 1

def jarFirst : List Turn :=
  [.pass Debouncer.defaultWindow, .move (.fire .serverPath), .move (.advance 0),
    .move (.advance 0), .move (.fire .javaPath), .move (.advance 0)]

def runtimeFirst : List Turn :=
  [.pass Debouncer.defaultWindow, .move (.fire .javaPath), .move (.fire .serverPath),
    .move (.advance 0), .move (.advance 0), .move (.advance 0)]

theorem begins_beforeRenewal : renewal.Begins beforeRenewal renewedSettings := by
  constructor
  . decide +kernel
  . decide +kernel
  . have htasks : beforeRenewal.tasks = [] := by decide +kernel
    intro entry hmem
    rw [htasks] at hmem
    cases hmem
  . rfl
  . rfl
  . decide +kernel
  . decide +kernel
  . decide

end Renewal

end ServerLauncher
