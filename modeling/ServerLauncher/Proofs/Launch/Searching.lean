import ServerLauncher.Proofs.Java.Probing
import ServerLauncher.Proofs.Launch.Work

/-!
This module contains the searches for a runtime on a course, and the changes of settings that lead to
them. Nothing but a search publishes a runtime.
-/

namespace ServerLauncher

/--
A search for a runtime: the path that was configured for it, and the machine on which it took place.
-/
structure Java.Search where
  configured : Option Path
  machine : Machine

def Java.Search.find (search : Java.Search) (places : Java.Places) :
    Except Java.RuntimeError Java.Runtime :=
  Java.find search.machine places search.configured

theorem Java.Search.find_some_iff {path : Path} {machine : Machine} {places : Java.Places}
    {runtime : Java.Runtime} :
    Java.Search.find ⟨some path, machine⟩ places = .ok runtime ↔
      Java.probe machine path = some runtime ∧ Java.minimumVersion ≤ runtime.version := by
  refine (Java.verdict_resolveConfigured machine path).eq_ok_iff.trans ?_
  rw [Java.probe_eq_some_iff]
  exact and_assoc.symm

/--
The configured path that a task is to find a runtime with, if that is what the task does.
-/
def Task.search? : Task → Option (Option Path)
  | .findRuntime configured => some configured
  | _ => none

namespace Launcher

/--
What concerns the runtime in the course of things, with the time at which it happens: a change of the
configured path is reported, a reconfiguration begins and reads the settings, or a search takes place.
-/
inductive Sign where
  | reported (time : Nat)
  | begun (time : Nat) (settings : Settings)
  | searched (time : Nat) (search : Java.Search)

def searchOf? (entry : Task.Origin × Task) : Option (Task.Origin × Option Path) :=
  entry.2.search?.map (entry.1, ·)

def searches (l : Launcher) : List (Task.Origin × Option Path) :=
  l.tasks.filterMap searchOf?

def sign? (l : Launcher) (t : Turn) : Option Sign :=
  match t with
  | .move (.fire .javaPath) =>
    (l.step? (.fire .javaPath)).map fun _ => .begun l.clock l.store.settings
  | .move (.advance index) =>
    (l.tasks[index]?.bind fun entry => entry.2.search?).map fun configured =>
      .searched l.clock ⟨configured, l.world.toMachine⟩
  | _ =>
    (l.applied? t).bind fun settings =>
      if .javaPath ∈ l.store.settings.changedKeys settings then some (.reported l.clock) else none

def signs (l : Launcher) : List Turn → List Sign
  | [] => []
  | t :: course => (l.sign? t).toList ++ (l.turn t).signs course

/--
The runtime in the cell after a sign: a search publishes what it finds.
-/
def Sign.publish (places : Java.Places) (cell : Settled Java.Runtime) : Sign → Settled Java.Runtime
  | .searched _ search =>
    match search.find places with
    | .ok runtime => cell.publish runtime
    | .error _ => cell
  | _ => cell

variable {l l' : Launcher} {t : Turn}

theorem eq_findRuntime_of_search? {task : Task} {configured : Option Path}
    (h : task.search? = some configured) : task = .findRuntime configured := by
  cases task <;> simp_all [Task.search?]

theorem signs_append (l : Launcher) (first second : List Turn) :
    l.signs (first ++ second) = l.signs first ++ (l.turns first).signs second := by
  induction first generalizing l with
  | nil => rfl
  | cons t first ih =>
    rw [List.cons_append]
    simp only [signs]
    rw [ih]
    rw [List.append_assoc]
    rfl

theorem signs_concat (l : Launcher) (course : List Turn) (t : Turn) :
    l.signs (course ++ [t]) = l.signs course ++ ((l.turns course).sign? t).toList := by
  rw [signs_append]
  simp [signs]

theorem searchOf?_eq_none {origin : Task.Origin} {task : Task} (h : task.search? = none) :
    searchOf? (origin, task) = none := by
  simp [searchOf?, h]

theorem searches_eq_nil_iff :
    l.searches = [] ↔ ∀ entry ∈ l.tasks, entry.2.search? = none := by
  unfold searches
  rw [List.filterMap_eq_nil_iff]
  simp [searchOf?]

section

variable {index : Nat} {origin : Task.Origin} {configured : Option Path}

theorem mem_searches (hentry : l.tasks[index]? = some (origin, .findRuntime configured)) :
    (origin, configured) ∈ l.searches :=
  List.mem_filterMap.2 ⟨_, List.mem_of_getElem? hentry, rfl⟩

theorem searches_findRuntime {search : Task.Origin × Option Path}
    (hentry : l.tasks[index]? = some (origin, .findRuntime configured))
    (hsingle : l.searches = [search]) : (origin, configured) = search ∧
      { l.findRuntime configured with tasks := l.tasks.eraseIdx index }.searches = [] :=
  filterMap_eraseIdx_of_singleton hentry rfl hsingle

end

theorem search?_of_advanceTask {task left : Task} (h : l.advanceTask task = some (some left, l')) :
    task.search? = none ∧ left.search? = none := by
  cases progress_advanceTask h
  exact ⟨rfl, rfl⟩

theorem search?_of_taskFor? {settings : Settings} {key : Settings.Key} {task : Task}
    (h : taskFor? settings key = some task) (hkey : key ≠ .javaPath) : task.search? = none := by
  cases key with
  | javaPath => exact absurd rfl hkey
  | serverPath =>
    obtain ⟨jar, _, rfl⟩ := Option.map_eq_some_iff.1 h
    rfl
  | _ => cases h

theorem searches_fired (l : Launcher) (key : Settings.Key) :
    (l.fired key).searches = l.searches ++ if key = .javaPath then
      (l.store.settings.javaPath.map fun path => (.change .javaPath, some path)).toList else [] := by
  unfold searches fired
  rw [List.filterMap_append]
  cases htask : taskFor? l.store.settings key with
  | none =>
    split
    . next hkey =>
      rw [hkey] at htask
      rw [Option.map_eq_none_iff.1 htask]
      rfl
    . rfl
  | some task =>
    split
    . next hkey =>
      rw [hkey] at htask
      obtain ⟨path, hpath, rfl⟩ := Option.map_eq_some_iff.1 htask
      rw [hpath, hkey]
      rfl
    . next hkey => simp [searchOf?_eq_none (search?_of_taskFor? htask hkey)]

theorem searches_advance {index : Nat} {origin : Task.Origin} {task : Task} {left : Option Task}
    (hentry : l.tasks[index]? = some (origin, task))
    (hadvance : l.advanceTask task = some (left, l')) (hsearch : task.search? = none) :
    { l' with tasks := l.tasks.eraseIdx index ++ (left.map (origin, ·)).toList }.searches =
      l.searches := by
  unfold searches
  rw [List.filterMap_append, filterMap_eraseIdx_of_none hentry (searchOf?_eq_none hsearch)]
  cases left with
  | none => simp
  | some left => simp [searchOf?_eq_none (search?_of_advanceTask hadvance).2]

theorem locator_findRuntime (l : Launcher) (configured : Option Path) (time : Nat) :
    (l.findRuntime configured).locator = { l.locator with
      cell := Sign.publish l.locator.places l.locator.cell
        (.searched time ⟨configured, l.world.toMachine⟩) } := by
  unfold findRuntime Sign.publish Java.Search.find
  dsimp only
  cases Java.find l.world.toMachine l.locator.places configured <;> rfl

theorem current_findRuntime {configured : Option Path} {runtime : Java.Runtime}
    (h : Java.Search.find ⟨configured, l.world.toMachine⟩ (l.findRuntime configured).locator.places =
      .ok runtime) : (l.findRuntime configured).locator.cell.current = some runtime := by
  rw [locator_findRuntime l configured l.clock] at *
  simp only [Sign.publish]
  rw [h]
  rfl

theorem locator_advanceTask {task : Task} {left : Option Task} (hsearch : task.search? = none)
    (h : l.advanceTask task = some (left, l')) : l'.locator = l.locator := by
  unfold advanceTask at h
  cases task with
  | findRuntime configured => cases hsearch
  | awaitRuntime jar =>
    dsimp only at h
    split at h <;> cases h <;> rfl
  | _ =>
    cases h
    rfl

theorem sign?_of_applied {settings : Settings} (h : l.applied? t = some settings) :
    l.sign? t =
      if .javaPath ∈ l.store.settings.changedKeys settings then some (.reported l.clock) else none := by
  cases t with
  | move move =>
    cases move with
    | look index => simp only [sign?, h, Option.bind_some]
    | _ => cases h
  | apply other => simp only [sign?, h, Option.bind_some]
  | _ => cases h

theorem sign?_of_rest (happlied : l.applied? t = none)
    (hfire : ∀ key, t = .move (.fire key) → l.step? (.fire key) = none)
    (hadvance : ∀ index, t = .move (.advance index) → l.step? (.advance index) = none) :
    l.sign? t = none := by
  unfold sign?
  split
  . rw [hfire _ rfl]
    rfl
  . next index =>
    have hstep := hadvance index rfl
    cases hentry : l.tasks[index]? with
    | none => rfl
    | some entry =>
      obtain ⟨origin, task⟩ := entry
      cases hsearch : task.search? with
      | none => simp [hsearch]
      | some configured =>
        rw [eq_findRuntime_of_search? hsearch] at hentry
        simp [step?, hentry, advanceTask] at hstep
  . rw [happlied]
    rfl

theorem sign?_of_fire {key : Settings.Key} {time : Nat}
    (htimer : l.debouncer.timers.get? key = some (time, ())) (hdue : time ≤ l.clock) :
    l.sign? (.move (.fire key)) =
      if key = .javaPath then some (.begun l.clock l.store.settings) else none := by
  cases key with
  | javaPath => simp [sign?, step?, htimer, hdue]
  | _ => rfl

theorem sign?_of_advance {index : Nat} {origin : Task.Origin} {task : Task}
    (h : l.tasks[index]? = some (origin, task)) :
    l.sign? (.move (.advance index)) = (task.search?).map fun configured =>
      .searched l.clock ⟨configured, l.world.toMachine⟩ := by
  simp [sign?, h]

/--
Only a search changes the runtime in the cell.
-/
theorem locator_turn (l : Launcher) (t : Turn) :
    (l.turn t).locator = { l.locator with
      cell := (l.sign? t).toList.foldl (Sign.publish l.locator.places) l.locator.cell } := by
  have hwork := work_turn l t
  generalize l.turn t = l' at hwork
  cases hwork with
  | rest happlied hfire hadvance _ _ hsame =>
    rw [sign?_of_rest happlied hfire hadvance]
    exact hsame.locator
  | adopt settings happlied hadopts =>
    rw [sign?_of_applied happlied]
    rw [hadopts.locator]
    split <;> rfl
  | fire htimer hdue =>
    rw [sign?_of_fire htimer hdue]
    split <;> rfl
  | advance hentry hadvance =>
    rw [sign?_of_advance hentry]
    cases hsearch : Task.search? _ with
    | none =>
      have hlocator := locator_advanceTask hsearch hadvance
      exact hlocator
    | some configured =>
      -- The task is at an end, and what it has found is in the cell.
      rw [eq_findRuntime_of_search? hsearch] at hadvance
      cases hadvance
      exact locator_findRuntime l configured l.clock

theorem store_turn_of_applied? (h : l.applied? t = none) : (l.turn t).store = l.store := by
  have hwork := work_turn l t
  generalize l.turn t = l' at hwork
  cases hwork with
  | rest _ _ _ _ _ hsame => exact hsame.store
  | adopt settings happlied hadopts =>
    rw [h] at happlied
    cases happlied
  | fire => rfl
  | advance _ hadvance =>
    have hstore := (store_advanceTask hadvance).1
    exact hstore

theorem window_turn (l : Launcher) (t : Turn) :
    (l.turn t).debouncer.window = l.debouncer.window := by
  have hwork := work_turn l t
  generalize l.turn t = l' at hwork
  cases hwork with
  | rest _ _ _ _ _ hsame => rw [hsame.debouncer]
  | adopt settings _ hadopts => exact hadopts.window
  | fire => rfl
  | advance _ hadvance => exact congrArg Debouncer.window (store_advanceTask hadvance).2.1

end Launcher

end ServerLauncher
