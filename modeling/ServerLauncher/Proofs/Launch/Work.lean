import ServerLauncher.Proofs.Debounce.Timers
import ServerLauncher.Proofs.Launch.Choosing

/-!
This module contains what a turn may do to the work of a launcher: to the settings in use, the changes
that wait for being quiet, the tasks, and the two cells. Most turns leave all of that alone.
-/

namespace ServerLauncher

/--
A world has become another one by adding events, and by nothing else.
-/
def World.Records (before after : World) : Prop :=
  after = { before with events := after.events }

/--
A setting whose changes do not wait for the next start.
-/
def Settings.Key.IsLive (key : Settings.Key) : Prop :=
  key = .javaPath ∨ key = .serverPath

instance : DecidablePred Settings.Key.IsLive :=
  fun key => inferInstanceAs (Decidable (key = .javaPath ∨ key = .serverPath))

namespace Launcher

def Turn.duration : Turn → Nat
  | .pass milliseconds => milliseconds
  | _ => 0

/--
The settings that a watcher finds in the configuration file, if the file has changed.
-/
def reloaded? (l : Launcher) (watcher : Watcher) : Option Settings :=
  if l.world.files.modified? watcher.path = watcher.lastSeen then none
  else (Settings.load l.world.files l.world.environment.home watcher.path).toOption

/--
The settings that come into use with a turn.
-/
def applied? (l : Launcher) : Turn → Option Settings
  | .apply settings => some settings
  | .move (.look index) =>
    match l.watchers[index]? with
    | some watcher => if watcher.next ≤ l.clock ∧ !l.cancelled then l.reloaded? watcher else none
    | none => none
  | _ => none

/--
The task that a setting calls for which has been quiet for long enough.
-/
def taskFor? (settings : Settings) : Settings.Key → Option Task
  | .javaPath => settings.javaPath.map fun path => .findRuntime (some path)
  | .serverPath => settings.serverPath.map .awaitRuntime
  | _ => none

/--
A launcher after a setting has been quiet for long enough and what it calls for has begun.
-/
def fired (l : Launcher) (key : Settings.Key) : Launcher :=
  { l with
    debouncer := l.debouncer.cancel key
    tasks := l.tasks ++ ((taskFor? l.store.settings key).map (.change key, ·)).toList }

/--
The tasks that are not given up when some settings change.
-/
def keptTasks (keys : List Settings.Key) (tasks : List (Task.Origin × Task)) :
    List (Task.Origin × Task) :=
  tasks.filter fun entry => ∀ key ∈ keys, key.IsLive → entry.1 ≠ .change key

structure SameWork (l l' : Launcher) : Prop extends Untouched l l' where
  locator : l'.locator = l.locator

structure SameSurroundings (l l' : Launcher) : Prop where
  server : l'.server = l.server
  watchers : l'.watchers = l.watchers
  clock : l'.clock = l.clock
  output : l'.output = l.output
  cancelled : l'.cancelled = l.cancelled

/--
A launcher reacts to changes of some settings: the tasks of earlier changes are given up, and the
settings have to be quiet from now on.
-/
structure Reacts (keys : List Settings.Key) (l l' : Launcher) : Prop where
  store : l'.store = l.store
  locator : l'.locator = l.locator
  resolver : l'.resolver = l.resolver
  world : l'.world = l.world
  clock : l'.clock = l.clock
  window : l'.debouncer.window = l.debouncer.window
  tasks : l'.tasks = keptTasks keys l.tasks
  timer : ∀ key, l'.debouncer.timers.get? key =
    if key ∈ keys ∧ key.IsLive then some (l.clock + l.debouncer.window, ())
    else l.debouncer.timers.get? key

/--
A launcher takes settings over and reacts to what has changed.
-/
structure Adopts (settings : Settings) (l l' : Launcher) : Prop where
  inUse : l'.store.settings = settings
  locator : l'.locator = l.locator
  resolver : l'.resolver = l.resolver
  clock : l'.clock = l.clock
  window : l'.debouncer.window = l.debouncer.window
  tasks : l'.tasks = keptTasks (l.store.settings.changedKeys settings) l.tasks
  timer : ∀ key, l'.debouncer.timers.get? key =
    if key ∈ l.store.settings.changedKeys settings ∧ key.IsLive then
      some (l.clock + l.debouncer.window, ())
    else l.debouncer.timers.get? key

/--
What a turn may do to the work of a launcher.
-/
inductive Work (l : Launcher) : Turn → Launcher → Prop where
  | rest {t : Turn} {l' : Launcher} (happlied : l.applied? t = none)
    (hfire : ∀ key, t = .move (.fire key) → l.step? (.fire key) = none)
    (hadvance : ∀ index, t = .move (.advance index) → l.step? (.advance index) = none)
    (hclock : l'.clock = l.clock + t.duration)
    (hworld : ∀ move, t = .move move → l.world.Records l'.world)
    (hsame : SameWork l l') : Work l t l'
  | adopt {t : Turn} {l' : Launcher} (settings : Settings) (happlied : l.applied? t = some settings)
    (hadopts : Adopts settings l l') : Work l t l'
  | fire {key : Settings.Key} {time : Nat} (htimer : l.debouncer.timers.get? key = some (time, ()))
    (hdue : time ≤ l.clock) : Work l (.move (.fire key)) (l.fired key)
  | advance {index : Nat} {origin : Task.Origin} {task : Task} {left : Option Task}
    {l₁ : Launcher} (hentry : l.tasks[index]? = some (origin, task))
    (hadvance : l.advanceTask task = some (left, l₁)) : Work l (.move (.advance index)) { l₁ with
      tasks := l.tasks.eraseIdx index ++ (left.map (origin, ·)).toList }

variable {l l' l'' : Launcher} {t : Turn}

section

variable {tasks : List (Task.Origin × Task)} {index : Nat} {entry : Task.Origin × Task} {β : Type}
  {f : Task.Origin × Task → Option β}

theorem exists_split_of_getElem? (h : tasks[index]? = some entry) :
    ∃ first second, tasks = first ++ entry :: second ∧ tasks.eraseIdx index = first ++ second := by
  obtain ⟨hindex, rfl⟩ := List.getElem?_eq_some_iff.1 h
  refine ⟨tasks.take index, tasks.drop (index + 1), ?_, List.eraseIdx_eq_take_drop_succ _ _⟩
  rw [List.getElem_cons_drop]
  rw [List.take_append_drop]

theorem filterMap_eraseIdx_of_none (h : tasks[index]? = some entry) (hentry : f entry = none) :
    (tasks.eraseIdx index).filterMap f = tasks.filterMap f := by
  obtain ⟨first, second, htasks, herase⟩ := exists_split_of_getElem? h
  rw [herase, htasks]
  simp [hentry]

theorem filterMap_eraseIdx_of_singleton {b c : β} (h : tasks[index]? = some entry)
    (hentry : f entry = some b) (hsingle : tasks.filterMap f = [c]) :
    b = c ∧ (tasks.eraseIdx index).filterMap f = [] := by
  obtain ⟨first, second, htasks, herase⟩ := exists_split_of_getElem? h
  rw [htasks, List.filterMap_append, List.filterMap_cons_some hentry] at hsingle
  rw [herase, List.filterMap_append]
  -- There is one value in all, and the entry has it already.
  have hlength := congrArg List.length hsingle
  simp only [List.length_append, List.length_cons, List.length_nil] at hlength
  have hfirst : first.filterMap f = [] := List.eq_nil_of_length_eq_zero (by omega)
  have hsecond : second.filterMap f = [] := List.eq_nil_of_length_eq_zero (by omega)
  rw [hfirst, hsecond] at hsingle
  rw [hfirst, hsecond]
  exact ⟨List.singleton_inj.1 hsingle, rfl⟩

end

theorem SameWork.refl (l : Launcher) : SameWork l l :=
  ⟨⟨rfl, rfl, rfl, rfl⟩, rfl⟩

theorem keptTasks_append (first second : List Settings.Key)
    (tasks : List (Task.Origin × Task)) :
    keptTasks (first ++ second) tasks = keptTasks second (keptTasks first tasks) := by
  unfold keptTasks
  rw [List.filter_filter]
  apply List.filter_congr
  intro entry _
  rw [← Bool.decide_and]
  apply decide_eq_decide.2
  simp only [List.mem_append]
  grind

theorem Reacts.refl (l : Launcher) : Reacts [] l l := by
  constructor <;> simp [keptTasks]

theorem Reacts.append {first second : List Settings.Key} (h₁ : Reacts first l l')
    (h₂ : Reacts second l' l'') : Reacts (first ++ second) l l'' where
  store := h₂.store.trans h₁.store
  locator := h₂.locator.trans h₁.locator
  resolver := h₂.resolver.trans h₁.resolver
  world := h₂.world.trans h₁.world
  clock := h₂.clock.trans h₁.clock
  window := h₂.window.trans h₁.window
  tasks := by
    rw [h₂.tasks, h₁.tasks]
    rw [keptTasks_append]
  timer := by
    intro key
    rw [h₂.timer, h₁.timer, h₁.clock, h₁.window]
    simp only [List.mem_append]
    grind

theorem reacts_reschedule {key : Settings.Key} (h : key.IsLive) (l : Launcher) :
    Reacts [key] l (l.reschedule key) where
  store := rfl
  locator := rfl
  resolver := rfl
  world := rfl
  clock := rfl
  window := rfl
  tasks := by
    unfold keptTasks
    apply List.filter_congr
    intro entry _
    simp [h]
  timer := by
    intro other
    by_cases heq : other = key
    . rw [heq]
      rw [if_pos ⟨List.mem_singleton_self key, h⟩]
      exact Debouncer.get?_timers_schedule_self _ _ _ _
    . rw [if_neg (by simp [heq])]
      exact Debouncer.get?_timers_schedule_of_ne heq _ _ _

theorem reacts_of_not_isLive {key : Settings.Key} (h : ¬key.IsLive) (l : Launcher) :
    Reacts [key] l l := by
  constructor
  . rfl
  . rfl
  . rfl
  . rfl
  . rfl
  . rfl
  . simp [keptTasks, h]
  . intro other
    rw [if_neg]
    simp only [List.mem_singleton, not_and]
    intro heq
    rw [heq]
    exact h

theorem reacts_onSettingsChanged (l : Launcher) (keys : List Settings.Key) :
    Reacts keys l (l.onSettingsChanged keys) := by
  unfold onSettingsChanged
  induction keys generalizing l with
  | nil => exact .refl l
  | cons key keys ih =>
    rw [List.foldl_cons]
    -- The same time and window go for all keys, since no reaction changes them.
    have hkey : Reacts [key] l
        (if key = .javaPath ∨ key = .serverPath then l.reschedule key else l) := by
      split
      . next hlive => exact reacts_reschedule hlive l
      . next hlive => exact reacts_of_not_isLive hlive l
    exact hkey.append (ih _)

theorem adopts_applySettings (l : Launcher) (settings : Settings) :
    Adopts settings l (l.applySettings settings).2 := by
  have h := reacts_onSettingsChanged { l with store := (l.store.apply settings).2 }
    (l.store.settings.changedKeys settings)
  constructor
  . exact congrArg Settings.Store.settings h.store
  . exact h.locator
  . exact h.resolver
  . exact h.clock
  . exact h.window
  . exact h.tasks
  . exact h.timer

theorem handle_eq (l : Launcher) (key : Settings.Key) :
    l.handle key =
      { l with tasks := l.tasks ++ ((taskFor? l.store.settings key).map (.change key, ·)).toList } := by
  unfold handle taskFor?
  cases key with
  | javaPath =>
    cases hjava : l.store.settings.javaPath with
    | none => simp [hjava]
    | some path => simp [hjava, addTask]
  | serverPath =>
    cases hserver : l.store.settings.serverPath with
    | none => simp [hserver]
    | some jar => simp [hserver, addTask]
  | _ => simp

theorem lookAt_of_reloaded {watcher : Watcher} {settings : Settings}
    (h : l.reloaded? watcher = some settings) :
    (l.lookAt watcher).2 = (l.applySettings settings).2 := by
  unfold reloaded? at h
  unfold lookAt
  dsimp only
  split at h
  . cases h
  . next hchanged =>
    rw [if_neg hchanged]
    cases hload : Settings.load l.world.files l.world.environment.home watcher.path with
    | ok loaded =>
      rw [hload] at h
      cases h
      rfl
    | error e =>
      rw [hload] at h
      cases h

theorem sameWork_lookAt {watcher : Watcher} (h : l.reloaded? watcher = none) :
    SameWork l (l.lookAt watcher).2 ∧ (l.lookAt watcher).2.clock = l.clock ∧
      l.world.Records (l.lookAt watcher).2.world := by
  unfold reloaded? at h
  unfold lookAt
  dsimp only
  split
  . exact ⟨.refl l, rfl, rfl⟩
  . next hchanged =>
    rw [if_neg hchanged] at h
    cases hload : Settings.load l.world.files l.world.environment.home watcher.path with
    | ok settings =>
      rw [hload] at h
      cases h
    | error e => exact ⟨⟨⟨rfl, rfl, rfl, rfl⟩, rfl⟩, rfl, rfl⟩

theorem SameWork.setWatchers (h : SameWork l l') (watchers : List Watcher) :
    SameWork l { l' with watchers } :=
  ⟨⟨h.store, h.tasks, h.debouncer, h.resolver⟩, h.locator⟩

theorem Adopts.setWatchers {settings : Settings} (h : Adopts settings l l')
    (watchers : List Watcher) : Adopts settings l { l' with watchers } :=
  ⟨h.inUse, h.locator, h.resolver, h.clock, h.window, h.tasks, h.timer⟩

/--
A step that belongs to the server alone.
-/
def Move.IsAside : Move → Prop
  | .fire _ | .advance _ | .look _ => False
  | _ => True

theorem sameWork_of_isAside {move : Move} (hmove : move.IsAside) (h : l.step? move = some l') :
    SameWork l l' ∧ l'.clock = l.clock ∧ l'.watchers = l.watchers ∧ l.world.Records l'.world := by
  cases move with
  | observeRuntime =>
    simp only [step?] at h
    split at h <;> cases h
    exact ⟨⟨⟨rfl, rfl, rfl, rfl⟩, rfl⟩, rfl, rfl, rfl⟩
  | observeDistribution =>
    simp only [step?] at h
    split at h <;> cases h
    exact ⟨⟨⟨rfl, rfl, rfl, rfl⟩, rfl⟩, rfl, rfl, rfl⟩
  | startServer =>
    simp only [step?] at h
    split at h <;> cases h
    unfold spawn
    split <;> exact ⟨⟨⟨rfl, rfl, rfl, rfl⟩, rfl⟩, rfl, rfl, rfl⟩
  | killServer =>
    simp only [step?] at h
    split at h
    . split at h <;> cases h
      exact ⟨⟨⟨rfl, rfl, rfl, rfl⟩, rfl⟩, rfl, rfl, rfl⟩
    . cases h
  | noticeRuntime =>
    simp only [step?] at h
    split at h
    . split at h <;> cases h
      exact ⟨⟨⟨rfl, rfl, rfl, rfl⟩, rfl⟩, rfl, rfl, rfl⟩
    . cases h
  | noticeDistribution =>
    simp only [step?] at h
    split at h
    . split at h <;> cases h
      exact ⟨⟨⟨rfl, rfl, rfl, rfl⟩, rfl⟩, rfl, rfl, rfl⟩
    . cases h
  | endServer =>
    simp only [step?] at h
    split at h
    . obtain ⟨code, _, rfl⟩ := Option.map_eq_some_iff.1 h
      exact ⟨⟨⟨rfl, rfl, rfl, rfl⟩, rfl⟩, rfl, rfl, rfl⟩
    . cases h
  | fire key => cases hmove
  | advance index => cases hmove
  | look index => cases hmove

theorem work_of_step?_eq_none {move : Move} (happlied : l.applied? (.move move) = none)
    (h : l.step? move = none) : Work l (.move move) (l.turn (.move move)) := by
  rw [turn_of_step?_eq_none h]
  apply Work.rest happlied
  . intro key heq
    cases heq
    exact h
  . intro index heq
    cases heq
    exact h
  . rfl
  . intro _ _
    rfl
  . exact .refl l

/--
What a setting calls for that has been quiet for long enough is begun, and nothing else.
-/
theorem step_fire {key : Settings.Key} (h : l.step? (.fire key) = some l') :
    ∃ time, l.debouncer.timers.get? key = some (time, ()) ∧ time ≤ l.clock ∧ l' = l.fired key := by
  simp only [step?] at h
  split at h
  . next time htimer =>
    split at h <;> cases h
    next hdue =>
    rw [handle_eq]
    exact ⟨time, htimer, hdue, rfl⟩
  . cases h

theorem work_fire (l : Launcher) (key : Settings.Key) :
    Work l (.move (.fire key)) (l.turn (.move (.fire key))) := by
  cases hstep : l.step? (.fire key) with
  | none => exact work_of_step?_eq_none rfl hstep
  | some l' =>
    rw [turn_of_step?_eq_some hstep]
    obtain ⟨time, htimer, hdue, rfl⟩ := step_fire hstep
    exact .fire htimer hdue

theorem surroundings_advanceTask {task : Task} {left : Option Task}
    (h : l.advanceTask task = some (left, l')) : SameSurroundings l l' := by
  unfold advanceTask at h
  cases task with
  | awaitRuntime jar =>
    dsimp only at h
    split at h <;> cases h <;> exact ⟨rfl, rfl, rfl, rfl, rfl⟩
  | _ =>
    cases h
    exact ⟨rfl, rfl, rfl, rfl, rfl⟩

theorem SameSurroundings.refl (l : Launcher) : SameSurroundings l l :=
  ⟨rfl, rfl, rfl, rfl, rfl⟩

theorem SameSurroundings.trans (h₁ : SameSurroundings l l') (h₂ : SameSurroundings l' l'') :
    SameSurroundings l l'' where
  server := h₂.server.trans h₁.server
  watchers := h₂.watchers.trans h₁.watchers
  clock := h₂.clock.trans h₁.clock
  output := h₂.output.trans h₁.output
  cancelled := h₂.cancelled.trans h₁.cancelled

theorem surroundings_fired (l : Launcher) (key : Settings.Key) : SameSurroundings l (l.fired key) :=
  ⟨rfl, rfl, rfl, rfl, rfl⟩

theorem surroundings_onSettingsChanged (l : Launcher) (keys : List Settings.Key) :
    SameSurroundings l (l.onSettingsChanged keys) := by
  unfold onSettingsChanged
  induction keys generalizing l with
  | nil => exact .refl l
  | cons key keys ih =>
    rw [List.foldl_cons]
    refine .trans ?_ (ih _)
    split
    . exact ⟨rfl, rfl, rfl, rfl, rfl⟩
    . exact .refl l

theorem surroundings_applySettings (l : Launcher) (settings : Settings) :
    SameSurroundings l (l.applySettings settings).2 := by
  unfold applySettings
  refine .trans ?_ (surroundings_onSettingsChanged _ _)
  exact ⟨rfl, rfl, rfl, rfl, rfl⟩

theorem surroundings_lookAt (l : Launcher) (watcher : Watcher) :
    SameSurroundings l (l.lookAt watcher).2 := by
  unfold lookAt
  dsimp only
  split
  . exact .refl l
  . split
    . exact surroundings_applySettings l _
    . exact ⟨rfl, rfl, rfl, rfl, rfl⟩

theorem work_advance (l : Launcher) (index : Nat) :
    Work l (.move (.advance index)) (l.turn (.move (.advance index))) := by
  cases hstep : l.step? (.advance index) with
  | none => exact work_of_step?_eq_none rfl hstep
  | some l' =>
    cases hentry : l.tasks[index]? with
    | none => simp [step?, hentry] at hstep
    | some entry =>
      obtain ⟨origin, task⟩ := entry
      cases hadvance : l.advanceTask task with
      | none => simp [step?, hentry, hadvance] at hstep
      | some result =>
        obtain ⟨left, l₁⟩ := result
        rw [turn_advance_of_some hentry hadvance]
        exact .advance hentry hadvance

theorem rest_look {index : Nat} (happlied : l.applied? (.move (.look index)) = none)
    (hclock : l'.clock = l.clock) (hworld : l.world.Records l'.world) (hsame : SameWork l l') :
    Work l (.move (.look index)) l' :=
  .rest happlied nofun nofun hclock (fun _ _ => hworld) hsame

theorem work_look (l : Launcher) (index : Nat) :
    Work l (.move (.look index)) (l.turn (.move (.look index))) := by
  simp only [turn, step?]
  split
  . next watcher hwatcher =>
    split
    . next hlook =>
      rw [Option.getD_some]
      cases hreloaded : l.reloaded? watcher with
      | none =>
        obtain ⟨hsame, hclock, hworld⟩ := sameWork_lookAt hreloaded
        refine rest_look ?_ hclock hworld (hsame.setWatchers _)
        simp [applied?, hwatcher, hlook, hreloaded]
      | some settings =>
        apply Work.adopt settings
        . simp [applied?, hwatcher, hlook, hreloaded]
        . rw [lookAt_of_reloaded hreloaded]
          exact (adopts_applySettings l settings).setWatchers _
    . next hlook =>
      refine rest_look ?_ rfl rfl (.refl l)
      simp only [applied?, hwatcher]
      rw [if_neg hlook]
  . next hwatcher =>
    refine rest_look ?_ rfl rfl (.refl l)
    simp [applied?, hwatcher]

theorem work_of_isAside {move : Move} (hmove : move.IsAside) (l : Launcher) :
    Work l (.move move) (l.turn (.move move)) := by
  have hturn : SameWork l (l.turn (.move move)) ∧ (l.turn (.move move)).clock = l.clock ∧
      l.world.Records (l.turn (.move move)).world := by
    simp only [turn]
    cases hstep : l.step? move with
    | none => exact ⟨.refl l, rfl, rfl⟩
    | some l' =>
      obtain ⟨hsame, hclock, _, hworld⟩ := sameWork_of_isAside hmove hstep
      exact ⟨hsame, hclock, hworld⟩
  apply Work.rest
  . cases move <;> first | rfl | cases hmove
  . intro key heq
    cases heq
    cases hmove
  . intro index heq
    cases heq
    cases hmove
  . exact hturn.2.1
  . intro _ _
    exact hturn.2.2
  . exact hturn.1

theorem work_turn (l : Launcher) (t : Turn) : Work l t (l.turn t) := by
  cases t with
  | move move =>
    cases move with
    | fire key => exact work_fire l key
    | advance index => exact work_advance l index
    | look index => exact work_look l index
    | _ => exact work_of_isAside (by trivial) l
  | apply settings => exact .adopt settings rfl (adopts_applySettings l settings)
  | _ => exact .rest rfl nofun nofun rfl nofun ⟨⟨rfl, rfl, rfl, rfl⟩, rfl⟩

end Launcher

end ServerLauncher
