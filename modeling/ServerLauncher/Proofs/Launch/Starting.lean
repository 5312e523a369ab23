import Mathlib.Data.List.Induction
import ServerLauncher.Proofs.Launch.Calming
import ServerLauncher.Proofs.Launch.Command
import ServerLauncher.Proofs.Update.Declining

/-!
This module contains the start of the server. In whatever order the runtime is found and the
distribution is chosen, the server is started with what is found and chosen one after the other.
-/

namespace ServerLauncher

def ServerState.IsAwaited : ServerState → Prop
  | .awaited _ _ _ => True
  | _ => False

namespace Launcher

/--
A turn that belongs to a launcher itself, or that lets time go on.
-/
def Turn.IsOwn : Turn → Prop
  | .move _ | .pass _ => True
  | _ => False

/--
The command of the server process that is there after a turn and was not there before.
-/
def spawned? (l : Launcher) (t : Turn) : Option ServerCommand :=
  if l.server.command?.isSome then none else (l.turn t).server.command?

def spawned (l : Launcher) : List Turn → List ServerCommand
  | [] => []
  | t :: course => (l.spawned? t).toList ++ (l.turn t).spawned course

def foundOn (l : Launcher) (m : Machine) : Except Java.RuntimeError Java.Runtime :=
  Java.find m l.locator.places l.store.settings.javaPath

/--
The distribution that a launcher chooses on a machine once there is a runtime.
-/
def chosenOn (l : Launcher) (m : Machine) (runtime : Java.Runtime) : Option Distribution :=
  match l.store.settings.serverPath with
  | some jar => (Distribution.probe m runtime.path jar).map fun v => ⟨jar, v, .configured⟩
  | none => some (l.resolver.chooseUnconfigured m.files)

def machineWith (l : Launcher) (files : FileSystem) : Machine :=
  { l.world.toMachine with files }

/--
The files may have become others by the update check that goes on beside the search.
-/
def MayBecome (l : Launcher) (files : FileSystem) : Prop :=
  files = l.world.files ∨ ∃ update, l.updateCheck? = some update ∧ update.MayKeep l.world.files files

/--
The search for the runtime, the choice of the distribution and the watchers notice nothing of other
files.
-/
structure Disregards (l : Launcher) (files : FileSystem) : Prop where
  found : l.foundOn (l.machineWith files) = l.foundOn l.world.toMachine
  chosen : ∀ runtime, l.foundOn l.world.toMachine = .ok runtime →
    l.chosenOn (l.machineWith files) runtime = l.chosenOn l.world.toMachine runtime
  modified : ∀ watcher ∈ l.watchers,
    files.modified? watcher.path = l.world.files.modified? watcher.path

/--
Nothing depends on whether the metadata has been kept that the update check gets.
-/
def IsSteady (l : Launcher) : Prop :=
  ∀ files, l.MayBecome files → l.Disregards files

/--
The tasks that a launcher begins with, and those that they become.
-/
inductive Expects (l : Launcher) : Task → Prop where
  | findRuntime : l.Expects (.findRuntime l.store.settings.javaPath)
  | chooseServer (hserver : l.store.settings.serverPath = none) : l.Expects .chooseServer
  | awaitRuntime {jar : Path} (hserver : l.store.settings.serverPath = some jar) :
    l.Expects (.awaitRuntime jar)
  | probeServer {jar : Path} {runtime : Java.Runtime}
    (hserver : l.store.settings.serverPath = some jar)
    (hfound : l.foundOn l.world.toMachine = .ok runtime) : l.Expects (.probeServer runtime.path jar)
  | checkUpdate {update : Update} (hupdate : l.updateCheck? = some update) :
    l.Expects (.checkUpdate update)

/--
What stays of a launcher while the server is being started.
-/
structure Stays (l l' : Launcher) : Prop where
  settings : l'.store.settings = l.store.settings
  places : l'.locator.places = l.locator.places
  bundled : l'.resolver.bundled = l.resolver.bundled
  cache : l'.resolver.cache = l.resolver.cache
  timers : l'.debouncer.timers = []
  host : l'.world.host = .journal false
  machine : l'.world.toMachine = l.machineWith l'.world.files
  files : l.MayBecome l'.world.files
  watchers : ∀ watcher ∈ l'.watchers, ∃ earlier ∈ l.watchers,
    watcher.path = earlier.path ∧ watcher.lastSeen = l.world.files.modified? earlier.path

/--
How far a launcher has come with finding the runtime and choosing the distribution: what is published
is right, and what is not published yet is worked on.
-/
structure Underway (l l' : Launcher) : Prop extends Stays l l' where
  tasks : ∀ entry ∈ l'.tasks, l.Expects entry.2
  runtime : l'.locator.cell = .pending ∨
    ∃ runtime, l.foundOn l.world.toMachine = .ok runtime ∧ l'.locator.cell.current = some runtime
  distribution : ∀ d, l'.resolver.cell.current = some d →
    ∀ runtime, l.foundOn l.world.toMachine = .ok runtime →
      l.chosenOn l.world.toMachine runtime = some d
  searching : ∀ runtime, l.foundOn l.world.toMachine = .ok runtime →
    l'.locator.cell.current = some runtime ∨ ∃ entry ∈ l'.tasks, entry.2.search?.isSome
  choosing : ∀ runtime d, l.foundOn l.world.toMachine = .ok runtime →
    l.chosenOn l.world.toMachine runtime = some d →
      l'.resolver.cell.current = some d ∨ ∃ entry ∈ l'.tasks, entry.2.choice?.isSome

/--
How far the server of a launcher has come, and which processes have come to be.
-/
inductive Served (l l' : Launcher) (spawned : List ServerCommand) : Prop where
  | awaited {runtime : Option Java.Runtime} {d : Option Distribution}
    (hserver : l'.server = .awaited l.store.settings.debugPort runtime d)
    (hruntime : ∀ kept, runtime = some kept → l.foundOn l.world.toMachine = .ok kept)
    (hdistribution : ∀ kept, d = some kept →
      ∀ found, l.foundOn l.world.toMachine = .ok found →
        l.chosenOn l.world.toMachine found = some kept)
    (hspawned : spawned = []) : Served l l' spawned
  | started {runtime : Java.Runtime} {d : Distribution} (hserver : ¬l'.server.IsAwaited)
    (hfound : l.foundOn l.world.toMachine = .ok runtime)
    (hchosen : l.chosenOn l.world.toMachine runtime = some d)
    (hspawned : spawned =
      (ServerCommand.startable? runtime d l.store.settings.debugPort).toList) : Served l l' spawned

/--
What a turn of a launcher may be whose settings do not change.
-/
inductive OwnWork (l : Launcher) : Launcher → Prop where
  | rest {l' : Launcher} (hsame : SameWork l l') (hworld : l.world.Records l'.world)
    (hwatchers : ∀ watcher ∈ l'.watchers, ∃ earlier ∈ l.watchers,
      watcher.path = earlier.path ∧ watcher.lastSeen = earlier.lastSeen) : OwnWork l l'
  | advance {index : Nat} {origin : Task.Origin} {task : Task} {left : Option Task}
    {l₁ : Launcher} (hentry : l.tasks[index]? = some (origin, task))
    (hadvance : l.advanceTask task = some (left, l₁)) : OwnWork l { l₁ with
      tasks := l.tasks.eraseIdx index ++ (left.map (origin, ·)).toList }

variable {l l' l₁ : Launcher} {t : Turn} {course : List Turn} {task : Task} {left : Option Task}

theorem OwnWork.refl (l : Launcher) : OwnWork l l :=
  .rest (.refl l) rfl fun watcher hmem => ⟨watcher, hmem, rfl, rfl⟩

theorem lookAt_of_seen {watcher : Watcher}
    (h : l.world.files.modified? watcher.path = watcher.lastSeen) :
    l.lookAt watcher = ({ watcher with next := watcher.next + Watcher.interval }, l) := by
  unfold lookAt
  dsimp only
  rw [if_pos h, h]

theorem ownWork_step {move : Move} (htimers : l.debouncer.timers = [])
    (hseen : ∀ watcher ∈ l.watchers, l.world.files.modified? watcher.path = watcher.lastSeen)
    (h : l.step? move = some l') : OwnWork l l' := by
  cases move with
  | fire key =>
    simp only [step?, htimers] at h
    cases h
  | advance index =>
    cases hentry : l.tasks[index]? with
    | none => simp [step?, hentry] at h
    | some entry =>
      obtain ⟨origin, task⟩ := entry
      cases hadvance : l.advanceTask task with
      | none => simp [step?, hentry, hadvance] at h
      | some result =>
        obtain ⟨left, l₁⟩ := result
        have hturn := turn_advance_of_some hentry hadvance
        rw [turn_of_step?_eq_some h] at hturn
        rw [hturn]
        exact .advance hentry hadvance
  | look index =>
    simp only [step?] at h
    split at h
    . next watcher hwatcher =>
      have hmem := List.mem_of_getElem? hwatcher
      split at h <;> cases h
      rw [lookAt_of_seen (hseen watcher hmem)]
      refine .rest (.setWatchers (.refl l) _) rfl ?_
      intro later hlater
      cases List.mem_or_eq_of_mem_set hlater with
      | inl hmem => exact ⟨later, hmem, rfl, rfl⟩
      | inr heq => exact ⟨watcher, hmem, heq ▸ ⟨rfl, rfl⟩⟩
    . cases h
  | _ =>
    obtain ⟨hsame, _, hwatchers, hworld⟩ := sameWork_of_isAside (by trivial) h
    refine .rest hsame hworld ?_
    intro watcher hmem
    rw [hwatchers] at hmem
    exact ⟨watcher, hmem, rfl, rfl⟩

theorem ownWork_turn (htimers : l.debouncer.timers = [])
    (hseen : ∀ watcher ∈ l.watchers, l.world.files.modified? watcher.path = watcher.lastSeen)
    (hown : t.IsOwn) : OwnWork l (l.turn t) := by
  cases t with
  | move move =>
    simp only [turn]
    cases hstep : l.step? move with
    | none => exact .refl l
    | some l' => exact ownWork_step htimers hseen hstep
  | pass milliseconds =>
    exact .rest ⟨⟨rfl, rfl, rfl, rfl⟩, rfl⟩ rfl fun watcher hmem => ⟨watcher, hmem, rfl, rfl⟩
  | _ => cases hown

theorem world_advanceTask (h : l.advanceTask task = some (left, l')) :
    l.world.Records l'.world ∨
      ∃ update, task = .checkUpdate update ∧ l'.world = (update.check.run l.world).2 := by
  unfold advanceTask at h
  cases task with
  | findRuntime configured =>
    cases h
    left
    unfold findRuntime
    cases Java.find l.world.toMachine l.locator.places configured <;> rfl
  | chooseServer =>
    cases h
    exact .inl rfl
  | awaitRuntime jar =>
    dsimp only at h
    split at h <;> cases h <;> exact .inl rfl
  | probeServer java jar =>
    cases h
    left
    cases Distribution.probe l.world.toMachine java jar with
    | none => rfl
    | some v =>
      show l.world.Records ((l.resolver.settleProbed jar (some v)).run l.world).2
      rw [Distribution.Resolver.run_settleProbed_some]
      split <;> rfl
  | checkUpdate update =>
    cases h
    exact .inr ⟨update, rfl, rfl⟩

theorem places_advanceTask (h : l.advanceTask task = some (left, l')) :
    l'.locator.places = l.locator.places := by
  cases hsearch : task.search? with
  | none => rw [locator_advanceTask hsearch h]
  | some configured =>
    rw [eq_findRuntime_of_search? hsearch] at h
    cases h
    rw [locator_findRuntime l configured l.clock]

theorem resolver_advanceTask (h : l.advanceTask task = some (left, l')) :
    l'.resolver.bundled = l.resolver.bundled ∧ l'.resolver.cache = l.resolver.cache := by
  cases progress_advanceTask h with
  | other _ hresolver =>
    rw [hresolver]
    exact ⟨rfl, rfl⟩
  | ask => exact ⟨rfl, rfl⟩
  | finish _ published _ hresolver =>
    rw [hresolver]
    cases published <;> exact ⟨rfl, rfl⟩

theorem mayBecome_of_mayKeep {files files' : FileSystem} (h : l.MayBecome files) {update : Update}
    (hupdate : l.updateCheck? = some update) (hkeep : update.MayKeep files files') :
    l.MayBecome files' := by
  rcases h with rfl | ⟨earlier, hearlier, hkept⟩
  . exact .inr ⟨update, hupdate, hkeep⟩
  . rw [hupdate] at hearlier
    cases hearlier
    exact .inr ⟨update, hupdate, hkept.trans hkeep⟩

/--
Without a place for metadata the update check leaves nothing behind.
-/
theorem isSteady_of_no_cache
    (h : ∀ update, l.updateCheck? = some update → update.registry.cache = none) : l.IsSteady := by
  intro files hfiles
  have hsame : files = l.world.files := by
    rcases hfiles with hsame | ⟨update, hupdate, hsame | ⟨cache, hcache, _⟩⟩
    . exact hsame
    . exact hsame
    . rw [h update hupdate] at hcache
      cases hcache
  rw [hsame]
  exact ⟨rfl, fun _ _ => rfl, fun _ _ => rfl⟩

namespace Stays

theorem rest (h : Stays l l') (hsame : SameWork l' l₁) (hworld : l'.world.Records l₁.world)
    (hwatchers : ∀ watcher ∈ l₁.watchers, ∃ earlier ∈ l'.watchers,
      watcher.path = earlier.path ∧ watcher.lastSeen = earlier.lastSeen) : Stays l l₁ where
  settings := by
    rw [hsame.store]
    exact h.settings
  places := by
    rw [hsame.locator]
    exact h.places
  bundled := by
    rw [hsame.resolver]
    exact h.bundled
  cache := by
    rw [hsame.resolver]
    exact h.cache
  timers := by
    rw [hsame.debouncer]
    exact h.timers
  host := by
    rw [hworld]
    exact h.host
  machine := by
    rw [hworld]
    exact h.machine
  files := by
    rw [hworld]
    exact h.files
  watchers := by
    intro watcher hmem
    have ⟨later, hlater, hpath, hseen⟩ := hwatchers watcher hmem
    have ⟨earlier, hearlier, hpath', hseen'⟩ := h.watchers later hlater
    exact ⟨earlier, hearlier, hpath.trans hpath', hseen.trans hseen'⟩

theorem world_advance (h : Stays l l') (hexpects : l.Expects task)
    (hadvance : l'.advanceTask task = some (left, l₁)) :
    l'.world.SameHousehold l₁.world ∧ l.MayBecome l₁.world.files := by
  rcases world_advanceTask hadvance with hworld | ⟨update, rfl, hworld⟩
  . rw [hworld]
    exact ⟨⟨rfl, rfl, rfl⟩, h.files⟩
  . cases hexpects with
    | checkUpdate hupdate =>
      have ⟨hsame, hkeep⟩ := update.check_of_journal h.host
      rw [hworld]
      exact ⟨hsame, mayBecome_of_mayKeep h.files hupdate hkeep⟩

theorem advance (h : Stays l l') (hexpects : l.Expects task)
    (hadvance : l'.advanceTask task = some (left, l₁)) (tasks : List (Task.Origin × Task)) :
    Stays l { l₁ with tasks } := by
  have ⟨hstore, hdebouncer, _⟩ := store_advanceTask hadvance
  have ⟨hbundled, hcache⟩ := resolver_advanceTask hadvance
  have ⟨hsame, hfiles⟩ := h.world_advance hexpects hadvance
  constructor
  . exact (congrArg Settings.Store.settings hstore).trans h.settings
  . exact (places_advanceTask hadvance).trans h.places
  . exact hbundled.trans h.bundled
  . exact hcache.trans h.cache
  . exact (congrArg Debouncer.timers hdebouncer).trans h.timers
  . exact hsame.host.trans h.host
  . have hmachine := h.machine
    have henvironment := hsame.environment
    have hexecutable := hsame.executable
    rw [hmachine] at henvironment hexecutable
    exact congrArg₂ (Machine.mk l₁.world.files) henvironment hexecutable
  . exact hfiles
  . show ∀ watcher ∈ l₁.watchers, _
    rw [(surroundings_advanceTask hadvance).watchers]
    exact h.watchers

variable (hdisregards : l.Disregards l'.world.files)

include hdisregards

theorem seen (h : Stays l l') :
    ∀ watcher ∈ l'.watchers, l'.world.files.modified? watcher.path = watcher.lastSeen := by
  intro watcher hmem
  have ⟨earlier, hearlier, hpath, hseen⟩ := h.watchers watcher hmem
  rw [hpath, hseen]
  exact hdisregards.modified earlier hearlier

/--
The search finds what was there to be found from the start.
-/
theorem find_eq (h : Stays l l') :
    Java.find l'.world.toMachine l'.locator.places l.store.settings.javaPath =
      l.foundOn l.world.toMachine := by
  rw [h.machine, h.places]
  exact hdisregards.found

theorem chosenOn_eq (h : Stays l l') {runtime : Java.Runtime}
    (hfound : l.foundOn l.world.toMachine = .ok runtime) :
    l.chosenOn l'.world.toMachine runtime = l.chosenOn l.world.toMachine runtime := by
  rw [h.machine]
  exact hdisregards.chosen runtime hfound

end Stays

theorem mem_eraseIdx_of_ne {tasks : List (Task.Origin × Task)} {index : Nat}
    {entry other : Task.Origin × Task} (h : tasks[index]? = some entry) (hmem : other ∈ tasks)
    (hne : other ≠ entry) : other ∈ tasks.eraseIdx index := by
  obtain ⟨first, second, htasks, herase⟩ := exists_split_of_getElem? h
  rw [herase]
  rw [htasks] at hmem
  simpa [hne] using hmem

/--
A task that does something is not the one that does nothing of that kind, and goes on.
-/
theorem exists_mem_of_not (P : Task → Prop) {tasks rest : List (Task.Origin × Task)} {index : Nat}
    {origin : Task.Origin} (h : tasks[index]? = some (origin, task)) (hP : ¬P task)
    (hmem : ∃ entry ∈ tasks, P entry.2) : ∃ entry ∈ tasks.eraseIdx index ++ rest, P entry.2 := by
  have ⟨entry, hentry, hholds⟩ := hmem
  refine ⟨entry, List.mem_append_left rest ?_, hholds⟩
  apply mem_eraseIdx_of_ne h hentry
  intro heq
  rw [heq] at hholds
  exact hP hholds

theorem chooseUnconfigured_congr {resolver resolver' : Distribution.Resolver}
    (hbundled : resolver'.bundled = resolver.bundled) (hcache : resolver'.cache = resolver.cache)
    (files : FileSystem) : resolver'.chooseUnconfigured files = resolver.chooseUnconfigured files := by
  unfold Distribution.Resolver.chooseUnconfigured
  rw [hbundled, hcache]

namespace Underway

theorem rest (h : Underway l l') (hsame : SameWork l' l₁) (hworld : l'.world.Records l₁.world)
    (hwatchers : ∀ watcher ∈ l₁.watchers, ∃ earlier ∈ l'.watchers,
      watcher.path = earlier.path ∧ watcher.lastSeen = earlier.lastSeen) : Underway l l₁ where
  toStays := h.toStays.rest hsame hworld hwatchers
  tasks := by
    rw [hsame.tasks]
    exact h.tasks
  runtime := by
    rw [hsame.locator]
    exact h.runtime
  distribution := by
    rw [hsame.resolver]
    exact h.distribution
  searching := by
    rw [hsame.locator, hsame.tasks]
    exact h.searching
  choosing := by
    rw [hsame.resolver, hsame.tasks]
    exact h.choosing

theorem found_of_current (h : Underway l l') {runtime : Java.Runtime}
    (hcurrent : l'.locator.cell.current = some runtime) :
    l.foundOn l.world.toMachine = .ok runtime := by
  rcases h.runtime with hpending | ⟨found, hfound, hcurrent'⟩
  . rw [hpending] at hcurrent
    cases hcurrent
  . rw [hcurrent'] at hcurrent
    cases hcurrent
    exact hfound

/--
A task that waits for a runtime waits as long as there is none, and then asks with the one that was
found.
-/
theorem advance_awaitRuntime (h : Underway l l') {jar : Path}
    (hadvance : l'.advanceTask (.awaitRuntime jar) = some (left, l₁)) :
    ∃ runtime, l.foundOn l.world.toMachine = .ok runtime ∧
      left = some (.probeServer runtime.path jar) ∧ l₁ = l' := by
  simp only [advanceTask, Settled.poll] at hadvance
  rcases h.runtime with hpending | ⟨runtime, hfound, hcurrent⟩
  . rw [hpending] at hadvance
    cases hadvance
  . rw [hcurrent] at hadvance
    cases hadvance
    exact ⟨runtime, hfound, rfl, rfl⟩

theorem expects_left (h : Underway l l') (hexpects : l.Expects task) {next : Task}
    (hadvance : l'.advanceTask task = some (some next, l₁)) : l.Expects next := by
  cases hexpects with
  | awaitRuntime hserver =>
    obtain ⟨runtime, hfound, hleft, _⟩ := h.advance_awaitRuntime hadvance
    cases hleft
    exact .probeServer hserver hfound
  | _ => cases hadvance

variable {index : Nat} {origin : Task.Origin}

theorem expects (h : Underway l l') (hentry : l'.tasks[index]? = some (origin, task)) :
    l.Expects task :=
  h.tasks _ (List.mem_of_getElem? hentry)

theorem tasks_advance (h : Underway l l') (hentry : l'.tasks[index]? = some (origin, task))
    (hadvance : l'.advanceTask task = some (left, l₁)) :
    ∀ entry ∈ l'.tasks.eraseIdx index ++ (left.map (origin, ·)).toList, l.Expects entry.2 := by
  intro entry hmem
  cases List.mem_append.1 hmem with
  | inl hmem => exact h.tasks entry (List.mem_of_mem_eraseIdx hmem)
  | inr hmem =>
    cases left with
    | none => cases hmem
    | some next =>
      cases List.mem_singleton.1 hmem
      exact h.expects_left (h.expects hentry) hadvance

variable (hdisregards : l.Disregards l'.world.files)

include hdisregards

theorem locator_search (h : Underway l l') :
    (l'.findRuntime l.store.settings.javaPath).locator.cell =
      match l.foundOn l.world.toMachine with
      | .ok runtime => l'.locator.cell.publish runtime
      | .error _ => l'.locator.cell := by
  have hfind := h.find_eq hdisregards
  rw [locator_findRuntime l' _ l'.clock]
  simp only [Sign.publish, Java.Search.find]
  cases hfound : l.foundOn l.world.toMachine with
  | ok runtime => simp only [hfind, hfound]
  | error e => simp only [hfind, hfound]

theorem runtime_advance (h : Underway l l') (hexpects : l.Expects task)
    (hadvance : l'.advanceTask task = some (left, l₁)) :
    l₁.locator.cell = .pending ∨
      ∃ runtime, l.foundOn l.world.toMachine = .ok runtime ∧
        l₁.locator.cell.current = some runtime := by
  cases hexpects with
  | findRuntime =>
    cases hadvance
    rw [h.locator_search hdisregards]
    cases hfound : l.foundOn l.world.toMachine with
    | error e =>
      have hruntime := h.runtime
      rw [hfound] at hruntime
      exact hruntime
    | ok runtime => exact .inr ⟨runtime, rfl, rfl⟩
  | _ =>
    rw [locator_advanceTask rfl hadvance]
    exact h.runtime

theorem searching_advance (h : Underway l l') (hentry : l'.tasks[index]? = some (origin, task))
    (hadvance : l'.advanceTask task = some (left, l₁)) {runtime : Java.Runtime}
    (hfound : l.foundOn l.world.toMachine = .ok runtime) :
    l₁.locator.cell.current = some runtime ∨
      ∃ entry ∈ l'.tasks.eraseIdx index ++ (left.map (origin, ·)).toList,
        entry.2.search?.isSome := by
  cases hsearch : task.search? with
  | some configured =>
    left
    have hexpects := h.expects hentry
    rw [eq_findRuntime_of_search? hsearch] at hexpects hadvance
    cases hexpects
    cases hadvance
    rw [h.locator_search hdisregards, hfound]
    rfl
  | none =>
    rw [locator_advanceTask hsearch hadvance]
    refine (h.searching runtime hfound).imp_right ?_
    apply exists_mem_of_not (fun other => other.search?.isSome) hentry
    simp [hsearch]

/--
A task that makes an end of choosing has published what was to be chosen, if there was anything.
-/
theorem current_advance (h : Underway l l') (hexpects : l.Expects task)
    (hchoice : task.choice?.isSome) (hadvance : l'.advanceTask task = some (none, l₁))
    {runtime : Java.Runtime} (hfound : l.foundOn l.world.toMachine = .ok runtime) :
    l₁.resolver.cell.current =
      (l.chosenOn l.world.toMachine runtime).or l'.resolver.cell.current := by
  -- The files may have changed since the start, but not in a way that a choice could notice.
  have hchosen := h.chosenOn_eq hdisregards hfound
  rw [← hchosen]
  unfold chosenOn
  cases hexpects with
  | findRuntime => cases hchoice
  | checkUpdate => cases hchoice
  | chooseServer hserver =>
    cases hadvance
    rw [hserver, ← chooseUnconfigured_congr h.bundled h.cache]
    rfl
  | awaitRuntime =>
    obtain ⟨_, _, hleft, _⟩ := h.advance_awaitRuntime hadvance
    cases hleft
  | @probeServer jar _ hserver hfound' =>
    rw [hfound] at hfound'
    cases hfound'
    cases hadvance
    rw [hserver]
    dsimp only
    cases Distribution.probe l'.world.toMachine runtime.path jar with
    | none => rfl
    | some v =>
      have hrun := Distribution.Resolver.run_settleProbed_some l'.resolver jar v l'.world
      exact congrArg (fun result => result.1.2.cell.current) hrun

theorem distribution_advance (h : Underway l l') (hexpects : l.Expects task)
    (hadvance : l'.advanceTask task = some (left, l₁)) {d : Distribution}
    (hcurrent : l₁.resolver.cell.current = some d) {runtime : Java.Runtime}
    (hfound : l.foundOn l.world.toMachine = .ok runtime) :
    l.chosenOn l.world.toMachine runtime = some d := by
  cases progress_advanceTask hadvance with
  | other _ hresolver =>
    rw [hresolver] at hcurrent
    exact h.distribution d hcurrent runtime hfound
  | ask => exact h.distribution d hcurrent runtime hfound
  | finish configured _ hchoice =>
    have hchoice : task.choice?.isSome := by simp [hchoice]
    rw [h.current_advance hdisregards hexpects hchoice hadvance hfound] at hcurrent
    cases hchosen : l.chosenOn l.world.toMachine runtime with
    | some chosen =>
      rw [hchosen] at hcurrent
      exact hcurrent
    | none =>
      rw [hchosen] at hcurrent
      rw [← hchosen]
      exact h.distribution d hcurrent runtime hfound

theorem choosing_advance (h : Underway l l') (hentry : l'.tasks[index]? = some (origin, task))
    (hadvance : l'.advanceTask task = some (left, l₁)) {runtime : Java.Runtime} {d : Distribution}
    (hfound : l.foundOn l.world.toMachine = .ok runtime)
    (hchosen : l.chosenOn l.world.toMachine runtime = some d) :
    l₁.resolver.cell.current = some d ∨
      ∃ entry ∈ l'.tasks.eraseIdx index ++ (left.map (origin, ·)).toList,
        entry.2.choice?.isSome := by
  have hchoosing := h.choosing runtime d hfound hchosen
  have hexpects := h.expects hentry
  cases progress_advanceTask hadvance with
  | other hchoice hresolver =>
    rw [hresolver]
    refine hchoosing.imp_right ?_
    apply exists_mem_of_not (fun other => other.choice?.isSome) hentry
    simp [hchoice]
  | ask java jar => exact .inr ⟨(origin, .probeServer java jar), by simp, rfl⟩
  | finish configured _ hchoice =>
    -- The task that chooses is at an end, and has published.
    have hchoice : task.choice?.isSome := by simp [hchoice]
    rw [h.current_advance hdisregards hexpects hchoice hadvance hfound, hchosen]
    exact .inl rfl

theorem advance (h : Underway l l') (hentry : l'.tasks[index]? = some (origin, task))
    (hadvance : l'.advanceTask task = some (left, l₁)) :
    Underway l { l₁ with
      tasks := l'.tasks.eraseIdx index ++ (left.map (origin, ·)).toList } where
  toStays := h.toStays.advance (h.expects hentry) hadvance _
  tasks := h.tasks_advance hentry hadvance
  runtime := by
    have hruntime := h.runtime_advance hdisregards (h.expects hentry) hadvance
    exact hruntime
  distribution _ hcurrent _ hfound :=
    h.distribution_advance hdisregards (h.expects hentry) hadvance hcurrent hfound
  searching _ hfound := h.searching_advance hdisregards hentry hadvance hfound
  choosing _ _ hfound hchosen := h.choosing_advance hdisregards hentry hadvance hfound hchosen

theorem turn (h : Underway l l') (hown : t.IsOwn) : Underway l (l'.turn t) := by
  have hwork := ownWork_turn h.timers (h.seen hdisregards) hown
  generalize l'.turn t = l₁ at hwork
  cases hwork with
  | rest hsame hworld hwatchers => exact h.rest hsame hworld hwatchers
  | advance hentry hadvance => exact h.advance hdisregards hentry hadvance

end Underway

theorem command?_spawn {m : Machine} (hmachine : l.world.toMachine = m) {runtime : Java.Runtime}
    (hanswers : Java.Answers m runtime.path runtime.version) (d : Distribution)
    (debugPort : Option UInt16) :
    (l.spawn (.forDistribution runtime d debugPort)).server.command? =
      ServerCommand.startable? runtime d debugPort := by
  unfold spawn ServerCommand.startable?
  rw [hmachine]
  have hrun := ServerCommand.run_forDistribution_iff hanswers d debugPort
  cases hresult : m.run (ServerCommand.forDistribution runtime d debugPort).program
      (ServerCommand.forDistribution runtime d debugPort).arguments with
  | ok execution =>
    rw [if_neg (hrun.1 ⟨execution, hresult⟩)]
    rfl
  | error e =>
    rw [if_pos]
    . rfl
    . by_contra hnul
      obtain ⟨execution, hok⟩ := hrun.2 hnul
      rw [hresult] at hok
      cases hok

theorem spawned_concat (l : Launcher) (course : List Turn) (t : Turn) :
    l.spawned (course ++ [t]) = l.spawned course ++ ((l.turns course).spawned? t).toList := by
  induction course generalizing l with
  | nil => simp [spawned, turns]
  | cons first course ih =>
    simp only [List.cons_append, spawned]
    rw [ih, List.append_assoc]
    rfl

theorem spawned?_of_not_isAwaited (h : ¬l.server.IsAwaited) (t : Turn) :
    l.spawned? t = none ∧ ¬(l.turn t).server.IsAwaited := by
  unfold spawned?
  have hpassage := passage_turn l t
  generalize l.turn t = l' at hpassage
  cases hpassage with
  | aside haside =>
    rw [haside.server]
    refine ⟨?_, h⟩
    split
    . rfl
    . next hnone => exact Option.not_isSome_iff_eq_none.1 hnone
  | keepRuntime hserver =>
    rw [hserver] at h
    exact absurd trivial h
  | keepDistribution hserver =>
    rw [hserver] at h
    exact absurd trivial h
  | start hserver =>
    rw [hserver] at h
    exact absurd trivial h
  | noticeRuntime hserver =>
    rw [hserver]
    exact ⟨rfl, id⟩
  | noticeDistribution hserver =>
    rw [hserver]
    exact ⟨rfl, id⟩
  | finish _ hserver =>
    rw [hserver]
    exact ⟨rfl, id⟩

theorem spawned?_of_isAwaited (h : l.server.IsAwaited) (t : Turn) :
    l.spawned? t = (l.turn t).server.command? := by
  unfold spawned?
  cases hserver : l.server with
  | awaited => rfl
  | _ =>
    rw [hserver] at h
    cases h

theorem Served.turn {commands : List ServerCommand} (hdisregards : l.Disregards l'.world.files)
    (h : Served l l' commands) (hunderway : Underway l l') (t : Turn) :
    Served l (l'.turn t) (commands ++ (l'.spawned? t).toList) := by
  cases h with
  | started hserver hfound hchosen hspawned =>
    -- Nothing is spawned a second time.
    have ⟨hnone, hserver'⟩ := spawned?_of_not_isAwaited hserver t
    rw [hnone, hspawned, Option.toList_none, List.append_nil]
    exact .started hserver' hfound hchosen rfl
  | @awaited runtime d hserver hruntime hdistribution hspawned =>
    have hawaited : l'.server.IsAwaited := by
      rw [hserver]
      trivial
    rw [spawned?_of_isAwaited hawaited, hspawned, List.nil_append]
    have hpassage := passage_turn l' t
    generalize l'.turn t = l₁ at hpassage
    cases hpassage with
    | aside haside =>
      rw [haside.server, hserver]
      exact .awaited (haside.server.trans hserver) hruntime hdistribution rfl
    | keepRuntime hserver' hcurrent =>
      rw [hserver] at hserver'
      cases hserver'
      refine .awaited rfl ?_ hdistribution rfl
      intro kept hkept
      cases hkept
      exact hunderway.found_of_current hcurrent
    | keepDistribution hserver' hcurrent =>
      rw [hserver] at hserver'
      cases hserver'
      refine .awaited rfl hruntime ?_ rfl
      intro kept hkept found hfound
      cases hkept
      exact hunderway.distribution _ hcurrent found hfound
    | @start _ port kept keptDistribution hserver' =>
      rw [hserver] at hserver'
      cases hserver'
      have hfound := hruntime kept rfl
      -- What has been found has answered on this machine, and so it can be run there.
      have hanswers := Java.answers_of_find ((hunderway.find_eq hdisregards).trans hfound)
      rw [command?_spawn rfl hanswers]
      refine .started ?_ hfound (hdistribution keptDistribution rfl kept hfound) rfl
      unfold spawn
      split <;> exact id
    | noticeRuntime hserver' =>
      rw [hserver] at hserver'
      cases hserver'
    | noticeDistribution hserver' =>
      rw [hserver] at hserver'
      cases hserver'
    | finish _ hserver' =>
      rw [hserver] at hserver'
      cases hserver'

/--
A launcher that has not begun to do anything, for a host that declines.
-/
structure IsFresh (l : Launcher) : Prop where
  runtime : l.locator.cell = .pending
  distribution : l.resolver.cell = .pending
  timers : l.debouncer.timers = []
  tasks : l.tasks = []
  host : l.world.host = .journal false
  socket : l.store.settings.socketPort = none
  watchers : ∀ watcher ∈ l.watchers, watcher.lastSeen = l.world.files.modified? watcher.path

/--
The launcher that begins to run the server, and to look for an update beside that.
-/
def begun (l : Launcher) (peers : Peers) : Launcher :=
  l.spawnUpdateCheck.run peers

/--
On every course of its own, a launcher spawns a process for this command, if there is one, and nothing
else. It has done so when there is nothing left to do, and gets there from wherever it is.
-/
structure Spawns (l : Launcher) (command? : Option ServerCommand) : Prop where
  within : ∀ course : List Turn, (∀ t ∈ course, t.IsOwn) → l.spawned course <+: command?.toList
  atRest : ∀ course : List Turn, (∀ t ∈ course, t.IsOwn) → (l.turns course).Rests →
    l.spawned course = command?.toList
  comes : ∀ course : List Turn, (∀ t ∈ course, t.IsOwn) → ∃ later : List Turn,
    (∀ t ∈ later, t.IsOwn) ∧ l.spawned (course ++ later) = command?.toList

theorem spawnUpdateCheck_eq (l : Launcher) :
    l.spawnUpdateCheck = { l with
      tasks := l.tasks ++
        (l.updateCheck?.map fun update => (.start, .checkUpdate update)).toList } := by
  unfold spawnUpdateCheck
  cases l.updateCheck? with
  | none => simp
  | some update => rfl

theorem begun_eq (peers : Peers) (hsocket : l.store.settings.socketPort = none) :
    l.begun peers = { l with
      tasks := l.tasks ++ (l.updateCheck?.map fun update => (.start, .checkUpdate update)).toList ++
        [(.start, .findRuntime l.store.settings.javaPath), (.start,
          (l.store.settings.serverPath.map .awaitRuntime).getD .chooseServer)]
      server := .awaited l.store.settings.debugPort none none } := by
  unfold begun
  rw [spawnUpdateCheck_eq]
  simp only [run, hsocket]
  cases hserver : l.store.settings.serverPath <;> simp [spawnResolution, addTask, hserver]

theorem same_begun (l : Launcher) (peers : Peers) :
    (l.begun peers).watchers = l.watchers ∧ (l.begun peers).clock = l.clock := by
  unfold begun
  rw [spawnUpdateCheck_eq]
  unfold run
  dsimp only
  split
  . unfold runRelay
    split <;> exact ⟨rfl, rfl⟩
  . exact ⟨rfl, rfl⟩

theorem IsFresh.underway (h : l.IsFresh) (peers : Peers) : Underway l (l.begun peers) := by
  rw [begun_eq peers h.socket, h.tasks]
  constructor
  . constructor
    . rfl
    . rfl
    . rfl
    . rfl
    . exact h.timers
    . exact h.host
    . rfl
    . exact .inl rfl
    . intro watcher hmem
      exact ⟨watcher, hmem, rfl, h.watchers watcher hmem⟩
  . intro entry hmem
    simp only [List.nil_append, List.mem_append, Option.mem_toList, Option.map_eq_some_iff,
      List.mem_cons, List.not_mem_nil, or_false] at hmem
    rcases hmem with ⟨update, hupdate, rfl⟩ | rfl | rfl
    . exact .checkUpdate hupdate
    . exact .findRuntime
    . cases hserver : l.store.settings.serverPath with
      | none => exact .chooseServer hserver
      | some jar => exact .awaitRuntime hserver
  . exact .inl h.runtime
  . intro d hcurrent
    dsimp only at hcurrent
    rw [h.distribution] at hcurrent
    cases hcurrent
  . intro runtime _
    exact .inr ⟨(.start, .findRuntime l.store.settings.javaPath), by simp, rfl⟩
  . intro runtime d _ _
    refine .inr ⟨(.start, (l.store.settings.serverPath.map .awaitRuntime).getD .chooseServer),
      by simp, ?_⟩
    cases l.store.settings.serverPath <;> rfl

theorem IsFresh.served (h : l.IsFresh) (peers : Peers) : Served l (l.begun peers) [] := by
  rw [begun_eq peers h.socket]
  exact .awaited rfl nofun nofun rfl

structure Run (l l' : Launcher) (spawned : List ServerCommand) : Prop where
  underway : Underway l l'
  served : Served l l' spawned

theorem run_turns (hsteady : l.IsSteady) (hunderway : Underway l l') (hserved : Served l l' [])
    (hcourse : ∀ t ∈ course, t.IsOwn) : Run l (l'.turns course) (l'.spawned course) := by
  induction course using List.reverseRecOn with
  | nil => exact ⟨hunderway, hserved⟩
  | append_singleton course t ih =>
    have ⟨hbefore, hserved⟩ := ih fun t ht => hcourse t (List.mem_append_left _ ht)
    have hown : t.IsOwn := hcourse t (by simp)
    have hdisregards := hsteady _ hbefore.files
    rw [turns_concat, spawned_concat]
    exact ⟨hbefore.turn hdisregards hown, hserved.turn hdisregards hbefore t⟩

theorem Served.within {commands : List ServerCommand} (h : Served l l' commands)
    {runtime : Java.Runtime} {d : Distribution}
    (hfound : l.foundOn l.world.toMachine = .ok runtime)
    (hchosen : l.chosenOn l.world.toMachine runtime = some d) :
    commands <+: (ServerCommand.startable? runtime d l.store.settings.debugPort).toList := by
  cases h with
  | awaited _ _ _ hspawned =>
    rw [hspawned]
    exact List.nil_prefix
  | started _ hfound' hchosen' hspawned =>
    rw [hfound] at hfound'
    cases hfound'
    rw [hchosen] at hchosen'
    cases hchosen'
    exact hspawned ▸ List.prefix_rfl

theorem Served.eq_nil {commands : List ServerCommand} (h : Served l l' commands)
    (hnone : ∀ runtime, l.foundOn l.world.toMachine = .ok runtime →
      l.chosenOn l.world.toMachine runtime = none) : commands = [] := by
  cases h with
  | awaited _ _ _ hspawned => exact hspawned
  | started _ hfound hchosen =>
    rw [hnone _ hfound] at hchosen
    cases hchosen

/--
A launcher that rests has nothing left to do, unless it waits for a runtime.
-/
theorem Rests.advanceTask_eq_none (h : l.Rests) {entry : Task.Origin × Task}
    (hmem : entry ∈ l.tasks) : l.advanceTask entry.2 = none := by
  obtain ⟨index, hindex, rfl⟩ := List.mem_iff_getElem.1 hmem
  have hstep := h (.advance index) id
  have hentry : l.tasks[index]? = some (l.tasks[index].1, l.tasks[index].2) :=
    List.getElem?_eq_getElem hindex
  cases hadvance : l.advanceTask l.tasks[index].2 with
  | none => rfl
  | some result => simp [step?, hentry, hadvance] at hstep

theorem Underway.currents_of_rests (h : Underway l l') (hrests : l'.Rests) {runtime : Java.Runtime}
    {d : Distribution} (hfound : l.foundOn l.world.toMachine = .ok runtime)
    (hchosen : l.chosenOn l.world.toMachine runtime = some d) :
    l'.locator.cell.current = some runtime ∧ l'.resolver.cell.current = some d := by
  have hruntime : l'.locator.cell.current = some runtime := by
    rcases h.searching runtime hfound with hcurrent | ⟨entry, hmem, hsearch⟩
    . exact hcurrent
    . have hadvance := hrests.advanceTask_eq_none hmem
      obtain ⟨configured, hsearch⟩ := Option.isSome_iff_exists.1 hsearch
      rw [eq_findRuntime_of_search? hsearch] at hadvance
      cases hadvance
  refine ⟨hruntime, ?_⟩
  rcases h.choosing runtime d hfound hchosen with hcurrent | ⟨entry, hmem, hchoice⟩
  . exact hcurrent
  . have hadvance := hrests.advanceTask_eq_none hmem
    cases htask : entry.2 with
    | awaitRuntime jar => simp [htask, advanceTask, Settled.poll, hruntime] at hadvance
    | _ =>
      rw [htask] at hadvance
      cases hadvance

theorem Underway.not_isAwaited_of_rests (h : Underway l l') (hrests : l'.Rests)
    {runtime : Java.Runtime} {d : Distribution}
    (hfound : l.foundOn l.world.toMachine = .ok runtime)
    (hchosen : l.chosenOn l.world.toMachine runtime = some d) : ¬l'.server.IsAwaited := by
  have ⟨hruntime, hdistribution⟩ := h.currents_of_rests hrests hfound hchosen
  intro hawaited
  cases hserver : l'.server with
  | awaited port kept keptDistribution =>
    -- Whatever the server still waits for could be kept, or it could be started.
    have hobserve := hrests .observeRuntime id
    have hobserve' := hrests .observeDistribution id
    have hstart := hrests .startServer id
    simp only [step?, hserver, hruntime, hdistribution] at hobserve hobserve' hstart
    cases kept with
    | none => cases hobserve
    | some kept =>
      cases keptDistribution with
      | none => cases hobserve'
      | some keptDistribution => cases hstart
  | _ =>
    rw [hserver] at hawaited
    cases hawaited

theorem Served.eq_of_rests {commands : List ServerCommand} (h : Served l l' commands)
    (hunderway : Underway l l') (hrests : l'.Rests) {runtime : Java.Runtime} {d : Distribution}
    (hfound : l.foundOn l.world.toMachine = .ok runtime)
    (hchosen : l.chosenOn l.world.toMachine runtime = some d) :
    commands = (ServerCommand.startable? runtime d l.store.settings.debugPort).toList := by
  cases h with
  | started _ hfound' hchosen' hspawned =>
    rw [hfound] at hfound'
    cases hfound'
    rw [hchosen] at hchosen'
    cases hchosen'
    exact hspawned
  | awaited hserver =>
    apply absurd _ (hunderway.not_isAwaited_of_rests hrests hfound hchosen)
    rw [hserver]
    trivial

theorem isOwn_of_moves (moves : List Move) : ∀ t ∈ moves.map Turn.move, t.IsOwn := by
  intro t ht
  obtain ⟨move, _, rfl⟩ := List.mem_map.1 ht
  trivial

/--
A course of its own can be gone on with until there is nothing left to do.
-/
theorem exists_later_rests (l : Launcher) (hcourse : ∀ t ∈ course, t.IsOwn) :
    ∃ later : List Turn, (∀ t ∈ later, t.IsOwn) ∧ (∀ t ∈ course ++ later, t.IsOwn) ∧
      (l.turns (course ++ later)).Rests := by
  obtain ⟨moves, _, hrests⟩ := exists_rests (l.turns course)
  have hmoves := isOwn_of_moves moves
  rw [← turns_append] at hrests
  refine ⟨moves.map .move, hmoves, ?_, hrests⟩
  intro t ht
  exact (List.mem_append.1 ht).elim (hcourse t) (hmoves t)

theorem spawns_of_atRest {command? : Option ServerCommand}
    (hwithin : ∀ course : List Turn, (∀ t ∈ course, t.IsOwn) →
      l.spawned course <+: command?.toList)
    (hrest : ∀ course : List Turn, (∀ t ∈ course, t.IsOwn) → (l.turns course).Rests →
      l.spawned course = command?.toList) : l.Spawns command? where
  within := hwithin
  atRest := hrest
  comes _ hcourse :=
    have ⟨later, hlater, hboth, hrests⟩ := l.exists_later_rests hcourse
    ⟨later, hlater, hrest _ hboth hrests⟩

/--
On every course of its own, what has been found and chosen is what is spawned.
-/
theorem spawns_of_run {peers : Peers}
    (hrun : ∀ course : List Turn, (∀ t ∈ course, t.IsOwn) →
      Run l ((l.begun peers).turns course) ((l.begun peers).spawned course))
    {runtime : Java.Runtime} {d : Distribution}
    (hfound : l.foundOn l.world.toMachine = .ok runtime)
    (hchosen : l.chosenOn l.world.toMachine runtime = some d) :
    (l.begun peers).Spawns (ServerCommand.startable? runtime d l.store.settings.debugPort) := by
  apply spawns_of_atRest
  . intro course hcourse
    exact (hrun course hcourse).served.within hfound hchosen
  . intro course hcourse hrests
    have hrun := hrun course hcourse
    exact hrun.served.eq_of_rests hrun.underway hrests hfound hchosen

theorem spawns_none_of_run {peers : Peers}
    (hrun : ∀ course : List Turn, (∀ t ∈ course, t.IsOwn) →
      Run l ((l.begun peers).turns course) ((l.begun peers).spawned course))
    (hnone : ∀ runtime, l.foundOn l.world.toMachine = .ok runtime →
      l.chosenOn l.world.toMachine runtime = none) : (l.begun peers).Spawns none := by
  apply spawns_of_atRest
  . intro course hcourse
    rw [(hrun course hcourse).served.eq_nil hnone]
    exact List.nil_prefix
  . intro course hcourse _
    exact (hrun course hcourse).served.eq_nil hnone

theorem spawns_begun (hfresh : l.IsFresh) (hsteady : l.IsSteady) (peers : Peers)
    {runtime : Java.Runtime} {d : Distribution}
    (hfound : l.foundOn l.world.toMachine = .ok runtime)
    (hchosen : l.chosenOn l.world.toMachine runtime = some d) :
    (l.begun peers).Spawns (ServerCommand.startable? runtime d l.store.settings.debugPort) := by
  apply spawns_of_run _ hfound hchosen
  intro course hcourse
  exact run_turns hsteady (hfresh.underway peers) (hfresh.served peers) hcourse

theorem spawns_none_begun (hfresh : l.IsFresh) (hsteady : l.IsSteady) (peers : Peers)
    (hnone : ∀ runtime, l.foundOn l.world.toMachine = .ok runtime →
      l.chosenOn l.world.toMachine runtime = none) : (l.begun peers).Spawns none := by
  apply spawns_none_of_run _ hnone
  intro course hcourse
  exact run_turns hsteady (hfresh.underway peers) (hfresh.served peers) hcourse

theorem run_resolve (locator : Java.Locator) (settings : Settings) (w : World) :
    (locator.resolve settings).run w =
      ((Java.find w.toMachine locator.places settings.javaPath,
          ((locator.settle (Java.find w.toMachine locator.places settings.javaPath)).run w).1),
        ((locator.settle (Java.find w.toMachine locator.places settings.javaPath)).run w).2) := rfl

theorem resolve_fst_eq_some_ok_iff {runtime : Java.Runtime} {d : Distribution} {w : World} :
    ((l.resolver.resolve l.store.settings (.value runtime)).run w).1.1 = some (.ok d) ↔
      l.chosenOn w.toMachine runtime = some d := by
  unfold Distribution.Resolver.resolve chosenOn
  cases l.store.settings.serverPath with
  | none =>
    show some (Except.ok (l.resolver.chooseUnconfigured w.files)) = some (.ok d) ↔ _
    simp
  | some jar =>
    dsimp only
    rw [Distribution.Resolver.run_useConfigured_value]
    cases Distribution.probe w.toMachine runtime.path jar with
    | none => simp [Distribution.Resolver.run_settleProbed_none]
    | some v => simp [Distribution.Resolver.run_settleProbed_some]

/--
What is resolved is what is found first and then chosen.
-/
theorem resolveAll_eq_ok_iff {runtime : Java.Runtime} {d : Distribution} :
    (l.resolveAll id).1 = .ok (runtime, d) ↔
      l.foundOn l.world.toMachine = .ok runtime ∧
        l.chosenOn l.world.toMachine runtime = some d := by
  unfold resolveAll foundOn
  simp only [id, ite_self, perform]
  rw [run_resolve]
  cases hfound : Java.find l.world.toMachine l.locator.places l.store.settings.javaPath with
  | error e => simp
  | ok found =>
    have hsettle : (l.locator.settle (.ok found)).run l.world =
        ({ l.locator with cell := l.locator.cell.publish found }, l.world) := rfl
    rw [hsettle]
    dsimp only
    rw [Settled.poll_publish]
    rcases hresolve : (l.resolver.resolve l.store.settings (.value found)).run l.world with
      ⟨⟨chosen, resolver⟩, w⟩
    have hchosen : ∀ chosenLater, chosen = some (.ok chosenLater) ↔
        l.chosenOn l.world.toMachine found = some chosenLater := by
      intro chosenLater
      rw [← resolve_fst_eq_some_ok_iff, hresolve]
    dsimp only
    constructor
    . intro h
      split at h <;> cases h
      exact ⟨rfl, (hchosen _).1 rfl⟩
    . intro h
      obtain ⟨hfound', hchosen'⟩ := h
      cases hfound'
      rw [(hchosen d).2 hchosen']

end Launcher

end ServerLauncher
