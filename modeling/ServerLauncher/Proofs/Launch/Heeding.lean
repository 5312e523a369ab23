import ServerLauncher.Proofs.Launch.Watching
import ServerLauncher.Proofs.Settings.Loading

/-!
This module contains how a launcher follows its configuration file: it reacts to a look of the
watcher exactly if the file has another time than at the look before, or has come or gone, and so the
settings in use are always those that have been loaded last.
-/

namespace ServerLauncher.Launcher

/--
How a configuration file is when a watcher looks at it: the time of its last change if there is a
file, and what is loaded from it.
-/
structure Sight where
  modified : Option Int
  contents : Except Settings.LoadError Settings

def sight (l : Launcher) (path : Path) : Sight :=
  ⟨l.world.files.modified? path, Settings.load l.world.files l.world.environment.home path⟩

/--
What is loaded from the file as it is now, if it has changed.
-/
def Sight.loadedAfter? (now before : Sight) : Option Settings :=
  if now.modified = before.modified then none else now.contents.toOption

/--
The place of the watcher that looks at its file in a turn.
-/
def looker? (l : Launcher) : Turn → Option Nat
  | .move (.look index) => if (l.step? (.look index)).isSome then some index else none
  | _ => none

/--
How the file is whenever the watcher at a place looks at it.
-/
def sights (l : Launcher) (path : Path) (index : Nat) : List Turn → List Sight
  | [] => []
  | t :: course =>
    (if l.looker? t = some index then [l.sight path] else []) ++ (l.turn t).sights path index course

/--
How the file is when one more watcher begins, and at all its looks that follow.
-/
def observed (l : Launcher) (path : Path) (course : List Turn) : List Sight :=
  l.sight path :: (l.watch path).sights path l.watchers.length course

/--
The sights that show another time than the one before, or that the file has come or gone.
-/
def changes : List Sight → List Sight
  | first :: second :: rest =>
    if second.modified = first.modified then changes (second :: rest)
    else second :: changes (second :: rest)
  | _ => []

/--
The settings that have been loaded last, because the file had changed.
-/
def lastLoaded (l : Launcher) (path : Path) (course : List Turn) : Settings :=
  ((changes (l.observed path course)).filterMap (·.contents.toOption)).getLast?.getD
    l.store.settings

/--
What a launcher makes of how the file is now, and how it was before.
-/
inductive Response (before now : Sight) (l l' : Launcher) : Prop where
  | none (hsame : now.modified = before.modified) (hwork : SameWork l l')
    (hworld : l'.world = l.world) : Response before now l l'
  | adopts {settings : Settings} (hchanged : now.modified ≠ before.modified)
    (hcontents : now.contents = .ok settings) (hadopts : Adopts settings l l')
    (hworld : l'.world = l.world) : Response before now l l'
  | warns {e : Settings.LoadError} (hchanged : now.modified ≠ before.modified)
    (hcontents : now.contents = .error e) (hwork : SameWork l l')
    (hworld : l'.world = l.world.record
      (.notified (Notice.warning (e.message ++ ". Keeping the previous settings.")))) :
    Response before now l l'

/--
The turn does not come from elsewhere with other settings.
-/
def Turn.IsHeld : Turn → Prop
  | .apply _ => False
  | _ => True

/--
The settings in use stay the same, and none begins to wait for being quiet.
-/
structure KeepsStill (l l' : Launcher) : Prop where
  store : l'.store = l.store
  timers : ∀ key timer, l'.debouncer.timers.get? key = some timer →
    l.debouncer.timers.get? key = some timer

/--
How a launcher follows the file that its last watcher was made for, after any course.
-/
structure Heeds (l : Launcher) (path : Path) (course : List Turn) (l' : Launcher) : Prop where
  /-- At a look, the file is compared with how it was at the look before. -/
  response : ∀ l'', l'.step? (.look l.watchers.length) = some l'' → ∃ before,
    (l.observed path course).getLast? = some before ∧ Response before (l'.sight path) l' l''
  /-- Within an interval the watcher looks again, unless it has been cancelled. -/
  goesOn : ((l'.turn (.pass Watcher.interval)).step? (.look l.watchers.length)).isSome ↔
    l'.cancelled = false
  /-- Unless somebody else brings settings, those in use have been loaded last. -/
  inUse : l.watchers = [] → (∀ t ∈ course, t.IsHeld) →
    l'.store.settings = l.lastLoaded path course
  /-- Without a look, no settings come into use and none begins to wait. -/
  aside : ∀ t, t.IsHeld → l'.looker? t = none → KeepsStill l' (l'.turn t)
  /-- Where there is no file, nothing is configured. -/
  absent : l'.world.files.lookup path = .error .notFound → l'.sight path = ⟨none, .ok {}⟩
  present : ∀ location content modified program,
    l'.world.files.lookup path = .ok (location, .file content modified program) →
      l'.sight path = ⟨some modified,
        Settings.loadedFrom l'.world.environment.home path content⟩

/--
What a watcher has seen so far, of which it keeps the time of the last sight, and when it looks
next.
-/
structure Attends (l : Launcher) (path : Path) (course : List Turn) (earlier : List Sight)
    (before : Sight) (next : Nat) (l' : Launcher) : Prop where
  observed : l.observed path course = earlier ++ [before]
  length : l'.watchers.length = l.watchers.length + 1
  watcher : l'.watchers[l.watchers.length]? = some ⟨path, before.modified, next⟩
  next_le : next ≤ l'.clock + Watcher.interval
  inUse : l.watchers = [] → (∀ t ∈ course, t.IsHeld) → l'.store.settings = l.lastLoaded path course

variable {l l' l'' : Launcher} {path : Path} {course : List Turn} {t : Turn} {watcher : Watcher}
  {before : Sight} {earlier : List Sight} {next : Nat}

theorem sights_concat (l : Launcher) (path : Path) (index : Nat) (course : List Turn) (t : Turn) :
    l.sights path index (course ++ [t]) = l.sights path index course ++
      if (l.turns course).looker? t = some index then [(l.turns course).sight path] else [] := by
  induction course generalizing l with
  | nil =>
    change _ ++ [] = _
    rw [List.append_nil]
    rfl
  | cons first course ih =>
    rw [List.cons_append]
    unfold sights
    rw [ih]
    rw [List.append_assoc]
    rfl

theorem observed_concat_of_look
    (h : ((l.watch path).turns course).looker? t = some l.watchers.length) :
    l.observed path (course ++ [t]) =
      l.observed path course ++ [((l.watch path).turns course).sight path] := by
  unfold observed
  rw [sights_concat]
  rw [if_pos h]
  rfl

theorem observed_concat_of_no_look
    (h : ((l.watch path).turns course).looker? t ≠ some l.watchers.length) :
    l.observed path (course ++ [t]) = l.observed path course := by
  unfold observed
  rw [sights_concat]
  rw [if_neg h]
  rw [List.append_nil]

theorem changes_cons_cons (first second : Sight) (rest : List Sight) :
    changes (first :: second :: rest) =
      (if second.modified = first.modified then [] else [second]) ++ changes (second :: rest) := by
  conv => lhs; unfold changes
  split <;> rfl

theorem changes_concat (earlier : List Sight) (before now : Sight) :
    changes (earlier ++ [before] ++ [now]) = changes (earlier ++ [before]) ++
      if now.modified = before.modified then [] else [now] := by
  induction earlier with
  | nil =>
    change changes [before, now] = changes [before] ++ _
    rw [changes_cons_cons]
    exact List.append_nil _
  | cons first earlier ih =>
    cases earlier with
    | nil =>
      change changes [first, before, now] = changes [first, before] ++ _
      rw [changes_cons_cons, changes_cons_cons, changes_cons_cons]
      simp [changes]
    | cons second earlier =>
      simp only [List.cons_append] at ih ⊢
      rw [changes_cons_cons, changes_cons_cons]
      rw [ih]
      rw [List.append_assoc]

theorem loaded_concat (earlier : List Sight) (before now : Sight) :
    (changes (earlier ++ [before] ++ [now])).filterMap (·.contents.toOption) =
      (changes (earlier ++ [before])).filterMap (·.contents.toOption) ++
        (now.loadedAfter? before).toList := by
  rw [changes_concat]
  rw [List.filterMap_append]
  unfold Sight.loadedAfter?
  split
  . rfl
  . cases hcontents : now.contents <;> simp [hcontents, Except.toOption]

theorem lastLoaded_concat (hobserved : l.observed path course = earlier ++ [before])
    (hlook : ((l.watch path).turns course).looker? t = some l.watchers.length) :
    l.lastLoaded path (course ++ [t]) =
      ((((l.watch path).turns course).sight path).loadedAfter? before).getD
        (l.lastLoaded path course) := by
  unfold lastLoaded
  rw [observed_concat_of_look hlook]
  rw [hobserved]
  rw [loaded_concat]
  rw [List.getLast?_append]
  rw [Option.getD_or]
  cases Sight.loadedAfter? _ before <;> rfl

/--
A watcher only keeps the time of the sight before, which is enough to tell a change.
-/
theorem reloaded?_eq_loadedAfter? (l : Launcher) (watcher : Watcher)
    (hseen : watcher.lastSeen = before.modified) :
    l.reloaded? watcher = (l.sight watcher.path).loadedAfter? before := by
  unfold reloaded?
  rw [hseen]
  rfl

theorem lookAt_of_failed {e : Settings.LoadError}
    (hchanged : l.world.files.modified? watcher.path ≠ watcher.lastSeen)
    (hload : Settings.load l.world.files l.world.environment.home watcher.path = .error e) :
    (l.lookAt watcher).2 = { l with
      world := l.world.record
        (.notified (Notice.warning (e.message ++ ". Keeping the previous settings."))) } := by
  unfold lookAt
  dsimp only
  rw [if_neg hchanged]
  rw [hload]
  rfl

theorem response_lookAt (l : Launcher) (watcher : Watcher)
    (hseen : watcher.lastSeen = before.modified) (watchers : List Watcher) :
    Response before (l.sight watcher.path) l { (l.lookAt watcher).2 with watchers } := by
  by_cases hmodified : (l.sight watcher.path).modified = before.modified
  case pos =>
    rw [lookAt_of_seen (hmodified.trans hseen.symm)]
    exact .none hmodified (.setWatchers (.refl l) watchers) rfl
  case neg =>
    cases hcontents : (l.sight watcher.path).contents with
    | ok settings =>
      have hreloaded : l.reloaded? watcher = some settings := by
        rw [reloaded?_eq_loadedAfter? l watcher hseen]
        unfold Sight.loadedAfter?
        rw [if_neg hmodified, hcontents]
        rfl
      rw [lookAt_of_reloaded hreloaded]
      exact .adopts hmodified hcontents (.setWatchers (adopts_applySettings l settings) watchers)
        (world_applySettings l settings)
    | error e =>
      rw [lookAt_of_failed (hseen ▸ hmodified) hcontents]
      exact .warns hmodified hcontents ⟨⟨rfl, rfl, rfl, rfl⟩, rfl⟩ rfl

theorem KeepsStill.refl (l : Launcher) : KeepsStill l l :=
  ⟨rfl, fun _ _ h => h⟩

theorem SameWork.keepsStill (h : SameWork l l') : KeepsStill l l' := by
  constructor
  . exact h.store
  . intro key timer htimer
    rw [h.debouncer] at htimer
    exact htimer

theorem keepsStill_fired (l : Launcher) (key : Settings.Key) : KeepsStill l (l.fired key) := by
  constructor
  . rfl
  . intro other timer htimer
    change (l.debouncer.cancel key).timers.get? other = some timer at htimer
    by_cases heq : other = key
    . rw [heq] at htimer
      rw [Debouncer.get?_timers_cancel_self] at htimer
      cases htimer
    . rw [Debouncer.get?_timers_cancel_of_ne heq] at htimer
      exact htimer

theorem keepsStill_of_advance {index : Nat} (h : l.step? (.advance index) = some l') :
    KeepsStill l l' := by
  obtain ⟨_, _, _, l₁, _, hadvance, rfl⟩ := exists_advanceTask h
  obtain ⟨hstore, hdebouncer, _⟩ := store_advanceTask hadvance
  constructor
  . exact hstore
  . intro key timer htimer
    change l₁.debouncer.timers.get? key = some timer at htimer
    rw [hdebouncer] at htimer
    exact htimer

theorem keepsStill_step {move : Move} (hmove : ∀ index, move ≠ .look index)
    (h : l.step? move = some l') : KeepsStill l l' := by
  cases move with
  | fire key =>
    obtain ⟨_, _, _, rfl⟩ := step_fire h
    exact keepsStill_fired l key
  | advance index => exact keepsStill_of_advance h
  | look index => exact absurd rfl (hmove index)
  | _ => exact (sameWork_of_isAside (by trivial) h).1.keepsStill

theorem keepsStill_turn (hheld : t.IsHeld) (hlook : l.looker? t = none) :
    KeepsStill l (l.turn t) := by
  cases t with
  | move move =>
    cases hstep : l.step? move with
    | none =>
      rw [turn_of_step?_eq_none hstep]
      exact .refl l
    | some l' =>
      rw [turn_of_step?_eq_some hstep]
      refine keepsStill_step ?_ hstep
      rintro index rfl
      simp [looker?, hstep] at hlook
  | apply settings => cases hheld
  | _ => exact ⟨rfl, fun _ _ h => h⟩

/--
Only a look of a watcher changes it, while time never goes back.
-/
theorem watchers_turn (l : Launcher) (t : Turn) :
    (l.turn t).watchers.length = l.watchers.length ∧ l.clock ≤ (l.turn t).clock ∧
      ∀ index, l.looker? t ≠ some index → (l.turn t).watchers[index]? = l.watchers[index]? := by
  cases t with
  | move move =>
    cases hstep : l.step? move with
    | none =>
      rw [turn_of_step?_eq_none hstep]
      exact ⟨rfl, Nat.le_refl _, fun _ _ => rfl⟩
    | some l' =>
      rw [turn_of_step?_eq_some hstep, clock_step hstep]
      cases watches_step hstep with
      | aside _ hwatchers =>
        rw [hwatchers]
        exact ⟨rfl, Nat.le_refl _, fun _ _ => rfl⟩
      | @look index _ watcher _ _ _ hwatchers =>
        rw [hwatchers]
        refine ⟨List.length_set, Nat.le_refl _, ?_⟩
        intro other hother
        apply List.getElem?_set_ne
        rintro rfl
        simp [looker?, hstep] at hother
  | apply settings =>
    have hsame := surroundings_applySettings l settings
    exact ⟨congrArg List.length hsame.watchers, Nat.le_of_eq hsame.clock.symm,
      fun index _ => congrArg (·[index]?) hsame.watchers⟩
  | pass milliseconds => exact ⟨rfl, Nat.le_add_right _ _, fun _ _ => rfl⟩
  | _ => exact ⟨rfl, Nat.le_refl _, fun _ _ => rfl⟩

theorem exists_step_of_looker? {index : Nat} (h : l.looker? t = some index) :
    ∃ l', t = .move (.look index) ∧ l.step? (.look index) = some l' := by
  unfold looker? at h
  split at h
  . split at h <;> cases h
    next hstep =>
    obtain ⟨l', hstep⟩ := Option.isSome_iff_exists.1 hstep
    exact ⟨l', rfl, hstep⟩
  . cases h

namespace Attends

theorem start (l : Launcher) (path : Path) :
    Attends l path [] [] (l.sight path) (l.clock + Watcher.interval) (l.watch path) where
  observed := rfl
  length := List.length_append
  watcher := List.getElem?_concat_length
  next_le := Nat.le_refl _
  inUse := fun _ _ => rfl

theorem lookAt (h : Attends l path course earlier before next l')
    (hstep : l'.step? (.look l.watchers.length) = some l'') :
    next ≤ l'.clock ∧ l'' = { (l'.lookAt ⟨path, before.modified, next⟩).2 with
      watchers := l'.watchers.set l.watchers.length
        ⟨path, (l'.sight path).modified, next + Watcher.interval⟩ } := by
  obtain ⟨watcher, hwatcher, hdue, rfl⟩ := exists_lookAt hstep
  rw [h.watcher] at hwatcher
  cases hwatcher
  refine ⟨hdue, ?_⟩
  rw [lookAt_fst]
  rfl

/--
Where there is no other watcher, settings come into use only by a look of this one.
-/
theorem looker?_eq_none (h : Attends l path course earlier before next l')
    (hwatchers : l.watchers = []) (hlook : l'.looker? t ≠ some l.watchers.length) : l'.looker? t = none := by
  cases hlooker : l'.looker? t with
  | none => rfl
  | some index =>
    obtain ⟨l'', rfl, hstep⟩ := exists_step_of_looker? hlooker
    obtain ⟨watcher, hwatcher, _⟩ := exists_lookAt hstep
    obtain ⟨hindex, _⟩ := List.getElem?_eq_some_iff.1 hwatcher
    have hlength := h.length
    have hfirst : l.watchers.length = 0 := congrArg List.length hwatchers
    have hself : index = l.watchers.length := by omega
    subst hself
    exact absurd hlooker hlook

theorem step (h : Attends l path course earlier before next ((l.watch path).turns course))
    (t : Turn) : ∃ earlier before next, Attends l path (course ++ [t]) earlier before next
      (((l.watch path).turns course).turn t) := by
  obtain ⟨hlength, hclock, hothers⟩ := watchers_turn ((l.watch path).turns course) t
  by_cases hlook : ((l.watch path).turns course).looker? t = some l.watchers.length
  case neg =>
    have hobserved := observed_concat_of_no_look hlook
    refine ⟨earlier, before, next, hobserved.trans h.observed, hlength.trans h.length,
      (hothers _ hlook).trans h.watcher, ?_, ?_⟩
    . exact Nat.le_trans h.next_le (Nat.add_le_add_right hclock _)
    . intro hwatchers hheld
      rw [List.forall_mem_append, List.forall_mem_singleton] at hheld
      unfold lastLoaded
      rw [(keepsStill_turn hheld.2 (h.looker?_eq_none hwatchers hlook)).store]
      rw [h.inUse hwatchers hheld.1]
      rw [hobserved]
      rfl
  case pos =>
    obtain ⟨l'', rfl, hstep⟩ := exists_step_of_looker? hlook
    rw [turn_of_step?_eq_some hstep] at hlength ⊢
    obtain ⟨hdue, rfl⟩ := h.lookAt hstep
    refine ⟨earlier ++ [before], ((l.watch path).turns course).sight path, next + Watcher.interval,
      ?_, hlength.trans h.length, ?_, ?_, ?_⟩
    . rw [observed_concat_of_look hlook, h.observed]
    . apply List.getElem?_set_self
      rw [h.length]
      exact Nat.lt_succ_self _
    . rw [clock_step hstep]
      exact Nat.add_le_add_right hdue _
    . intro hwatchers hheld
      rw [List.forall_mem_append] at hheld
      rw [lastLoaded_concat h.observed hlook]
      rw [← h.inUse hwatchers hheld.1]
      rw [← reloaded?_eq_loadedAfter? _ ⟨path, before.modified, next⟩ rfl]
      exact settings_lookAt _ ⟨path, before.modified, next⟩

theorem exists_of_turns (l : Launcher) (path : Path) (course : List Turn) :
    ∃ earlier before next,
      Attends l path course earlier before next ((l.watch path).turns course) := by
  induction course using List.reverseRecOn with
  | nil => exact ⟨_, _, _, start l path⟩
  | append_singleton course t ih =>
    obtain ⟨earlier, before, next, hattends⟩ := ih
    rw [turns_concat]
    exact hattends.step t

variable (h : Attends l path course earlier before next l')

include h

theorem isSome_look_iff :
    ((l'.turn (.pass Watcher.interval)).step? (.look l.watchers.length)).isSome ↔
      l'.cancelled = false := by
  have hdue := h.next_le
  simp [turn, step?, h.watcher, hdue]

theorem response (hstep : l'.step? (.look l.watchers.length) = some l'') :
    (l.observed path course).getLast? = some before ∧ Response before (l'.sight path) l' l'' := by
  obtain ⟨_, rfl⟩ := h.lookAt hstep
  constructor
  . rw [h.observed]
    exact List.getLast?_concat
  . exact response_lookAt l' ⟨path, before.modified, next⟩ rfl _

end Attends

theorem sight_of_absent (h : l.world.files.lookup path = .error .notFound) :
    l.sight path = ⟨none, .ok {}⟩ := by
  unfold sight FileSystem.modified?
  rw [h, Settings.load_of_notFound h]

theorem sight_of_present {location : Location} {content : ByteArray} {modified : Int}
    {program : Option Program}
    (h : l.world.files.lookup path = .ok (location, .file content modified program)) :
    l.sight path = ⟨some modified,
      Settings.loadedFrom l.world.environment.home path content⟩ := by
  have hmodified : l.world.files.modified? path = some modified := by
    unfold FileSystem.modified?
    rw [h]
  have hread : l.world.files.read path = .ok content := by
    unfold FileSystem.read
    rw [h]
    rfl
  unfold sight
  rw [hmodified, Settings.load_of_read hread]

/--
A launcher follows the file that it watches through all changes, whatever else it does.
-/
theorem heeds_of_watch (l : Launcher) (path : Path) (course : List Turn) :
    Heeds l path course ((l.watch path).turns course) := by
  obtain ⟨_, before, _, hattends⟩ := Attends.exists_of_turns l path course
  constructor
  case response =>
    intro l'' hstep
    exact ⟨before, hattends.response hstep⟩
  case goesOn => exact hattends.isSome_look_iff
  case inUse => exact hattends.inUse
  case aside =>
    intro t
    exact keepsStill_turn
  case absent => exact sight_of_absent
  case present =>
    intro location content modified program
    exact sight_of_present

/--
A world with nothing but a configuration file.
-/
def worldWithFile (text : String) (modified : Int) : World where
  files := {
    entries := [(["config"], .file text.toUTF8 modified none)]
    workingDirectory := []
    temporaryDirectory := "/tmp"
    device := fun _ => 0 }
  environment := {}
  executable := "/launcher"
  now := 0
  web := fun _ _ => none
  host := .steady true
  events := []

/--
The file gets other contents, and the watcher looks at it.
-/
def rewritten (text : String) (modified : Int) : List Turn :=
  let w := worldWithFile text modified
  [.surround w.toMachine w.now w.web w.host, .pass Watcher.interval, .move (.look 0)]

def beforeRepair : Launcher :=
  .ofSettings (worldWithFile "update.check=false" 5) ⟨{ updateCheck := false }, some "/config"⟩

/--
The file is broken, and is repaired with a time that lies further back.
-/
def repairCourse : List Turn :=
  rewritten "update.check" 7 ++ rewritten "lsp.debug_port=1" 3

theorem heeds_of_watch_on_repairCourse :
    beforeRepair.watchers = [] ∧ (∀ t ∈ repairCourse, t.IsHeld) ∧
      beforeRepair.lastLoaded "/config" repairCourse = { debugPort := some 1 } ∧
      ((beforeRepair.watch "/config").turns repairCourse).store.settings =
        { debugPort := some 1 } := by
  have hheld : ∀ t ∈ repairCourse, t.IsHeld := by
    simp [repairCourse, rewritten, Turn.IsHeld]
  have hloaded : beforeRepair.lastLoaded "/config" repairCourse = { debugPort := some 1 } := by
    decide +kernel
  have hinUse := (heeds_of_watch beforeRepair "/config" repairCourse).inUse rfl hheld
  exact ⟨rfl, hheld, hloaded, hinUse.trans hloaded⟩

end ServerLauncher.Launcher
