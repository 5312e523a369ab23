import ServerLauncher.Proofs.CommandLine.Checking
import ServerLauncher.Proofs.CommandLine.Stdio

/-!
This module contains what becomes of changes of the configuration file while the command that runs the
server is starting. The settings are loaded first, and the watcher finds out how the file is later: a
change between the two is not noticed, and all others are.
-/

namespace ServerLauncher.CommandLine.LaunchCall

open Launcher

/--
How the configuration file is at a stage: the time of its last change, and what is loaded from it.
-/
structure View where
  modified : Option Int
  contents : Except Settings.LoadError Settings
deriving DecidableEq

def Stage.view (s : Stage) (path : Path) : View :=
  ⟨s.world.files.modified? path, Settings.load s.world.files s.world.environment.home path⟩

/--
How the configuration file is at the end of a course.
-/
def viewAfter (c : LaunchCall) (w : World) (path : Path) (course : List Step) : View :=
  (c.steps (.opened w) course).view path

/--
Whoever changes the configuration file gives it a time that it has not had before.
-/
def Renews (c : LaunchCall) (w : World) (path : Path) (course : List Step) : Prop :=
  ∀ (before : List Step) (t : Step), before ++ [t] <+: course →
    c.viewAfter w path (before ++ [t]) ≠ c.viewAfter w path before →
      ∀ earlier, earlier <+: before →
        (c.viewAfter w path (before ++ [t])).modified ≠ (c.viewAfter w path earlier).modified

variable {c : LaunchCall} {w : World} {path : Path} {course start rest : List Step} {s : Stage}
  {l l' : Launcher} {next : Phase} {unwatched : Option Path} {loaded : Settings} {watcher : Watcher}

theorem Renews.of_prefix (h : c.Renews w path course) (hstart : start <+: course) :
    c.Renews w path start :=
  fun before t hbefore => h before t (hbefore.trans hstart)

/--
While a time stays, or when it comes back, the file has been the same throughout.
-/
theorem Renews.view_eq (h : c.Renews w path (start ++ rest))
    (htime : (c.viewAfter w path (start ++ rest)).modified = (c.viewAfter w path start).modified)
    {second : List Step} (hsecond : second <+: rest) :
    c.viewAfter w path (start ++ second) = c.viewAfter w path start := by
  induction rest using List.reverseRecOn generalizing second with
  | nil =>
    rw [List.prefix_nil.1 hsecond, List.append_nil]
  | append_singleton rest t ih =>
    rw [← List.append_assoc] at h htime
    -- The last step has changed nothing, or else it would have brought a new time.
    have hsame : c.viewAfter w path (start ++ rest ++ [t]) = c.viewAfter w path (start ++ rest) := by
      by_contra hne
      exact h (start ++ rest) t List.prefix_rfl hne start (List.prefix_append _ _) htime
    have hrest := h.of_prefix (List.prefix_append (start ++ rest) [t])
    rw [hsame] at htime
    rcases List.prefix_concat_iff.1 hsecond with hlast | hearlier
    . rw [hlast, ← List.append_assoc, hsame]
      exact ih hrest htime List.prefix_rfl
    . exact ih hrest htime hearlier

/--
The command has loaded settings and has not begun to watch the file yet. What comes after that is of no
account here.
-/
inductive AwaitsWatcher (c : LaunchCall) (loaded : Settings) : Stage → Prop where
  | loaded (w : World) : AwaitsWatcher c loaded (.loaded w loaded)
  | made {l : Launcher} {unwatched : Option Path} {next : Phase}
    (hstore : l.store.settings = loaded) (hwatchers : l.watchers = [])
    (hnext : next = .watch ↔ unwatched = none) : AwaitsWatcher c loaded (.made l unwatched next)
  | begun {l : Launcher} {next : Phase} (hnext : next ≠ .watch) :
    AwaitsWatcher c loaded (.made l none next)

/--
What the watcher has made of the file since it began, at `start`: it has seen no other time than at
first, or it has loaded the file as it was at some later point, if that was possible.
-/
inductive Noticed (c : LaunchCall) (w : World) (path : Path) (start : List Step) (loaded : Settings)
    (rest : List Step) (l : Launcher) (watcher : Watcher) : Prop where
  | nothing (hseen : watcher.lastSeen = (c.viewAfter w path start).modified)
    (hstore : l.store.settings = loaded) : Noticed c w path start loaded rest l watcher
  | change {second : List Step} (hsecond : second <+: rest)
    (hseen : watcher.lastSeen = (c.viewAfter w path (start ++ second)).modified)
    (hchanged : (c.viewAfter w path (start ++ second)).modified ≠
      (c.viewAfter w path start).modified)
    (hstore : ∀ settings, (c.viewAfter w path (start ++ second)).contents = .ok settings →
      l.store.settings = settings) : Noticed c w path start loaded rest l watcher

/--
The command watches the configuration file.
-/
structure Watched (c : LaunchCall) (w : World) (path : Path) (start : List Step) (loaded : Settings)
    (rest : List Step) (l : Launcher) (next : Phase) (watcher : Watcher) : Prop where
  stage : c.steps (.opened w) (start ++ rest) = .made l none next
  begun : next ≠ .watch
  watchers : l.watchers = [watcher]
  target : watcher.path = path
  due : watcher.next ≤ l.clock + Watcher.interval
  noticed : c.Noticed w path start loaded rest l watcher

/--
A launcher has begun something that does not concern the configuration.
-/
structure SameWatch (l l' : Launcher) : Prop where
  store : l'.store = l.store
  watchers : l'.watchers = l.watchers
  clock : l'.clock = l.clock
  world : l'.world = l.world

theorem sameWatch_run (l : Launcher) (peers : Peers) : SameWatch l (l.run peers) := by
  unfold Launcher.run
  dsimp only
  split
  . unfold runRelay
    split <;> exact ⟨rfl, rfl, rfl, rfl⟩
  . exact ⟨rfl, rfl, rfl, rfl⟩

theorem sameWatch_spawnUpdateCheck (l : Launcher) : SameWatch l l.spawnUpdateCheck := by
  rw [spawnUpdateCheck_eq]
  exact ⟨rfl, rfl, rfl, rfl⟩

/--
Without a watcher, no step brings other settings into use.
-/
theorem AwaitsWatcher.step (h : c.AwaitsWatcher loaded s) (hconfiguration : c.configuration = some path)
    (t : Step) : c.AwaitsWatcher loaded (c.step s t) := by
  cases h with
  | loaded w =>
    cases t with
    | make => exact .made rfl rfl (by simp)
    | _ => exact .loaded _
  | @made l unwatched next hstore hwatchers hnext =>
    have hgoes := goes_step c l unwatched next t
    generalize c.step (.made l unwatched next) t = s' at hgoes ⊢
    cases hgoes with
    | watch => exact .made hstore hwatchers (by simp [hconfiguration])
    | observe hunwatched => exact .begun (by simp [hnext, hunwatched])
    | checkUpdate hphase =>
      have hsame := sameWatch_spawnUpdateCheck l
      refine .made (hsame.store ▸ hstore) (hsame.watchers.trans hwatchers) ?_
      simp [← hnext, hphase]
    | run hphase =>
      have hsame := sameWatch_run l c.peers
      refine .made (hsame.store ▸ hstore) (hsame.watchers.trans hwatchers) ?_
      simp [← hnext, hphase]
    | move hstep =>
      cases watches_step hstep with
      | aside hstore' hwatchers' =>
        exact .made (hstore' ▸ hstore) (hwatchers'.trans hwatchers) hnext
      | look hwatcher =>
        rw [hwatchers] at hwatcher
        cases hwatcher
    | _ => exact .made hstore hwatchers hnext
  | @begun l next hnext =>
    have hgoes := goes_step c l none next t
    generalize c.step (.made l none next) t = s' at hgoes ⊢
    cases hgoes with
    | watch hphase => exact absurd hphase hnext
    | observe hunwatched => cases hunwatched
    | checkUpdate => exact .begun (by simp)
    | run => exact .begun (by simp)
    | _ => exact .begun hnext

theorem awaitsWatcher_steps (hconfiguration : c.configuration = some path)
    (h : c.AwaitsWatcher loaded s) (course : List Step) :
    c.AwaitsWatcher loaded (c.steps s course) := by
  induction course generalizing s with
  | nil => exact h
  | cons t course ih => exact ih (h.step hconfiguration t)

theorem Noticed.mono {rest' : List Step} (h : c.Noticed w path start loaded rest l watcher)
    (hrest : rest <+: rest') (hstore : l'.store = l.store) :
    c.Noticed w path start loaded rest' l' watcher := by
  cases h with
  | nothing hseen hloaded => exact .nothing hseen (hstore ▸ hloaded)
  | change hsecond hseen hchanged hsettings =>
    exact .change (hsecond.trans hrest) hseen hchanged (hstore ▸ hsettings)

/--
A look of the watcher loads the file exactly if it has another time than at the last look.
-/
theorem Noticed.look (h : c.Noticed w path start loaded rest l watcher)
    (hrenews : c.Renews w path (start ++ rest))
    (hview : c.viewAfter w path (start ++ rest) = ⟨l.world.files.modified? watcher.path,
      Settings.load l.world.files l.world.environment.home watcher.path⟩)
    (hsettings : l'.store.settings = (l.reloaded? watcher).getD l.store.settings) :
    c.Noticed w path start loaded rest l' (l.lookAt watcher).1 := by
  rw [lookAt_fst]
  have hmodified := congrArg View.modified hview
  by_cases hsame : l.world.files.modified? watcher.path = watcher.lastSeen
  . have hnone : l.reloaded? watcher = none := if_pos hsame
    rw [hnone, Option.getD_none] at hsettings
    cases h with
    | nothing hseen hstore => exact .nothing (hsame.trans hseen) (hsettings.trans hstore)
    | change hsecond hseen hchanged hstore =>
      refine .change hsecond (hsame.trans hseen) hchanged ?_
      rw [hsettings]
      exact hstore
  . have hloaded : l.reloaded? watcher =
        (c.viewAfter w path (start ++ rest)).contents.toOption := by
      rw [hview]
      exact if_neg hsame
    refine .change List.prefix_rfl hmodified.symm ?_ ?_
    . intro hback
      cases h with
      | nothing hseen =>
        rw [hmodified] at hback
        exact hsame (hback.trans hseen.symm)
      | change hsecond hseen hchanged =>
        -- The first time has not come back, since another one has been seen since.
        exact hchanged (congrArg View.modified (hrenews.view_eq hback hsecond))
    . intro settings hcontents
      rw [hsettings, hloaded, hcontents]
      rfl

/--
Right after a look, the settings in use are those of the file, unless the watcher has never seen
another time than at first.
-/
theorem Noticed.settings_iff (h : c.Noticed w path start loaded rest l watcher)
    (hrenews : c.Renews w path (start ++ rest))
    (hseen : watcher.lastSeen = (c.viewAfter w path (start ++ rest)).modified) {final : Settings}
    (hfinal : (c.viewAfter w path (start ++ rest)).contents = .ok final) :
    l.store.settings = final ↔
      (c.viewAfter w path (start ++ rest)).modified ≠ (c.viewAfter w path start).modified ∨
        loaded = final := by
  cases h with
  | nothing hfirst hstore =>
    rw [hstore]
    constructor
    . exact .inr
    . intro h
      rcases h with hchanged | hloaded
      . exact absurd (hseen.symm.trans hfirst) hchanged
      . exact hloaded
  | @change second hsecond hthen hchanged hstore =>
    have htime := hseen.symm.trans hthen
    obtain ⟨third, rfl⟩ := hsecond
    rw [← List.append_assoc] at hrenews htime hfinal ⊢
    have hview := hrenews.view_eq htime List.prefix_rfl
    rw [hview] at hfinal ⊢
    exact iff_of_true (hstore final hfinal) (.inl hchanged)

theorem Watched.view_eq (h : c.Watched w path start loaded rest l next watcher) :
    c.viewAfter w path (start ++ rest) = ⟨l.world.files.modified? watcher.path,
      Settings.load l.world.files l.world.environment.home watcher.path⟩ := by
  unfold viewAfter
  rw [h.stage, h.target]
  rfl

theorem Watched.of_same (h : c.Watched w path start loaded rest l next watcher) {t : Step}
    {next' : Phase} (hstep : c.step (.made l none next) t = .made l' none next')
    (hnext : next' ≠ .watch) (hstore : l'.store = l.store) (hwatchers : l'.watchers = l.watchers)
    (hclock : l.clock ≤ l'.clock) :
    c.Watched w path start loaded (rest ++ [t]) l' next' watcher where
  stage := by
    rw [← List.append_assoc, steps_concat, h.stage]
    exact hstep
  begun := hnext
  watchers := hwatchers.trans h.watchers
  target := h.target
  due := by
    have hdue := h.due
    omega
  noticed := h.noticed.mono (List.prefix_append rest [t]) hstore

theorem Watched.look (h : c.Watched w path start loaded rest l next watcher)
    (hrenews : c.Renews w path (start ++ rest)) {index : Nat} (hlook : l.step? (.look index) = some l') :
    c.Watched w path start loaded (rest ++ [.move (.look index)]) l' next (l.lookAt watcher).1 := by
  obtain ⟨looked, hlooked, hdue, rfl⟩ := exists_lookAt hlook
  rw [h.watchers] at hlooked
  obtain ⟨rfl, rfl⟩ : index = 0 ∧ watcher = looked := by
    cases index with
    | zero => simpa using hlooked
    | succ index => cases hlooked
  constructor
  . rw [← List.append_assoc, steps_concat, h.stage]
    show Stage.made (l.turn (.move (.look 0))) none next = _
    rw [turn_of_step?_eq_some hlook]
  . exact h.begun
  . rw [h.watchers]
    rfl
  . rw [lookAt_fst]
    exact h.target
  . rw [lookAt_fst, (surroundings_lookAt l watcher).clock]
    exact Nat.add_le_add_right hdue _
  . apply Noticed.mono _ (List.prefix_append rest [.move (.look 0)]) rfl
    exact h.noticed.look hrenews h.view_eq (settings_lookAt l watcher)

/--
From when it begins, the watcher is never lost, whatever else happens.
-/
theorem Watched.step (h : c.Watched w path start loaded rest l next watcher)
    (hrenews : c.Renews w path (start ++ rest)) (t : Step) :
    ∃ l' next' watcher', c.Watched w path start loaded (rest ++ [t]) l' next' watcher' := by
  have hnext := h.begun
  have hgoes := goes_step c l none next t
  generalize hs : c.step (.made l none next) t = s at hgoes
  cases hgoes with
  | idle => exact ⟨l, next, watcher, h.of_same hs hnext rfl rfl (Nat.le_refl _)⟩
  | watch hphase => exact absurd hphase hnext
  | observe hunwatched => cases hunwatched
  | checkUpdate =>
    have hsame := sameWatch_spawnUpdateCheck l
    exact ⟨_, .run, watcher,
      h.of_same hs (by simp) hsame.store hsame.watchers (Nat.le_of_eq hsame.clock.symm)⟩
  | run =>
    have hsame := sameWatch_run l c.peers
    exact ⟨_, .wait, watcher,
      h.of_same hs (by simp) hsame.store hsame.watchers (Nat.le_of_eq hsame.clock.symm)⟩
  | @move move l' hstep =>
    cases watches_step hstep with
    | aside hstore hwatchers =>
      exact ⟨l', next, watcher,
        h.of_same hs hnext hstore hwatchers (Nat.le_of_eq (clock_step hstep).symm)⟩
    | look => exact ⟨l', next, _, h.look hrenews hstep⟩
  | pass => exact ⟨_, next, watcher, h.of_same hs hnext rfl rfl (Nat.le_add_right _ _)⟩
  | surround => exact ⟨_, next, watcher, h.of_same hs hnext rfl rfl (Nat.le_refl _)⟩

theorem watched_steps (h : c.Watched w path start loaded [] l next watcher)
    (hrenews : c.Renews w path (start ++ rest)) :
    ∃ l' next' watcher', c.Watched w path start loaded rest l' next' watcher' := by
  induction rest using List.reverseRecOn with
  | nil => exact ⟨l, next, watcher, h⟩
  | append_singleton rest t ih =>
    rw [← List.append_assoc] at hrenews
    have hrest := hrenews.of_prefix (List.prefix_append (start ++ rest) [t])
    obtain ⟨l', next', watcher', h'⟩ := ih hrest
    exact h'.step hrest t

theorem watched_start {before gap : List Step} {w₀ : World}
    (hconfiguration : c.configuration = some path) (hload : c.steps (.opened w) before = .opened w₀)
    (hobserve : c.steps (.opened w) (before ++ .load :: gap) = .made l (some path) next) :
    c.Watched w path (before ++ .load :: gap ++ [.observe]) (settingsOf w₀ c.configuration) []
      (l.watch path) next
      ⟨path, l.world.files.modified? path, l.clock + Watcher.interval⟩ := by
  have hawaits := awaitsWatcher_steps hconfiguration
    (.loaded w₀ : c.AwaitsWatcher (settingsOf w₀ c.configuration) _) gap
  have hloaded : c.steps (.opened w) (before ++ .load :: gap) =
      c.steps (.loaded w₀ (settingsOf w₀ c.configuration)) gap := by
    rw [steps_append, hload]
    rfl
  rw [← hloaded, hobserve] at hawaits
  cases hawaits with
  | made hstore hwatchers hnext =>
    have hstage : c.steps (.opened w) (before ++ .load :: gap ++ [.observe]) =
        .made (l.watch path) none next := by
      rw [steps_concat, hobserve]
      rfl
    constructor
    . rw [List.append_nil]
      exact hstage
    . simp [hnext]
    . show l.watchers ++ _ = _
      rw [hwatchers]
      rfl
    . rfl
    . exact Nat.le_refl _
    . refine .nothing ?_ hstore
      unfold viewAfter
      rw [hstage]
      rfl

/--
The watcher looks again before long.
-/
theorem Watched.exists_look (h : c.Watched w path start loaded rest l next watcher) :
    ∃ l', (l.turn (.pass Watcher.interval)).step? (.look 0) = some l' := by
  have hheard := heard_steps c w (start ++ rest)
  rw [h.stage] at hheard
  have hdue := h.due
  have hcancelled := hheard.attended.cancelled
  simp only [turn, step?, h.watchers, List.getElem?_cons_zero]
  rw [if_pos ⟨hdue, by simp [hcancelled]⟩]
  exact ⟨_, rfl⟩

/--
Right after a look, the settings in use are those of the file, unless it is as it was when the watcher
began, and other settings had been loaded before.
-/
theorem Watched.settings_look (h : c.Watched w path start loaded rest l next watcher)
    (hrenews : c.Renews w path (start ++ rest)) (hlook : l.step? (.look 0) = some l')
    {final : Settings} (hfinal : (c.viewAfter w path (start ++ rest)).contents = .ok final) :
    l'.store.settings = final ↔
      (c.viewAfter w path (start ++ rest)).modified ≠ (c.viewAfter w path start).modified ∨
        loaded = final := by
  obtain ⟨looked, hlooked, _, rfl⟩ := exists_lookAt hlook
  rw [h.watchers] at hlooked
  cases hlooked
  have hnoticed := h.noticed.look hrenews h.view_eq (settings_lookAt l watcher)
  refine hnoticed.settings_iff hrenews ?_ hfinal
  rw [lookAt_fst, h.view_eq]

/--
Whatever happens while the command is starting, once the watcher has begun it never stops looking at
the configuration file. If each change of the file has given it a new time, a look after the last one
brings the final settings into use exactly if a change has come after the watcher began, or the settings
that were loaded are the final ones. So nothing is missed but a change between the loading and the
beginning of the watcher.
-/
theorem missed_only_in_between (c : LaunchCall) (w : World) (path : Path)
    (hconfiguration : c.configuration = some path) (before gap rest : List Step) (w₀ : World)
    (hload : c.steps (.opened w) before = .opened w₀) (l₀ : Launcher) (next₀ : Phase)
    (hobserve : c.steps (.opened w) (before ++ .load :: gap) = .made l₀ (some path) next₀)
    (hrenews : c.Renews w path (before ++ .load :: gap ++ .observe :: rest)) :
    ∃ l next, c.steps (.opened w) (before ++ .load :: gap ++ .observe :: rest) = .made l none next ∧
      (∃ l', (l.turn (.pass Watcher.interval)).step? (.look 0) = some l') ∧
      ∀ l', l.step? (.look 0) = some l' → ∀ final,
        (c.viewAfter w path (before ++ .load :: gap ++ .observe :: rest)).contents = .ok final →
          (l'.store.settings = final ↔
            (c.viewAfter w path (before ++ .load :: gap ++ .observe :: rest)).modified ≠
                (c.viewAfter w path (before ++ .load :: gap)).modified ∨
              settingsOf w₀ c.configuration = final) ∧
          ((c.viewAfter w path (before ++ .load :: gap)).modified =
              (c.viewAfter w path before).modified → l'.store.settings = final) := by
  have hcourse : before ++ .load :: gap ++ .observe :: rest =
      before ++ .load :: gap ++ [.observe] ++ rest := by
    rw [List.append_assoc _ [Step.observe] rest]
    rfl
  have hobserved : c.viewAfter w path (before ++ .load :: gap ++ [.observe]) =
      c.viewAfter w path (before ++ .load :: gap) := by
    unfold viewAfter
    rw [steps_concat, hobserve]
    rfl
  rw [hcourse] at hrenews ⊢
  obtain ⟨l, next, watcher, hwatched⟩ :=
    watched_steps (watched_start hconfiguration hload hobserve) hrenews
  refine ⟨l, next, hwatched.stage, hwatched.exists_look, ?_⟩
  intro l' hlook final hfinal
  have hiff := hwatched.settings_look hrenews hlook hfinal
  rw [hobserved] at hiff
  refine ⟨hiff, ?_⟩
  intro hgap
  rw [hiff]
  by_cases htime : (c.viewAfter w path (before ++ .load :: gap ++ [.observe] ++ rest)).modified =
      (c.viewAfter w path (before ++ .load :: gap)).modified
  . -- The file is as it was when it was loaded.
    right
    rw [List.append_assoc, List.append_assoc] at hrenews htime hfinal
    have hview := hrenews.view_eq (htime.trans hgap) List.prefix_rfl
    rw [hview] at hfinal
    have hcontents : (c.viewAfter w path before).contents =
        Settings.load w₀.files w₀.environment.home path := by
      unfold viewAfter
      rw [hload]
      rfl
    rw [hcontents] at hfinal
    rw [hconfiguration]
    exact settingsOf_of_ok (loadStrict_some_of_ok hfinal)
  . exact .inl htime

/--
A step that cannot change the configuration file.
-/
def Step.IsCalm : Step → Prop
  | .move _ | .surround _ _ _ => False
  | _ => True

theorem view_eq_of_world (s s' : Stage) (h : s'.world = s.world) (path : Path) :
    s'.view path = s.view path := by
  unfold Stage.view
  rw [h]

theorem view_step (path : Path) {t : Step} (ht : t.IsCalm) (s : Stage) :
    (c.step s t).view path = s.view path := by
  rcases s with w | ⟨w, settings⟩ | ⟨l, unwatched, next⟩
  . cases t <;> first | rfl | cases ht
  . cases t <;> first | rfl | cases ht
  . have hgoes := goes_step c l unwatched next t
    generalize c.step (.made l unwatched next) t = s' at hgoes ⊢
    cases hgoes with
    | checkUpdate =>
      exact view_eq_of_world (.made l unwatched next) (.made _ unwatched .run)
        (sameWatch_spawnUpdateCheck l).world path
    | run =>
      exact view_eq_of_world (.made l unwatched next) (.made _ unwatched .wait)
        (sameWatch_run l c.peers).world path
    | move => cases ht
    | surround => cases ht
    | _ => rfl

theorem view_steps (path : Path) {course : List Step} (hcourse : ∀ t ∈ course, t.IsCalm)
    (s : Stage) : (c.steps s course).view path = s.view path := by
  induction course generalizing s with
  | nil => rfl
  | cons t course ih =>
    have hrest := ih (fun t ht => hcourse t (List.mem_cons_of_mem _ ht)) (c.step s t)
    exact hrest.trans (view_step path (hcourse t List.mem_cons_self) s)

theorem modified_surround (s : Stage) (path : Path) (files : FileSystem) (now : Int)
    (web : Http.Web) :
    ((c.step s (.surround files now web)).view path).modified = files.modified? path := by
  rcases s with w | ⟨w, settings⟩ | ⟨l, unwatched, next⟩ <;> rfl

/--
A step that stands between calm ones in a course, and is not calm itself.
-/
theorem eq_of_not_isCalm {first second before : List Step} {edit t : Step}
    (hfirst : ∀ t ∈ first, t.IsCalm) (hsecond : ∀ t ∈ second, t.IsCalm) (ht : ¬t.IsCalm)
    (hbefore : before ++ [t] <+: first ++ edit :: second) : before = first ∧ t = edit := by
  have hget : (first ++ edit :: second)[before.length]? = some t := by
    obtain ⟨rest, hrest⟩ := hbefore
    rw [← hrest, List.append_assoc]
    simp
  rcases Nat.lt_trichotomy before.length first.length with hlt | heq | hgt
  . rw [List.getElem?_append_left hlt] at hget
    exact absurd (hfirst t (List.mem_of_getElem? hget)) ht
  . rw [heq, List.getElem?_append_right (Nat.le_refl _), Nat.sub_self] at hget
    have hprefix := (List.prefix_append before [t]).trans hbefore
    have hsame := List.prefix_of_prefix_length_le hprefix (List.prefix_append first _)
      (Nat.le_of_eq heq)
    exact ⟨hsame.eq_of_length heq, (Option.some_inj.1 hget).symm⟩
  . rw [List.getElem?_append_right (Nat.le_of_lt hgt)] at hget
    obtain ⟨n, hn⟩ := Nat.exists_eq_add_of_lt hgt
    rw [hn, Nat.add_assoc, Nat.add_sub_cancel_left, List.getElem?_cons_succ] at hget
    exact absurd (hsecond t (List.mem_of_getElem? hget)) ht

/--
A single change of the configuration file, with a new time, while everything else leaves it alone.
-/
theorem renews_of_edit (first second : List Step) {files : FileSystem} {now : Int} {web : Http.Web}
    (hfirst : ∀ t ∈ first, t.IsCalm) (hsecond : ∀ t ∈ second, t.IsCalm)
    (htime : files.modified? path ≠ w.files.modified? path) :
    c.Renews w path (first ++ .surround files now web :: second) := by
  intro before t hbefore hchange earlier hearlier
  have ht : ¬t.IsCalm := by
    intro ht
    apply hchange
    unfold viewAfter
    rw [steps_concat]
    exact view_step path ht _
  obtain ⟨rfl, rfl⟩ := eq_of_not_isCalm hfirst hsecond ht hbefore
  have hbegin : c.viewAfter w path earlier = Stage.view (.opened w) path :=
    view_steps path (fun t ht => hfirst t (hearlier.subset ht)) (.opened w)
  rw [hbegin]
  unfold viewAfter
  rw [steps_concat, modified_surround]
  exact htime

/--
The launcher of a call, when its watcher is to look again. The watcher began with some files, and there
are others now.
-/
def watchingLauncher (w : World) (path : Path) (first last : FileSystem) : Launcher :=
  let l := Launcher.ofSettings { w with host := .journal false, files := first }
    ⟨settingsOf w (some path), some path⟩
  let l := l.watch path
  { l with world := surrounded l.world last w.now w.web }.turn (.pass Watcher.interval)

theorem exists_look (w : World) (path : Path) (first last : FileSystem) :
    ∃ l', (watchingLauncher w path first last).step? (.look 0) = some l' := by
  apply Option.isSome_iff_exists.1
  simp [step?, watchingLauncher, turn, watch, Launcher.ofSettings, Launcher.new]

def replaceFiles (w : World) (files : FileSystem) : Step :=
  .surround files w.now w.web

def quietCall (path : Path) : LaunchCall :=
  ⟨fun _ _ => .error "", some path, false⟩

section

variable (w : World) (path : Path) (files : FileSystem)

theorem steps_unobserved :
    (quietCall path).steps (.opened w) ([] ++ .load :: [.make, .watch]) =
      .made (.ofSettings { w with host := .journal false } ⟨settingsOf w (some path), some path⟩)
        (some path) .checkUpdate :=
  rfl

theorem viewAfter_unobserved :
    (quietCall path).viewAfter w path ([] ++ .load :: [.make, .watch]) =
      ⟨w.files.modified? path, Settings.load w.files w.environment.home path⟩ :=
  rfl

theorem steps_late_change :
    (quietCall path).steps (.opened w) ([] ++ .load :: [.make, .watch] ++
        .observe :: [replaceFiles w files, .pass Watcher.interval]) =
      .made (watchingLauncher w path w.files files) none .checkUpdate :=
  rfl

theorem viewAfter_late_change :
    (quietCall path).viewAfter w path ([] ++ .load :: [.make, .watch] ++
        .observe :: [replaceFiles w files, .pass Watcher.interval]) =
      ⟨files.modified? path, Settings.load files w.environment.home path⟩ :=
  rfl

theorem steps_early_change :
    (quietCall path).steps (.opened w) ([.load] ++
        replaceFiles w files :: [.make, .watch, .observe, .pass Watcher.interval]) =
      .made (watchingLauncher w path files files) none .checkUpdate :=
  rfl

theorem viewAfter_early_change :
    (quietCall path).viewAfter w path ([.load] ++
        replaceFiles w files :: [.make, .watch, .observe, .pass Watcher.interval]) =
      ⟨files.modified? path, Settings.load files w.environment.home path⟩ :=
  rfl

end

/--
The file may be loaded at all times if that is possible before and after the change.
-/
theorem exists_contents_of_early_change {w : World} {path : Path} {files : FileSystem}
    {loaded final : Settings} (hloaded : Settings.load w.files w.environment.home path = .ok loaded)
    (hfinal : Settings.load files w.environment.home path = .ok final) {before : List Step}
    (hbefore : before <+: [.load] ++
      replaceFiles w files :: [.make, .watch, .observe, .pass Watcher.interval]) :
    ∃ settings, ((quietCall path).viewAfter w path before).contents = .ok settings := by
  rcases List.prefix_cons_iff.1 hbefore with rfl | ⟨second, rfl, hsecond⟩
  . exact ⟨loaded, hloaded⟩
  . rcases List.prefix_cons_iff.1 hsecond with rfl | ⟨third, rfl, hthird⟩
    . exact ⟨loaded, hloaded⟩
    . have hcalm : ∀ t ∈ third, t.IsCalm := by
        intro t ht
        have hmem := hthird.subset ht
        simp at hmem
        rcases hmem with rfl | rfl | rfl | rfl <;> trivial
      refine ⟨final, ?_⟩
      exact (congrArg View.contents (view_steps path hcalm _)).trans hfinal

/--
A watcher that began with the files that there are now loads nothing.
-/
theorem settings_early_change {w : World} {path : Path} {files : FileSystem} {l' : Launcher}
    (h : (watchingLauncher w path files files).step? (.look 0) = some l') :
    l'.store.settings = settingsOf w (some path) := by
  obtain ⟨watcher, hwatcher, _, rfl⟩ := exists_lookAt h
  cases hwatcher
  show ((watchingLauncher w path files files).lookAt _).2.store.settings = _
  rw [lookAt_of_seen rfl]
  rfl

def fileWith (text : String) (modified : Int) : FileSystem :=
  { Update.firstWorld.files with entries := [(["c"], .file text.toUTF8 modified none)] }

/--
A world with a configuration file.
-/
def configuredOnce : World :=
  { Update.firstWorld with files := fileWith "lsp.debug_port=1\nupdate.check=false" 0 }

/--
The same file with another port, some time later.
-/
def changedFile : FileSystem :=
  fileWith "lsp.debug_port=5005\nupdate.check=false" 1

def loadedSettings : Settings :=
  { debugPort := some 1, updateCheck := false }

def finalSettings : Settings :=
  { debugPort := some 5005, updateCheck := false }

theorem load_configuredOnce :
    Settings.load configuredOnce.files configuredOnce.environment.home "/c" = .ok loadedSettings := by
  decide +kernel

theorem load_changedFile :
    Settings.load changedFile configuredOnce.environment.home "/c" = .ok finalSettings := by
  decide +kernel

theorem modified_changedFile :
    changedFile.modified? "/c" ≠ configuredOnce.files.modified? "/c" := by
  decide +kernel

/--
A change right after the watcher has begun is noticed.
-/
theorem missed_only_in_between_on_late_change :
    ∃ l l', (quietCall "/c").steps (.opened configuredOnce) ([] ++ .load :: [.make, .watch] ++
        .observe :: [replaceFiles configuredOnce changedFile, .pass Watcher.interval]) =
          .made l none .checkUpdate ∧
      l.step? (.look 0) = some l' ∧ l'.store.settings = finalSettings := by
  have hrenews : (quietCall "/c").Renews configuredOnce "/c" ([] ++ .load :: [.make, .watch] ++
      .observe :: [replaceFiles configuredOnce changedFile, .pass Watcher.interval]) :=
    renews_of_edit [.load, .make, .watch, .observe] [.pass Watcher.interval]
      (by simp [Step.IsCalm]) (by simp [Step.IsCalm]) modified_changedFile
  obtain ⟨l, next, hstage, _, hlook⟩ := missed_only_in_between (quietCall "/c") configuredOnce "/c"
    rfl [] [.make, .watch] [replaceFiles configuredOnce changedFile, .pass Watcher.interval]
    configuredOnce rfl _ .checkUpdate (steps_unobserved configuredOnce "/c") hrenews
  have hmade := steps_late_change configuredOnce "/c" changedFile
  rw [hmade] at hstage
  cases hstage
  obtain ⟨l', hl'⟩ := exists_look configuredOnce "/c" configuredOnce.files changedFile
  refine ⟨_, l', hmade, hl', ?_⟩
  rw [viewAfter_late_change, viewAfter_unobserved] at hlook
  dsimp only at hlook
  exact (hlook l' hl' finalSettings load_changedFile).1.2 (.inl modified_changedFile)

/--
A change between the loading of the settings and the beginning of the watcher is not noticed, although it
has given the file a new time, and the file can be loaded before and after it.
-/
theorem exists_change_missed :
    ∃ (c : LaunchCall) (w : World) (path : Path) (course : List Step) (l l' : Launcher)
      (final : Settings), c.steps (.opened w) course = .made l none .checkUpdate ∧
        c.Renews w path course ∧
        (∀ before, before <+: course →
          ∃ settings, (c.viewAfter w path before).contents = .ok settings) ∧
        (c.viewAfter w path course).contents = .ok final ∧
        l.step? (.look 0) = some l' ∧ l'.store.settings ≠ final := by
  obtain ⟨l', hl'⟩ := exists_look configuredOnce "/c" changedFile changedFile
  refine ⟨quietCall "/c", configuredOnce, "/c", [.load] ++
    replaceFiles configuredOnce changedFile :: [.make, .watch, .observe, .pass Watcher.interval],
    _, l', finalSettings, steps_early_change configuredOnce "/c" changedFile, ?_, ?_, ?_, hl', ?_⟩
  . exact renews_of_edit [.load] [.make, .watch, .observe, .pass Watcher.interval]
      (by simp [Step.IsCalm]) (by simp [Step.IsCalm]) modified_changedFile
  . intro before hbefore
    exact exists_contents_of_early_change load_configuredOnce load_changedFile hbefore
  . rw [viewAfter_early_change]
    dsimp only
    exact load_changedFile
  . have hloaded : settingsOf configuredOnce (some "/c") = loadedSettings :=
      settingsOf_of_ok (loadStrict_some_of_ok load_configuredOnce)
    rw [settings_early_change hl', hloaded]
    decide

end ServerLauncher.CommandLine.LaunchCall
