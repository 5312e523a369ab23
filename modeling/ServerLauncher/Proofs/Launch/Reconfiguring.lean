import Mathlib.Data.List.Chain
import Mathlib.Data.List.Induction
import ServerLauncher.Proofs.Launch.Replacement
import ServerLauncher.Proofs.Launch.Searching

/-!
This module contains how a launcher comes by another runtime while its settings change: it is searched
for exactly when the configured path has been quiet for the window, with the settings of that moment.
-/

namespace ServerLauncher.Launcher

/--
Which sign may come directly after which. A reconfiguration begins one window after the change that it
follows, and a change comes in between only within the window. A search belongs to the
reconfiguration before it.
-/
inductive Paces (window : Nat) : Sign → Sign → Prop where
  | again {time later : Nat} (hle : time ≤ later) (hwindow : later ≤ time + window) :
    Paces window (.reported time) (.reported later)
  | begin (time : Nat) (settings : Settings) :
    Paces window (.reported time) (.begun (time + window) settings)
  | search {time later : Nat} {settings : Settings} {path : Path} {machine : Machine}
    (hle : time ≤ later) (hset : settings.javaPath = some path) :
    Paces window (.begun time settings) (.searched later ⟨some path, machine⟩)
  | interrupt {time later : Nat} {settings : Settings} (hle : time ≤ later) :
    Paces window (.begun time settings) (.reported later)
  | next {time later : Nat} {search : Java.Search} (hle : time ≤ later) :
    Paces window (.searched time search) (.reported later)

def lastSearch (last : Java.Search) : List Sign → Java.Search
  | [] => last
  | .searched _ search :: signs => lastSearch search signs
  | _ :: signs => lastSearch last signs

/--
The time that passes in a turn does not go beyond the moment at which a reconfiguration of the runtime
is due.
-/
def IsTimely (l : Launcher) (t : Turn) : Prop :=
  ∀ time, l.debouncer.timers.get? .javaPath = some (time, ()) → 0 < t.duration →
    l.clock + t.duration ≤ time

def Punctual (l : Launcher) : List Turn → Prop
  | [] => True
  | t :: course => l.IsTimely t ∧ (l.turn t).Punctual course

/--
The runtime has been searched for, and there is nothing left to do about it: no change waits and no
search is going on. The last search was for the configured path, if there is one, and what it found
is in use.
-/
structure HasSearched (l : Launcher) (last : Java.Search) : Prop where
  notPending : l.debouncer.timers.get? .javaPath = none
  notSearching : l.searches = []
  attempted : ∀ path, l.store.settings.javaPath = some path →
    ∃ attempted, last.configured = some attempted ∧ attempted.sameAs path
  found : ∀ runtime, last.find l.locator.places = .ok runtime → l.locator.cell.current = some runtime

/--
How far a launcher has come with the runtime behind the last sign, if there was one since `last`.
-/
inductive RuntimeStage (l : Launcher) (last : Java.Search) : Option Sign → Prop where
  | ready (h : l.HasSearched last) : RuntimeStage l last none
  | waiting {time : Nat} (hbefore : time ≤ l.clock)
    (hdue : l.clock ≤ time + l.debouncer.window)
    (htimer : l.debouncer.timers.get? .javaPath = some (time + l.debouncer.window, ()))
    (hsearches : l.searches = []) : RuntimeStage l last (some (.reported time))
  | begun {time : Nat} {settings : Settings} (hbefore : time ≤ l.clock)
    (htimer : l.debouncer.timers.get? .javaPath = none)
    (hsame : SameJar settings.javaPath l.store.settings.javaPath)
    (hsearches : l.searches =
      (settings.javaPath.map fun path => (.change .javaPath, some path)).toList) :
    RuntimeStage l last (some (.begun time settings))
  | searched {time : Nat} {search : Java.Search} (hbefore : time ≤ l.clock)
    (h : l.HasSearched search) : RuntimeStage l last (some (.searched time search))

/--
Nothing has changed about the runtime but the time, which has not gone beyond what is due.
-/
structure SameSearching (l l' : Launcher) : Prop where
  timer : l'.debouncer.timers.get? .javaPath = l.debouncer.timers.get? .javaPath
  window : l'.debouncer.window = l.debouncer.window
  searches : l'.searches = l.searches
  javaPath : SameJar l.store.settings.javaPath l'.store.settings.javaPath
  locator : l'.locator = l.locator
  clock : l.clock ≤ l'.clock
  timely : ∀ time, l.debouncer.timers.get? .javaPath = some (time, ()) → l.clock < l'.clock →
    l'.clock ≤ time

variable {l l' : Launcher} {t : Turn} {last : Java.Search} {sign : Option Sign}

theorem punctual_concat (course : List Turn) (t : Turn) :
    l.Punctual (course ++ [t]) ↔ l.Punctual course ∧ (l.turns course).IsTimely t := by
  induction course generalizing l with
  | nil => simp [Punctual, turns]
  | cons first course ih =>
    simp only [List.cons_append, Punctual]
    rw [ih]
    exact and_assoc.symm

theorem lastSearch_concat (signs : List Sign) (sign : Sign) :
    lastSearch last (signs ++ [sign]) = lastSearch (lastSearch last signs) [sign] := by
  induction signs generalizing last with
  | nil => rfl
  | cons first signs ih => cases first <;> exact ih

theorem SameSearching.of_clock_eq
    (htimer : l'.debouncer.timers.get? .javaPath = l.debouncer.timers.get? .javaPath)
    (hwindow : l'.debouncer.window = l.debouncer.window) (hsearches : l'.searches = l.searches)
    (hjava : SameJar l.store.settings.javaPath l'.store.settings.javaPath)
    (hlocator : l'.locator = l.locator) (hclock : l'.clock = l.clock) : SameSearching l l' := by
  refine ⟨htimer, hwindow, hsearches, hjava, hlocator, Nat.le_of_eq hclock.symm, ?_⟩
  intro _ _ hlt
  rw [hclock] at hlt
  exact absurd hlt (Nat.lt_irrefl _)

theorem HasSearched.of_same {search : Java.Search} (h : l.HasSearched search)
    (hsame : SameSearching l l') : l'.HasSearched search where
  notPending := hsame.timer.trans h.notPending
  notSearching := hsame.searches.trans h.notSearching
  attempted := by
    intro path hpath
    have hjava := hsame.javaPath
    rw [hpath] at hjava
    cases hbefore : l.store.settings.javaPath with
    | none =>
      rw [hbefore] at hjava
      cases hjava
    | some before =>
      rw [hbefore] at hjava
      have ⟨attempted, hconfigured, hattempted⟩ := h.attempted before hbefore
      refine ⟨attempted, hconfigured, ?_⟩
      rw [Path.sameAs_iff] at *
      exact hattempted.trans (Path.sameAs_iff.1 hjava)
  found := by
    intro runtime
    rw [hsame.locator]
    exact h.found runtime

theorem RuntimeStage.of_same (h : RuntimeStage l last sign) (hsame : SameSearching l l') :
    RuntimeStage l' last sign := by
  have hclock := hsame.clock
  cases h with
  | ready h => exact .ready (h.of_same hsame)
  | waiting hbefore hdue htimer hsearches =>
    have htimely := hsame.timely _ htimer
    apply RuntimeStage.waiting
    . omega
    . rw [hsame.window]
      omega
    . rw [hsame.timer, hsame.window]
      exact htimer
    . exact hsame.searches.trans hsearches
  | begun hbefore htimer hjava hsearches =>
    apply RuntimeStage.begun
    . omega
    . exact hsame.timer.trans htimer
    . exact hjava.trans hsame.javaPath
    . exact hsame.searches.trans hsearches
  | searched hbefore h => exact .searched (by omega) (h.of_same hsame)

theorem RuntimeStage.origin_of_mem (h : RuntimeStage l last sign)
    {search : Task.Origin × Option Path} (hmem : search ∈ l.searches) :
    search.1 = .change .javaPath := by
  cases h with
  | ready h =>
    rw [h.notSearching] at hmem
    cases hmem
  | waiting _ _ _ hsearches =>
    rw [hsearches] at hmem
    cases hmem
  | begun _ _ _ hsearches =>
    rw [hsearches, Option.mem_toList, Option.map_eq_some_iff] at hmem
    obtain ⟨path, _, rfl⟩ := hmem
    rfl
  | searched _ h =>
    rw [h.notSearching] at hmem
    cases hmem

theorem RuntimeStage.origin_of_mem_tasks (h : RuntimeStage l last sign)
    {entry : Task.Origin × Task} (hmem : entry ∈ l.tasks) {search : Task.Origin × Option Path}
    (hsearch : searchOf? entry = some search) : entry.1 = .change .javaPath := by
  have horigin := h.origin_of_mem (List.mem_filterMap.2 ⟨entry, hmem, hsearch⟩)
  obtain ⟨configured, _, rfl⟩ := Option.map_eq_some_iff.1 hsearch
  exact horigin

theorem searches_of_keptTasks {keys : List Settings.Key} (h : RuntimeStage l last sign)
    (htasks : l'.tasks = keptTasks keys l.tasks) :
    l'.searches = if .javaPath ∈ keys then [] else l.searches := by
  unfold searches
  rw [htasks, keptTasks]
  -- Every search belongs to a change of the path, so all of them are given up or none.
  split
  . next hmem =>
    apply List.filterMap_eq_nil_iff.2
    intro entry hentry
    obtain ⟨hentry, hkept⟩ := List.mem_filter.1 hentry
    apply Option.eq_none_iff_forall_ne_some.2
    intro search hsearch
    exact of_decide_eq_true hkept _ hmem (.inl rfl) (h.origin_of_mem_tasks hentry hsearch)
  . next hmem =>
    rw [List.filterMap_filter]
    apply List.filterMap_congr
    intro entry hentry
    split
    . rfl
    . next hkept =>
      apply Eq.symm
      apply Option.eq_none_iff_forall_ne_some.2
      intro search hsearch
      apply hkept
      apply decide_eq_true
      intro key hkey _ heq
      rw [h.origin_of_mem_tasks hentry hsearch] at heq
      cases heq
      exact hmem hkey

theorem sameSearching_of_adopts {settings : Settings} (h : RuntimeStage l last sign)
    (hadopts : Adopts settings l l') (hkey : .javaPath ∉ l.store.settings.changedKeys settings) :
    SameSearching l l' := by
  refine .of_clock_eq ?_ hadopts.window ?_ ?_ hadopts.locator hadopts.clock
  . rw [hadopts.timer]
    rw [if_neg fun hlive => hkey hlive.1]
  . rw [searches_of_keptTasks h hadopts.tasks]
    rw [if_neg hkey]
  . rw [hadopts.inUse]
    rw [Settings.mem_changedKeys, Bool.not_eq_false] at hkey
    exact hkey

/--
What a turn does to the runtime: nothing that leaves a sign, or one that may come behind the last.
-/
inductive Paced (l : Launcher) (last : Java.Search) (before : Option Sign) (l' : Launcher) :
    Option Sign → Prop where
  | none (h : RuntimeStage l' last before) : Paced l last before l' none
  | sign {sign : Sign} (hpaces : ∀ first ∈ before, Paces l.debouncer.window first sign)
    (hreported : before = .none → ∃ time, sign = .reported time)
    (h : RuntimeStage l' last (some sign)) : Paced l last before l' (some sign)

theorem paced_of_adopts {settings : Settings} (h : RuntimeStage l last sign)
    (hadopts : Adopts settings l l') : Paced l last sign l'
      (if .javaPath ∈ l.store.settings.changedKeys settings then some (.reported l.clock)
        else none) := by
  split
  . next hkey =>
    apply Paced.sign
    . intro first hfirst
      cases hfirst
      cases h with
      | waiting hbefore hdue => exact .again hbefore hdue
      | begun hbefore => exact .interrupt hbefore
      | searched hbefore => exact .next hbefore
    . intro _
      exact ⟨_, rfl⟩
    . apply RuntimeStage.waiting
      . exact Nat.le_of_eq hadopts.clock.symm
      . rw [hadopts.clock]
        exact Nat.le_add_right _ _
      . rw [hadopts.timer, hadopts.window]
        exact if_pos ⟨hkey, .inl rfl⟩
      . rw [searches_of_keptTasks h hadopts.tasks]
        rw [if_pos hkey]
  . next hkey => exact .none (h.of_same (sameSearching_of_adopts h hadopts hkey))

theorem RuntimeStage.waiting_of_timer {time : Nat} (h : RuntimeStage l last sign)
    (htimer : l.debouncer.timers.get? .javaPath = some (time, ())) :
    ∃ reported, sign = some (.reported reported) ∧ time = reported + l.debouncer.window ∧
      l.clock ≤ time ∧ l.searches = [] := by
  cases h with
  | waiting _ hdue htimer' hsearches =>
    rw [htimer'] at htimer
    cases htimer
    exact ⟨_, rfl, rfl, hdue, hsearches⟩
  | ready h =>
    rw [h.notPending] at htimer
    cases htimer
  | begun _ htimer' =>
    rw [htimer'] at htimer
    cases htimer
  | searched _ h =>
    rw [h.notPending] at htimer
    cases htimer

theorem paced_of_fire {key : Settings.Key} {time : Nat} (h : RuntimeStage l last sign)
    (htimer : l.debouncer.timers.get? key = some (time, ())) (hdue : time ≤ l.clock) :
    Paced l last sign (l.fired key)
      (if key = .javaPath then some (.begun l.clock l.store.settings) else none) := by
  have hsearches := searches_fired l key
  split
  . next hkey =>
    cases hkey
    obtain ⟨reported, rfl, htime, hlate, hidle⟩ := h.waiting_of_timer htimer
    -- It is due, and not late either, so that the window has passed to the millisecond.
    have hclock : l.clock = reported + l.debouncer.window :=
      (Nat.le_antisymm hlate hdue).trans htime
    apply Paced.sign
    . intro first hfirst
      cases hfirst
      rw [hclock]
      exact .begin _ _
    . nofun
    . apply RuntimeStage.begun
      . exact Nat.le_refl _
      . exact Debouncer.get?_timers_cancel_self _ _
      . exact .refl _
      . rw [hsearches, hidle]
        rfl
  . next hkey =>
    refine .none (h.of_same (.of_clock_eq ?_ rfl ?_ (.refl _) rfl rfl))
    . exact Debouncer.get?_timers_cancel_of_ne (Ne.symm hkey) _
    . rw [hsearches, if_neg hkey, List.append_nil]

theorem RuntimeStage.begun_of_mem {origin : Task.Origin} {configured : Option Path}
    (h : RuntimeStage l last sign) (hmem : (origin, configured) ∈ l.searches) :
    ∃ time settings path, sign = some (.begun time settings) ∧ time ≤ l.clock ∧
      l.debouncer.timers.get? .javaPath = none ∧ settings.javaPath = some path ∧
      SameJar (some path) l.store.settings.javaPath ∧ configured = some path ∧
      l.searches = [(origin, configured)] := by
  cases h with
  | ready h =>
    rw [h.notSearching] at hmem
    cases hmem
  | waiting _ _ _ hsearches =>
    rw [hsearches] at hmem
    cases hmem
  | searched _ h =>
    rw [h.notSearching] at hmem
    cases hmem
  | begun hbefore htimer hsame hsearches =>
    rw [hsearches] at hmem
    obtain ⟨path, hpath, heq⟩ := Option.map_eq_some_iff.1 (Option.mem_toList.1 hmem)
    cases heq
    rw [hpath] at hsearches hsame
    exact ⟨_, _, path, rfl, hbefore, htimer, hpath, hsame, rfl, hsearches⟩

theorem paced_of_search {index : Nat} {origin : Task.Origin} {configured : Option Path}
    (h : RuntimeStage l last sign)
    (hentry : l.tasks[index]? = some (origin, .findRuntime configured)) :
    Paced l last sign { l.findRuntime configured with tasks := l.tasks.eraseIdx index }
      (some (.searched l.clock ⟨configured, l.world.toMachine⟩)) := by
  obtain ⟨time, settings, path, rfl, hbefore, htimer, hpath, hsame, rfl, hsingle⟩ :=
    h.begun_of_mem (mem_searches hentry)
  have ⟨_, hrest⟩ := searches_findRuntime hentry hsingle
  apply Paced.sign
  . intro before hmem
    cases hmem
    exact .search hbefore hpath
  . nofun
  . apply RuntimeStage.searched
    . exact Nat.le_refl _
    . constructor
      . exact htimer
      . exact hrest
      . intro used hused
        refine ⟨path, rfl, ?_⟩
        have hused' : l.store.settings.javaPath = some used := hused
        rw [hused'] at hsame
        exact hsame
      . intro runtime hfind
        exact current_findRuntime hfind

theorem sameSearching_of_advance {index : Nat} {origin : Task.Origin} {task : Task}
    {left : Option Task} {l₁ : Launcher} (hentry : l.tasks[index]? = some (origin, task))
    (hadvance : l.advanceTask task = some (left, l₁)) (hsearch : task.search? = none) :
    SameSearching l
      { l₁ with tasks := l.tasks.eraseIdx index ++ (left.map (origin, ·)).toList } := by
  have ⟨hstore, hdebouncer, _⟩ := store_advanceTask hadvance
  have hclock := (surroundings_advanceTask hadvance).clock
  have hlocator := locator_advanceTask hsearch hadvance
  refine .of_clock_eq ?_ ?_ ?_ ?_ hlocator hclock
  . rw [hdebouncer]
  . rw [hdebouncer]
  . exact searches_advance hentry hadvance hsearch
  . rw [hstore]
    exact .refl _

theorem paced_turn (h : RuntimeStage l last sign) (htimely : l.IsTimely t) :
    Paced l last sign (l.turn t) (l.sign? t) := by
  have hwork := work_turn l t
  generalize hturn : l.turn t = l' at hwork
  cases hwork with
  | rest happlied hfire hadvance hclock _ hsame =>
    rw [sign?_of_rest happlied hfire hadvance]
    refine .none (h.of_same ⟨?_, ?_, ?_, ?_, hsame.locator, ?_, ?_⟩)
    . rw [hsame.debouncer]
    . rw [hsame.debouncer]
    . unfold searches
      rw [hsame.tasks]
    . rw [hsame.store]
      exact .refl _
    . omega
    . intro time htimer hlt
      have hle := htimely time htimer
      omega
  | adopt settings happlied hadopts =>
    rw [sign?_of_applied happlied]
    exact paced_of_adopts h hadopts
  | fire htimer hdue =>
    rw [sign?_of_fire htimer hdue]
    exact paced_of_fire h htimer hdue
  | @advance index origin task _ _ hentry hadvance =>
    rw [sign?_of_advance hentry]
    cases hsearch : task.search? with
    | none => exact .none (h.of_same (sameSearching_of_advance hentry hadvance hsearch))
    | some configured =>
      rw [eq_findRuntime_of_search? hsearch] at hentry hadvance
      cases hadvance
      rw [Option.map_none, Option.toList_none, List.append_nil]
      exact paced_of_search h hentry

/--
How the search for a runtime goes on a course: `last` was the last search before it.
-/
structure Reconfigures (l : Launcher) (last : Java.Search) (course : List Turn) : Prop where
  /-- A reconfiguration begins one window after a change, unless there is another one before. -/
  paces : (l.signs course).IsChain (Paces l.debouncer.window)
  reported : ∀ sign ∈ (l.signs course).head?, ∃ time, sign = .reported time
  notLate : ∀ time, (l.signs course).getLast? = some (.reported time) →
    (l.turns course).clock ≤ time + l.debouncer.window
  /-- Nothing but the searches changes the cell. -/
  cell : (l.turns course).locator.cell =
    (l.signs course).foldl (Sign.publish l.locator.places) l.locator.cell
  unaffected : (∀ time, .reported time ∉ l.signs course) →
    (l.turns course).locator.cell = l.locator.cell
  pending_iff : (l.turns course).debouncer.isPending .javaPath ↔
    ∃ time, (l.signs course).getLast? = some (.reported time)
  /-- In the end, the configured path is the one that was searched for last. -/
  attempted : ¬(l.turns course).debouncer.isPending .javaPath → (l.turns course).searches = [] →
    ∀ path, (l.turns course).store.settings.javaPath = some path →
      ∃ attempted, (lastSearch last (l.signs course)).configured = some attempted ∧
        attempted.sameAs path ∧
        ∀ runtime,
          Java.probe (lastSearch last (l.signs course)).machine attempted = some runtime →
          Java.minimumVersion ≤ runtime.version →
          (l.turns course).locator.cell.current = some runtime

/--
The state behind a course, as far as the runtime is concerned.
-/
structure RuntimeRun (l : Launcher) (last : Java.Search) (course : List Turn) : Prop where
  window : (l.turns course).debouncer.window = l.debouncer.window
  chain : (l.signs course).IsChain (Paces l.debouncer.window)
  head : ∀ sign ∈ (l.signs course).head?, ∃ time, sign = .reported time
  stage : RuntimeStage (l.turns course) last (l.signs course).getLast?

theorem runtimeRun_turns (hsearched : l.HasSearched last) {course : List Turn}
    (hpunctual : l.Punctual course) : RuntimeRun l last course := by
  induction course using List.reverseRecOn with
  | nil =>
    constructor
    . rfl
    . exact .nil
    . intro sign hsign
      cases hsign
    . exact .ready hsearched
  | append_singleton course t ih =>
    -- From the end, because the stage behind the last sign says which sign may come next.
    have ⟨hcourse, htimely⟩ := (punctual_concat course t).1 hpunctual
    have hrun := ih hcourse
    have hturn := paced_turn hrun.stage htimely
    generalize hsign : (l.turns course).sign? t = sign at hturn
    have hsigns := signs_concat l course t
    rw [hsign] at hsigns
    cases hturn with
    | none hstage =>
      rw [Option.toList_none, List.append_nil] at hsigns
      constructor
      . rw [turns_concat, window_turn]
        exact hrun.window
      . rw [hsigns]
        exact hrun.chain
      . rw [hsigns]
        exact hrun.head
      . rw [hsigns, turns_concat]
        exact hstage
    | @sign sign hpaces hreported hstage =>
      rw [hrun.window] at hpaces
      rw [Option.toList_some] at hsigns
      constructor
      . rw [turns_concat, window_turn]
        exact hrun.window
      . rw [hsigns, List.isChain_append]
        refine ⟨hrun.chain, .singleton _, ?_⟩
        intro first hfirst second hsecond
        cases hsecond
        exact hpaces first hfirst
      . rw [hsigns, List.head?_append]
        cases hhead : (l.signs course).head? with
        | none =>
          rw [List.head?_eq_none_iff] at hhead
          rw [hhead] at hreported
          intro first hfirst
          cases hfirst
          exact hreported rfl
        | some first =>
          have hhead' := hrun.head
          rw [hhead] at hhead'
          exact hhead'
      . rw [hsigns, List.getLast?_append, turns_concat]
        exact hstage

theorem foldl_signs_turns (l : Launcher) (course : List Turn) :
    (l.turns course).locator = { l.locator with
      cell := (l.signs course).foldl (Sign.publish l.locator.places) l.locator.cell } := by
  induction course using List.reverseRecOn with
  | nil => rfl
  | append_singleton course t ih =>
    rw [turns_concat, locator_turn, ih]
    rw [signs_concat, List.foldl_append]

theorem lastSearch_of_getLast?_searched {signs : List Sign} {time : Nat} {search : Java.Search}
    (h : signs.getLast? = some (.searched time search)) : lastSearch last signs = search := by
  obtain ⟨before, rfl⟩ := List.getLast?_eq_some_iff.1 h
  rw [lastSearch_concat]
  rfl

/--
When nothing is left to do about the runtime, it has been searched for.
-/
theorem RuntimeRun.hasSearched {course : List Turn} (h : RuntimeRun l last course)
    (htimer : (l.turns course).debouncer.timers.get? .javaPath = none)
    (hsearches : (l.turns course).searches = []) {path : Path}
    (hset : (l.turns course).store.settings.javaPath = some path) :
    (l.turns course).HasSearched (lastSearch last (l.signs course)) := by
  have hstage := h.stage
  generalize hsign : (l.signs course).getLast? = sign at hstage
  cases hstage with
  | ready h =>
    rw [List.getLast?_eq_none_iff] at hsign
    rw [hsign]
    exact h
  | waiting _ _ htimer' =>
    rw [htimer'] at htimer
    cases htimer
  | begun _ _ hsame hsearches' =>
    rw [hset] at hsame
    rw [hsearches] at hsearches'
    cases hpath : Settings.javaPath _ with
    | none =>
      rw [hpath] at hsame
      cases hsame
    | some _ =>
      rw [hpath] at hsearches'
      cases hsearches'
  | searched _ h =>
    rw [lastSearch_of_getLast?_searched hsign]
    exact h

theorem reconfigures_when_quiet (l : Launcher) (last : Java.Search) (hsearched : l.HasSearched last)
    (course : List Turn) (hpunctual : l.Punctual course) : Reconfigures l last course := by
  have hrun := runtimeRun_turns hsearched hpunctual
  have hstage := hrun.stage
  have hcell := congrArg Java.Locator.cell (foldl_signs_turns l course)
  constructor
  . exact hrun.chain
  . exact hrun.head
  . intro time hlast
    rw [hlast] at hstage
    cases hstage with
    | waiting _ hdue =>
      rw [hrun.window] at hdue
      exact hdue
  . exact hcell
  . intro hnone
    -- The first sign is a change if there is any.
    have hsigns : l.signs course = [] := by
      rw [← List.head?_eq_none_iff]
      apply Option.eq_none_iff_forall_not_mem.2
      intro sign hsign
      obtain ⟨time, rfl⟩ := hrun.head sign hsign
      exact hnone time (List.mem_of_mem_head? hsign)
    rw [hcell, hsigns]
    rfl
  . unfold Debouncer.isPending
    constructor
    . intro hpending
      obtain ⟨⟨time, _⟩, htimer⟩ := Option.isSome_iff_exists.1 hpending
      have ⟨reported, hlast, _⟩ := hstage.waiting_of_timer htimer
      exact ⟨reported, hlast⟩
    . intro hlast
      obtain ⟨time, hlast⟩ := hlast
      rw [hlast] at hstage
      cases hstage with
      | waiting _ _ htimer =>
        rw [htimer]
        rfl
  . intro hpending hsearches path hset
    have htimer : (l.turns course).debouncer.timers.get? .javaPath = none := by
      apply Option.not_isSome_iff_eq_none.1
      exact hpending
    have hlast := hrun.hasSearched htimer hsearches hset
    have ⟨attempted, hconfigured, hsame⟩ := hlast.attempted path hset
    refine ⟨attempted, hconfigured, hsame, ?_⟩
    intro runtime hprobe hminimum
    apply hlast.found
    unfold Java.Search.find
    rw [hconfigured]
    exact Java.Search.find_some_iff.2 ⟨hprobe, hminimum⟩

theorem hasSearched_start (htimer : l.debouncer.timers.get? .javaPath = none)
    (hsearches : l.searches = []) :
    (l.spawnResolution.turn (.move (.advance l.tasks.length))).HasSearched
      ⟨l.store.settings.javaPath, l.world.toMachine⟩ := by
  have hentry : l.spawnResolution.tasks[l.tasks.length]? =
      some (.start, .findRuntime l.store.settings.javaPath) := by
    simp [spawnResolution, addTask]
  have hadvance : l.spawnResolution.advanceTask (.findRuntime l.store.settings.javaPath) =
      some (none, l.spawnResolution.findRuntime l.store.settings.javaPath) := rfl
  obtain ⟨hstore, hdebouncer, _⟩ := store_advanceTask hadvance
  rw [turn_advance_of_some hentry hadvance]
  constructor
  . exact (congrArg (·.timers.get? .javaPath) hdebouncer).trans htimer
  . rw [searches_eq_nil_iff] at *
    simp only [spawnResolution, addTask, Option.map_none, Option.toList_none, List.append_nil,
      List.append_assoc]
    rw [List.eraseIdx_append_of_length_le (Nat.le_refl _)]
    simp only [Nat.sub_self, List.singleton_append, List.eraseIdx_cons_zero, List.mem_append,
      List.mem_singleton]
    intro entry hentry
    cases hentry with
    | inl hmem => exact hsearches entry hmem
    | inr heq =>
      rw [heq]
      dsimp only
      split <;> rfl
  . intro path hpath
    have hset : l.store.settings.javaPath = some path :=
      (congrArg (·.settings.javaPath) hstore).symm.trans hpath
    exact ⟨path, hset, Path.sameAs_iff.2 rfl⟩
  . intro runtime hfind
    exact current_findRuntime (l := l.spawnResolution) hfind

instance (l : Launcher) (t : Turn) : Decidable (l.IsTimely t) :=
  decidable_of_iff
    (∀ timer ∈ l.debouncer.timers.get? .javaPath, 0 < t.duration → l.clock + t.duration ≤ timer.1)
    ⟨fun h _ htimer => h _ htimer, fun h _ htimer => h _ htimer⟩

instance decidablePunctual (l : Launcher) : (course : List Turn) → Decidable (l.Punctual course)
  | [] => inferInstanceAs (Decidable True)
  | t :: course =>
    have := decidablePunctual (l.turn t) course
    inferInstanceAs (Decidable (_ ∧ _))

/--
A launcher that has found the first of two runtimes.
-/
def onFirstRuntime : Launcher :=
  onTwoRuntimes.spawnResolution.turn (.move (.advance 0))

/--
A path is configured that leads to nothing, and the second runtime before this has been quiet for long.
-/
def burstCourse : List Turn :=
  [.apply { javaPath := some "/missing", cacheDirectory := some "/cache" }, .pass 2000,
    .apply { javaPath := some "/b", cacheDirectory := some "/cache" },
    .pass Debouncer.defaultWindow, .move (.fire .javaPath), .move (.advance 1)]

theorem reconfigures_when_quiet_on_burstCourse :
    onFirstRuntime.HasSearched ⟨some "/a", twoRuntimes⟩ ∧ onFirstRuntime.Punctual burstCourse ∧
      Reconfigures onFirstRuntime ⟨some "/a", twoRuntimes⟩ burstCourse := by
  have hsearched : onFirstRuntime.HasSearched ⟨some "/a", twoRuntimes⟩ :=
    hasSearched_start (l := onTwoRuntimes) rfl rfl
  have hpunctual : onFirstRuntime.Punctual burstCourse := by decide +kernel
  exact ⟨hsearched, hpunctual, reconfigures_when_quiet _ _ hsearched _ hpunctual⟩

end ServerLauncher.Launcher
