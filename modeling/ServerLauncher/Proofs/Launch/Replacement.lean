import Mathlib.Data.List.Induction
import ServerLauncher.Proofs.Launch.Course

/-!
This module contains what becomes of a runtime or a distribution that is published while a server is
awaited or running. The one published last is announced if it has been published after the server
was started. What replaces a value between its being kept for the server and the start of the server
is not announced.
-/

namespace ServerLauncher

namespace ServerCommand

/--
The command runs with a runtime.
-/
def UsesRuntime (command : ServerCommand) (runtime : Java.Runtime) : Prop :=
  ∃ d port, command = forDistribution runtime d port

/--
The command runs a distribution.
-/
def UsesDistribution (command : ServerCommand) (d : Distribution) : Prop :=
  ∃ runtime port, command = forDistribution runtime d port

theorem program_forDistribution (runtime : Java.Runtime) (d : Distribution)
    (port : Option UInt16) : (forDistribution runtime d port).program = runtime.path := by
  cases port <;> rfl

theorem usesRuntime_forDistribution_iff {runtime kept : Java.Runtime} {d : Distribution}
    {port : Option UInt16} :
    (forDistribution kept d port).UsesRuntime runtime ↔ runtime.path = kept.path := by
  constructor
  . intro h
    have ⟨d', port', h⟩ := h
    rw [← program_forDistribution runtime d' port']
    rw [← program_forDistribution kept d port]
    rw [h]
  . intro h
    refine ⟨d, port, ?_⟩
    unfold forDistribution
    rw [h]

theorem path_eq_of_forDistribution_eq {runtime runtime' : Java.Runtime} {d d' : Distribution}
    {port port' : Option UInt16}
    (h : forDistribution runtime d port = forDistribution runtime' d' port') :
    d.path = d'.path := by
  have harguments := congrArg ServerCommand.arguments h
  -- The number of arguments tells whether the server can be debugged.
  cases port with
  | none =>
    cases port' with
    | none =>
      simp only [forDistribution, run, List.cons.injEq] at harguments
      exact congrArg Path.mk harguments.2.1
    | some port' => simp [forDistribution, run, debug] at harguments
  | some port =>
    cases port' with
    | none => simp [forDistribution, run, debug] at harguments
    | some port' =>
      simp only [forDistribution, debug, List.cons.injEq] at harguments
      exact congrArg Path.mk harguments.2.2.1

theorem usesDistribution_forDistribution_iff {runtime : Java.Runtime} {d kept : Distribution}
    {port : Option UInt16} :
    (forDistribution runtime kept port).UsesDistribution d ↔ d.path = kept.path := by
  constructor
  . intro h
    have ⟨runtime', port', h⟩ := h
    exact (path_eq_of_forDistribution_eq h).symm
  . intro h
    refine ⟨runtime, port, ?_⟩
    unfold forDistribution
    rw [h]

end ServerCommand

/--
The command of a running server.
-/
def ServerState.command? : ServerState → Option ServerCommand
  | .serving command _ _ _ => some command
  | _ => none

namespace Launcher

/--
A reader of a cell tells the publications that come after the start of the server. `told` holds of
the values that have been told.
-/
structure Follows {α : Type} (told : α → Prop) (start cell : Settled α)
    (reader : Settled.Reader) : Prop where
  start_le : start.publications ≤ reader.seen
  le_cell : reader.seen ≤ cell.publications
  not_told : reader.seen = start.publications → ∀ a, ¬told a
  told : start.publications < reader.seen → reader.seen = cell.publications →
    ∀ a, cell.current = some a → told a

section

variable {α : Type} {told told' : α → Prop} {start cell cell' : Settled α}
  {reader : Settled.Reader}

theorem follows_reader (h : ∀ a, ¬told a) : Follows told cell cell cell.reader where
  start_le := Nat.le_refl _
  le_cell := Nat.le_refl _
  not_told := by
    intro _
    exact h
  told := by
    intro hlt
    exact absurd hlt (Nat.lt_irrefl _)

theorem Follows.later (h : Follows told start cell reader) (hcell : cell.Later cell')
    (htold : ∀ a, told' a ↔ told a) : Follows told' start cell' reader where
  start_le := h.start_le
  le_cell := Nat.le_trans h.le_cell hcell.publications_le
  not_told := by
    intro hseen a
    rw [htold]
    exact h.not_told hseen a
  told := by
    intro hlt hseen a ha
    have hle := h.le_cell
    have hcells := hcell.publications_le
    rw [hcell.eq_of_publications_eq (by omega)] at ha
    rw [htold]
    exact h.told hlt (by omega) a ha

theorem Follows.notice (h : Follows told start cell reader) (hnew : cell.publications ≠ reader.seen)
    (htold : ∀ a, cell.current = some a → told' a) : Follows told' start cell cell.reader := by
  have hstart := h.start_le
  have hle := h.le_cell
  have hreader : cell.reader.seen = cell.publications := rfl
  constructor
  . omega
  . omega
  . intro hseen
    omega
  . intro _ _
    exact htold

theorem Follows.told_iff (h : Follows told start cell reader)
    (hseen : cell.publications = reader.seen) {a : α} (ha : cell.current = some a) :
    told a ↔ start.publications < cell.publications := by
  have hle := h.start_le
  constructor
  . intro htold
    apply Nat.lt_of_le_of_ne
    . omega
    . intro heq
      exact h.not_told (by omega) a htold
  . intro hlt
    exact h.told (by omega) hseen.symm a ha

end

/--
A runtime has been announced since an earlier world.
-/
def ToldRuntime (w w' : World) (runtime : Java.Runtime) : Prop :=
  .restartRequested (runtimeReason runtime) ∈ w.eventsSince w'

/--
A distribution has been announced since an earlier world.
-/
def ToldDistribution (w w' : World) (d : Distribution) : Prop :=
  .restartRequested (distributionReason d) ∈ w.eventsSince w'

/--
The value was in a cell at some time on the course.
-/
def WasCurrent {α : Type} (cell : Launcher → Settled α) (l : Launcher) (course : List Turn)
    (a : α) : Prop :=
  ∃ earlier, earlier <+: course ∧ (cell (l.turns earlier)).current = some a

instance (w w' : World) (runtime : Java.Runtime) : Decidable (ToldRuntime w w' runtime) :=
  inferInstanceAs (Decidable (_ ∈ _))

theorem WasCurrent.append {α : Type} {cell : Launcher → Settled α} {l : Launcher}
    {course : List Turn} {a : α} (h : WasCurrent cell l course a) (t : Turn) :
    WasCurrent cell l (course ++ [t]) a := by
  obtain ⟨earlier, hprefix, ha⟩ := h
  exact ⟨earlier, hprefix.trans (List.prefix_append _ _), ha⟩

/--
How far the server has come on a course, and what has been told until then.
-/
inductive Stage (l : Launcher) (port : Option UInt16) (course : List Turn) : Prop where
  | awaiting (runtime : Option Java.Runtime) (d : Option Distribution)
    (hserver : (l.turns course).server = .awaited port runtime d)
    (hquiet : World.Adds Quiet l.world (l.turns course).world)
    (hruntime : ∀ kept, runtime = some kept → WasCurrent (·.locator.cell) l course kept)
    (hdistribution : ∀ kept, d = some kept → WasCurrent (·.resolver.cell) l course kept)
  | serving (before after : List Turn) (runtime : Java.Runtime) (d : Distribution)
    (execution : Execution) (runtimeReader distributionReader : Settled.Reader)
    (hcourse : course = before ++ .move .startServer :: after)
    (hserver : (l.turns course).server =
      .serving (.forDistribution runtime d port) execution runtimeReader distributionReader)
    (hkept : WasCurrent (·.locator.cell) l before runtime)
    (hkeptDistribution : WasCurrent (·.resolver.cell) l before d)
    (hadds : World.Adds (fun _ => True) l.world (l.turns course).world)
    (hruntime : Follows (ToldRuntime l.world (l.turns course).world)
      (l.turns before).locator.cell (l.turns course).locator.cell runtimeReader)
    (hdistribution : Follows (ToldDistribution l.world (l.turns course).world)
      (l.turns before).resolver.cell (l.turns course).resolver.cell distributionReader)
  | ended (result : Except LauncherError Nat) (hserver : (l.turns course).server = .ended result)

theorem not_quiet_runtimeReason (runtime : Java.Runtime) :
    ¬Quiet (.restartRequested (runtimeReason runtime)) := by
  intro h
  exact h.ne_runtime runtime rfl

theorem not_quiet_distributionReason (d : Distribution) :
    ¬Quiet (.restartRequested (distributionReason d)) := by
  intro h
  exact h.ne_distribution d rfl

theorem not_toldRuntime_of_quiet {w w' : World} (h : World.Adds Quiet w w')
    (runtime : Java.Runtime) : ¬ToldRuntime w w' runtime := by
  intro htold
  exact not_quiet_runtimeReason runtime (h.of_mem_eventsSince htold)

theorem not_toldDistribution_of_quiet {w w' : World} (h : World.Adds Quiet w w')
    (d : Distribution) : ¬ToldDistribution w w' d := by
  intro htold
  exact not_quiet_distributionReason d (h.of_mem_eventsSince htold)

variable {l : Launcher} {port : Option UInt16} {course : List Turn} {t : Turn}

theorem turns_concat (l : Launcher) (course : List Turn) (t : Turn) :
    l.turns (course ++ [t]) = (l.turns course).turn t := by
  rw [turns_append]
  rfl

theorem stage_concat_of_awaiting {runtime : Option Java.Runtime} {d : Option Distribution}
    (hserver : (l.turns course).server = .awaited port runtime d)
    (hquiet : World.Adds Quiet l.world (l.turns course).world)
    (hruntime : ∀ kept, runtime = some kept → WasCurrent (·.locator.cell) l course kept)
    (hdistribution : ∀ kept, d = some kept → WasCurrent (·.resolver.cell) l course kept) :
    Stage l port (course ++ [t]) := by
  have hpassage := passage_turn (l.turns course) t
  rw [← turns_concat] at hpassage
  generalize hafter : l.turns (course ++ [t]) = l' at hpassage
  -- Whatever is kept is current at that time. Nothing is told before the server has been started, whose
  -- readers count everything so far as seen.
  cases hpassage with
  | aside h =>
    apply Stage.awaiting runtime d
    . rw [hafter, h.server, hserver]
    . rw [hafter]
      exact trans_of _ hquiet h.events
    . intro kept hkept
      exact (hruntime kept hkept).append t
    . intro kept hkept
      exact (hdistribution kept hkept).append t
  | keepRuntime hserver' hcurrent =>
    rw [hserver] at hserver'
    cases hserver'
    apply Stage.awaiting _ d
    . rw [hafter]
    . rw [hafter]
      exact hquiet
    . intro kept hkept
      cases hkept
      exact ⟨course, List.prefix_append _ _, hcurrent⟩
    . intro kept hkept
      exact (hdistribution kept hkept).append _
  | keepDistribution hserver' hcurrent =>
    rw [hserver] at hserver'
    cases hserver'
    apply Stage.awaiting runtime _
    . rw [hafter]
    . rw [hafter]
      exact hquiet
    . intro kept hkept
      exact (hruntime kept hkept).append _
    . intro kept hkept
      cases hkept
      exact ⟨course, List.prefix_append _ _, hcurrent⟩
  | start hserver' =>
    rw [hserver] at hserver'
    cases hserver'
    unfold spawn at hafter
    split at hafter
    . next execution _ =>
      apply Stage.serving course [] _ _ execution _ _ rfl
      . rw [hafter]
      . exact hruntime _ rfl
      . exact hdistribution _ rfl
      . rw [hafter]
        exact hquiet.mono fun _ _ => trivial
      . rw [hafter]
        exact follows_reader (not_toldRuntime_of_quiet hquiet)
      . rw [hafter]
        exact follows_reader (not_toldDistribution_of_quiet hquiet)
    . apply Stage.ended
      rw [hafter]
  | noticeRuntime hserver' =>
    rw [hserver] at hserver'
    cases hserver'
  | noticeDistribution hserver' =>
    rw [hserver] at hserver'
    cases hserver'
  | finish result =>
    apply Stage.ended result
    rw [hafter]

theorem adds_record_of_adds {P : Event → Prop} {w w' : World} (h : World.Adds P w w')
    (event : Event) : World.Adds (fun _ => True) w (w'.record event) :=
  trans_of _ (h.mono fun _ _ => trivial) (World.adds_record trivial w')

theorem toldDistribution_record_runtimeReason_iff {P : Event → Prop} {w w' : World}
    (h : World.Adds P w w') (runtime : Java.Runtime) (d : Distribution) :
    ToldDistribution w (w'.record (.restartRequested (runtimeReason runtime))) d ↔
      ToldDistribution w w' d := by
  apply World.Adds.mem_eventsSince_iff h (World.adds_record rfl w')
  intro heq
  exact runtimeReason_ne_distributionReason runtime d (Event.restartRequested.inj heq)

theorem toldRuntime_record_distributionReason_iff {P : Event → Prop} {w w' : World}
    (h : World.Adds P w w') (d : Distribution) (runtime : Java.Runtime) :
    ToldRuntime w (w'.record (.restartRequested (distributionReason d))) runtime ↔
      ToldRuntime w w' runtime := by
  apply World.Adds.mem_eventsSince_iff h (World.adds_record rfl w')
  intro heq
  exact runtimeReason_ne_distributionReason runtime d (Event.restartRequested.inj heq).symm

theorem stage_concat_of_serving {before after : List Turn} {runtime : Java.Runtime}
    {d : Distribution} {execution : Execution} {runtimeReader distributionReader : Settled.Reader}
    (hcourse : course = before ++ .move .startServer :: after)
    (hserver : (l.turns course).server =
      .serving (.forDistribution runtime d port) execution runtimeReader distributionReader)
    (hkept : WasCurrent (·.locator.cell) l before runtime)
    (hkeptDistribution : WasCurrent (·.resolver.cell) l before d)
    (hadds : World.Adds (fun _ => True) l.world (l.turns course).world)
    (hruntime : Follows (ToldRuntime l.world (l.turns course).world)
      (l.turns before).locator.cell (l.turns course).locator.cell runtimeReader)
    (hdistribution : Follows (ToldDistribution l.world (l.turns course).world)
      (l.turns before).resolver.cell (l.turns course).resolver.cell distributionReader) :
    Stage l port (course ++ [t]) := by
  have hpassage := passage_turn (l.turns course) t
  rw [← turns_concat] at hpassage
  have hcourse' : course ++ [t] = before ++ .move .startServer :: (after ++ [t]) := by
    rw [hcourse]
    simp
  generalize hafter : l.turns (course ++ [t]) = l' at hpassage
  cases hpassage with
  | aside h =>
    apply Stage.serving before _ runtime d execution _ _ hcourse'
    . rw [hafter, h.server, hserver]
    . exact hkept
    . exact hkeptDistribution
    . rw [hafter]
      exact trans_of _ hadds (h.events.mono fun _ _ => trivial)
    . rw [hafter]
      apply hruntime.later h.runtime
      intro a
      exact hadds.mem_eventsSince_iff h.events (not_quiet_runtimeReason a)
    . rw [hafter]
      apply hdistribution.later h.distribution
      intro a
      exact hadds.mem_eventsSince_iff h.events (not_quiet_distributionReason a)
  | noticeRuntime hserver' hnew hcurrent =>
    rw [hserver] at hserver'
    cases hserver'
    apply Stage.serving before _ runtime d execution _ _ hcourse'
    . rw [hafter]
    . exact hkept
    . exact hkeptDistribution
    . rw [hafter]
      exact adds_record_of_adds hadds _
    . rw [hafter]
      apply hruntime.notice hnew
      intro a ha
      rw [hcurrent] at ha
      cases ha
      exact World.mem_eventsSince_record hadds _
    . rw [hafter]
      apply hdistribution.later (.refl _)
      intro a
      exact toldDistribution_record_runtimeReason_iff hadds _ a
  | noticeDistribution hserver' hnew hcurrent =>
    rw [hserver] at hserver'
    cases hserver'
    apply Stage.serving before _ runtime d execution _ _ hcourse'
    . rw [hafter]
    . exact hkept
    . exact hkeptDistribution
    . rw [hafter]
      exact adds_record_of_adds hadds _
    . rw [hafter]
      apply hruntime.later (.refl _)
      intro a
      exact toldRuntime_record_distributionReason_iff hadds _ a
    . rw [hafter]
      apply hdistribution.notice hnew
      intro a ha
      rw [hcurrent] at ha
      cases ha
      exact World.mem_eventsSince_record hadds _
  | keepRuntime hserver' =>
    rw [hserver] at hserver'
    cases hserver'
  | keepDistribution hserver' =>
    rw [hserver] at hserver'
    cases hserver'
  | start hserver' =>
    rw [hserver] at hserver'
    cases hserver'
  | finish result =>
    apply Stage.ended result
    rw [hafter]

theorem stage_concat_of_ended {result : Except LauncherError Nat}
    (hserver : (l.turns course).server = .ended result) : Stage l port (course ++ [t]) := by
  have hpassage := passage_turn (l.turns course) t
  rw [← turns_concat] at hpassage
  generalize hafter : l.turns (course ++ [t]) = l' at hpassage
  cases hpassage with
  | aside h =>
    apply Stage.ended result
    rw [hafter, h.server, hserver]
  | finish result =>
    apply Stage.ended result
    rw [hafter]
  | keepRuntime hserver' => simp [hserver] at hserver'
  | keepDistribution hserver' => simp [hserver] at hserver'
  | start hserver' => simp [hserver] at hserver'
  | noticeRuntime hserver' => simp [hserver] at hserver'
  | noticeDistribution hserver' => simp [hserver] at hserver'

theorem stage_turns (hserver : l.server = .awaited port none none) (course : List Turn) :
    Stage l port course := by
  induction course using List.reverseRecOn with
  | nil =>
    apply Stage.awaiting none none
    . exact hserver
    . exact refl_of _ _
    . simp
    . simp
  | append_singleton course t ih =>
    cases ih with
    | awaiting _ _ hserver hquiet hruntime hdistribution =>
      exact stage_concat_of_awaiting hserver hquiet hruntime hdistribution
    | serving _ _ _ _ _ _ _ hcourse hserver hkept hkeptDistribution hadds hruntime hdistribution =>
      exact stage_concat_of_serving hcourse hserver hkept hkeptDistribution hadds hruntime
        hdistribution
    | ended _ hserver => exact stage_concat_of_ended hserver

theorem server_run (l : Launcher) (peers : Peers) (h : l.store.settings.socketPort = none) :
    (l.run peers).server = .awaited l.store.settings.debugPort none none := by
  simp only [run, h]

theorem world_run (l : Launcher) (peers : Peers) (h : l.store.settings.socketPort = none) :
    (l.run peers).world = l.world := by
  simp only [run, h]
  rfl

theorem publications_eq_of_step?_noticeRuntime {command : ServerCommand} {execution : Execution}
    {runtimeReader distributionReader : Settled.Reader} {runtime : Java.Runtime}
    (hserver : l.server = .serving command execution runtimeReader distributionReader)
    (hcurrent : l.locator.cell.current = some runtime) (h : l.step? .noticeRuntime = none) :
    l.locator.cell.publications = runtimeReader.seen := by
  by_contra hne
  simp only [step?, hserver, Settled.pollChange, hcurrent] at h
  rw [if_pos hne] at h
  cases h

theorem publications_eq_of_step?_noticeDistribution {command : ServerCommand}
    {execution : Execution} {runtimeReader distributionReader : Settled.Reader} {d : Distribution}
    (hserver : l.server = .serving command execution runtimeReader distributionReader)
    (hcurrent : l.resolver.cell.current = some d) (h : l.step? .noticeDistribution = none) :
    l.resolver.cell.publications = distributionReader.seen := by
  by_contra hne
  simp only [step?, hserver, Settled.pollChange, hcurrent] at h
  rw [if_pos hne] at h
  cases h

/--
While the server runs and no publication is left to be told, what has been published last is used or
told just if it has been published after the server was started, or agrees with what was kept.
-/
theorem used_or_told_iff (l : Launcher) (peers : Peers) (hsocket : l.store.settings.socketPort = none)
    (course : List Turn) {command : ServerCommand}
    (hcommand : ((l.run peers).turns course).server.command? = some command)
    (hnoticeRuntime : ((l.run peers).turns course).step? .noticeRuntime = none)
    (hnoticeDistribution : ((l.run peers).turns course).step? .noticeDistribution = none) :
    ∃ before after kept keptDistribution,
      course = before ++ .move .startServer :: after ∧
      command = .forDistribution kept keptDistribution l.store.settings.debugPort ∧
      WasCurrent (·.locator.cell) (l.run peers) before kept ∧
      WasCurrent (·.resolver.cell) (l.run peers) before keptDistribution ∧
      (∀ runtime, ((l.run peers).turns course).locator.cell.current = some runtime →
        (command.UsesRuntime runtime ∨
            ToldRuntime l.world ((l.run peers).turns course).world runtime ↔
          ((l.run peers).turns before).locator.cell.publications <
              ((l.run peers).turns course).locator.cell.publications ∨
            runtime.path = kept.path)) ∧
      (∀ d, ((l.run peers).turns course).resolver.cell.current = some d →
        (command.UsesDistribution d ∨
            ToldDistribution l.world ((l.run peers).turns course).world d ↔
          ((l.run peers).turns before).resolver.cell.publications <
              ((l.run peers).turns course).resolver.cell.publications ∨
            d.path = keptDistribution.path)) := by
  have hstage := stage_turns (server_run l peers hsocket) course
  cases hstage with
  | awaiting _ _ hserver =>
    rw [hserver] at hcommand
    cases hcommand
  | ended _ hserver =>
    rw [hserver] at hcommand
    cases hcommand
  | serving before after kept keptDistribution _ _ _ hcourse hserver hkept hkeptDistribution _
      hruntime hdistribution =>
    rw [hserver] at hcommand
    cases hcommand
    rw [world_run l peers hsocket] at hruntime hdistribution
    refine ⟨before, after, kept, keptDistribution, hcourse, rfl, hkept, hkeptDistribution, ?_, ?_⟩
    . intro runtime hcurrent
      have hseen := publications_eq_of_step?_noticeRuntime hserver hcurrent hnoticeRuntime
      rw [ServerCommand.usesRuntime_forDistribution_iff]
      rw [hruntime.told_iff hseen hcurrent]
      exact or_comm
    . intro d hcurrent
      have hseen := publications_eq_of_step?_noticeDistribution hserver hcurrent hnoticeDistribution
      rw [ServerCommand.usesDistribution_forDistribution_iff]
      rw [hdistribution.told_iff hseen hcurrent]
      exact or_comm

/--
A machine with two Java executables of different versions.
-/
def twoRuntimes : Machine where
  files := {
    entries := [(["a"], java "22"), (["b"], java "23")]
    workingDirectory := []
    temporaryDirectory := "/"
    device := fun _ => 0 }
  environment := {}
  executable := "/launcher"
where
  /--
  An executable that answers like a version of Java.
  -/
  java (version : String) : Entry :=
    .file ByteArray.empty 0 (some fun _ _ =>
      ⟨.exited 0, ByteArray.empty, ("openjdk version \"" ++ version ++ "\"").toUTF8⟩)

/--
A launcher there that is configured to use the first of them.
-/
def onTwoRuntimes : Launcher :=
  ofSettings { twoRuntimes with now := 0, web := fun _ _ => none, host := .steady true, events := [] }
    ⟨{ javaPath := some "/a", cacheDirectory := some "/cache" }, none⟩

/--
The second runtime is configured and found after the first one has been kept, but before there is a
distribution.
-/
def replacingCourse : List Turn :=
  [.move (.advance 0), .move .observeRuntime,
    .apply { javaPath := some "/b", cacheDirectory := some "/cache" },
    .pass Debouncer.defaultWindow, .move (.fire .javaPath), .move (.advance 1),
    .move (.advance 0), .move .observeDistribution, .move .startServer]

/--
Nobody connects.
-/
def nobody : Peers := fun _ _ => .error "connection refused"

theorem used_or_told_iff_on_replacingCourse :
    ∃ before after kept keptDistribution,
      replacingCourse = before ++ .move .startServer :: after ∧
      ServerCommand.run "/a" "/pkl-lsp.jar" = .forDistribution kept keptDistribution none ∧
      WasCurrent (·.locator.cell) (onTwoRuntimes.run nobody) before kept ∧
      WasCurrent (·.resolver.cell) (onTwoRuntimes.run nobody) before keptDistribution ∧
      (∀ runtime,
        ((onTwoRuntimes.run nobody).turns replacingCourse).locator.cell.current = some runtime →
        ((ServerCommand.run "/a" "/pkl-lsp.jar").UsesRuntime runtime ∨
            ToldRuntime onTwoRuntimes.world
              ((onTwoRuntimes.run nobody).turns replacingCourse).world runtime ↔
          ((onTwoRuntimes.run nobody).turns before).locator.cell.publications <
              ((onTwoRuntimes.run nobody).turns replacingCourse).locator.cell.publications ∨
            runtime.path = kept.path)) ∧
      (∀ d, ((onTwoRuntimes.run nobody).turns replacingCourse).resolver.cell.current = some d →
        ((ServerCommand.run "/a" "/pkl-lsp.jar").UsesDistribution d ∨
            ToldDistribution onTwoRuntimes.world
              ((onTwoRuntimes.run nobody).turns replacingCourse).world d ↔
          ((onTwoRuntimes.run nobody).turns before).resolver.cell.publications <
              ((onTwoRuntimes.run nobody).turns replacingCourse).resolver.cell.publications ∨
            d.path = keptDistribution.path)) := by
  apply used_or_told_iff onTwoRuntimes nobody rfl replacingCourse
  . decide +kernel
  . apply Option.isNone_iff_eq_none.1
    decide +kernel
  . apply Option.isNone_iff_eq_none.1
    decide +kernel

theorem exists_runtime_not_used_not_told :
    ∃ command runtime,
      ((onTwoRuntimes.run nobody).turns replacingCourse).server.command? = some command ∧
      ((onTwoRuntimes.run nobody).turns replacingCourse).step? .noticeRuntime = none ∧
      ((onTwoRuntimes.run nobody).turns replacingCourse).step? .noticeDistribution = none ∧
      ((onTwoRuntimes.run nobody).turns replacingCourse).locator.cell.current = some runtime ∧
      ¬command.UsesRuntime runtime ∧
      ¬ToldRuntime onTwoRuntimes.world ((onTwoRuntimes.run nobody).turns replacingCourse).world
        runtime := by
  refine ⟨.forDistribution ⟨"/a", 22⟩ ⟨"/pkl-lsp.jar", .ofNumbers 0 6 0, .bundled⟩ none,
    ⟨"/b", 23⟩, ?_, ?_, ?_, ?_, ?_, ?_⟩
  . decide +kernel
  . apply Option.isNone_iff_eq_none.1
    decide +kernel
  . apply Option.isNone_iff_eq_none.1
    decide +kernel
  . decide +kernel
  . rw [ServerCommand.usesRuntime_forDistribution_iff]
    decide
  . decide +kernel

end Launcher

end ServerLauncher
