import ServerLauncher.Proofs.CommandLine.Launching
import ServerLauncher.Proofs.Launch.Watching

/-!
This module contains the course of the command that runs the server, from the loading of the
configuration on. What it does one after the other may be interrupted anywhere by what happens around
it, and its tasks go on beside it as soon as they are there.
-/

namespace ServerLauncher.CommandLine

open Launcher

/--
A call of the command that runs the server.
-/
structure LaunchCall where
  peers : Peers
  configuration : Option Path
  assumeYes : Bool

namespace LaunchCall

/--
What the command begins next once it has made its launcher.
-/
inductive Phase where
  | watch
  | checkUpdate
  | run
  | wait

/--
How far the command has come. The watcher is a task of its own: `unwatched` is the file that it is to
watch, as long as it has not found out yet how that file is.
-/
inductive Stage where
  | opened (w : World)
  | loaded (w : World) (settings : Settings)
  | made (l : Launcher) (unwatched : Option Path) (next : Phase)

inductive Step where
  /-- Load the configuration. -/
  | load
  /-- Make the launcher for what has been loaded. -/
  | make
  /-- Begin the task that watches the configuration file. -/
  | watch
  /-- The watcher finds out how the file is that it is to watch. -/
  | observe
  /-- Begin to look for a newer server. -/
  | checkUpdate
  /-- Begin to run the server. -/
  | run
  /-- The launcher or one of its tasks goes on. -/
  | move (move : Move)
  | pass (milliseconds : Nat)
  /-- Something else changes the files, the time or the web. -/
  | surround (files : FileSystem) (now : Int) (web : Http.Web)

def surrounded (w : World) (files : FileSystem) (now : Int) (web : Http.Web) : World :=
  { w with files, now, web }

def Stage.world : Stage → World
  | .opened w => w
  | .loaded w _ => w
  | .made l _ _ => l.world

/--
Take a step. One that is not possible changes nothing.
-/
def step (c : LaunchCall) (s : Stage) : Step → Stage
  | .load =>
    match s with
    | .opened w => .loaded w (settingsOf w c.configuration)
    | _ => s
  | .make =>
    match s with
    | .loaded w settings =>
      let w := { w with host := .journal c.assumeYes }
      .made (Launcher.ofSettings w ⟨settings, c.configuration⟩) none .watch
    | _ => s
  | .watch =>
    match s with
    | .made l _ .watch => .made l c.configuration .checkUpdate
    | _ => s
  | .observe =>
    match s with
    | .made l (some path) next => .made (l.watch path) none next
    | _ => s
  | .checkUpdate =>
    match s with
    | .made l unwatched .checkUpdate => .made l.spawnUpdateCheck unwatched .run
    | _ => s
  | .run =>
    match s with
    | .made l unwatched .run => .made (l.run c.peers) unwatched .wait
    | _ => s
  | .move move =>
    match s with
    | .made l unwatched next => .made (l.turn (.move move)) unwatched next
    | _ => s
  | .pass milliseconds =>
    match s with
    | .made l unwatched next => .made (l.turn (.pass milliseconds)) unwatched next
    | _ => s
  | .surround files now web =>
    match s with
    | .opened w => .opened (surrounded w files now web)
    | .loaded w settings => .loaded (surrounded w files now web) settings
    | .made l unwatched next =>
      .made { l with world := surrounded l.world files now web } unwatched next

def steps (c : LaunchCall) (s : Stage) (course : List Step) : Stage :=
  course.foldl c.step s

/--
What the command does by itself if nothing interrupts it.
-/
def opening : List Step :=
  [.load, .make, .watch, .observe, .checkUpdate, .run]

variable {c : LaunchCall} {w : World} {s : Stage}

theorem steps_append (c : LaunchCall) (s : Stage) (first second : List Step) :
    c.steps s (first ++ second) = c.steps (c.steps s first) second :=
  List.foldl_append

theorem steps_concat (c : LaunchCall) (s : Stage) (course : List Step) (t : Step) :
    c.steps s (course ++ [t]) = c.step (c.steps s course) t :=
  List.foldl_concat ..

theorem steps_moves (c : LaunchCall) (l : Launcher) (unwatched : Option Path) (next : Phase)
    (moves : List Move) :
    c.steps (.made l unwatched next) (moves.map .move) =
      .made (l.turns (moves.map .move)) unwatched next := by
  induction moves generalizing l with
  | nil => rfl
  | cons move moves ih => exact ih (l.turn (.move move))

/--
What a step does once there is a launcher.
-/
inductive Goes (c : LaunchCall) (l : Launcher) (unwatched : Option Path) (next : Phase) :
    Step → Stage → Prop where
  | idle {t : Step} (hmove : ∀ move, t = .move move → l.step? move = none)
    (hrun : t = .run → next ≠ .run) : Goes c l unwatched next t (.made l unwatched next)
  | watch (hnext : next = .watch) :
    Goes c l unwatched next .watch (.made l c.configuration .checkUpdate)
  | observe {path : Path} (hunwatched : unwatched = some path) :
    Goes c l unwatched next .observe (.made (l.watch path) none next)
  | checkUpdate (hnext : next = .checkUpdate) :
    Goes c l unwatched next .checkUpdate (.made l.spawnUpdateCheck unwatched .run)
  | run (hnext : next = .run) : Goes c l unwatched next .run (.made (l.run c.peers) unwatched .wait)
  | move {move : Move} {l' : Launcher} (hstep : l.step? move = some l') :
    Goes c l unwatched next (.move move) (.made l' unwatched next)
  | pass (milliseconds : Nat) : Goes c l unwatched next (.pass milliseconds)
    (.made (l.turn (.pass milliseconds)) unwatched next)
  | surround (files : FileSystem) (now : Int) (web : Http.Web) :
    Goes c l unwatched next (.surround files now web)
      (.made { l with world := surrounded l.world files now web } unwatched next)

theorem goes_step (c : LaunchCall) (l : Launcher) (unwatched : Option Path) (next : Phase)
    (t : Step) : c.Goes l unwatched next t (c.step (.made l unwatched next) t) := by
  cases t with
  | load => exact .idle (by simp) (by simp)
  | make => exact .idle (by simp) (by simp)
  | watch =>
    cases next with
    | watch => exact .watch rfl
    | _ => exact .idle (by simp) (by simp)
  | observe =>
    cases unwatched with
    | none => exact .idle (by simp) (by simp)
    | some path => exact .observe rfl
  | checkUpdate =>
    cases next with
    | checkUpdate => exact .checkUpdate rfl
    | _ => exact .idle (by simp) (by simp)
  | run =>
    cases next with
    | run => exact .run rfl
    | _ => exact .idle (by simp) (by simp)
  | move move =>
    show c.Goes l unwatched next (.move move) (.made (l.turn (.move move)) unwatched next)
    cases hstep : l.step? move with
    | none =>
      rw [turn_of_step?_eq_none hstep]
      refine .idle ?_ (by simp)
      intro move' hmove
      cases hmove
      exact hstep
    | some l' =>
      rw [turn_of_step?_eq_some hstep]
      exact .move hstep
  | pass milliseconds => exact .pass milliseconds
  | surround files now web => exact .surround files now web

/--
The launcher that the command makes, and its watcher, if nothing interrupts it.
-/
def watching (c : LaunchCall) (w : World) : Launcher :=
  let l := Launcher.ofSettings { w with host := .journal c.assumeYes }
    ⟨settingsOf w c.configuration, c.configuration⟩
  match c.configuration with
  | some path => l.watch path
  | none => l

theorem steps_opening (c : LaunchCall) (w : World) :
    c.steps (.opened w) opening = .made ((c.watching w).begun c.peers) none .wait := by
  rcases c with ⟨peers, configuration, assumeYes⟩
  cases configuration <;> rfl

theorem launch_eq_calm (c : LaunchCall) (w : World) :
    launch w c.peers c.configuration c.assumeYes =
      reportOf ((c.watching w).begun c.peers).calm := by
  have hsettings : (loadStrict { w with host := .journal c.assumeYes }
      c.configuration).toOption.getD {} = settingsOf w c.configuration := rfl
  unfold launch
  dsimp only
  rw [hsettings]
  rfl

theorem isUnwatched_watching (c : LaunchCall) (w : World) :
    ((c.watching w).begun c.peers).IsUnwatched := by
  have ⟨hwatchers, hclock⟩ := (c.watching w).same_begun c.peers
  unfold IsUnwatched
  rw [hwatchers, hclock]
  rcases c with ⟨peers, configuration, assumeYes⟩
  cases configuration with
  | none =>
    intro watcher hmem
    cases hmem
  | some path =>
    intro watcher hmem
    cases List.mem_singleton.1 hmem
    exact Nat.lt_add_of_pos_right (by decide)

/--
The command takes one of the courses that are possible, and reports on its end.
-/
theorem exists_course_of_launch (c : LaunchCall) (w : World) :
    ∃ (moves : List Move) (l : Launcher),
      c.steps (.opened w) (opening ++ moves.map .move) = .made l none .wait ∧ l.Rests ∧
        launch w c.peers c.configuration c.assumeYes = reportOf l := by
  obtain ⟨moves, _, hcalm, hrests⟩ := calm_eq_turns (isUnwatched_watching c w)
  refine ⟨moves, ((c.watching w).begun c.peers).calm, ?_, hrests, launch_eq_calm c w⟩
  rw [steps_append, steps_opening, steps_moves, hcalm]

end LaunchCall

end ServerLauncher.CommandLine
