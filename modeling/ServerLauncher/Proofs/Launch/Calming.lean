import ServerLauncher.Launch.Schedule
import ServerLauncher.Proofs.Distribution.Cache
import ServerLauncher.Proofs.Launch.Searching

/-!
This module contains the end of the steps that are possible without time going on. Every step leaves
fewer of them, so that a launcher that takes them in any order becomes calm.
-/

namespace ServerLauncher

/--
The number of steps that a task leads to: its own, and the notice of what it publishes.
-/
def Task.burden : Task → Nat
  | .findRuntime _ | .chooseServer | .probeServer _ _ => 2
  | .awaitRuntime _ => 3
  | .checkUpdate _ => 1

def Settled.Reader.burden {α : Type} (reader : Settled.Reader) (cell : Settled α) : Nat :=
  if cell.publications = reader.seen then 0 else 1

theorem Settled.Reader.burden_reader {α : Type} (cell : Settled α) :
    cell.reader.burden cell = 0 :=
  if_pos rfl

theorem Settled.Reader.burden_of_ne {α : Type} {reader : Settled.Reader} {cell : Settled α}
    (h : cell.publications ≠ reader.seen) : reader.burden cell = 1 :=
  if_neg h

namespace Launcher

def serverBurden (l : Launcher) : Nat :=
  match l.server with
  | .absent | .ended _ => 0
  | .awaited _ runtime distribution =>
    2 + (if runtime.isNone then 1 else 0) + (if distribution.isNone then 1 else 0)
  | .serving _ _ runtimeReader distributionReader =>
    1 + runtimeReader.burden l.locator.cell + distributionReader.burden l.resolver.cell

def taskBurden : List (Task.Origin × Task) → Nat
  | [] => 0
  | entry :: tasks => entry.2.burden + taskBurden tasks

/--
A bound for the number of steps without time going on, as long as no watcher looks.
-/
def burden (l : Launcher) : Nat :=
  -- A timer leads to a step of its own and to a task.
  taskBurden l.tasks + 4 * l.debouncer.timers.length + l.serverBurden

def Move.IsLook : Move → Prop
  | .look _ => True
  | _ => False

/--
Nothing can be done any more, unless a watcher looks.
-/
def Rests (l : Launcher) : Prop :=
  ∀ move, ¬move.IsLook → l.step? move = none

/--
No watcher is going to look before time goes on.
-/
def IsUnwatched (l : Launcher) : Prop :=
  ∀ watcher ∈ l.watchers, l.clock < watcher.next

variable {l l' : Launcher} {move : Move}

theorem burden_task_le (task : Task) : task.burden ≤ 3 := by
  cases task <;> simp [Task.burden]

theorem taskBurden_le (tasks : List (Task.Origin × Task)) : taskBurden tasks ≤ 3 * tasks.length := by
  induction tasks with
  | nil => exact Nat.le_refl _
  | cons entry tasks ih =>
    have hle := burden_task_le entry.2
    simp only [taskBurden, List.length_cons]
    omega

theorem taskBurden_append (first second : List (Task.Origin × Task)) :
    taskBurden (first ++ second) = taskBurden first + taskBurden second := by
  induction first with
  | nil => simp [taskBurden]
  | cons entry first ih =>
    simp only [List.cons_append, taskBurden]
    omega

theorem taskBurden_eraseIdx {tasks : List (Task.Origin × Task)} {index : Nat}
    {entry : Task.Origin × Task} (h : tasks[index]? = some entry) :
    taskBurden (tasks.eraseIdx index) + entry.2.burden = taskBurden tasks := by
  obtain ⟨first, second, htasks, herase⟩ := exists_split_of_getElem? h
  rw [herase, htasks]
  simp only [taskBurden_append, taskBurden]
  omega

theorem serverBurden_le (l : Launcher) : l.serverBurden ≤ 4 := by
  unfold serverBurden Settled.Reader.burden
  split
  . omega
  . omega
  . split <;> split <;> omega
  . split <;> split <;> omega

theorem burden_le_enough (l : Launcher) : l.burden ≤ l.enough := by
  have htasks := taskBurden_le l.tasks
  have hserver := serverBurden_le l
  unfold burden enough
  omega

/--
One publication leads to one notice at most.
-/
theorem serverBurden_le_succ (hserver : l'.server = l.server)
    (hcells : l'.locator.cell = l.locator.cell ∨ l'.resolver.cell = l.resolver.cell) :
    l'.serverBurden ≤ l.serverBurden + 1 := by
  unfold serverBurden Settled.Reader.burden
  rw [hserver]
  cases hcells with
  | inl hlocator =>
    rw [hlocator]
    split <;> (repeat' split) <;> omega
  | inr hresolver =>
    rw [hresolver]
    split <;> (repeat' split) <;> omega

theorem serverBurden_eq (hserver : l'.server = l.server) (hlocator : l'.locator = l.locator)
    (hresolver : l'.resolver = l.resolver) : l'.serverBurden = l.serverBurden := by
  unfold serverBurden
  rw [hserver, hlocator, hresolver]

theorem length_cancel_lt {key : Settings.Key} {timer : Nat × Unit}
    (h : l.debouncer.timers.get? key = some timer) :
    (l.debouncer.cancel key).timers.length < l.debouncer.timers.length := by
  have hmem := Keyed.mem_of_get?_eq_some h
  simp only [Debouncer.cancel, Keyed.remove, Keyed.removeIf]
  apply List.length_filter_lt_length_iff_exists.2
  exact ⟨_, hmem, by simp⟩

theorem burden_fired {key : Settings.Key} {timer : Nat × Unit}
    (h : l.debouncer.timers.get? key = some timer) : (l.fired key).burden < l.burden := by
  have hlength := length_cancel_lt h
  have hserver : (l.fired key).serverBurden = l.serverBurden := rfl
  unfold burden
  rw [hserver]
  simp only [fired, taskBurden_append]
  have htask : taskBurden ((taskFor? l.store.settings key).map (Task.Origin.change key, ·)).toList ≤
      3 := by
    cases taskFor? l.store.settings key with
    | none => exact Nat.zero_le _
    | some task => simpa [taskBurden] using burden_task_le task
  omega

theorem search?_eq_none_of_choice? {task : Task} {configured : Option Path}
    (h : task.choice? = some configured) : task.search? = none ∧ 2 ≤ task.burden := by
  cases task with
  | findRuntime => cases h
  | checkUpdate => cases h
  | _ => exact ⟨rfl, by simp [Task.burden]⟩

theorem burden_advanceTask {task : Task} {left : Option Task}
    (h : l.advanceTask task = some (left, l')) :
    (left.map Task.burden).getD 0 + l'.serverBurden < task.burden + l.serverBurden := by
  have hserver := (surroundings_advanceTask h).server
  cases progress_advanceTask h with
  | ask java jar => simp [Task.burden]
  | finish configured published hchoice =>
    -- What is published may be noticed later, so the task counts for two steps.
    have ⟨hsearch, hburden⟩ := search?_eq_none_of_choice? hchoice
    have hlocator := congrArg Java.Locator.cell (locator_advanceTask hsearch h)
    have hle := serverBurden_le_succ hserver (.inl hlocator)
    simp only [Option.map_none, Option.getD_none]
    omega
  | other hchoice hresolver =>
    simp only [Option.map_none, Option.getD_none]
    cases task with
    | findRuntime configured =>
      have hcell := congrArg Distribution.Resolver.cell hresolver
      have hle := serverBurden_le_succ hserver (.inr hcell)
      simp only [Task.burden]
      omega
    | checkUpdate update =>
      have heq := serverBurden_eq hserver (locator_advanceTask rfl h) hresolver
      simp only [Task.burden]
      omega
    | _ => cases hchoice

theorem burden_advance {index : Nat} {origin : Task.Origin} {task : Task} {left : Option Task}
    (hentry : l.tasks[index]? = some (origin, task))
    (hadvance : l.advanceTask task = some (left, l')) :
    { l' with tasks := l.tasks.eraseIdx index ++ (left.map (origin, ·)).toList }.burden <
      l.burden := by
  have ⟨_, hdebouncer, _⟩ := store_advanceTask hadvance
  have hlt := burden_advanceTask hadvance
  have herase := taskBurden_eraseIdx hentry
  have hleft : taskBurden (left.map (origin, ·)).toList = (left.map Task.burden).getD 0 := by
    cases left <;> simp [taskBurden]
  have hserver : { l' with tasks := l.tasks.eraseIdx index ++
      (left.map (origin, ·)).toList }.serverBurden = l'.serverBurden := rfl
  unfold burden
  rw [hserver, taskBurden_append, hleft, hdebouncer]
  dsimp only at herase
  omega

theorem serverBurden_of_serving {command : ServerCommand} {execution : Execution}
    {runtimeReader distributionReader : Settled.Reader}
    (h : l.server = .serving command execution runtimeReader distributionReader) :
    l.serverBurden =
      1 + runtimeReader.burden l.locator.cell + distributionReader.burden l.resolver.cell := by
  unfold serverBurden
  rw [h]

theorem serverBurden_of_isAside (hmove : move.IsAside) (h : l.step? move = some l') :
    l'.serverBurden < l.serverBurden := by
  cases move with
  | observeRuntime =>
    simp only [step?] at h
    split at h <;> cases h
    next hserver hcurrent => simp [serverBurden, hserver]
  | observeDistribution =>
    simp only [step?] at h
    split at h <;> cases h
    next hserver hcurrent => simp [serverBurden, hserver]
  | startServer =>
    simp only [step?] at h
    split at h <;> cases h
    next hserver =>
      unfold spawn
      split <;> simp [serverBurden, hserver, Settled.Reader.burden, Settled.reader]
  | killServer =>
    simp only [step?] at h
    split at h
    . next hserver =>
      split at h <;> cases h
      simp only [serverBurden, hserver]
      omega
    . cases h
  | noticeRuntime =>
    simp only [step?] at h
    split at h
    . next command execution runtimeReader distributionReader hserver =>
      split at h <;> cases h
      next hpoll =>
        obtain ⟨hnew, _, hreader⟩ := Settled.pollChange_value hpoll
        rw [hreader, serverBurden_of_serving hserver, Settled.Reader.burden_of_ne hnew]
        show 1 + l.locator.cell.reader.burden l.locator.cell +
          distributionReader.burden l.resolver.cell < _
        rw [Settled.Reader.burden_reader]
        omega
    . cases h
  | noticeDistribution =>
    simp only [step?] at h
    split at h
    . next command execution runtimeReader distributionReader hserver =>
      split at h <;> cases h
      next hpoll =>
        obtain ⟨hnew, _, hreader⟩ := Settled.pollChange_value hpoll
        rw [hreader, serverBurden_of_serving hserver, Settled.Reader.burden_of_ne hnew]
        show 1 + runtimeReader.burden l.locator.cell +
          l.resolver.cell.reader.burden l.resolver.cell < _
        rw [Settled.Reader.burden_reader]
        omega
    . cases h
  | endServer =>
    simp only [step?] at h
    split at h
    . next hserver =>
      obtain ⟨code, _, rfl⟩ := Option.map_eq_some_iff.1 h
      simp only [serverBurden, hserver]
      omega
    . cases h
  | fire key => cases hmove
  | advance index => cases hmove
  | look index => cases hmove

theorem not_isLook_of_applied? (hmove : ¬move.IsLook) : l.applied? (.move move) = none := by
  cases move with
  | look index => exact absurd trivial hmove
  | _ => rfl

theorem isAside_of_rest (hmove : ¬move.IsLook)
    (hfire : ∀ key, move = .fire key → l.step? (.fire key) = none)
    (hadvance : ∀ index, move = .advance index → l.step? (.advance index) = none)
    (h : l.step? move = some l') : move.IsAside := by
  cases move with
  | fire key =>
    rw [hfire key rfl] at h
    cases h
  | advance index =>
    rw [hadvance index rfl] at h
    cases h
  | look index => exact absurd trivial hmove
  | _ => trivial

/--
A step that is no look leaves fewer steps.
-/
theorem burden_step (hmove : ¬move.IsLook) (h : l.step? move = some l') : l'.burden < l.burden := by
  have hwork := work_turn l (.move move)
  rw [turn_of_step?_eq_some h] at hwork
  cases hwork with
  | rest _ hfire hadvance _ _ hsame =>
    have haside : move.IsAside := by
      apply isAside_of_rest hmove _ _ h
      . intro key heq
        exact hfire key (heq ▸ rfl)
      . intro index heq
        exact hadvance index (heq ▸ rfl)
    have hserver := serverBurden_of_isAside haside h
    unfold burden
    rw [hsame.tasks, hsame.debouncer]
    omega
  | adopt settings happlied =>
    rw [not_isLook_of_applied? hmove] at happlied
    cases happlied
  | fire htimer => exact burden_fired htimer
  | advance hentry hadvance => exact burden_advance hentry hadvance

theorem isUnwatched_step (hunwatched : l.IsUnwatched) (h : l.step? move = some l') :
    ¬move.IsLook ∧ l'.IsUnwatched := by
  cases move with
  | fire key =>
    simp only [step?] at h
    split at h
    . split at h <;> cases h
      rw [handle_eq]
      exact ⟨id, hunwatched⟩
    . cases h
  | advance index =>
    simp only [step?] at h
    split at h
    . split at h
      . next hadvance =>
        cases h
        obtain ⟨_, hwatchers, hclock, _⟩ := surroundings_advanceTask hadvance
        unfold IsUnwatched
        rw [hwatchers, hclock]
        exact ⟨id, hunwatched⟩
      . cases h
    . cases h
  | look index =>
    simp only [step?] at h
    split at h
    . next watcher hwatcher =>
      rw [if_neg] at h
      . cases h
      . intro hlook
        have hnext := hunwatched watcher (List.mem_of_getElem? hwatcher)
        omega
    . cases h
  | _ =>
    obtain ⟨_, hclock, hwatchers, _⟩ := sameWork_of_isAside (by trivial) h
    unfold IsUnwatched
    rw [hclock, hwatchers]
    exact ⟨id, hunwatched⟩

theorem mem_candidates (h : l.step? move = some l') : move ∈ l.candidates := by
  unfold candidates
  cases move with
  | fire key =>
    have htimer : (l.debouncer.timers.get? key).isSome := by
      simp only [step?] at h
      split at h
      . next htimer => simp [htimer]
      . cases h
    obtain ⟨timer, htimer⟩ := Option.isSome_iff_exists.1 htimer
    have hmem : Move.fire key ∈ l.debouncer.timers.map fun entry => Move.fire entry.1 :=
      List.mem_map_of_mem (Keyed.mem_of_get?_eq_some htimer)
    simp [hmem]
  | advance index =>
    have hindex : index < l.tasks.length := by
      simp only [step?] at h
      split at h
      . next hentry => exact (List.getElem?_eq_some_iff.1 hentry).1
      . cases h
    simp [hindex]
  | look index =>
    have hindex : index < l.watchers.length := by
      simp only [step?] at h
      split at h
      . next hwatcher => exact (List.getElem?_eq_some_iff.1 hwatcher).1
      . cases h
    simp [hindex]
  | _ => simp

theorem rests_of_stepFirst? (h : l.stepFirst? = none) : l.Rests := by
  intro move _
  cases hstep : l.step? move with
  | none => rfl
  | some l' =>
    rw [List.findSome?_eq_none_iff.1 h move (mem_candidates hstep)] at hstep
    cases hstep

theorem turns_move_cons (h : l.step? move = some l') (moves : List Move) :
    l.turns ((move :: moves).map .move) = l'.turns (moves.map .move) := by
  rw [List.map_cons]
  unfold turns
  rw [List.foldl_cons, turn_of_step?_eq_some h]

/--
Steps that are no looks, taken one after the other as long as there are any, come to an end.
-/
theorem exists_rests (l : Launcher) :
    ∃ moves : List Move, (∀ move ∈ moves, ¬move.IsLook) ∧ (l.turns (moves.map .move)).Rests := by
  induction hburden : l.burden using Nat.strongRecOn generalizing l with
  | ind burden ih =>
    by_cases hrests : l.Rests
    . exact ⟨[], by simp, hrests⟩
    . unfold Rests at hrests
      simp only [not_forall] at hrests
      obtain ⟨move, hmove, hstep⟩ := hrests
      obtain ⟨l', hstep⟩ := Option.ne_none_iff_exists'.1 hstep
      have hlt := burden_step hmove hstep
      rw [hburden] at hlt
      obtain ⟨moves, hmoves, hrests⟩ := ih l'.burden hlt l' rfl
      refine ⟨move :: moves, ?_, ?_⟩
      . simpa [hmove] using hmoves
      . rw [turns_move_cons hstep]
        exact hrests

theorem settle_eq_turns (hunwatched : l.IsUnwatched) {fuel : Nat} (hfuel : l.burden ≤ fuel) :
    ∃ moves : List Move, (∀ move ∈ moves, ¬move.IsLook) ∧
      l.settle fuel = l.turns (moves.map .move) ∧ (l.settle fuel).Rests := by
  induction fuel generalizing l with
  | zero =>
    refine ⟨[], by simp, rfl, ?_⟩
    intro move hmove
    cases hstep : l.step? move with
    | none => exact hstep
    | some l' =>
      have hlt := burden_step hmove hstep
      omega
  | succ fuel ih =>
    unfold settle
    cases hfirst : l.stepFirst? with
    | none => exact ⟨[], by simp, rfl, rests_of_stepFirst? hfirst⟩
    | some l' =>
      obtain ⟨move, _, hstep⟩ := List.exists_of_findSome?_eq_some hfirst
      have ⟨hmove, hunwatched'⟩ := isUnwatched_step hunwatched hstep
      have hlt := burden_step hmove hstep
      obtain ⟨moves, hmoves, heq, hrests⟩ := ih hunwatched' (by omega)
      refine ⟨move :: moves, ?_, ?_, hrests⟩
      . simpa [hmove] using hmoves
      . rw [turns_move_cons hstep]
        exact heq

theorem calm_eq_turns (hunwatched : l.IsUnwatched) :
    ∃ moves : List Move, (∀ move ∈ moves, ¬move.IsLook) ∧
      l.calm = l.turns (moves.map .move) ∧ l.calm.Rests :=
  settle_eq_turns hunwatched (burden_le_enough l)

end Launcher

end ServerLauncher
