import Mathlib.Data.List.Induction
import ServerLauncher.Proofs.Debounce.Timers

/-!
This module contains courses of events around a debouncer: calls that come at any time, and time that
goes on. Every call is told apart from the others by its position in the course.
-/

namespace ServerLauncher.Debouncer

/--
Something that happens: a call, the runtime getting round to the tasks that are due, or a millisecond
that goes by. No task that is due is left behind by the time.
-/
inductive Step (κ τ : Type) where
  | schedule (key : κ) (task : τ)
  | cancel (key : κ)
  | cancelAll
  | run
  | tick
deriving DecidableEq

/--
A task that has run: when, for which key, and which call has scheduled it.
-/
structure Fired (κ τ : Type) where
  time : Nat
  key : κ
  call : Nat
  task : τ
deriving DecidableEq

/--
What can be done with tasks that wait. Whatever holds them is of a type `δ`.
-/
structure Operations (δ κ τ : Type) where
  schedule : δ → Nat → κ → τ → δ
  cancel : δ → κ → δ
  cancelAll : δ → δ
  takeDue : δ → Nat → List (Nat × κ × τ) × δ

/--
What has become of the tasks at some point of a course: those that wait, the time, the number of steps
so far, and the tasks that have run.
-/
structure Timeline (δ κ τ : Type) where
  tasks : δ
  now : Nat
  length : Nat
  fired : List (Fired κ τ)

variable {δ κ τ : Type}

namespace Timeline

/--
The runtime gets round to the tasks that are due.
-/
def run (ops : Operations δ κ (Nat × τ)) (t : Timeline δ κ τ) : Timeline δ κ τ :=
  { t with
    tasks := (ops.takeDue t.tasks t.now).2
    fired := t.fired ++ (ops.takeDue t.tasks t.now).1.map fun (_, key, call, task) =>
      ⟨t.now, key, call, task⟩ }

def act (ops : Operations δ κ (Nat × τ)) (t : Timeline δ κ τ) : Step κ τ → Timeline δ κ τ
  | .schedule key task => { t with tasks := ops.schedule t.tasks t.now key (t.length, task) }
  | .cancel key => { t with tasks := ops.cancel t.tasks key }
  | .cancelAll => { t with tasks := ops.cancelAll t.tasks }
  | .run => t.run ops
  | .tick => { t.run ops with now := t.now + 1 }

def step (ops : Operations δ κ (Nat × τ)) (t : Timeline δ κ τ) (s : Step κ τ) : Timeline δ κ τ :=
  { t.act ops s with length := t.length + 1 }

/--
The timeline once the steps of a course have been taken.
-/
def follow (ops : Operations δ κ (Nat × τ)) (t : Timeline δ κ τ) (course : List (Step κ τ)) :
    Timeline δ κ τ :=
  course.foldl (step ops) t

theorem follow_concat (ops : Operations δ κ (Nat × τ)) (t : Timeline δ κ τ)
    (course : List (Step κ τ)) (s : Step κ τ) :
    t.follow ops (course ++ [s]) = (t.follow ops course).step ops s := by
  unfold follow
  rw [List.foldl_concat]

end Timeline

namespace Step

/--
A step after which what has been scheduled for a key before does not wait any longer.
-/
def Concerns (key : κ) : Step κ τ → Prop
  | .schedule other _ => other = key
  | .cancel other => other = key
  | .cancelAll => True
  | .run => False
  | .tick => False

/--
Whether a step is a call about another key.
-/
def isForeign [DecidableEq κ] (key : κ) : Step κ τ → Bool
  | .schedule other _ => other ≠ key
  | .cancel other => other ≠ key
  | _ => false

def isTick : Step κ τ → Bool
  | .tick => true
  | _ => false

end Step

/--
The milliseconds that a course takes.
-/
def elapsed (course : List (Step κ τ)) : Nat :=
  course.countP Step.isTick

/--
The time of the step at a position.
-/
def timeAt (course : List (Step κ τ)) (i : Nat) : Nat :=
  elapsed (course.take i)

variable {course after : List (Step κ τ)} {s : Step κ τ} {key : κ} {task : τ} {i window : Nat}

theorem elapsed_concat (course : List (Step κ τ)) (s : Step κ τ) :
    elapsed (course ++ [s]) = elapsed course + if s.isTick then 1 else 0 := by
  unfold elapsed
  rw [List.countP_append, List.countP_singleton]

theorem timeAt_concat (h : i ≤ course.length) (s : Step κ τ) :
    timeAt (course ++ [s]) i = timeAt course i := by
  unfold timeAt
  rw [List.take_append_of_le_length h]

theorem timeAt_length (course : List (Step κ τ)) : timeAt course course.length = elapsed course := by
  unfold timeAt
  rw [List.take_length]

theorem timeAt_le (course : List (Step κ τ)) (i : Nat) : timeAt course i ≤ elapsed course :=
  (List.take_sublist i course).countP_le

theorem getElem?_concat_eq_some {s' : Step κ τ} :
    (course ++ [s])[i]? = some s' ↔ course[i]? = some s' ∨ i = course.length ∧ s = s' := by
  rw [List.getElem?_append]
  split
  . next hlt => simp [Nat.ne_of_lt hlt]
  . next hge =>
    rw [List.getElem?_eq_none (Nat.le_of_not_lt hge), List.getElem?_singleton]
    by_cases heq : i = course.length
    . simp [heq]
    . have hne : i - course.length ≠ 0 := by omega
      simp [heq, hne]

theorem lt_length (h : course[i]? = some s) : i < course.length :=
  (List.getElem?_eq_some_iff.1 h).1

/--
A call has scheduled a task, and no later step is about its key.
-/
structure IsLast (course : List (Step κ τ)) (i : Nat) (key : κ) (task : τ) : Prop where
  scheduled : course[i]? = some (.schedule key task)
  undisturbed : ∀ j s, i < j → course[j]? = some s → ¬s.Concerns key

theorem isLast_concat_of_not_concerns (h : ¬s.Concerns key) :
    IsLast (course ++ [s]) i key task ↔ IsLast course i key task := by
  constructor
  . intro hlast
    constructor
    . rcases getElem?_concat_eq_some.1 hlast.scheduled with hold | ⟨_, hnew⟩
      . exact hold
      . rw [hnew] at h
        exact absurd rfl h
    . intro j s' hlt hs'
      exact hlast.undisturbed j s' hlt (getElem?_concat_eq_some.2 (.inl hs'))
  . intro hlast
    constructor
    . exact getElem?_concat_eq_some.2 (.inl hlast.scheduled)
    . intro j s' hlt hs'
      rcases getElem?_concat_eq_some.1 hs' with hold | ⟨_, hnew⟩
      . exact hlast.undisturbed j s' hlt hold
      . rw [← hnew]
        exact h

theorem isLast_concat_of_concerns (h : s.Concerns key) :
    IsLast (course ++ [s]) i key task ↔ i = course.length ∧ s = .schedule key task := by
  constructor
  . intro hlast
    rcases getElem?_concat_eq_some.1 hlast.scheduled with hold | hnew
    . exact absurd h (hlast.undisturbed _ s (lt_length hold) (getElem?_concat_eq_some.2 (.inr ⟨rfl, rfl⟩)))
    . exact hnew
  . intro hnew
    constructor
    . exact getElem?_concat_eq_some.2 (.inr hnew)
    . intro j s' hlt hs'
      have hle := lt_length hs'
      rw [List.length_append, List.length_singleton] at hle
      omega

/--
Where nothing waits, nothing runs any more unless something is scheduled.
-/
theorem fired_of_idle {ops : Operations δ κ (Nat × τ)} (Idle : δ → Prop)
    (hidle : ∀ tasks now, Idle tasks →
      (ops.takeDue tasks now).1 = [] ∧ Idle (ops.takeDue tasks now).2)
    {t : Timeline δ κ τ} (h : Idle t.tasks) (hafter : ∀ s ∈ after, s = .run ∨ s = .tick) :
    (t.follow ops after).fired = t.fired ∧ Idle (t.follow ops after).tasks := by
  induction after using List.reverseRecOn with
  | nil => exact ⟨rfl, h⟩
  | append_singleton after s ih =>
    have ⟨hfired, htasks⟩ := ih fun s hs => hafter s (List.mem_append_left _ hs)
    have ⟨hnone, hstill⟩ := hidle _ (t.follow ops after).now htasks
    have hrun : ((t.follow ops after).run ops).fired = t.fired := by
      show (t.follow ops after).fired ++ List.map _ (ops.takeDue _ _).1 = _
      rw [hnone, hfired]
      exact List.append_nil _
    rw [Timeline.follow_concat]
    rcases hafter s (List.mem_append_right _ (List.mem_singleton_self s)) with hs | hs
    . rw [hs]
      exact ⟨hrun, hstill⟩
    . rw [hs]
      exact ⟨hrun, hstill⟩

section

variable [DecidableEq κ]

/--
The operations of a debouncer.
-/
def operations : Operations (Debouncer κ τ) κ τ where
  schedule := schedule
  cancel := cancel
  cancelAll := cancelAll
  takeDue := takeDue

/--
What becomes of the tasks in a course that starts with a new debouncer.
-/
def timeline (window : Nat) (course : List (Step κ τ)) :
    Timeline (Debouncer κ (Nat × τ)) κ τ :=
  (Timeline.mk (new window) 0 0 []).follow operations course

theorem timeline_concat (window : Nat) (course : List (Step κ τ)) (s : Step κ τ) :
    timeline window (course ++ [s]) = (timeline window course).step operations s :=
  Timeline.follow_concat _ _ _ _

end

end ServerLauncher.Debouncer
