import ServerLauncher.Proofs.Keyed
import ServerLauncher.Settled

/-!
This module contains sessions with a cell: what its owner and any number of readers do with it, in any
order. An operation does one of five things to a session, and only a publication, the end of the owner
and a reader's own notice make a difference to what the reader learns.
-/

namespace ServerLauncher.Settled

/--
What can be done with a cell and with its readers. The first reader is number 0, and any other one has
the number of the operations that had been done when the reader came.
-/
inductive Operation (α : Type) where
  | publish (value : α)
  /-- The owner goes away. -/
  | abandon
  | lookUp
  | reader
  | clone (i : Nat)
  | current (i : Nat)
  | isSettled (i : Nat)
  | wait (i : Nat)
  | changed (i : Nat)
  | markSeen (i : Nat)
deriving DecidableEq, Repr

/--
The answer to an operation.
-/
inductive Answer (α : Type) where
  /-- There is no such reader, or no owner any more. -/
  | refused
  | done
  | named (i : Nat)
  | found (value : Option α)
  | settled (isSettled : Bool)
  | polled (poll : Poll α)
deriving DecidableEq, Repr

/--
The ways of using cells of a type `γ` with readers of a type `ρ`.
-/
structure Interface (γ ρ α : Type) where
  start : γ × ρ
  publish : γ → α → γ
  abandon : γ → γ
  reader : γ → ρ
  current : γ → Option α
  isSettled : γ → Bool
  wait : γ → ρ → Poll α
  changed : γ → ρ → Poll α × ρ
  markSeen : γ → ρ → ρ

variable {γ ρ α : Type}

def interface : Interface (Settled α) Reader α where
  start := (pending, .first)
  publish
  abandon
  reader
  current
  isSettled
  wait cell _ := cell.poll
  changed := pollChange
  markSeen

/--
A cell with its readers, and the number of operations so far.
-/
structure Session (γ ρ : Type) where
  cell : γ
  readers : Keyed Nat ρ
  isOwned : Bool
  length : Nat

namespace Session

variable (ops : Interface γ ρ α)

def start : Session γ ρ :=
  ⟨ops.start.1, [(0, ops.start.2)], true, 0⟩

/--
Do something that only the owner can do.
-/
def asOwner (s : Session γ ρ) (use : Answer α × Session γ ρ) : Answer α × Session γ ρ :=
  if s.isOwned then use else (.refused, s)

/--
Do something that only one of the readers can do.
-/
def asReader (s : Session γ ρ) (i : Nat) (use : ρ → Answer α × Session γ ρ) :
    Answer α × Session γ ρ :=
  match s.readers.get? i with
  | some reader => use reader
  | none => (.refused, s)

def join (s : Session γ ρ) (reader : ρ) : Answer α × Session γ ρ :=
  (.named (s.length + 1), { s with readers := s.readers.put (s.length + 1) reader })

def perform (s : Session γ ρ) : Operation α → Answer α × Session γ ρ
  | .publish value =>
    s.asOwner (.found (some value), { s with cell := ops.publish s.cell value })
  | .abandon => s.asOwner (.done, { s with cell := ops.abandon s.cell, isOwned := false })
  | .lookUp => s.asOwner (.found (ops.current s.cell), s)
  | .reader => s.asOwner (s.join (ops.reader s.cell))
  | .clone i => s.asReader i s.join
  | .current i => s.asReader i fun _ => (.found (ops.current s.cell), s)
  | .isSettled i => s.asReader i fun _ => (.settled (ops.isSettled s.cell), s)
  | .wait i => s.asReader i fun reader => (.polled (ops.wait s.cell reader), s)
  | .changed i => s.asReader i fun reader =>
    (.polled (ops.changed s.cell reader).1,
      { s with readers := s.readers.put i (ops.changed s.cell reader).2 })
  | .markSeen i => s.asReader i fun reader =>
    (.done, { s with readers := s.readers.put i (ops.markSeen s.cell reader) })

def step (s : Session γ ρ) (op : Operation α) : Session γ ρ :=
  { (s.perform ops op).2 with length := s.length + 1 }

/--
The session once the operations of a history have been done.
-/
def run (history : List (Operation α)) : Session γ ρ :=
  history.foldl (step ops) (start ops)

theorem run_concat (history : List (Operation α)) (op : Operation α) :
    run ops (history ++ [op]) = (run ops history).step ops op := by
  unfold run
  rw [List.foldl_concat]

end Session

/--
The answer to an operation after a history.
-/
def answer (ops : Interface γ ρ α) (history : List (Operation α)) (op : Operation α) : Answer α :=
  ((Session.run ops history).perform ops op).1

namespace Operation

def value? : Operation α → Option α
  | .publish value => some value
  | _ => none

def isAbandon : Operation α → Bool
  | .abandon => true
  | _ => false

/--
A reader takes notice of what has been published.
-/
def TakesNotice (i : Nat) (op : Operation α) : Prop :=
  op = .changed i ∨ op = .markSeen i

/--
An operation that may make a difference to a reader.
-/
def Concerns (i : Nat) (op : Operation α) : Prop :=
  op.TakesNotice i ∨ op = .abandon ∨ ∃ value, op = .publish value

/--
An operation that only the owner can do, and that makes a difference.
-/
def NeedsOwner (op : Operation α) : Prop :=
  op = .abandon ∨ op = .reader ∨ ∃ value, op = .publish value

/--
A question that a reader has, or a reader's notice.
-/
def IsUseOf (i : Nat) (op : Operation α) : Prop :=
  op = .current i ∨ op = .isSettled i ∨ op = .wait i ∨ op = .changed i ∨ op = .markSeen i

end Operation

/--
What an operation may do to a session. It leaves everything as it is if it only looks, or if there is
nobody who could do it.
-/
inductive Passage (ops : Interface γ ρ α) (s : Session γ ρ) (op : Operation α) : Session γ ρ → Prop where
  | idle (howner : op.NeedsOwner → s.isOwned = false)
    (hclone : ∀ i, op = .clone i → s.readers.get? i = none)
    (hnotice : ∀ i, op.TakesNotice i → s.readers.get? i = none) :
    Passage ops s op { s with length := s.length + 1 }
  | publish {value : α} (hop : op = .publish value) (howned : s.isOwned = true) :
    Passage ops s op { s with cell := ops.publish s.cell value, length := s.length + 1 }
  | abandon (hop : op = .abandon) :
    Passage ops s op
      { s with cell := ops.abandon s.cell, isOwned := false, length := s.length + 1 }
  | join {reader : ρ} (hop : (op = .reader ∧ s.isOwned = true ∧ reader = ops.reader s.cell) ∨
      ∃ i, op = .clone i ∧ s.readers.get? i = some reader) :
    Passage ops s op
      { s with readers := s.readers.put (s.length + 1) reader, length := s.length + 1 }
  | notice {i : Nat} {old reader : ρ} (hget : s.readers.get? i = some old)
    (hop : (op = .changed i ∧ reader = (ops.changed s.cell old).2) ∨
      (op = .markSeen i ∧ reader = ops.markSeen s.cell old)) :
    Passage ops s op { s with readers := s.readers.put i reader, length := s.length + 1 }

theorem passage_step (ops : Interface γ ρ α) (s : Session γ ρ) (op : Operation α) :
    Passage ops s op (s.step ops op) := by
  have hlook : op = .lookUp ∨ (∃ i, op = .current i ∨ op = .isSettled i ∨ op = .wait i) →
      Passage ops s op { s with length := s.length + 1 } := by
    rintro (rfl | ⟨i, rfl | rfl | rfl⟩) <;>
      exact .idle (by simp [Operation.NeedsOwner]) (by simp) (by simp [Operation.TakesNotice])
  have hrefused : s.isOwned = false → op.NeedsOwner →
      Passage ops s op { s with length := s.length + 1 } := by
    rintro howned (rfl | rfl | ⟨value, rfl⟩) <;>
      exact .idle (fun _ => howned) (by simp) (by simp [Operation.TakesNotice])
  unfold Session.step Session.perform Session.asOwner Session.asReader
  cases op with
  | publish value =>
    dsimp only
    split
    . next howned => exact .publish rfl howned
    . next howned => exact hrefused (Bool.eq_false_iff.2 howned) (.inr (.inr ⟨value, rfl⟩))
  | abandon =>
    dsimp only
    split
    . exact .abandon rfl
    . next howned => exact hrefused (Bool.eq_false_iff.2 howned) (.inl rfl)
  | lookUp =>
    dsimp only
    split <;> exact hlook (.inl rfl)
  | reader =>
    dsimp only
    split
    . next howned => exact .join (.inl ⟨rfl, howned, rfl⟩)
    . next howned => exact hrefused (Bool.eq_false_iff.2 howned) (.inr (.inl rfl))
  | clone i =>
    dsimp only
    split
    . next hget => exact .join (.inr ⟨i, rfl, hget⟩)
    . next hget =>
      refine .idle (by simp [Operation.NeedsOwner]) ?_ (by simp [Operation.TakesNotice])
      rintro j heq
      cases heq
      exact hget
  | current i =>
    dsimp only
    split <;> exact hlook (.inr ⟨i, .inl rfl⟩)
  | isSettled i =>
    dsimp only
    split <;> exact hlook (.inr ⟨i, .inr (.inl rfl)⟩)
  | wait i =>
    dsimp only
    split <;> exact hlook (.inr ⟨i, .inr (.inr rfl)⟩)
  | changed i =>
    dsimp only
    split
    . next hget => exact .notice hget (.inl ⟨rfl, rfl⟩)
    . next hget =>
      refine .idle (by simp [Operation.NeedsOwner]) (by simp) ?_
      rintro j (heq | heq) <;> cases heq
      exact hget
  | markSeen i =>
    dsimp only
    split
    . next hget => exact .notice hget (.inr ⟨rfl, rfl⟩)
    . next hget =>
      refine .idle (by simp [Operation.NeedsOwner]) (by simp) ?_
      rintro j (heq | heq) <;> cases heq
      exact hget

variable {t t' : Session γ ρ} {op : Operation α} {i : Nat}

/--
An operation that does not concern a reader changes neither the cell nor the reader.
-/
theorem step_of_not_concerns (ops : Interface γ ρ α) (hi : i ≠ t.length + 1) (h : ¬op.Concerns i) :
    (t.step ops op).cell = t.cell ∧ (t.step ops op).readers.get? i = t.readers.get? i := by
  have hpassage := passage_step ops t op
  generalize t.step ops op = t' at hpassage
  cases hpassage with
  | idle => exact ⟨rfl, rfl⟩
  | publish hop => exact absurd (.inr (.inr ⟨_, hop⟩)) h
  | abandon hop => exact absurd (.inr (.inl hop)) h
  | join => exact ⟨rfl, Keyed.get?_put_of_ne hi _ _⟩
  | @notice j _ _ _ hop =>
    refine ⟨rfl, Keyed.get?_put_of_ne ?_ _ _⟩
    rintro rfl
    exact h (.inl (hop.imp And.left And.left))

/--
What a reader learns depends on the cell and on the reader only.
-/
theorem perform_congr {ops : Interface γ ρ α} {use : Operation α} (hcell : t'.cell = t.cell)
    (hreader : t'.readers.get? i = t.readers.get? i) (huse : use.IsUseOf i) :
    (t'.perform ops use).1 = (t.perform ops use).1 := by
  rcases huse with rfl | rfl | rfl | rfl | rfl <;>
    simp only [Session.perform, Session.asReader, hcell, hreader] <;>
    split <;> rfl

end ServerLauncher.Settled
