/-!
This module contains cells for a value that is pending until its owner publishes it, and that the
owner may replace later. Every reader keeps track of the publications that it has seen.
-/

namespace ServerLauncher

/--
A cell: the value published last, the number of publications, and whether the owner is still there.
-/
structure Settled (α : Type) where
  current : Option α
  publications : Nat
  owned : Bool
deriving DecidableEq, Repr

namespace Settled

variable {α : Type}

def pending : Settled α := ⟨none, 0, true⟩

/--
Publish a value in the place of the one before.
-/
def publish (cell : Settled α) (value : α) : Settled α :=
  { cell with current := some value, publications := cell.publications + 1 }

/--
The owner goes away.
-/
def abandon (cell : Settled α) : Settled α :=
  { cell with owned := false }

def isSettled (cell : Settled α) : Bool :=
  cell.current.isSome

/--
A reader of a cell, who has seen some of the publications.
-/
structure Reader where
  seen : Nat
deriving DecidableEq, Repr

/--
The reader that is there from the start and has seen nothing.
-/
def Reader.first : Reader := ⟨0⟩

/--
A new reader. It counts all publications so far as seen.
-/
def reader (cell : Settled α) : Reader := ⟨cell.publications⟩

/--
What a reader gets who looks for a value: it has to wait, it gets one, or there will never be one.
-/
inductive Poll (α : Type) where
  | waiting
  | value (a : α)
  | closed
deriving DecidableEq, Repr

/--
Look whether a value has been published. This does not count as seeing the publication.
-/
def poll (cell : Settled α) : Poll α :=
  match cell.current with
  | some value => .value value
  | none => if cell.owned then .waiting else .closed

/--
Look whether something has been published that the reader has not seen.
-/
def pollChange (cell : Settled α) (reader : Reader) : Poll α × Reader :=
  if cell.publications ≠ reader.seen then
    -- However many publications there were, only the last value is seen.
    match cell.current with
    | some value => (.value value, cell.reader)
    | none => (.closed, cell.reader)
  else if cell.owned then (.waiting, reader)
  else (.closed, reader)

def markSeen (cell : Settled α) (_ : Reader) : Reader :=
  cell.reader

@[simp]
theorem poll_publish (cell : Settled α) (value : α) :
    (cell.publish value).poll = .value value := rfl

@[simp]
theorem current_publish (cell : Settled α) (value : α) :
    (cell.publish value).current = some value := rfl

theorem pollChange_reader (cell : Settled α) :
    cell.pollChange cell.reader = (if cell.owned then .waiting else .closed, cell.reader) := by
  cases h : cell.owned <;> simp [pollChange, reader, h]

end Settled

end ServerLauncher
