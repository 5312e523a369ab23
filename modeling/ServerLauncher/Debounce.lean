import ServerLauncher.Keyed

/-!
This module contains the delaying of tasks until their key has been quiet for a while. Only the last
task of a burst runs.
-/

namespace ServerLauncher

/--
Tasks that wait: at most one for each key, together with the time at which it is due. Times count
milliseconds.
-/
structure Debouncer (κ τ : Type) where
  window : Nat
  timers : Keyed κ (Nat × τ)

namespace Debouncer

variable {κ τ : Type} [DecidableEq κ]

def defaultWindow : Nat := 5000

def new (window : Nat) : Debouncer κ τ := ⟨window, []⟩

/--
Run a task once its key has been quiet for the window from now on.
-/
def schedule (d : Debouncer κ τ) (now : Nat) (key : κ) (task : τ) : Debouncer κ τ :=
  -- Removed first, so that the key goes behind the others and not to its old place.
  { d with timers := (d.timers.remove key).put key (now + d.window, task) }

def cancel (d : Debouncer κ τ) (key : κ) : Debouncer κ τ :=
  { d with timers := d.timers.remove key }

def cancelAll (d : Debouncer κ τ) : Debouncer κ τ :=
  { d with timers := [] }

def isPending (d : Debouncer κ τ) (key : κ) : Bool :=
  (d.timers.get? key).isSome

/--
The tasks that are due at a time or before it, each with its time and key, and the debouncer without
them.
-/
def takeDue (d : Debouncer κ τ) (now : Nat) : List (Nat × κ × τ) × Debouncer κ τ :=
  let due := d.timers.filterMap fun (key, time, task) =>
    if time ≤ now then some (time, key, task) else none
  (due.mergeSort fun a b => a.1 ≤ b.1,
    { d with timers := d.timers.filter fun (_, time, _) => now < time })

def nextDue? (d : Debouncer κ τ) : Option Nat :=
  (d.timers.map fun (_, time, _) => time).min?

@[simp]
theorem window_schedule (d : Debouncer κ τ) (now : Nat) (key : κ) (task : τ) :
    (d.schedule now key task).window = d.window := rfl

theorem get?_timers_schedule_self (d : Debouncer κ τ) (now : Nat) (key : κ) (task : τ) :
    (d.schedule now key task).timers.get? key = some (now + d.window, task) := by
  simp [schedule]

end Debouncer

end ServerLauncher
