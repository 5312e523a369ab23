import ServerLauncher.World

/-!
This module contains the equations by which attempts are run step by step.
-/

namespace ServerLauncher

variable {α β ε ε' : Type}

namespace Attempt

theorem run_get (w : World) : (get : Attempt ε World).run.run w = (.ok w, w) := rfl

theorem run_lift (action : Action α) (w : World) :
    (liftM action : Attempt ε α).run.run w = (.ok (action.run w).1, (action.run w).2) := rfl

theorem run_machine (w : World) :
    (liftM Action.machine : Attempt ε Machine).run.run w = (.ok w.toMachine, w) := rfl

theorem run_ofExcept (result : Except ε α) (w : World) :
    (ofExcept result).run.run w = (result, w) := rfl

theorem run_adapt (attempt : Attempt ε α) (f : ε → ε') (w : World) :
    (attempt.adapt f).run.run w =
      ((attempt.run.run w).1.mapError f, (attempt.run.run w).2) := rfl

theorem run_bind_of_ok {attempt : Attempt ε α} {next : α → Attempt ε β} {w w' : World} {a : α}
    (h : attempt.run.run w = (.ok a, w')) :
    (attempt >>= next).run.run w = (next a).run.run w' := by
  rw [ExceptT.run_bind]
  rw [StateT.run_bind]
  rw [h]
  rfl

theorem run_bind_of_error {attempt : Attempt ε α} {next : α → Attempt ε β} {w w' : World} {e : ε}
    (h : attempt.run.run w = (.error e, w')) :
    (attempt >>= next).run.run w = (.error e, w') := by
  rw [ExceptT.run_bind]
  rw [StateT.run_bind]
  rw [h]
  rfl

end Attempt

end ServerLauncher
