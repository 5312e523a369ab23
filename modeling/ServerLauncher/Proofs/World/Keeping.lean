import Mathlib.Order.Defs.Unbundled
import ServerLauncher.World

/-!
This module contains the relations between the worlds before and after an action. A relation that
every single thing an action does keeps is kept by the action as a whole.
-/

namespace ServerLauncher

variable {α β ε ε' : Type} {R : World → World → Prop}

/--
Whatever the world is, the action leaves it in a relation to what it becomes.
-/
def Action.Keeps (R : World → World → Prop) (action : Action α) : Prop :=
  ∀ w, R w (action.run w).2

/--
The same for an action that may fail.
-/
def Attempt.Keeps (R : World → World → Prop) (attempt : Attempt ε α) : Prop :=
  Action.Keeps R attempt.run

namespace Attempt

theorem keeps_lift {action : Action α} (h : Action.Keeps R action) :
    Keeps R (liftM action : Attempt ε α) := by
  intro w
  exact h w

theorem Keeps.adapt {attempt : Attempt ε α} (h : Keeps R attempt) (f : ε → ε') :
    Keeps R (attempt.adapt f) := by
  intro w
  exact h w

end Attempt

variable [IsPreorder World R]

namespace Action

theorem keeps_pure (a : α) : Keeps R (pure a : Action α) := by
  intro w
  exact refl_of R w

theorem keeps_machine : Keeps R machine := by
  intro w
  exact refl_of R w

theorem Keeps.bind {action : Action α} {next : α → Action β} (ha : Keeps R action)
    (hn : ∀ a, Keeps R (next a)) : Keeps R (action >>= next) := by
  intro w
  exact trans_of R (ha w) (hn _ _)

end Action

namespace Attempt

theorem keeps_pure (a : α) : Keeps R (pure a : Attempt ε α) :=
  Action.keeps_pure (Except.ok a)

theorem keeps_throw (e : ε) : Keeps R (throw e : Attempt ε α) :=
  Action.keeps_pure (Except.error e)

theorem keeps_get : Keeps R (get : Attempt ε World) := by
  intro w
  exact refl_of R w

theorem keeps_ofExcept (result : Except ε α) : Keeps R (ofExcept result) :=
  Action.keeps_pure result

theorem keeps_throw_bind (e : ε) (next : α → Attempt ε β) :
    Keeps R (throw e >>= next : Attempt ε β) :=
  Action.keeps_pure (Except.error e)

theorem Keeps.bind {attempt : Attempt ε α} {next : α → Attempt ε β} (ha : Keeps R attempt)
    (hn : ∀ a, Keeps R (next a)) : Keeps R (attempt >>= next) := by
  unfold Keeps
  rw [ExceptT.run_bind]
  apply Action.Keeps.bind ha
  intro result
  cases result with
  | ok a => exact hn a
  | error e => exact Action.keeps_pure (Except.error e)

end Attempt

end ServerLauncher
