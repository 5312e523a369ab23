import ServerLauncher.Launch.Moves
import ServerLauncher.Proofs.Update.Record

/-!
This module contains the reasons for which a launcher advises a restart, and that they can be told
apart by their texts.
-/

namespace ServerLauncher.Launcher

/--
The event is no advice to restart because of what has been published.
-/
structure Quiet (event : Event) : Prop where
  ne_runtime : ∀ runtime, event ≠ .restartRequested (runtimeReason runtime)
  ne_distribution : ∀ d, event ≠ .restartRequested (distributionReason d)

theorem head?_runtimeReason (runtime : Java.Runtime) :
    (runtimeReason runtime).toList.head? = some 'J' := by
  unfold runtimeReason
  simp only [String.toList_append, List.append_assoc, List.head?_append]
  rfl

theorem head?_distributionReason (d : Distribution) :
    (distributionReason d).toList.head? = some 'p' := by
  unfold distributionReason
  simp only [String.toList_append, List.append_assoc, List.head?_append]
  rfl

theorem getLast?_runtimeReason (runtime : Java.Runtime) :
    (runtimeReason runtime).toList.getLast? = some ')' := by
  unfold runtimeReason
  simp only [String.toList_append, List.getLast?_append]
  rfl

theorem getLast?_distributionReason (d : Distribution) :
    (distributionReason d).toList.getLast? = some ')' := by
  unfold distributionReason
  simp only [String.toList_append, List.getLast?_append]
  rfl

theorem getLast?_restartReason (v : Version) :
    (Update.restartReason v).toList.getLast? = some 'd' := by
  unfold Update.restartReason
  simp only [String.toList_append, List.getLast?_append]
  rfl

theorem runtimeReason_ne_distributionReason (runtime : Java.Runtime) (d : Distribution) :
    runtimeReason runtime ≠ distributionReason d := by
  intro h
  have hhead := head?_runtimeReason runtime
  rw [h, head?_distributionReason] at hhead
  simp at hhead

theorem quiet_notified (notice : Notice) : Quiet (.notified notice) where
  ne_runtime := by intros; simp
  ne_distribution := by intros; simp

theorem quiet_of_trace {event : Event} (h : Update.Trace event) : Quiet event := by
  cases h with
  | request url => constructor <;> intros <;> simp
  | question v => constructor <;> intros <;> simp
  | restart v =>
    have hlast := getLast?_restartReason v
    constructor
    . intro runtime h
      rw [Event.restartRequested.inj h, getLast?_runtimeReason] at hlast
      simp at hlast
    . intro d h
      rw [Event.restartRequested.inj h, getLast?_distributionReason] at hlast
      simp at hlast

end ServerLauncher.Launcher
