import ServerLauncher.Proofs.Registry.Keeping
import ServerLauncher.Proofs.World.Record
import ServerLauncher.Update

/-!
This module contains what updates leave in the record of events: requests, the question whether to
download a version, and the advice to restart behind a download. No notice is among them.
-/

namespace ServerLauncher.Update

/--
The events that an update leaves.
-/
inductive Trace : Event → Prop where
  | request (url : Url) : Trace (.requested url)
  | question (v : Version) : Trace (.asked (question v) downloadLabel)
  | restart (v : Version) : Trace (.restartRequested (restartReason v))

section

variable {R : World → World → Prop} [IsPreorder World R]

-- A relation is kept by a whole check if it does not look at the files and the single things that a
-- check does keep it.
variable (hfiles : ∀ w files, R w (World.withFiles w files))
variable (hrequest : ∀ url, (Action.request url).Keeps R)
variable (hask : ∀ v, (Action.ask (question v) downloadLabel).Keeps R)
variable (hrestart : ∀ v, (Action.requestRestart (restartReason v)).Keeps R)

include hfiles hrequest hask hrestart

theorem keeps_offer (u : Update) (v : Version) : (u.offer v).Keeps R := by
  have hfetch : (u.fetch v).Keeps R :=
    (Registry.keeps_downloadArtifact hfiles hrequest _ _ _ _).adapt _
  unfold offer
  refine Attempt.Keeps.bind (Attempt.keeps_lift (hask v)) ?_
  intro accepted
  split
  . exact Attempt.keeps_pure _
  . refine Attempt.Keeps.bind hfetch ?_
    intro _
    refine Attempt.Keeps.bind (Attempt.keeps_lift (hrestart v)) ?_
    intro _
    exact Attempt.keeps_pure _

theorem keeps_run (u : Update) : u.run.Keeps R := by
  have hlatest : u.latest.Keeps R := (Registry.keeps_latest hfiles hrequest _ _ _).adapt _
  unfold run
  refine Attempt.Keeps.bind hlatest ?_
  intro latest
  split
  . exact Attempt.keeps_pure _
  . refine Attempt.Keeps.bind (Attempt.keeps_lift Action.keeps_machine) ?_
    intro machine
    split
    . exact Attempt.keeps_pure _
    . split
      . exact Attempt.keeps_pure _
      . exact keeps_offer hfiles hrequest hask hrestart u latest

theorem keeps_check (u : Update) : u.check.Keeps R := by
  unfold check
  refine Action.Keeps.bind (keeps_run hfiles hrequest hask hrestart u) ?_
  intro result
  split
  . exact Action.keeps_pure _
  . exact Action.keeps_pure _

end

theorem adds_check (u : Update) : u.check.Keeps (World.Adds Trace) := by
  apply keeps_check
  . intro w files
    exact World.adds_of_eq rfl
  . intro url
    exact Action.adds_request (.request url)
  . intro v
    exact Action.adds_ask (.question v)
  . intro v
    exact Action.adds_requestRestart (.restart v)

end ServerLauncher.Update
