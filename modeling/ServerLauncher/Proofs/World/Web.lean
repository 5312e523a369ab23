import ServerLauncher.Http.Client
import ServerLauncher.Proofs.World.Record
import ServerLauncher.Proofs.World.Running

/-!
This module contains what requests do to the world: a relation that single requests keep is kept by
every way of asking the web, and the files make no difference to any of them. And nobody answers
without having been asked.
-/

namespace ServerLauncher.Http

variable {R : World → World → Prop} [IsPreorder World R]

theorem keeps_ask (h : ∀ url, (Action.request url).Keeps R) (url : Url) : (ask url).Keeps R := by
  unfold ask
  apply Attempt.Keeps.bind (Attempt.keeps_lift (h _))
  intro answer
  cases answer with
  | none => exact Attempt.keeps_throw _
  | some response => exact Attempt.keeps_pure _

theorem keeps_follow (h : ∀ url, (Action.request url).Keeps R) (redirects : Nat) (url : Url) :
    (follow redirects url).Keeps R := by
  induction redirects generalizing url with
  | zero =>
    unfold follow
    apply Attempt.Keeps.bind (keeps_ask h url)
    intro answer
    rcases answer with ⟨response, next⟩
    cases next with
    | none => exact Attempt.keeps_pure _
    | some next => exact Attempt.keeps_throw _
  | succ redirects ih =>
    unfold follow
    apply Attempt.Keeps.bind (keeps_ask h url)
    intro answer
    rcases answer with ⟨response, next⟩
    cases next with
    | none => exact Attempt.keeps_pure _
    | some next =>
      dsimp
      split
      . exact ih next
      . exact Attempt.keeps_throw _

theorem keeps_get (h : ∀ url, (Action.request url).Keeps R) (url : Url) : (get url).Keeps R := by
  unfold get
  dsimp only
  split
  . exact Attempt.keeps_throw_bind _ _
  . apply Attempt.Keeps.bind (keeps_follow h _ _)
    intro answer
    rcases answer with ⟨last, response⟩
    dsimp only
    split
    . exact Attempt.keeps_throw_bind _ _
    . exact Attempt.keeps_pure _

theorem keeps_getText (h : ∀ url, (Action.request url).Keeps R) (url : Url) :
    (getText url).Keeps R := by
  unfold getText
  apply Attempt.Keeps.bind (keeps_get h url)
  intro answer
  rcases answer with ⟨last, response⟩
  dsimp only
  split
  . exact Attempt.keeps_pure _
  . exact Attempt.keeps_throw _

theorem keeps_getBytes (h : ∀ url, (Action.request url).Keeps R) (url : String) :
    (getBytes url).Keeps R := by
  unfold getBytes
  split
  . exact Attempt.keeps_throw _
  . apply Attempt.Keeps.bind (keeps_get h _)
    intro answer
    rcases answer with ⟨last, response⟩
    dsimp only
    split
    . exact Attempt.keeps_pure _
    . exact Attempt.keeps_throw _

/--
What the attempt does does not depend on the files, which it leaves as they are.
-/
def IgnoresFiles {ε α : Type} (attempt : Attempt ε α) : Prop :=
  ∀ (w : World) (files : FileSystem), attempt.run.run (w.withFiles files) =
    ((attempt.run.run w).1, (attempt.run.run w).2.withFiles files)

theorem ignoresFiles_ofExcept {ε α : Type} (result : Except ε α) :
    IgnoresFiles (ExceptT.mk (pure result) : Attempt ε α) := by
  intro w files
  rfl

theorem IgnoresFiles.bind {ε α β : Type} {attempt : Attempt ε α} {next : α → Attempt ε β}
    (h : IgnoresFiles attempt) (hnext : ∀ a, IgnoresFiles (next a)) :
    IgnoresFiles (attempt >>= next) := by
  intro w files
  have hfiles := h w files
  rcases hrun : attempt.run.run w with ⟨result, w₁⟩
  rw [hrun] at hfiles
  cases result with
  | error e =>
    rw [Attempt.run_bind_of_error hrun]
    exact Attempt.run_bind_of_error hfiles
  | ok a =>
    rw [Attempt.run_bind_of_ok hrun]
    rw [Attempt.run_bind_of_ok hfiles]
    exact hnext a w₁ files

theorem ignoresFiles_ask (url : Url) : IgnoresFiles (ask url) := by
  unfold ask
  apply IgnoresFiles.bind
  . intro w files
    rfl
  . intro answer
    cases answer with
    | none => exact ignoresFiles_ofExcept _
    | some response => exact ignoresFiles_ofExcept _

theorem ignoresFiles_follow (redirects : Nat) (url : Url) : IgnoresFiles (follow redirects url) := by
  induction redirects generalizing url with
  | zero =>
    unfold follow
    apply (ignoresFiles_ask url).bind
    intro answer
    split
    . exact ignoresFiles_ofExcept _
    . exact ignoresFiles_ofExcept _
  | succ redirects ih =>
    unfold follow
    apply (ignoresFiles_ask url).bind
    intro answer
    split
    . exact ignoresFiles_ofExcept _
    . split
      . exact ih _
      . exact ignoresFiles_ofExcept _

theorem ignoresFiles_get (url : Url) : IgnoresFiles (get url) := by
  unfold get
  dsimp only
  split
  . exact ignoresFiles_ofExcept _
  . apply (ignoresFiles_follow _ _).bind
    intro answer
    split
    . exact ignoresFiles_ofExcept _
    . exact ignoresFiles_ofExcept _

theorem ignoresFiles_getBytes (url : String) : IgnoresFiles (getBytes url) := by
  unfold getBytes
  split
  . exact ignoresFiles_ofExcept _
  . apply (ignoresFiles_get _).bind
    intro answer
    dsimp only
    split
    . exact ignoresFiles_ofExcept _
    . exact ignoresFiles_ofExcept _

/--
The attempt leaves something on the record, whatever comes of it.
-/
def LeavesTrace {ε α : Type} (attempt : Attempt ε α) : Prop :=
  ∀ w, w.events.length < (attempt.run.run w).2.events.length

theorem LeavesTrace.bind {ε α β : Type} {attempt : Attempt ε α} {next : α → Attempt ε β}
    (h : LeavesTrace attempt) (hnext : ∀ a, (next a).Keeps World.Follows) :
    LeavesTrace (attempt >>= next) := by
  intro w
  have hlt := h w
  rcases hrun : attempt.run.run w with ⟨result, w₁⟩
  rw [hrun] at hlt
  cases result with
  | error e =>
    rw [Attempt.run_bind_of_error hrun]
    exact hlt
  | ok a =>
    rw [Attempt.run_bind_of_ok hrun]
    exact Nat.lt_of_lt_of_le hlt (hnext a w₁).events.length_le

theorem leavesTrace_ask (url : Url) : LeavesTrace (ask url) := by
  intro w
  unfold ask
  rw [Attempt.run_bind_of_ok (Attempt.run_lift (Action.request _) w)]
  have hrequest : w.events.length <
      ((Action.request url.withoutUser.withoutFragment).run w).2.events.length := by
    show w.events.length < (w.events ++ [_]).length
    simp
  split
  . exact hrequest
  . exact hrequest

theorem leavesTrace_follow (redirects : Nat) (url : Url) : LeavesTrace (follow redirects url) := by
  cases redirects with
  | zero =>
    unfold follow
    apply (leavesTrace_ask url).bind
    intro answer
    split
    . exact Attempt.keeps_pure _
    . exact Attempt.keeps_throw _
  | succ redirects =>
    unfold follow
    apply (leavesTrace_ask url).bind
    intro answer
    split
    . exact Attempt.keeps_pure _
    . split
      . exact keeps_follow Action.follows_request _ _
      . exact Attempt.keeps_throw _

theorem leavesTrace_get {url : Url} (husable : isUsable url = true) : LeavesTrace (get url) := by
  unfold get
  rw [husable]
  apply (leavesTrace_follow _ _).bind
  intro answer
  dsimp only
  split
  . exact Attempt.keeps_throw_bind _ _
  . exact Attempt.keeps_pure _

theorem length_lt_of_getText {url : Url} {text : String} {w w' : World}
    (h : (getText url).run.run w = (.ok text, w')) : w.events.length < w'.events.length := by
  cases husable : isUsable url with
  | false =>
    unfold getText get at h
    rw [husable] at h
    cases h
  | true =>
    have htrace : LeavesTrace (getText url) := by
      unfold getText
      apply (leavesTrace_get husable).bind
      intro answer
      dsimp only
      split
      . exact Attempt.keeps_pure _
      . exact Attempt.keeps_throw _
    have hlt := htrace w
    rw [h] at hlt
    exact hlt

end ServerLauncher.Http
