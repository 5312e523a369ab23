import ServerLauncher.Proofs.World.Web

/-!
This module contains the course of a request: which URLs are asked, one after the other, as answers
send the request elsewhere, and what comes of it.
-/

namespace ServerLauncher.Http

/--
The URL in the form in which it is sent.
-/
def sent (url : Url) : Url :=
  url.withoutUser.withoutFragment

/--
What a URL that is asked now is answered with, if it is answered.
-/
def answer? (w : World) (url : Url) : Option Response :=
  w.web w.requests (sent url)

/--
The world after some URLs have been asked.
-/
def asked (w : World) (urls : List Url) : World :=
  { w with events := w.events ++ urls.map .requested }

/--
A request to a URL that may be sent elsewhere some times: the URLs that are asked, and the answer of the
last one or the reason why there is none.
-/
inductive Trip : World → Nat → Url → List Url → Except Error (Url × Response) → Prop where
  | unanswered {w : World} {n : Nat} {url : Url} (hanswer : answer? w url = none) :
    Trip w n url [sent url] (.error (.unanswered url))
  | answered {w : World} {n : Nat} {url : Url} {response : Response}
    (hanswer : answer? w url = some response) (htarget : target? url response = none) :
    Trip w n url [sent url] (.ok (url, response))
  | tooFar {w : World} {url next : Url} {response : Response}
    (hanswer : answer? w url = some response) (htarget : target? url response = some next) :
    Trip w 0 url [sent url] (.error (.tooManyRedirects url))
  | astray {w : World} {n : Nat} {url next : Url} {response : Response}
    (hanswer : answer? w url = some response) (htarget : target? url response = some next)
    (hnext : isUsable next = false) :
    Trip w (n + 1) url [sent url] (.error (.unusable (some next)))
  | redirected {w : World} {n : Nat} {url next : Url} {response : Response} {urls : List Url}
    {outcome : Except Error (Url × Response)}
    (hanswer : answer? w url = some response) (htarget : target? url response = some next)
    (hnext : isUsable next = true) (hrest : Trip (asked w [sent url]) n next urls outcome) :
    Trip w (n + 1) url (sent url :: urls) outcome

/--
The text that a request has brought: the whole body of an answer that does not tell of an error.
-/
inductive Delivers : Except Error (Url × Response) → String → Prop where
  | whole {last : Url} {response : Response}
    (hstatus : ¬(400 ≤ response.status ∧ response.status < 600))
    (hcomplete : response.complete = true) :
    Delivers (.ok (last, response)) (Utf8.decodeLossy response.body)

/--
The reason why a request has not brought a text.
-/
inductive Fails : Except Error (Url × Response) → Error → Prop where
  | broken {cause : Error} : Fails (.error cause) cause
  | refused {last : Url} {response : Response}
    (hstatus : 400 ≤ response.status ∧ response.status < 600) :
    Fails (.ok (last, response)) (.status response.status last.withoutFragment)
  | cut {last : Url} {response : Response}
    (hstatus : ¬(400 ≤ response.status ∧ response.status < 600))
    (hcomplete : response.complete = false) :
    Fails (.ok (last, response)) (.incomplete (some last.withoutFragment))

variable {w : World} {n : Nat} {url : Url} {urls : List Url} {text : String} {cause : Error}
  {outcome : Except Error (Url × Response)}

theorem asked_asked (w : World) (urls others : List Url) :
    asked (asked w urls) others = asked w (urls ++ others) := by
  simp [asked]

theorem run_ask (url : Url) (w : World) :
    (ask url).run.run w =
      ((match answer? w url with
        | none => .error (.unanswered url)
        | some response => .ok (response, target? url response)), asked w [sent url]) := by
  unfold ask
  rw [Attempt.run_bind_of_ok (Attempt.run_lift (Action.request _) w)]
  change (match answer? w url with | none => _ | some response => _ : Attempt _ _).run.run
    (asked w [sent url]) = _
  cases answer? w url <;> rfl

theorem Trip.length_le (h : Trip w n url urls outcome) : urls.length ≤ n + 1 := by
  induction h with
  | unanswered => simp
  | answered => simp
  | tooFar => simp
  | astray => simp
  | redirected _ _ _ _ ih => simpa using ih

theorem Trip.head? (h : Trip w n url urls outcome) : urls.head? = some (sent url) := by
  cases h <;> rfl

theorem Trip.ne_nil (h : Trip w n url urls outcome) : urls ≠ [] := by
  intro hnil
  have hhead := h.head?
  rw [hnil] at hhead
  cases hhead

/--
Following an answer takes the trip, and changes nothing but the record.
-/
theorem trip_follow (n : Nat) (url : Url) (w : World) :
    ∃ urls, Trip w n url urls ((follow n url).run.run w).1 ∧
      ((follow n url).run.run w).2 = asked w urls := by
  induction n generalizing url w with
  | zero =>
    have hask := run_ask url w
    unfold follow
    cases hanswer : answer? w url with
    | none =>
      rw [hanswer] at hask
      rw [Attempt.run_bind_of_error hask]
      exact ⟨_, .unanswered hanswer, rfl⟩
    | some response =>
      rw [hanswer] at hask
      rw [Attempt.run_bind_of_ok hask]
      cases htarget : target? url response with
      | none => exact ⟨_, .answered hanswer htarget, rfl⟩
      | some next => exact ⟨_, .tooFar hanswer htarget, rfl⟩
  | succ n ih =>
    have hask := run_ask url w
    unfold follow
    cases hanswer : answer? w url with
    | none =>
      rw [hanswer] at hask
      rw [Attempt.run_bind_of_error hask]
      exact ⟨_, .unanswered hanswer, rfl⟩
    | some response =>
      rw [hanswer] at hask
      rw [Attempt.run_bind_of_ok hask]
      cases htarget : target? url response with
      | none => exact ⟨_, .answered hanswer htarget, rfl⟩
      | some next =>
        dsimp only
        cases hnext : isUsable next with
        | false => exact ⟨_, .astray hanswer htarget hnext, rfl⟩
        | true =>
          obtain ⟨urls, htrip, hafter⟩ := ih next (asked w [sent url])
          refine ⟨_, .redirected hanswer htarget hnext htrip, ?_⟩
          rw [if_pos rfl]
          rw [hafter]
          exact asked_asked w [sent url] urls

theorem run_getText_of_not_usable (h : isUsable url = false) (w : World) :
    (getText url).run.run w = (.error (.unusable (some url)), w) := by
  unfold getText get
  rw [h]
  rfl

/--
What a request comes to once its answer is read.
-/
def received (outcome : Except Error (Url × Response)) : Except Error String :=
  match outcome with
  | .error cause => .error cause
  | .ok (last, response) =>
    if 400 ≤ response.status ∧ response.status < 600 then
      .error (.status response.status last.withoutFragment)
    else if response.complete then .ok (Utf8.decodeLossy response.body)
    else .error (.incomplete (some last.withoutFragment))

theorem received_eq_ok_iff : received outcome = .ok text ↔ Delivers outcome text := by
  constructor
  . intro h
    unfold received at h
    split at h
    . cases h
    . split at h
      . cases h
      . next hstatus =>
        split at h
        . next hcomplete =>
          cases h
          exact .whole hstatus hcomplete
        . cases h
  . intro h
    cases h with
    | whole hstatus hcomplete =>
      unfold received
      dsimp only
      rw [if_neg hstatus, if_pos hcomplete]

theorem received_eq_error_iff : received outcome = .error cause ↔ Fails outcome cause := by
  constructor
  . intro h
    unfold received at h
    split at h
    . cases h
      exact .broken
    . split at h
      . next hstatus =>
        cases h
        exact .refused hstatus
      . next hstatus =>
        split at h
        . cases h
        . next hcomplete =>
          cases h
          exact .cut hstatus (Bool.not_eq_true _ ▸ hcomplete)
  . intro h
    cases h with
    | broken => rfl
    | refused hstatus =>
      unfold received
      dsimp only
      rw [if_pos hstatus]
    | cut hstatus hcomplete =>
      unfold received
      dsimp only
      rw [if_neg hstatus, hcomplete]
      rfl

theorem run_get_of_follow {last : Url} {response : Response} {w' : World}
    (h : isUsable url = true)
    (hfollow : (follow redirectLimit url.withoutUser).run.run w = (.ok (last, response), w')) :
    (get url).run.run w =
      (if 400 ≤ response.status ∧ response.status < 600 then
        .error (.status response.status last.withoutFragment)
      else .ok (last.withoutFragment, response), w') := by
  unfold get
  rw [h]
  refine (Attempt.run_bind_of_ok hfollow).trans ?_
  dsimp only
  split
  . rfl
  . rfl

theorem run_get_of_follow_error {w' : World} (h : isUsable url = true)
    (hfollow : (follow redirectLimit url.withoutUser).run.run w = (.error cause, w')) :
    (get url).run.run w = (.error cause, w') := by
  unfold get
  rw [h]
  exact Attempt.run_bind_of_error hfollow

/--
The text behind a URL is what the trip there brings, and nothing but the record changes.
-/
theorem exists_trip_getText (h : isUsable url = true) (w : World) :
    ∃ urls outcome, Trip w redirectLimit url.withoutUser urls outcome ∧
      (getText url).run.run w = (received outcome, asked w urls) := by
  have ⟨urls, htrip, hafter⟩ := trip_follow redirectLimit url.withoutUser w
  refine ⟨urls, _, htrip, ?_⟩
  rcases hfollow : (follow redirectLimit url.withoutUser).run.run w with ⟨outcome, w'⟩
  rw [hfollow] at hafter
  cases hafter
  unfold getText
  cases outcome with
  | error cause => exact Attempt.run_bind_of_error (run_get_of_follow_error h hfollow)
  | ok answer =>
    rcases answer with ⟨last, response⟩
    have hget := run_get_of_follow h hfollow
    unfold received
    dsimp only
    split
    . next hstatus =>
      rw [if_pos hstatus] at hget
      exact Attempt.run_bind_of_error hget
    . next hstatus =>
      rw [if_neg hstatus] at hget
      rw [Attempt.run_bind_of_ok hget]
      dsimp only
      split
      . rfl
      . rfl

end ServerLauncher.Http
