import ServerLauncher.Proofs.Registry.Inquiry
import ServerLauncher.Proofs.Registry.Keeping

/-!
This module contains the requests that lookups and downloads make. A lookup asks for the metadata only,
and a download asks for the checksum and, once it has been received, for the jar.
-/

namespace ServerLauncher.Registry

variable {ε α : Type} {client : Client} {c : Coordinate} {v : Version} {w : World}

/--
The events are the same in two worlds.
-/
def SameEvents (before after : World) : Prop :=
  after.events = before.events

instance : IsPreorder World SameEvents where
  refl _ := rfl
  trans _ _ _ h₁ h₂ := h₂.trans h₁

theorem sameEvents_withFiles (w : World) (files : FileSystem) : SameEvents w (w.withFiles files) :=
  rfl

/--
A download asks for nothing, or for its URL only.
-/
theorem events_download (staging : Option Path) (url : String) (destination : Path)
    (checksum : String) (w : World) :
    ((download staging url destination checksum).run.run w).2.events = w.events ∨
      ((download staging url destination checksum).run.run w).2.events =
        ((Http.getBytes url).run.run w).2.events := by
  have hdownloading := downloading_download staging url destination checksum w
  generalize (download staging url destination checksum).run.run w = run at hdownloading ⊢
  rcases run with ⟨result, w'⟩
  cases hdownloading with
  | unstaged e => exact .inl rfl
  | givenUp hgivesUp hstreamed => exact .inr hstreamed.events
  | @verified result w₁ w₂ name x via body hreceived hdigest hstreamed hcommit =>
    generalize staging.getD w.files.temporaryDirectory = directory at hcommit
    have hsame : SameEvents w₁ ((commit (directory / name) destination).run.run w₁).2 :=
      keeps_commit sameEvents_withFiles _ _ w₁
    rw [hcommit] at hsame
    have hevents : w₂.events = ((Http.getBytes url).run.run w).2.events :=
      hsame.trans hstreamed.events
    -- Whether the staged file is discarded or not makes no difference to the events.
    cases result with
    | error e => exact .inr hevents
    | ok moved =>
      cases moved with
      | true => exact .inr hevents
      | false => exact .inr hevents

/--
An event is a request.
-/
def IsRequest (event : Event) : Prop :=
  ∃ url, event = .requested url

/--
The events that an attempt adds to the record, all of which are requests.
-/
structure Requests (attempt : Attempt ε α) (w : World) (events : List Event) : Prop where
  record : (attempt.run.run w).2.events = w.events ++ events
  isRequest : ∀ event ∈ events, IsRequest event

/--
The events of asking a registry for one of its files, if it is asked at all.
-/
inductive Client.AsksFor (client : Client) (file : String) (w : World) : List Event → Prop where
  | nothing : AsksFor client file w []
  | file {url : Url} {events : List Event} (hurl : client.urlOf file = .ok url)
    (hrequests : Requests (Http.getText url) w events) : AsksFor client file w events

/--
The events of asking a registry for a jar behind its checksum, if it is asked at all.
-/
inductive Client.AsksForJar (client : Client) (c : Coordinate) (v : Version) (w : World) :
    List Event → Prop where
  | nothing : AsksForJar client c v w []
  | jar {url jarUrl : Url} {checksum : String} {w₁ : World} {files : FileSystem}
    {events : List Event} (hurl : client.urlOf (c.checksumPath v) = .ok url)
    (hchecksum : (Http.getText url).run.run w = (.ok checksum, w₁))
    (hjar : client.urlOf (c.jarPath v) = .ok jarUrl)
    (hrequests : Requests (Http.getBytes jarUrl.text) (w₁.withFiles files) events) :
    AsksForJar client c v w events

theorem exists_requests {attempt : Attempt ε α} (h : attempt.Keeps (World.Adds IsRequest))
    (w : World) : ∃ events, Requests attempt w events := by
  have ⟨events, hrecord, hisRequest⟩ := h w
  exact ⟨events, hrecord, hisRequest⟩

theorem adds_request (url : Url) : (Action.request url).Keeps (World.Adds IsRequest) :=
  Action.adds_request ⟨url, rfl⟩

theorem exists_requests_getText (url : Url) (w : World) :
    ∃ events, Requests (Http.getText url) w events :=
  exists_requests (Http.keeps_getText adds_request url) w

theorem exists_requests_getBytes (url : String) (w : World) :
    ∃ events, Requests (Http.getBytes url) w events :=
  exists_requests (Http.keeps_getBytes adds_request url) w

theorem Client.AsksFor.isRequest {file : String} {events : List Event}
    (h : client.AsksFor file w events) : ∀ event ∈ events, IsRequest event := by
  cases h with
  | nothing => simp
  | file hurl hrequests => exact hrequests.isRequest

theorem Client.AsksForJar.isRequest {events : List Event} (h : client.AsksForJar c v w events) :
    ∀ event ∈ events, IsRequest event := by
  cases h with
  | nothing => simp
  | jar hurl hchecksum hjar hrequests => exact hrequests.isRequest

/--
Looking up the latest version asks for nothing but the metadata.
-/
theorem asksFor_latest (client : Client) (c : Coordinate) (useCache : Bool) (w : World) :
    ∃ events, ((client.latest c useCache).run.run w).2.events = w.events ++ events ∧
      client.AsksFor c.metadataPath w events := by
  have hlooks := looks_latest client c useCache w
  generalize (client.latest c useCache).run.run w = run at hlooks ⊢
  rcases run with ⟨result, w'⟩
  cases hlooks with
  | known => exact ⟨[], (List.append_nil _).symm, .nothing⟩
  | unnamed => exact ⟨[], (List.append_nil _).symm, .nothing⟩
  | @unanswered url _ _ _ hurl hget =>
    have ⟨events, hrequests⟩ := exists_requests_getText url w
    have hrecord := hrequests.record
    rw [hget] at hrecord
    exact ⟨events, hrecord, .file hurl hrequests⟩
  | @versionless url _ _ _ _ hurl hget =>
    have ⟨events, hrequests⟩ := exists_requests_getText url w
    have hrecord := hrequests.record
    rw [hget] at hrecord
    exact ⟨events, hrecord, .file hurl hrequests⟩
  | @answered url _ _ _ _ hurl hget =>
    -- Keeping the answer is no request.
    have ⟨events, hrequests⟩ := exists_requests_getText url w
    have hrecord := hrequests.record
    rw [hget] at hrecord
    exact ⟨events, Client.events_keep.trans hrecord, .file hurl hrequests⟩

/--
Downloading a jar asks for its checksum first. Only if it is received, the jar itself is asked for.
-/
theorem asksForJar_downloadArtifact (client : Client) (c : Coordinate) (v : Version)
    (destination : Path) (w : World) :
    ∃ checksum jar, ((client.downloadArtifact c v destination).run.run w).2.events =
        w.events ++ checksum ++ jar ∧
      client.AsksFor (c.checksumPath v) w checksum ∧ client.AsksForJar c v w jar := by
  have hdownloads := downloads_downloadArtifact client c v destination w
  generalize (client.downloadArtifact c v destination).run.run w = run at hdownloads ⊢
  rcases run with ⟨result, w'⟩
  cases hdownloads with
  | unnamed e => exact ⟨[], [], by simp, .nothing, .nothing⟩
  | @unverifiable url cause w₁ hurl hget =>
    have ⟨checksum, hrequests⟩ := exists_requests_getText url w
    have hrecord := hrequests.record
    rw [hget] at hrecord
    refine ⟨checksum, [], ?_, .file hurl hrequests, .nothing⟩
    rw [List.append_nil]
    exact hrecord
  | @verifiable url jarUrl published w₁ w₂ fetched hurl hjar hget hrun =>
    have ⟨checksum, hrequests⟩ := exists_requests_getText url w
    have hrecord := hrequests.record
    rw [hget] at hrecord
    have hevents := events_download client.staging jarUrl.text destination published w₁
    rw [hrun] at hevents
    rcases hevents with hnothing | hjarEvents
    . refine ⟨checksum, [], ?_, .file hurl hrequests, .nothing⟩
      rw [List.append_nil]
      exact hnothing.trans hrecord
    . have ⟨jar, hjarRequests⟩ := exists_requests_getBytes jarUrl.text (w₁.withFiles w₁.files)
      refine ⟨checksum, jar, ?_, .file hurl hrequests, .jar hurl hget hjar hjarRequests⟩
      rw [← hrecord]
      exact hjarEvents.trans hjarRequests.record

end ServerLauncher.Registry
