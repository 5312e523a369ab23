import ServerLauncher.Proofs.World.Keeping

/-!
This module contains the growth of the record of events. Nothing that an action does takes an event
away, so that it is enough to know which events it adds.
-/

namespace ServerLauncher

/--
A world has become another one by adding events that pass a test.
-/
def World.Adds (P : Event → Prop) (before after : World) : Prop :=
  ∃ events, after.events = before.events ++ events ∧ ∀ event ∈ events, P event

/--
A world comes later than another one on the same web.
-/
structure World.Follows (before after : World) : Prop where
  web : after.web = before.web
  events : before.events <+: after.events

/--
The files and the time are the same in two worlds.
-/
structure World.SameFiles (before after : World) : Prop where
  files : after.files = before.files
  now : after.now = before.now

/--
The events that have been added to those of an earlier world.
-/
def World.eventsSince (before after : World) : List Event :=
  after.events.drop before.events.length

variable {P Q : Event → Prop} {w w' w₁ w₂ w₃ : World}

namespace World

instance : IsPreorder World (Adds P) where
  refl w := ⟨[], by simp, by simp⟩
  trans w₁ w₂ w₃ h₁ h₂ := by
    obtain ⟨events₁, he₁, hP₁⟩ := h₁
    obtain ⟨events₂, he₂, hP₂⟩ := h₂
    refine ⟨events₁ ++ events₂, ?_, ?_⟩
    . rw [he₂, he₁, List.append_assoc]
    . intro event h
      cases List.mem_append.1 h with
      | inl h => exact hP₁ event h
      | inr h => exact hP₂ event h

instance : IsPreorder World Follows where
  refl _ := ⟨rfl, List.prefix_rfl⟩
  trans _ _ _ h₁ h₂ := ⟨h₂.web.trans h₁.web, h₁.events.trans h₂.events⟩

instance : IsPreorder World SameFiles where
  refl _ := ⟨rfl, rfl⟩
  trans _ _ _ h₁ h₂ := ⟨h₂.files.trans h₁.files, h₂.now.trans h₁.now⟩

theorem follows_withFiles (w : World) (files : FileSystem) : Follows w (w.withFiles files) :=
  ⟨rfl, List.prefix_rfl⟩

theorem adds_of_eq (h : w'.events = w.events) : Adds P w w' :=
  ⟨[], by simp [h], by simp⟩

theorem adds_record {event : Event} (h : P event) (w : World) : Adds P w (w.record event) :=
  ⟨[event], rfl, by simpa using h⟩

theorem Adds.mono (h : Adds P w w') (hPQ : ∀ event, P event → Q event) : Adds Q w w' := by
  obtain ⟨events, he, hP⟩ := h
  exact ⟨events, he, fun event hevent => hPQ event (hP event hevent)⟩

theorem eventsSince_of_eq_append {events : List Event} (h : w₂.events = w₁.events ++ events) :
    w₁.eventsSince w₂ = events := by
  unfold eventsSince
  rw [h]
  rw [List.drop_left]

theorem Adds.mem_eventsSince_iff (h₁ : Adds P w₁ w₂) (h₂ : Adds Q w₂ w₃) {event : Event}
    (hevent : ¬Q event) : event ∈ w₁.eventsSince w₃ ↔ event ∈ w₁.eventsSince w₂ := by
  obtain ⟨events₁, he₁, _⟩ := h₁
  obtain ⟨events₂, he₂, hQ⟩ := h₂
  rw [he₁, List.append_assoc] at he₂
  rw [eventsSince_of_eq_append he₁]
  rw [eventsSince_of_eq_append he₂]
  rw [List.mem_append]
  constructor
  . intro h
    cases h with
    | inl h => exact h
    | inr h => exact absurd (hQ event h) hevent
  . intro h
    exact .inl h

theorem Adds.of_mem_eventsSince (h : Adds P w₁ w₂) {event : Event}
    (hevent : event ∈ w₁.eventsSince w₂) : P event := by
  obtain ⟨events, he, hP⟩ := h
  rw [eventsSince_of_eq_append he] at hevent
  exact hP event hevent

theorem mem_eventsSince_record (h : Adds P w₁ w₂) (event : Event) :
    event ∈ w₁.eventsSince (w₂.record event) := by
  obtain ⟨events, he, _⟩ := h
  have hrecord : (w₂.record event).events = w₁.events ++ (events ++ [event]) := by
    simp [record, he]
  rw [eventsSince_of_eq_append hrecord]
  simp

end World

namespace Action

theorem adds_notify {notice : Notice} (h : P (.notified notice)) :
    Keeps (World.Adds P) (notify notice) := by
  intro w
  exact World.adds_record h w

theorem adds_ask {message label : String} (h : P (.asked message label)) :
    Keeps (World.Adds P) (ask message label) := by
  intro w
  exact ⟨[_], rfl, by simpa using h⟩

theorem adds_requestRestart {reason : String} (h : P (.restartRequested reason)) :
    Keeps (World.Adds P) (requestRestart reason) := by
  intro w
  exact World.adds_record h w

theorem adds_request {url : Url} (h : P (.requested url)) :
    Keeps (World.Adds P) (request url) := by
  intro w
  exact ⟨[_], rfl, by simpa using h⟩

theorem follows_request (url : Url) : Keeps World.Follows (request url) := by
  intro w
  exact ⟨rfl, List.prefix_append _ _⟩

theorem sameFiles_request (url : Url) : Keeps World.SameFiles (request url) := by
  intro w
  exact ⟨rfl, rfl⟩

end Action

end ServerLauncher
