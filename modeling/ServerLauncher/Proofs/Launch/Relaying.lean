import ServerLauncher.Launch.Relay

/-!
This module contains what a relay delivers, for all pieces that the bytes are moved in and for all
orders of the two directions: at any moment the front of what has been sent, and all of it from a side
whose closing has ended the relay.
-/

namespace ServerLauncher.Relay

namespace Channel

variable {c : Channel} {bytes : List UInt8} {closes : Bool}

/--
The bytes of a sender are in the channel, each of them once and in their order.
-/
structure Carries (c : Channel) (bytes : List UInt8) (closes : Bool) : Prop where
  append_eq : c.delivered ++ c.held ++ c.unread = bytes
  closes_eq : c.closes = closes

theorem carries_start (bytes : List UInt8) (closes : Bool) :
    (Channel.start bytes closes).Carries bytes closes :=
  ⟨rfl, rfl⟩

theorem Carries.read (h : c.Carries bytes closes) (count : Nat) :
    (c.read count).Carries bytes closes where
  append_eq := by
    rw [← h.append_eq]
    unfold Channel.read
    simp
  closes_eq := h.closes_eq

theorem Carries.write (h : c.Carries bytes closes) (count : Nat) :
    (c.write count).Carries bytes closes where
  append_eq := by
    rw [← h.append_eq]
    unfold Channel.write
    simp
  closes_eq := h.closes_eq

theorem Carries.delivered (h : c.Carries bytes closes) : c.delivered <+: bytes :=
  ⟨c.held ++ c.unread, by rw [← List.append_assoc, h.append_eq]⟩

theorem Carries.isDone_iff (h : c.Carries bytes closes) :
    c.isDone = true ↔ closes = true ∧ c.delivered = bytes := by
  have hempty : c.delivered = bytes ↔ c.held ++ c.unread = [] := by
    rw [← h.append_eq, List.append_assoc]
    exact List.self_eq_append_right
  unfold isDone
  rw [hempty, List.append_eq_nil_iff, ← h.closes_eq, Bool.and_eq_true, Bool.and_eq_true,
    List.isEmpty_iff, List.isEmpty_iff, and_assoc]
  exact and_congr_right fun _ => and_comm

/--
Everything is delivered once it has been read and written.
-/
theorem Carries.delivered_read_write (h : c.Carries bytes closes) :
    ((c.read c.unread.length).write bytes.length).delivered = bytes := by
  have hlength := congrArg List.length h.append_eq
  rw [List.length_append, List.length_append] at hlength
  show c.delivered ++ (c.held ++ c.unread.take c.unread.length).take bytes.length = bytes
  rw [List.take_length, List.take_of_length_le, ← List.append_assoc]
  . exact h.append_eq
  . rw [List.length_append]
    omega

end Channel

/--
The state of a relay between an editor and a server, and what its end says of them.
-/
structure Carries (fromEditor fromServer : List UInt8) (editorCloses serverCloses : Bool)
    (r : Relay) : Prop where
  upward : r.upward.Carries fromEditor editorCloses
  downward : r.downward.Carries fromServer serverCloses
  editorClosed : r.ending = some .editorClosed → r.upward.isDone = true
  serverClosed : r.ending = some .serverClosed → r.downward.isDone = true

/--
A relay says nothing but what it has been told, and all of it before it ends because of a side.
-/
structure Faithful (fromEditor fromServer : List UInt8) (editorCloses serverCloses : Bool)
    (r : Relay) : Prop where
  upward : r.upward.delivered <+: fromEditor
  downward : r.downward.delivered <+: fromServer
  editorClosed : r.ending = some .editorClosed →
    editorCloses = true ∧ r.upward.delivered = fromEditor
  serverClosed : r.ending = some .serverClosed →
    serverCloses = true ∧ r.downward.delivered = fromServer
  /-- A side that has closed is noticed just when all of its bytes are delivered. -/
  endUpward_iff : r.ending = none → ((r.step .endUpward).ending = some .editorClosed ↔
    editorCloses = true ∧ r.upward.delivered = fromEditor)
  endDownward_iff : r.ending = none → ((r.step .endDownward).ending = some .serverClosed ↔
    serverCloses = true ∧ r.downward.delivered = fromServer)
  /-- What has been delivered stays so, and before the end the rest can follow. -/
  kept : ∀ moves, r.upward.delivered <+: (r.run moves).upward.delivered ∧
    r.downward.delivered <+: (r.run moves).downward.delivered
  onward : r.ending = none → ∃ moves, (r.run moves).ending = none ∧
    (r.run moves).upward.delivered = fromEditor ∧ (r.run moves).downward.delivered = fromServer

variable {fromEditor fromServer : List UInt8} {editorCloses serverCloses : Bool} {r : Relay}

theorem step_of_ending {ending : Ending} (h : r.ending = some ending) (move : Move) :
    r.step move = r := by
  simp [step, finished, h]

theorem carries_start (fromEditor fromServer : List UInt8) (editorCloses serverCloses : Bool) :
    Carries fromEditor fromServer editorCloses serverCloses
      (start fromEditor fromServer editorCloses serverCloses) where
  upward := Channel.carries_start fromEditor editorCloses
  downward := Channel.carries_start fromServer serverCloses
  editorClosed h := by cases h
  serverClosed h := by cases h

theorem Carries.step (h : Carries fromEditor fromServer editorCloses serverCloses r) (move : Move) :
    Carries fromEditor fromServer editorCloses serverCloses (r.step move) := by
  cases hending : r.ending with
  | some ending =>
    rw [step_of_ending hending]
    exact h
  | none =>
    have hrunning : ¬r.finished = true := by simp [finished, hending]
    unfold Relay.step
    rw [if_neg hrunning]
    cases move with
    | readUpward count => exact ⟨h.upward.read count, h.downward, by simp [hending], by simp [hending]⟩
    | writeUpward count => exact ⟨h.upward.write count, h.downward, by simp [hending], by simp [hending]⟩
    | readDownward count =>
      exact ⟨h.upward, h.downward.read count, by simp [hending], by simp [hending]⟩
    | writeDownward count =>
      exact ⟨h.upward, h.downward.write count, by simp [hending], by simp [hending]⟩
    | endUpward =>
      dsimp only
      split
      . next hdone => exact ⟨h.upward, h.downward, fun _ => hdone, by simp⟩
      . exact h
    | endDownward =>
      dsimp only
      split
      . next hdone => exact ⟨h.upward, h.downward, by simp, fun _ => hdone⟩
      . exact h
    | breakOff => exact ⟨h.upward, h.downward, by simp, by simp⟩

theorem Carries.run (h : Carries fromEditor fromServer editorCloses serverCloses r)
    (moves : List Move) :
    Carries fromEditor fromServer editorCloses serverCloses (r.run moves) := by
  induction moves generalizing r with
  | nil => exact h
  | cons move moves ih => exact ih (h.step move)

/--
No step takes back what has been delivered.
-/
theorem delivered_step (r : Relay) (move : Move) :
    r.upward.delivered <+: (r.step move).upward.delivered ∧
      r.downward.delivered <+: (r.step move).downward.delivered := by
  have hsame := List.prefix_refl r.upward.delivered
  have hsame' := List.prefix_refl r.downward.delivered
  unfold step
  split
  . exact ⟨hsame, hsame'⟩
  . cases move with
    | writeUpward count => exact ⟨List.prefix_append _ _, hsame'⟩
    | writeDownward count => exact ⟨hsame, List.prefix_append _ _⟩
    | endUpward =>
      dsimp only
      split <;> exact ⟨hsame, hsame'⟩
    | endDownward =>
      dsimp only
      split <;> exact ⟨hsame, hsame'⟩
    | _ => exact ⟨hsame, hsame'⟩

theorem delivered_run (r : Relay) (moves : List Move) :
    r.upward.delivered <+: (r.run moves).upward.delivered ∧
      r.downward.delivered <+: (r.run moves).downward.delivered := by
  induction moves generalizing r with
  | nil => exact ⟨List.prefix_refl _, List.prefix_refl _⟩
  | cons move moves ih =>
    have ⟨hupward, hdownward⟩ := delivered_step r move
    have ⟨hupward', hdownward'⟩ := ih (r.step move)
    exact ⟨hupward.trans hupward', hdownward.trans hdownward'⟩

theorem Carries.exists_delivered (h : Carries fromEditor fromServer editorCloses serverCloses r)
    (hending : r.ending = none) : ∃ moves, (r.run moves).ending = none ∧
      (r.run moves).upward.delivered = fromEditor ∧
      (r.run moves).downward.delivered = fromServer := by
  refine ⟨[.readUpward r.upward.unread.length, .writeUpward fromEditor.length,
    .readDownward r.downward.unread.length, .writeDownward fromServer.length], ?_⟩
  have hrun : r.run [.readUpward r.upward.unread.length, .writeUpward fromEditor.length,
      .readDownward r.downward.unread.length, .writeDownward fromServer.length] =
      { r with
        upward := (r.upward.read r.upward.unread.length).write fromEditor.length
        downward := (r.downward.read r.downward.unread.length).write fromServer.length } := by
    simp [Relay.run, Relay.step, finished, hending]
  rw [hrun]
  exact ⟨hending, h.upward.delivered_read_write, h.downward.delivered_read_write⟩

theorem Carries.faithful (h : Carries fromEditor fromServer editorCloses serverCloses r) :
    Faithful fromEditor fromServer editorCloses serverCloses r where
  upward := h.upward.delivered
  downward := h.downward.delivered
  editorClosed hending := h.upward.isDone_iff.1 (h.editorClosed hending)
  serverClosed hending := h.downward.isDone_iff.1 (h.serverClosed hending)
  endUpward_iff hending := by
    rw [← h.upward.isDone_iff]
    cases hdone : r.upward.isDone <;> simp [Relay.step, finished, hending, hdone]
  endDownward_iff hending := by
    rw [← h.downward.isDone_iff]
    cases hdone : r.downward.isDone <;> simp [Relay.step, finished, hending, hdone]
  kept := delivered_run r
  onward := h.exists_delivered

/--
However the two directions take turns, and wherever the relay is broken off, it is faithful to both.
-/
theorem faithful_run (fromEditor fromServer : List UInt8) (editorCloses serverCloses : Bool)
    (moves : List Move) :
    Faithful fromEditor fromServer editorCloses serverCloses
      ((start fromEditor fromServer editorCloses serverCloses).run moves) :=
  ((carries_start fromEditor fromServer editorCloses serverCloses).run moves).faithful

example : ((start [1, 2, 3] [4, 5] false true).run
    [.readUpward 2, .readDownward 1, .readDownward 1, .writeUpward 1, .endDownward, .writeDownward 2,
      .endDownward, .writeUpward 1]) =
    ⟨⟨[3], [2], [1], false⟩, ⟨[], [], [4, 5], true⟩, some .serverClosed⟩ := by decide

end ServerLauncher.Relay
