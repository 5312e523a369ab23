import ServerLauncher.Proofs.Settled.History

/-!
This module contains cells that are made of a channel which holds one value and lets receivers watch
it. Whatever channel that is, as long as it keeps what such channels promise, its cells inform their
readers like the cells of this library.
-/

namespace ServerLauncher.Settled

/--
A channel of a type `χ` for values of a type `β`, with receivers of a type `ρ`. What has to be waited
for is given as a single poll.
-/
structure Channel (χ ρ β : Type) where
  make : β → χ × ρ
  sendReplace : χ → β → χ
  subscribe : χ → ρ
  /-- The sender goes away. -/
  close : χ → χ
  borrow : χ → β
  borrowAndUpdate : χ → ρ → β × ρ
  markUnchanged : χ → ρ → ρ
  changed : χ → ρ → Poll Unit × ρ
  waitFor : χ → ρ → (β → Bool) → Poll β

variable {χ ρ α β : Type}

namespace Channel

/--
What a channel promises: the value sent last is there, and a receiver can tell whether values have been
sent that the receiver has not marked as seen. `sent` and `seen` count values.
-/
structure Lawful (channel : Channel χ ρ β) (sent : χ → Nat) (seen : ρ → Nat) (closed : χ → Bool) :
    Prop where
  borrow_make : ∀ b, channel.borrow (channel.make b).1 = b
  sent_make : ∀ b, sent (channel.make b).1 = 0
  seen_make : ∀ b, seen (channel.make b).2 = 0
  closed_make : ∀ b, closed (channel.make b).1 = false
  borrow_sendReplace : ∀ c b, channel.borrow (channel.sendReplace c b) = b
  sent_sendReplace : ∀ c b, sent (channel.sendReplace c b) = sent c + 1
  closed_sendReplace : ∀ c b, closed (channel.sendReplace c b) = closed c
  borrow_close : ∀ c, channel.borrow (channel.close c) = channel.borrow c
  sent_close : ∀ c, sent (channel.close c) = sent c
  closed_close : ∀ c, closed (channel.close c) = true
  seen_subscribe : ∀ c, seen (channel.subscribe c) = sent c
  value_borrowAndUpdate : ∀ c r, (channel.borrowAndUpdate c r).1 = channel.borrow c
  seen_borrowAndUpdate : ∀ c r, seen (channel.borrowAndUpdate c r).2 = sent c
  seen_markUnchanged : ∀ c r, seen (channel.markUnchanged c r) = sent c
  /-- An unseen value is noticed also if the sender is gone. -/
  changed_of_ne : ∀ c r, sent c ≠ seen r →
    (channel.changed c r).1 = .value () ∧ seen (channel.changed c r).2 = sent c
  changed_of_eq : ∀ c r, sent c = seen r →
    (channel.changed c r).1 = (if closed c then .closed else .waiting) ∧
      seen (channel.changed c r).2 = seen r
  /-- The value that is there counts, whether or not it has been seen. -/
  waitFor_of_true : ∀ c r test, test (channel.borrow c) = true →
    channel.waitFor c r test = .value (channel.borrow c)
  waitFor_of_false : ∀ c r test, test (channel.borrow c) = false →
    channel.waitFor c r test = if closed c then .closed else .waiting

/--
The value that a poll has come to. There is never going to be another one if it is missing.
-/
def settle : Poll (Option α) → Poll α
  | .value (some value) => .value value
  | .value none => .closed
  | .waiting => .waiting
  | .closed => .closed

/--
Cells made of a channel that holds no value at first.
-/
def interface (channel : Channel χ ρ (Option α)) : Interface χ ρ α where
  start := channel.make none
  publish c value := channel.sendReplace c (some value)
  abandon := channel.close
  reader := channel.subscribe
  current := channel.borrow
  isSettled c := (channel.borrow c).isSome
  wait c r := settle (channel.waitFor c r Option.isSome)
  changed c r :=
    match channel.changed c r with
    | (.value (), r) =>
      let (value, r) := channel.borrowAndUpdate c r
      (settle (.value value), r)
    | (.waiting, r) => (.waiting, r)
    | (.closed, r) => (.closed, r)
  markSeen := channel.markUnchanged

/--
A session with a channel as one with a cell of this library.
-/
def forget (channel : Channel χ ρ (Option α)) (sent : χ → Nat) (seen : ρ → Nat)
    (closed : χ → Bool) (s : Session χ ρ) : Session (Settled α) Reader where
  cell := ⟨channel.borrow s.cell, sent s.cell, !closed s.cell⟩
  readers := s.readers.map fun (i, r) => (i, ⟨seen r⟩)
  isOwned := s.isOwned
  length := s.length

end Channel

theorem get?_map {ρ' : Type} (f : ρ → ρ') (readers : Keyed Nat ρ) (i : Nat) :
    Keyed.get? (readers.map fun (i, r) => (i, f r)) i = (readers.get? i).map f := by
  induction readers with
  | nil => rfl
  | cons entry rest ih =>
    simp only [List.map_cons, Keyed.get?]
    split
    . rfl
    . exact ih

theorem put_map {ρ' : Type} (f : ρ → ρ') (readers : Keyed Nat ρ) (i : Nat) (r : ρ) :
    Keyed.put (readers.map fun (i, r) => (i, f r)) i (f r) =
      (readers.put i r).map fun (i, r) => (i, f r) := by
  induction readers with
  | nil => rfl
  | cons entry rest ih =>
    simp only [List.map_cons, Keyed.put]
    split
    . rfl
    . rw [ih]
      rfl

namespace Channel

variable {channel : Channel χ ρ (Option α)} {sent : χ → Nat} {seen : ρ → Nat} {closed : χ → Bool}
  {s : Session χ ρ} {i : Nat} {op : Operation α}

/--
Two ways of doing something that come to the same.
-/
def Agrees (channel : Channel χ ρ (Option α)) (sent : χ → Nat) (seen : ρ → Nat) (closed : χ → Bool)
    (done : Answer α × Session χ ρ) (done' : Answer α × Session (Settled α) Reader) : Prop :=
  done'.1 = done.1 ∧ done'.2 = channel.forget sent seen closed done.2

theorem agrees_asOwner {use : Answer α × Session χ ρ} {use' : Answer α × Session (Settled α) Reader}
    (h : channel.Agrees sent seen closed use use') :
    channel.Agrees sent seen closed (s.asOwner use)
      ((channel.forget sent seen closed s).asOwner use') := by
  unfold Session.asOwner
  show channel.Agrees sent seen closed _ (if s.isOwned then _ else _)
  split
  . exact h
  . exact ⟨rfl, rfl⟩

theorem agrees_asReader {use : ρ → Answer α × Session χ ρ}
    {use' : Reader → Answer α × Session (Settled α) Reader}
    (h : ∀ r, channel.Agrees sent seen closed (use r) (use' ⟨seen r⟩)) :
    channel.Agrees sent seen closed (s.asReader i use)
      ((channel.forget sent seen closed s).asReader i use') := by
  have hget : (channel.forget sent seen closed s).readers.get? i =
      (s.readers.get? i).map fun r => ⟨seen r⟩ := get?_map (fun r => Reader.mk (seen r)) s.readers i
  unfold Session.asReader
  rw [hget]
  cases s.readers.get? i with
  | none => exact ⟨rfl, rfl⟩
  | some r => exact h r

theorem agrees_put (s : Session χ ρ) (r : ρ) (k : Nat) (answer : Answer α) :
    channel.Agrees sent seen closed (answer, { s with readers := s.readers.put k r })
      (answer, { channel.forget sent seen closed s with
        readers := (channel.forget sent seen closed s).readers.put k ⟨seen r⟩ }) := by
  refine ⟨rfl, ?_⟩
  have hput := put_map (fun r => Reader.mk (seen r)) s.readers k r
  show Session.mk _ (Keyed.put (s.readers.map fun (i, r) => (i, Reader.mk (seen r))) k ⟨seen r⟩) _ _ = _
  rw [hput]
  rfl

variable (h : channel.Lawful sent seen closed)
include h

theorem Lawful.wait_eq (c : χ) (r : ρ) :
    channel.interface.wait c r = poll ⟨channel.borrow c, sent c, !closed c⟩ := by
  show settle (channel.waitFor c r Option.isSome) = _
  unfold poll
  cases hvalue : channel.borrow c with
  | some value =>
    rw [h.waitFor_of_true c r _ (by rw [hvalue]; rfl), hvalue]
    rfl
  | none =>
    rw [h.waitFor_of_false c r _ (by rw [hvalue]; rfl)]
    cases closed c <;> rfl

theorem Lawful.changed_eq (c : χ) (r : ρ) :
    (channel.interface.changed c r).1 =
        (pollChange ⟨channel.borrow c, sent c, !closed c⟩ ⟨seen r⟩).1 ∧
      seen (channel.interface.changed c r).2 =
        (pollChange ⟨channel.borrow c, sent c, !closed c⟩ ⟨seen r⟩).2.seen := by
  rw [seen_pollChange]
  unfold pollChange
  dsimp only [interface]
  by_cases hseen : sent c = seen r
  . have hold := h.changed_of_eq c r hseen
    generalize channel.changed c r = changed at hold
    obtain ⟨hpoll, hr⟩ := hold
    rw [if_neg (not_not_intro hseen)]
    rcases changed with ⟨poll, r'⟩
    dsimp only at hpoll hr
    rw [hpoll]
    cases closed c <;> exact ⟨rfl, hr.trans hseen.symm⟩
  . have hnew := h.changed_of_ne c r hseen
    generalize channel.changed c r = changed at hnew
    rcases changed with ⟨poll, r'⟩
    obtain ⟨rfl, _⟩ := hnew
    rw [if_pos hseen]
    constructor
    . show settle (.value (channel.borrowAndUpdate c r').1) = _
      rw [h.value_borrowAndUpdate]
      cases channel.borrow c <;> rfl
    . exact h.seen_borrowAndUpdate c r'

theorem Lawful.agrees_perform (s : Session χ ρ) (op : Operation α) :
    channel.Agrees sent seen closed (s.perform channel.interface op)
      ((channel.forget sent seen closed s).perform Settled.interface op) := by
  cases op with
  | publish value =>
    apply agrees_asOwner
    refine ⟨rfl, ?_⟩
    show Session.mk _ _ _ _ = Session.mk _ _ _ _
    congr 1
    show Settled.mk _ _ _ = Settled.mk _ _ _
    congr 1
    . exact (h.borrow_sendReplace _ _).symm
    . exact (h.sent_sendReplace _ _).symm
    . exact congrArg (! ·) (h.closed_sendReplace _ _).symm
  | abandon =>
    apply agrees_asOwner
    refine ⟨rfl, ?_⟩
    show Session.mk _ _ _ _ = Session.mk _ _ _ _
    congr 1
    show Settled.mk _ _ _ = Settled.mk _ _ _
    congr 1
    . exact (h.borrow_close _).symm
    . exact (h.sent_close _).symm
    . exact congrArg (! ·) (h.closed_close _).symm
  | lookUp => exact agrees_asOwner ⟨rfl, rfl⟩
  | reader =>
    apply agrees_asOwner
    have hput : channel.Agrees sent seen closed _ _ :=
      agrees_put s (channel.subscribe s.cell) (s.length + 1) (.named (s.length + 1))
    rw [h.seen_subscribe] at hput
    exact hput
  | clone j =>
    apply agrees_asReader
    intro r
    exact agrees_put s r _ _
  | current j => exact agrees_asReader fun _ => ⟨rfl, rfl⟩
  | isSettled j => exact agrees_asReader fun _ => ⟨rfl, rfl⟩
  | wait j =>
    apply agrees_asReader
    intro r
    refine ⟨?_, rfl⟩
    exact congrArg Answer.polled (h.wait_eq s.cell r).symm
  | changed j =>
    apply agrees_asReader
    intro r
    have ⟨hpoll, hseen⟩ := h.changed_eq s.cell r
    have hput : channel.Agrees sent seen closed _ _ :=
      agrees_put s (channel.interface.changed s.cell r).2 j
        (.polled (channel.interface.changed s.cell r).1)
    rw [hseen] at hput
    refine ⟨?_, hput.2⟩
    exact congrArg Answer.polled hpoll.symm
  | markSeen j =>
    apply agrees_asReader
    intro r
    have hput : channel.Agrees sent seen closed _ _ :=
      agrees_put s (channel.markUnchanged s.cell r) j .done
    rw [h.seen_markUnchanged] at hput
    exact hput

theorem Lawful.forget_start :
    channel.forget sent seen closed (Session.start channel.interface) =
      Session.start Settled.interface := by
  show Session.mk _ _ _ _ = Session.mk _ _ _ _
  congr 1
  . show Settled.mk _ _ _ = Settled.mk _ _ _
    congr 1
    . exact h.borrow_make none
    . exact h.sent_make none
    . exact congrArg (! ·) (h.closed_make none)
  . show [(0, Reader.mk (seen (channel.make none).2))] = [(0, Reader.first)]
    rw [h.seen_make]
    rfl

theorem Lawful.forget_step (s : Session χ ρ) (op : Operation α) :
    channel.forget sent seen closed (s.step channel.interface op) =
      (channel.forget sent seen closed s).step Settled.interface op := by
  have hperform := (h.agrees_perform s op).2
  unfold Session.step
  rw [hperform]
  rfl

theorem Lawful.forget_run (history : List (Operation α)) :
    channel.forget sent seen closed (Session.run channel.interface history) =
      Session.run Settled.interface history := by
  induction history using List.reverseRecOn with
  | nil => exact h.forget_start
  | append_singleton history op ih => rw [Session.run_concat, Session.run_concat, h.forget_step, ih]

/--
Nobody can tell the cells of a channel from the cells of this library.
-/
theorem Lawful.answer_eq : answer channel.interface = answer Settled.interface := by
  funext history op
  unfold answer
  rw [← h.forget_run history]
  exact (h.agrees_perform _ op).1.symm

omit h in
/--
Cells inform their readers, and so do the cells that are made of any channel.
-/
theorem informs_readers (channel : Channel χ ρ (Option α)) (sent : χ → Nat) (seen : ρ → Nat)
    (closed : χ → Bool) (h : channel.Lawful sent seen closed) :
    Informs (answer (Settled.interface (α := α))) ∧ Informs (answer channel.interface) := by
  refine ⟨informs_interface, ?_⟩
  rw [h.answer_eq]
  exact informs_interface

end Channel

/--
A value with the number of times that it has been replaced.
-/
structure Versioned (β : Type) where
  value : β
  version : Nat
  isClosed : Bool

namespace Channel

/--
A channel whose receivers remember the version that they have seen.
-/
def versioned : Channel (Versioned β) Nat β where
  make b := (⟨b, 0, false⟩, 0)
  sendReplace c b := { c with value := b, version := c.version + 1 }
  subscribe c := c.version
  close c := { c with isClosed := true }
  borrow c := c.value
  borrowAndUpdate c _ := (c.value, c.version)
  markUnchanged c _ := c.version
  changed c r :=
    if c.version ≠ r then (.value (), c.version)
    else (if c.isClosed then .closed else .waiting, r)
  waitFor c _ test :=
    if test c.value then .value c.value
    else if c.isClosed then .closed else .waiting

theorem lawful_versioned :
    (versioned : Channel _ _ β).Lawful Versioned.version (fun r => r) Versioned.isClosed where
  borrow_make _ := rfl
  sent_make _ := rfl
  seen_make _ := rfl
  closed_make _ := rfl
  borrow_sendReplace _ _ := rfl
  sent_sendReplace _ _ := rfl
  closed_sendReplace _ _ := rfl
  borrow_close _ := rfl
  sent_close _ := rfl
  closed_close _ := rfl
  seen_subscribe _ := rfl
  value_borrowAndUpdate _ _ := rfl
  seen_borrowAndUpdate _ _ := rfl
  seen_markUnchanged _ _ := rfl
  changed_of_ne c r h := by
    unfold versioned
    dsimp only
    rw [if_pos h]
    exact ⟨rfl, rfl⟩
  changed_of_eq c r h := by
    unfold versioned
    dsimp only
    rw [if_neg (not_not_intro h)]
    exact ⟨rfl, rfl⟩
  waitFor_of_true c r test h := if_pos h
  waitFor_of_false c r test h := by
    unfold versioned at h ⊢
    dsimp only at h ⊢
    rw [h]
    rfl

/--
Of two publications the clone of a reader is told once, also when the owner is gone.
-/
theorem informs_clone_versioned :
    (versioned : Channel _ _ (Option Nat)).Lawful Versioned.version (fun r => r) Versioned.isClosed ∧
      answer (versioned : Channel _ _ (Option Nat)).interface
        [.clone 0, .publish 1, .changed 0, .publish 2, .abandon] (.changed 1) =
      .polled (.value 2) := by
  refine ⟨lawful_versioned, ?_⟩
  have hinforms := informs_readers (versioned : Channel _ _ (Option Nat)) Versioned.version
    (fun r => r) Versioned.isClosed lawful_versioned
  have hclone : LastNotice ([] ++ [.clone 0] : List (Operation Nat)) 1 0 := .clone .first
  have hnotice : LastNotice
      ([] ++ [.clone 0] ++ [.publish 1] ++ [.changed 0] ++ [.publish 2] ++ [.abandon] :
        List (Operation Nat)) 1 0 := by
    refine .other (.other (.other (.other hclone ?_) ?_) ?_) ?_ <;> simp [Operation.TakesNotice]
  refine (hinforms.2.changed _ 1 0 _ hnotice).2 ?_
  exact .value ⟨[.clone 0], 1, [.changed 0, .publish 2, .abandon], rfl, by simp, by simp⟩ rfl

end Channel

end ServerLauncher.Settled
