import Mathlib.Data.List.Induction
import ServerLauncher.Java.Locator
import ServerLauncher.Proofs.Java.Probing

/-!
This module contains the calls of a locator, one after the other, while settings and machine change in
between. The main statement tells what a call answers, publishes and shows to the user, and that the
cell holds the runtime of the last successful call, which is never too old.
-/

namespace ServerLauncher.Java.Locator

/--
A call of a locator: finding the runtime the first time or once more, with the settings and the
machine at that time.
-/
structure Call where
  again : Bool
  settings : Settings
  machine : Machine

/--
The world in which a call is made.
-/
def Call.enter (c : Call) (w : World) : World :=
  { w with toMachine := c.machine }

/--
What a call comes to. One that pays no attention to the settings has no result.
-/
abbrev Answer := Option (Except RuntimeError Runtime)

def Answer.ok? : Answer → Option Runtime
  | some (.ok runtime) => some runtime
  | _ => none

/--
A locator in its surroundings, and the answers of its calls so far.
-/
structure Session where
  locator : Locator
  world : World
  answers : List Answer

namespace Session

def start (places : Places) (w : World) : Session :=
  ⟨.new places, w, []⟩

def call (s : Session) (c : Call) : Session :=
  if c.again then
    let ((answer, locator), w) := (s.locator.reconfigure c.settings).run (c.enter s.world)
    ⟨locator, w, s.answers ++ [answer]⟩
  else
    let ((result, locator), w) := (s.locator.resolve c.settings).run (c.enter s.world)
    ⟨locator, w, s.answers ++ [some result]⟩

def calls (s : Session) (cs : List Call) : Session :=
  cs.foldl call s

def found (s : Session) : List Runtime :=
  s.answers.filterMap Answer.ok?

def withPlaces (s : Session) (places : Places) : Session :=
  { s with locator := { s.locator with places } }

def next (s : Session) (c : Call) (answer : Answer) : Session :=
  match answer with
  | none => ⟨s.locator, c.enter s.world, s.answers ++ [answer]⟩
  | some (.ok runtime) =>
    ⟨{ s.locator with cell := s.locator.cell.publish runtime }, c.enter s.world,
      s.answers ++ [answer]⟩
  | some (.error e) =>
    ⟨s.locator,
      (c.enter s.world).record (.notified ((Notice.warning e.message).withSetting .javaPath)),
      s.answers ++ [answer]⟩

theorem calls_concat (s : Session) (cs : List Call) (c : Call) :
    s.calls (cs ++ [c]) = (s.calls cs).call c := by
  unfold calls
  rw [List.foldl_append]
  rfl

end Session

/--
What a call answers. A configured path rules the search out.
-/
def Call.answer (c : Call) (places : Places) : Answer :=
  match c.settings.javaPath with
  | some path => some (resolveConfigured c.machine path)
  | none => if c.again then none else some (locate c.machine places)

variable {c : Call} {s : Session} {path : Path} {runtime : Runtime} {e : RuntimeError}

theorem run_settle (s : Session) (c : Call) (result : Except RuntimeError Runtime) :
    (s.locator.settle result).run (c.enter s.world) =
      ((s.next c (some result)).locator, (s.next c (some result)).world) := by
  cases result with
  | ok runtime => rfl
  | error e => rfl

theorem answers_next (s : Session) (c : Call) (answer : Answer) :
    (s.next c answer).answers = s.answers ++ [answer] := by
  cases answer with
  | none => rfl
  | some result => cases result <;> rfl

theorem call_eq_next (s : Session) (c : Call) :
    s.call c = s.next c (c.answer s.locator.places) := by
  have hsession : ∀ result, (⟨((s.locator.settle result).run (c.enter s.world)).1,
      ((s.locator.settle result).run (c.enter s.world)).2, s.answers ++ [some result]⟩ : Session) =
        s.next c (some result) := by
    intro result
    rw [run_settle, ← answers_next s c]
  unfold Session.call Call.answer resolve reconfigure
  cases hpath : c.settings.javaPath with
  | none =>
    split
    . rfl
    . exact hsession _
  | some path =>
    -- A configured executable is judged in the same way the first time and later.
    split
    . exact hsession _
    . exact hsession _

theorem answer_of_javaPath (hpath : c.settings.javaPath = some path) (places : Places) :
    c.answer places = some (resolveConfigured c.machine path) := by
  unfold Call.answer
  rw [hpath]

theorem minimum_le_of_answer {places : Places} (h : c.answer places = some (.ok runtime)) :
    minimumVersion ≤ runtime.version := by
  unfold Call.answer at h
  split at h
  . next path _ =>
    have hfind : find c.machine places (some path) = .ok runtime := Option.some.inj h
    exact minimum_le_of_find hfind
  . split at h
    . cases h
    . exact minimum_le_of_locate (Option.some.inj h)

/--
What holds of a call between two states of a session.
-/
structure Lawful (c : Call) (before : Session) (answer : Answer) (after : Session) : Prop where
  answers : after.answers = before.answers ++ [answer]
  places : after.locator.places = before.locator.places
  /-- The call does nothing but show notices. -/
  world : after.world = { c.enter before.world with events := after.world.events }
  /-- A runtime is published once, and nothing is said about it. -/
  of_ok : ∀ runtime, answer = some (.ok runtime) →
    minimumVersion ≤ runtime.version ∧
      after.locator.cell = before.locator.cell.publish runtime ∧
      after.world.events = before.world.events
  /-- Every failure is told once and leads to the setting that can help. -/
  of_error : ∀ e, answer = some (.error e) →
    after.locator.cell = before.locator.cell ∧
      ∃ notice : Notice, after.world.events = before.world.events ++ [.notified notice] ∧
        notice.level = .warning ∧ notice.message = e.message ∧ notice.setting = some .javaPath
  /-- A configured executable is taken or refused for what it answers itself. -/
  ok_iff : ∀ path, c.settings.javaPath = some path → ∀ runtime, answer = some (.ok runtime) ↔
    runtime.path = path ∧ Answers c.machine path runtime.version ∧
      minimumVersion ≤ runtime.version
  tooLow_iff : ∀ path, c.settings.javaPath = some path → ∀ p v minimum,
    answer = some (.error (.configuredVersionTooLow p v minimum)) ↔
      p = path ∧ minimum = minimumVersion ∧ Answers c.machine path v ∧ v < minimumVersion
  invalid_iff : ∀ path, c.settings.javaPath = some path → ∀ p,
    answer = some (.error (.invalidConfiguredPath p)) ↔ p = path ∧ ∀ v, ¬Answers c.machine path v
  answered : ∀ path, c.settings.javaPath = some path → ∃ result, answer = some result ∧
    ∀ minimum, result ≠ .error (.notFound minimum)
  /-- With a configured executable it does not matter what a search would find: on every machine
  where that executable answers the same, and with whatever places to search, the call is the
  same. -/
  alone : ∀ path, c.settings.javaPath = some path → ∀ places m,
    (∀ v, Answers m path v ↔ Answers c.machine path v) →
      ((before.withPlaces places).call { c with machine := m }).answers = after.answers ∧
      ((before.withPlaces places).call { c with machine := m }).locator.cell = after.locator.cell ∧
      ((before.withPlaces places).call { c with machine := m }).world.events = after.world.events
  /-- Without one, the places are searched the first time and the runtime in use stays later. -/
  of_first : c.settings.javaPath = none → ¬c.again →
    answer = some (locate c.machine before.locator.places)
  of_again : c.settings.javaPath = none → c.again →
    answer = none ∧ after.locator = before.locator ∧ after.world.events = before.world.events

theorem alike_next (s : Session) (c : Call) (answer : Answer) (places : Places) (m : Machine) :
    ((s.withPlaces places).next { c with machine := m } answer).answers = (s.next c answer).answers ∧
      ((s.withPlaces places).next { c with machine := m } answer).locator.cell =
        (s.next c answer).locator.cell ∧
      ((s.withPlaces places).next { c with machine := m } answer).world.events =
        (s.next c answer).world.events := by
  cases answer with
  | none => exact ⟨rfl, rfl, rfl⟩
  | some result => cases result <;> exact ⟨rfl, rfl, rfl⟩

theorem lawful_call (c : Call) (s : Session) :
    Lawful c s (c.answer s.locator.places) (s.call c) := by
  have hminimum : ∀ runtime, c.answer s.locator.places = some (.ok runtime) →
      minimumVersion ≤ runtime.version := by
    intro runtime h
    exact minimum_le_of_answer h
  rw [call_eq_next]
  constructor
  case answers => exact answers_next s c _
  case places =>
    cases c.answer s.locator.places with
    | none => rfl
    | some result => cases result <;> rfl
  case world =>
    cases c.answer s.locator.places with
    | none => rfl
    | some result => cases result <;> rfl
  case of_ok =>
    intro runtime h
    have hle := hminimum runtime h
    rw [h]
    exact ⟨hle, rfl, rfl⟩
  case of_error =>
    intro e h
    rw [h]
    exact ⟨rfl, _, rfl, rfl, rfl, rfl⟩
  case ok_iff =>
    intro path hpath runtime
    rw [answer_of_javaPath hpath, Option.some_inj]
    exact (verdict_resolveConfigured c.machine path).eq_ok_iff
  case tooLow_iff =>
    intro path hpath p v minimum
    rw [answer_of_javaPath hpath, Option.some_inj]
    exact (verdict_resolveConfigured c.machine path).eq_tooLow_iff
  case invalid_iff =>
    intro path hpath p
    rw [answer_of_javaPath hpath, Option.some_inj]
    exact (verdict_resolveConfigured c.machine path).eq_invalid_iff
  case answered =>
    intro path hpath
    refine ⟨_, answer_of_javaPath hpath _, ?_⟩
    intro minimum h
    have hverdict := verdict_resolveConfigured c.machine path
    rw [h] at hverdict
    cases hverdict
  case alone =>
    intro path hpath places m hsame
    rw [call_eq_next]
    rw [answer_of_javaPath hpath]
    rw [answer_of_javaPath (c := { c with machine := m }) hpath]
    dsimp only
    rw [resolveConfigured_congr hsame]
    exact alike_next s c _ places m
  case of_first =>
    intro hpath hagain
    unfold Call.answer
    rw [hpath]
    exact if_neg hagain
  case of_again =>
    intro hpath hagain
    have hanswer : c.answer s.locator.places = none := by
      unfold Call.answer
      rw [hpath]
      exact if_pos hagain
    rw [hanswer]
    exact ⟨rfl, rfl, rfl⟩

theorem cell_next (s : Session) (c : Call) (answer : Answer) :
    (s.next c answer).locator.cell = match answer.ok? with
      | some runtime => s.locator.cell.publish runtime
      | none => s.locator.cell := by
  cases answer with
  | none => rfl
  | some result => cases result <;> rfl

theorem minimum_le_of_mem_found (places : Places) (w : World) (cs : List Call) :
    ∀ runtime ∈ ((Session.start places w).calls cs).found, minimumVersion ≤ runtime.version := by
  induction cs using List.reverseRecOn with
  | nil =>
    intro runtime h
    cases h
  | append_singleton cs c ih =>
    intro runtime h
    rw [Session.calls_concat, call_eq_next] at h
    unfold Session.found at h ih
    rw [answers_next, List.filterMap_append] at h
    cases List.mem_append.1 h with
    | inl h => exact ih runtime h
    | inr h =>
      have ⟨answer, hanswer, hok⟩ := List.mem_filterMap.1 h
      rw [List.mem_singleton] at hanswer
      unfold Answer.ok? at hok
      split at hok
      . cases hok
        exact minimum_le_of_answer hanswer.symm
      . cases hok

theorem cell_calls (places : Places) (w : World) (cs : List Call) :
    ((Session.start places w).calls cs).locator.cell.current =
        ((Session.start places w).calls cs).found.getLast? ∧
      ((Session.start places w).calls cs).locator.cell.publications =
        ((Session.start places w).calls cs).found.length := by
  induction cs using List.reverseRecOn with
  | nil => exact ⟨rfl, rfl⟩
  | append_singleton cs c ih =>
    have ⟨hcurrent, hpublications⟩ := ih
    rw [Session.calls_concat, call_eq_next]
    unfold Session.found at *
    rw [answers_next, List.filterMap_append, cell_next]
    -- A successful call publishes once, and no other call publishes.
    cases hok : (c.answer ((Session.start places w).calls cs).locator.places).ok? with
    | none => simp [hok, hcurrent, hpublications]
    | some runtime => simp [hok, Settled.publish, hpublications]

/--
After any calls, the cell holds the runtime of the last successful one, if there was one, and that
runtime is new enough; and every call that follows is lawful.
-/
theorem qualified_and_lawful_calls (places : Places) (w : World) (cs : List Call) :
    ((Session.start places w).calls cs).locator.cell.current =
        ((Session.start places w).calls cs).found.getLast? ∧
      ((Session.start places w).calls cs).locator.cell.publications =
        ((Session.start places w).calls cs).found.length ∧
      (∀ runtime, ((Session.start places w).calls cs).locator.cell.current = some runtime →
        minimumVersion ≤ runtime.version) ∧
      ∀ c, ∃ answer, Lawful c ((Session.start places w).calls cs) answer
        ((Session.start places w).calls (cs ++ [c])) := by
  have ⟨hcurrent, hpublications⟩ := cell_calls places w cs
  refine ⟨hcurrent, hpublications, ?_, ?_⟩
  . intro runtime h
    rw [hcurrent] at h
    exact minimum_le_of_mem_found places w cs runtime (List.mem_of_getLast? h)
  . intro c
    rw [Session.calls_concat]
    exact ⟨_, lawful_call c _⟩

end ServerLauncher.Java.Locator
