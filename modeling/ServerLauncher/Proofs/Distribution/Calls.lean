import Mathlib.Data.List.Induction
import ServerLauncher.Distribution.Resolver

/-!
This module contains the calls of a resolver, one after the other, while settings, machine and
runtime change in between. The main statement tells what a call answers, publishes and shows to the
user, and that the cell holds the answer of the last call that was successful.
-/

namespace ServerLauncher.Distribution

/--
A jar, run with Java on a machine, reports a version.
-/
def Reports (m : Machine) (java jar : Path) (v : Version) : Prop :=
  ∃ execution, m.run java ["-jar", jar.text, "--version"] = .ok execution ∧
    execution.succeeded ∧ parseVersion? (Utf8.decodeLossy execution.stdout) = some v

theorem probe_eq_some_iff {m : Machine} {java jar : Path} {v : Version} :
    probe m java jar = some v ↔ Reports m java jar v := by
  unfold probe Reports
  cases h : m.run java ["-jar", jar.text, "--version"] with
  | error e => simp
  | ok execution => simp

namespace Resolver

theorem run_settleProbed_none (resolver : Resolver) (path : Path) (w : World) :
    (resolver.settleProbed path none).run w =
      ((.error (.invalidConfiguredPath path), resolver),
        w.record (.notified ((Notice.warning (DistributionError.invalidConfiguredPath path).message).withSetting
          .serverPath))) := rfl

theorem run_settleProbed_some (resolver : Resolver) (path : Path) (v : Version) (w : World) :
    (resolver.settleProbed path (some v)).run w =
      ((.ok ⟨path, v, .configured⟩, resolver.publish ⟨path, v, .configured⟩),
        if v.isCompatibleWith resolver.bundled.version then w
        else w.record (.notified (incompatibleNotice v))) := by
  unfold settleProbed
  cases h : v.isCompatibleWith resolver.bundled.version with
  | true => simp [h]; rfl
  | false => simp [h]; rfl

theorem run_useConfigured_value (resolver : Resolver) (path : Path) (runtime : Java.Runtime)
    (w : World) : (resolver.useConfigured path (.value runtime)).run w =
      ((some ((resolver.settleProbed path (probe w.toMachine runtime.path path)).run w).1.1,
          ((resolver.settleProbed path (probe w.toMachine runtime.path path)).run w).1.2),
        ((resolver.settleProbed path (probe w.toMachine runtime.path path)).run w).2) := rfl

theorem level_incompatibleNotice (v : Version) : (incompatibleNotice v).level = .warning := rfl

theorem setting_incompatibleNotice (v : Version) : (incompatibleNotice v).setting = none := rfl

/--
A call of a resolver: choosing the first time or once more, with the settings, the machine and the
cell of the runtime at that time.
-/
structure Call where
  again : Bool
  settings : Settings
  machine : Machine
  runtime : Settled Java.Runtime

/--
The world in which a call is made.
-/
def Call.enter (c : Call) (w : World) : World :=
  { w with toMachine := c.machine }

/--
What a call comes to. It may wait for a runtime, or pay no attention to the settings.
-/
inductive Answer where
  | waiting
  | ignored
  | answered (result : Except DistributionError Distribution)

namespace Answer

/--
The distribution of a successful call.
-/
def ok? : Answer → Option Distribution
  | .answered (.ok d) => some d
  | _ => none

/--
The answer that an optional result stands for.
-/
def ofResult : Option (Except DistributionError Distribution) → Answer
  | none => .waiting
  | some result => .answered result

end Answer

/--
A resolver in its surroundings, and the answers of its calls so far.
-/
structure Session where
  resolver : Resolver
  world : World
  answers : List Answer

namespace Session

def start (bundled : Distribution) (cache : Option Cache) (w : World) : Session :=
  ⟨.new bundled cache, w, []⟩

def call (s : Session) (c : Call) : Session :=
  if c.again then
    let ((result, resolver), w) :=
      (s.resolver.reconfigure c.settings c.runtime.poll).run (c.enter s.world)
    let answer := match result with
      | none => .ignored
      | some result => .ofResult result
    ⟨resolver, w, s.answers ++ [answer]⟩
  else
    let ((result, resolver), w) :=
      (s.resolver.resolve c.settings c.runtime.poll).run (c.enter s.world)
    ⟨resolver, w, s.answers ++ [.ofResult result]⟩

def calls (s : Session) (cs : List Call) : Session :=
  cs.foldl call s

def chosen (s : Session) : List Distribution :=
  s.answers.filterMap Answer.ok?

def next (s : Session) (resolver : Resolver) (w : World) (answer : Answer) : Session :=
  ⟨resolver, w, s.answers ++ [answer]⟩

end Session

/--
The ways in which a call goes.
-/
inductive Effect (c : Call) (s : Session) : Answer → Session → Prop where
  | ignored (hagain : c.again) (hpath : c.settings.serverPath = none) :
    Effect c s .ignored (s.next s.resolver (c.enter s.world) .ignored)
  | unconfigured {d : Distribution} (hagain : ¬c.again) (hpath : c.settings.serverPath = none)
    (hd : d = s.resolver.chooseUnconfigured c.machine.files) :
    Effect c s (.answered (.ok d))
      (s.next (s.resolver.publish d) (c.enter s.world) (.answered (.ok d)))
  | waiting {path : Path} (hpath : c.settings.serverPath = some path)
    (hruntime : c.runtime.poll = .waiting) :
    Effect c s .waiting (s.next s.resolver (c.enter s.world) .waiting)
  | unavailable {path : Path} {notice : Notice} (hpath : c.settings.serverPath = some path)
    (hruntime : c.runtime.poll = .closed)
    (hnotice : notice =
      (Notice.error DistributionError.runtimeUnavailable.message).withSetting .javaPath) :
    Effect c s (.answered (.error .runtimeUnavailable))
      (s.next s.resolver ((c.enter s.world).record (.notified notice))
        (.answered (.error .runtimeUnavailable)))
  | unusable {path : Path} {runtime : Java.Runtime} {notice : Notice}
    (hpath : c.settings.serverPath = some path) (hruntime : c.runtime.poll = .value runtime)
    (hreports : ∀ v, ¬Reports c.machine runtime.path path v)
    (hnotice : notice = (Notice.warning (DistributionError.invalidConfiguredPath path).message).withSetting
      .serverPath) :
    Effect c s (.answered (.error (.invalidConfiguredPath path)))
      (s.next s.resolver ((c.enter s.world).record (.notified notice))
        (.answered (.error (.invalidConfiguredPath path))))
  | usable {path : Path} {runtime : Java.Runtime} {v : Version}
    (hpath : c.settings.serverPath = some path) (hruntime : c.runtime.poll = .value runtime)
    (hreports : Reports c.machine runtime.path path v) :
    Effect c s (.answered (.ok ⟨path, v, .configured⟩))
      (s.next (s.resolver.publish ⟨path, v, .configured⟩)
        (if v.isCompatibleWith s.resolver.bundled.version then c.enter s.world
        else (c.enter s.world).record (.notified (incompatibleNotice v)))
        (.answered (.ok ⟨path, v, .configured⟩)))

theorem call_of_serverPath {c : Call} {s : Session} {path : Path}
    (hpath : c.settings.serverPath = some path) :
    s.call c = s.next ((s.resolver.useConfigured path c.runtime.poll).run (c.enter s.world)).1.2
      ((s.resolver.useConfigured path c.runtime.poll).run (c.enter s.world)).2
      (.ofResult ((s.resolver.useConfigured path c.runtime.poll).run (c.enter s.world)).1.1) := by
  unfold Session.call resolve reconfigure
  rw [hpath]
  -- A configured jar is used in the same way the first time and later.
  split <;> rfl

theorem effect_call (c : Call) (s : Session) : ∃ answer, Effect c s answer (s.call c) := by
  cases hpath : c.settings.serverPath with
  | none =>
    by_cases hagain : c.again
    . refine ⟨.ignored, ?_⟩
      have hcall : s.call c = s.next s.resolver (c.enter s.world) .ignored := by
        unfold Session.call reconfigure
        rw [if_pos hagain, hpath]
        rfl
      rw [hcall]
      exact .ignored hagain hpath
    . refine ⟨.answered (.ok (s.resolver.chooseUnconfigured c.machine.files)), ?_⟩
      have hcall : s.call c =
          s.next (s.resolver.publish (s.resolver.chooseUnconfigured c.machine.files))
            (c.enter s.world)
            (.answered (.ok (s.resolver.chooseUnconfigured c.machine.files))) := by
        unfold Session.call resolve
        rw [if_neg hagain, hpath]
        rfl
      rw [hcall]
      exact .unconfigured hagain hpath rfl
  | some path =>
    rw [call_of_serverPath hpath]
    cases hruntime : c.runtime.poll with
    | waiting => exact ⟨_, .waiting hpath hruntime⟩
    | closed => exact ⟨_, .unavailable hpath hruntime rfl⟩
    | value runtime =>
      rw [run_useConfigured_value]
      cases hprobe : probe (c.enter s.world).toMachine runtime.path path with
      | none =>
        rw [run_settleProbed_none]
        refine ⟨_, .unusable hpath hruntime ?_ rfl⟩
        intro v hreports
        rw [← probe_eq_some_iff] at hreports
        rw [show c.machine = (c.enter s.world).toMachine from rfl] at hreports
        rw [hprobe] at hreports
        cases hreports
      | some v =>
        rw [run_settleProbed_some]
        exact ⟨_, .usable hpath hruntime (probe_eq_some_iff.1 hprobe)⟩

/--
What holds of a call between two states of a session.
-/
structure Lawful (c : Call) (before : Session) (answer : Answer) (after : Session) : Prop where
  answers : after.answers = before.answers ++ [answer]
  bundled : after.resolver.bundled = before.resolver.bundled
  cache : after.resolver.cache = before.resolver.cache
  /-- The call does nothing but show notices. -/
  world : after.world = { c.enter before.world with events := after.world.events }
  /-- A configured jar that is successful is the one that is published. -/
  of_ok : ∀ path d, c.settings.serverPath = some path → answer = .answered (.ok d) →
    d.source = .configured ∧ d.path = path ∧
      (∃ runtime, c.runtime.current = some runtime ∧
        Reports c.machine runtime.path path d.version) ∧
      after.resolver.cell = before.resolver.cell.publish d
  notice_of_ok : ∀ path d, c.settings.serverPath = some path → answer = .answered (.ok d) →
    if d.version.isCompatibleWith before.resolver.bundled.version then
      after.world.events = before.world.events
    else
      ∃ notice : Notice, notice.level = .warning ∧ notice.setting = none ∧
        after.world.events = before.world.events ++ [.notified notice]
  /-- The reason of a failure decides to which setting the only notice points. -/
  of_error : ∀ path e, c.settings.serverPath = some path → answer = .answered (.error e) →
    after.resolver.cell = before.resolver.cell ∧
      ∃ notice : Notice, after.world.events = before.world.events ++ [.notified notice] ∧
        notice.message = e.message ∧
        (e = .runtimeUnavailable ∧ c.runtime.poll = .closed ∧
            notice.level = .error ∧ notice.setting = some .javaPath ∨
          e = .invalidConfiguredPath path ∧
            (∃ runtime, c.runtime.current = some runtime ∧
              ∀ v, ¬Reports c.machine runtime.path path v) ∧
            notice.level = .warning ∧ notice.setting = some .serverPath)
  /-- Only a runtime that is pending keeps the call waiting. -/
  answered : ∀ path, c.settings.serverPath = some path → c.runtime.poll ≠ .waiting →
    ∃ result, answer = .answered result
  of_waiting : ∀ path, c.settings.serverPath = some path → c.runtime.poll = .waiting →
    answer = .waiting ∧ after.resolver = before.resolver ∧
      after.world.events = before.world.events
  /-- Without a configured jar the distribution in use stays. -/
  of_again : c.settings.serverPath = none → c.again →
    answer = .ignored ∧ after.resolver = before.resolver ∧
      after.world.events = before.world.events
  of_first : c.settings.serverPath = none → ¬c.again →
    ∃ d, answer = .answered (.ok d) ∧ d = before.resolver.chooseUnconfigured c.machine.files ∧
      after.resolver.cell = before.resolver.cell.publish d ∧
      after.world.events = before.world.events

theorem current_of_poll {α : Type} {cell : Settled α} {a : α} (h : cell.poll = .value a) :
    cell.current = some a := by
  unfold Settled.poll at h
  split at h
  . next hcurrent =>
    cases h
    exact hcurrent
  . split at h <;> cases h

theorem lawful_of_effect {c : Call} {before after : Session} {answer : Answer}
    (h : Effect c before answer after) : Lawful c before answer after := by
  cases h with
  | ignored hagain hpath =>
    constructor <;> simp [Session.next, Call.enter, hpath, hagain]
  | unconfigured hagain hpath hd =>
    constructor <;> simp [Session.next, Call.enter, publish, hpath, hagain, hd]
  | waiting hpath hruntime =>
    constructor <;> simp [Session.next, Call.enter, hpath, hruntime]
  | unavailable hpath hruntime hnotice =>
    constructor
    case of_error =>
      intro path e _ he
      cases he
      refine ⟨rfl, _, rfl, ?_, .inl ⟨rfl, hruntime, ?_, ?_⟩⟩
      . rw [hnotice]
        rfl
      . rw [hnotice]
        rfl
      . rw [hnotice]
        rfl
    all_goals simp [Session.next, Call.enter, World.record, hpath, hruntime]
  | unusable hpath hruntime hreports hnotice =>
    constructor
    case of_error =>
      intro path e hpath' he
      rw [hpath] at hpath'
      cases hpath'
      cases he
      refine ⟨rfl, _, rfl, ?_, .inr ⟨rfl, ⟨_, current_of_poll hruntime, hreports⟩, ?_, ?_⟩⟩
      . rw [hnotice]
        rfl
      . rw [hnotice]
        rfl
      . rw [hnotice]
        rfl
    all_goals simp [Session.next, Call.enter, World.record, hpath, hruntime]
  | usable hpath hruntime hreports =>
    constructor
    case of_ok =>
      intro path d hpath' hd
      rw [hpath] at hpath'
      cases hpath'
      cases hd
      exact ⟨rfl, rfl, ⟨_, current_of_poll hruntime, hreports⟩, rfl⟩
    case notice_of_ok =>
      intro path d _ hd
      cases hd
      dsimp only [Session.next]
      split
      . rfl
      . exact ⟨_, level_incompatibleNotice _, setting_incompatibleNotice _, rfl⟩
    case world =>
      dsimp only [Session.next]
      split <;> rfl
    all_goals simp [Session.next, publish, hpath, hruntime]

theorem cell_of_effect {c : Call} {before after : Session} {answer : Answer}
    (h : Effect c before answer after) :
    after.answers = before.answers ++ [answer] ∧
      after.resolver.cell = match answer.ok? with
        | some d => before.resolver.cell.publish d
        | none => before.resolver.cell := by
  cases h <;> exact ⟨rfl, rfl⟩

theorem cell_calls (bundled : Distribution) (cache : Option Cache) (w : World) (cs : List Call) :
    ((Session.start bundled cache w).calls cs).resolver.cell.current =
        ((Session.start bundled cache w).calls cs).chosen.getLast? ∧
      ((Session.start bundled cache w).calls cs).resolver.cell.publications =
        ((Session.start bundled cache w).calls cs).chosen.length := by
  induction cs using List.reverseRecOn with
  | nil => exact ⟨rfl, rfl⟩
  | append_singleton cs c ih =>
    unfold Session.calls at *
    rw [List.foldl_append, List.foldl_cons, List.foldl_nil]
    generalize List.foldl Session.call (Session.start bundled cache w) cs = s at *
    have ⟨answer, heffect⟩ := effect_call c s
    have ⟨hanswers, hcell⟩ := cell_of_effect heffect
    have ⟨hcurrent, hpublications⟩ := ih
    unfold Session.chosen at *
    rw [hcell]
    rw [hanswers]
    rw [List.filterMap_append]
    -- A successful call publishes once, and no other call publishes.
    cases hok : answer.ok? with
    | none => simp [hok, hcurrent, hpublications]
    | some d => simp [hok, Settled.publish, hpublications]

/--
Every call that follows on any calls is lawful, and behind it the cell holds the distribution of the
last successful call.
-/
theorem lawful_call_calls (bundled : Distribution) (cache : Option Cache) (w : World)
    (cs : List Call) (c : Call) :
    (∃ answer, Lawful c ((Session.start bundled cache w).calls cs) answer
      ((Session.start bundled cache w).calls (cs ++ [c]))) ∧
    ((Session.start bundled cache w).calls (cs ++ [c])).resolver.cell.current =
      ((Session.start bundled cache w).calls (cs ++ [c])).chosen.getLast? ∧
    ((Session.start bundled cache w).calls (cs ++ [c])).resolver.cell.publications =
      ((Session.start bundled cache w).calls (cs ++ [c])).chosen.length := by
  constructor
  . have ⟨answer, heffect⟩ := effect_call c ((Session.start bundled cache w).calls cs)
    have hcalls : (Session.start bundled cache w).calls (cs ++ [c]) =
        ((Session.start bundled cache w).calls cs).call c := by
      unfold Session.calls
      rw [List.foldl_append]
      rfl
    rw [hcalls]
    exact ⟨answer, lawful_of_effect heffect⟩
  . exact cell_calls bundled cache w (cs ++ [c])

end Resolver

end ServerLauncher.Distribution
