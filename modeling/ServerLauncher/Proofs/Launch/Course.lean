import ServerLauncher.Proofs.Distribution.Calls
import ServerLauncher.Proofs.Launch.Reason

/-!
This module contains the courses that the work of a launcher can take: its own steps in any order,
and between them whatever may happen around it. Every turn of a course is either one of the few that
concern the server, or it happens aside from the server.
-/

namespace ServerLauncher

namespace Settled

variable {α : Type} {a b c : Settled α}

/--
A cell has become another one by publications.
-/
structure Later (before after : Settled α) : Prop where
  publications_le : before.publications ≤ after.publications
  eq_of_publications_eq : after.publications = before.publications → after = before

theorem Later.refl (a : Settled α) : a.Later a :=
  ⟨Nat.le_refl _, fun _ => rfl⟩

theorem Later.trans (h₁ : a.Later b) (h₂ : b.Later c) : a.Later c := by
  have hab := h₁.publications_le
  have hbc := h₂.publications_le
  constructor
  . omega
  . intro h
    rw [h₂.eq_of_publications_eq (by omega), h₁.eq_of_publications_eq (by omega)]

theorem later_publish (a : Settled α) (value : α) : a.Later (a.publish value) := by
  constructor <;> simp [publish]

theorem pollChange_value {reader next : Reader} {value : α}
    (h : a.pollChange reader = (.value value, next)) :
    a.publications ≠ reader.seen ∧ a.current = some value ∧ next = a.reader := by
  unfold pollChange at h
  split at h
  . next hne =>
    split at h
    . next hcurrent =>
      cases h
      exact ⟨hne, hcurrent, rfl⟩
    . cases h
  . split at h <;> cases h

end Settled

namespace Launcher

/--
A turn in the course of things: a step of the launcher, or something that happens around it. The
machine, the web and the host may change in any way, but what has been done stays done.
-/
inductive Turn where
  | move (move : Move)
  | apply (settings : Settings)
  | surround (machine : Machine) (now : Int) (web : Http.Web) (host : Host)
  | pass (milliseconds : Nat)
  | cancel

/--
Take a turn. A step that is not possible changes nothing.
-/
def turn (l : Launcher) : Turn → Launcher
  | .move move => (l.step? move).getD l
  | .apply settings => (l.applySettings settings).2
  | .surround machine now web host =>
    { l with world := { l.world with toMachine := machine, now, web, host } }
  | .pass milliseconds => { l with clock := l.clock + milliseconds }
  | .cancel => l.cancel

def turns (l : Launcher) (course : List Turn) : Launcher :=
  course.foldl turn l

theorem turns_append (l : Launcher) (first second : List Turn) :
    l.turns (first ++ second) = (l.turns first).turns second :=
  List.foldl_append

theorem turn_of_step?_eq_some {l l' : Launcher} {move : Move} (h : l.step? move = some l') :
    l.turn (.move move) = l' := by
  simp only [turn, h, Option.getD_some]

theorem turn_of_step?_eq_none {l : Launcher} {move : Move} (h : l.step? move = none) :
    l.turn (.move move) = l := by
  simp only [turn, h, Option.getD_none]

/--
What has happened does not concern the server.
-/
structure Aside (before after : Launcher) : Prop where
  server : after.server = before.server
  runtime : before.locator.cell.Later after.locator.cell
  distribution : before.resolver.cell.Later after.resolver.cell
  events : World.Adds Quiet before.world after.world

theorem Aside.refl (l : Launcher) : Aside l l :=
  ⟨rfl, .refl _, .refl _, refl_of _ _⟩

theorem Aside.trans {l₁ l₂ l₃ : Launcher} (h₁ : Aside l₁ l₂) (h₂ : Aside l₂ l₃) : Aside l₁ l₃ where
  server := h₂.server.trans h₁.server
  runtime := h₁.runtime.trans h₂.runtime
  distribution := h₁.distribution.trans h₂.distribution
  events := trans_of _ h₁.events h₂.events

theorem aside_of_eq {l l' : Launcher} (hserver : l'.server = l.server)
    (hlocator : l'.locator = l.locator) (hresolver : l'.resolver = l.resolver)
    (hworld : l'.world.events = l.world.events) : Aside l l' where
  server := hserver
  runtime := hlocator ▸ .refl _
  distribution := hresolver ▸ .refl _
  events := World.adds_of_eq hworld

theorem aside_addTask (l : Launcher) (origin : Task.Origin) (task : Task) :
    Aside l (l.addTask origin task) :=
  aside_of_eq rfl rfl rfl rfl

theorem aside_perform {α : Type} (l : Launcher) {action : Action α}
    (h : action.Keeps (World.Adds Quiet)) : Aside l (l.perform action).2 where
  server := rfl
  runtime := .refl _
  distribution := .refl _
  events := h l.world

theorem aside_notify (l : Launcher) (notice : Notice) :
    Aside l (l.perform (Action.notify notice)).2 :=
  l.aside_perform (Action.adds_notify (quiet_notified notice))

theorem aside_findRuntime (l : Launcher) (configured : Option Path) :
    Aside l (l.findRuntime configured) := by
  unfold findRuntime
  cases Java.find l.world.toMachine l.locator.places configured with
  | ok runtime =>
    exact ⟨rfl, Settled.later_publish _ _, .refl _, World.adds_of_eq rfl⟩
  | error e =>
    exact ⟨rfl, .refl _, .refl _, World.adds_record (quiet_notified _) _⟩

theorem aside_settleProbed (l : Launcher) (jar : Path) (version : Option Version) :
    Aside l { (l.perform (l.resolver.settleProbed jar version)).2 with
      resolver := (l.perform (l.resolver.settleProbed jar version)).1.2 } := by
  cases version with
  | none => exact ⟨rfl, .refl _, .refl _, World.adds_record (quiet_notified _) _⟩
  | some v =>
    simp only [perform, Distribution.Resolver.run_settleProbed_some]
    split
    . exact ⟨rfl, .refl _, Settled.later_publish _ _, World.adds_of_eq rfl⟩
    . exact ⟨rfl, .refl _, Settled.later_publish _ _, World.adds_record (quiet_notified _) _⟩

theorem aside_failUnavailable (l : Launcher) :
    Aside l { (l.perform l.resolver.failUnavailable).2 with
      resolver := (l.perform l.resolver.failUnavailable).1.2 } :=
  ⟨rfl, .refl _, .refl _, World.adds_record (quiet_notified _) _⟩

theorem aside_advanceTask {l l' : Launcher} {task : Task} {left : Option Task}
    (h : l.advanceTask task = some (left, l')) : Aside l l' := by
  unfold advanceTask at h
  cases task with
  | findRuntime configured =>
    cases h
    exact aside_findRuntime l configured
  | chooseServer =>
    cases h
    exact ⟨rfl, .refl _, Settled.later_publish _ _, World.adds_of_eq rfl⟩
  | awaitRuntime jar =>
    dsimp only at h
    split at h
    . cases h
    . cases h
      exact .refl l
    . cases h
      exact aside_failUnavailable l
  | probeServer java jar =>
    cases h
    exact aside_settleProbed l jar _
  | checkUpdate update =>
    rw [Option.some_inj, Prod.mk.injEq] at h
    rw [← h.2]
    apply aside_perform
    intro w
    exact (Update.adds_check update w).mono fun _ => quiet_of_trace

theorem aside_handle (l : Launcher) (key : Settings.Key) : Aside l (l.handle key) := by
  unfold handle
  dsimp only
  split
  . exact aside_addTask l _ _
  . exact aside_addTask l _ _
  . exact .refl l

theorem aside_onSettingsChanged (l : Launcher) (keys : List Settings.Key) :
    Aside l (l.onSettingsChanged keys) := by
  unfold onSettingsChanged
  induction keys generalizing l with
  | nil => exact .refl l
  | cons key keys ih =>
    rw [List.foldl_cons]
    refine Aside.trans ?_ (ih _)
    split
    . exact aside_of_eq rfl rfl rfl rfl
    . exact .refl l

theorem aside_applySettings (l : Launcher) (settings : Settings) :
    Aside l (l.applySettings settings).2 := by
  unfold applySettings
  refine Aside.trans ?_ (aside_onSettingsChanged _ _)
  exact aside_of_eq rfl rfl rfl rfl

theorem aside_lookAt (l : Launcher) (watcher : Watcher) : Aside l (l.lookAt watcher).2 := by
  unfold lookAt
  dsimp only
  split
  . exact .refl l
  . split
    . exact aside_applySettings l _
    . exact aside_notify l _

/--
What a turn may do to the server. The server sees nothing of all other turns.
-/
inductive Passage : Turn → Launcher → Launcher → Prop where
  | aside {t : Turn} {l l' : Launcher} (h : Aside l l') : Passage t l l'
  | keepRuntime {l : Launcher} {port : Option UInt16} {runtime : Java.Runtime}
    {distribution : Option Distribution} (hserver : l.server = .awaited port none distribution)
    (hcurrent : l.locator.cell.current = some runtime) :
    Passage (.move .observeRuntime) l { l with server := .awaited port (some runtime) distribution }
  | keepDistribution {l : Launcher} {port : Option UInt16} {runtime : Option Java.Runtime}
    {distribution : Distribution} (hserver : l.server = .awaited port runtime none)
    (hcurrent : l.resolver.cell.current = some distribution) :
    Passage (.move .observeDistribution) l
      { l with server := .awaited port runtime (some distribution) }
  | start {l : Launcher} {port : Option UInt16} {runtime : Java.Runtime}
    {distribution : Distribution}
    (hserver : l.server = .awaited port (some runtime) (some distribution)) :
    Passage (.move .startServer) l (l.spawn (.forDistribution runtime distribution port))
  | noticeRuntime {l : Launcher} {command : ServerCommand} {execution : Execution}
    {runtimeReader distributionReader : Settled.Reader} {runtime : Java.Runtime}
    (hserver : l.server = .serving command execution runtimeReader distributionReader)
    (hnew : l.locator.cell.publications ≠ runtimeReader.seen)
    (hcurrent : l.locator.cell.current = some runtime) :
    Passage (.move .noticeRuntime) l { l with
      server := .serving command execution l.locator.cell.reader distributionReader
      world := l.world.record (.restartRequested (runtimeReason runtime)) }
  | noticeDistribution {l : Launcher} {command : ServerCommand} {execution : Execution}
    {runtimeReader distributionReader : Settled.Reader} {distribution : Distribution}
    (hserver : l.server = .serving command execution runtimeReader distributionReader)
    (hnew : l.resolver.cell.publications ≠ distributionReader.seen)
    (hcurrent : l.resolver.cell.current = some distribution) :
    Passage (.move .noticeDistribution) l { l with
      server := .serving command execution runtimeReader l.resolver.cell.reader
      world := l.world.record (.restartRequested (distributionReason distribution)) }
  | finish {t : Turn} {l : Launcher} {command : ServerCommand} {execution : Execution}
    {runtimeReader distributionReader : Settled.Reader} (result : Except LauncherError Nat)
    (hserver : l.server = .serving command execution runtimeReader distributionReader) :
    Passage t l { l with server := .ended result }

theorem passage_step {l l' : Launcher} {move : Move} (h : l.step? move = some l') :
    Passage (.move move) l l' := by
  cases move with
  | observeRuntime =>
    simp only [step?] at h
    split at h
    . next hserver hcurrent =>
      cases h
      exact .keepRuntime hserver hcurrent
    . cases h
  | observeDistribution =>
    simp only [step?] at h
    split at h
    . next hserver hcurrent =>
      cases h
      exact .keepDistribution hserver hcurrent
    . cases h
  | startServer =>
    simp only [step?] at h
    split at h
    . next hserver =>
      cases h
      exact .start hserver
    . cases h
  | killServer =>
    simp only [step?] at h
    split at h
    . next hserver =>
      split at h
      . cases h
        exact .finish _ hserver
      . cases h
    . cases h
  | noticeRuntime =>
    simp only [step?] at h
    split at h
    . next hserver =>
      split at h
      . next hpoll =>
        have ⟨hnew, hcurrent, hreader⟩ := Settled.pollChange_value hpoll
        cases h
        rw [hreader]
        exact .noticeRuntime hserver hnew hcurrent
      . cases h
    . cases h
  | noticeDistribution =>
    simp only [step?] at h
    split at h
    . next hserver =>
      split at h
      . next hpoll =>
        have ⟨hnew, hcurrent, hreader⟩ := Settled.pollChange_value hpoll
        cases h
        rw [hreader]
        exact .noticeDistribution hserver hnew hcurrent
      . cases h
    . cases h
  | endServer =>
    simp only [step?] at h
    split at h
    . next execution _ _ hserver =>
      cases hcode : exitCode? execution.ending with
      | none =>
        rw [hcode] at h
        cases h
      | some code =>
        rw [hcode] at h
        cases h
        exact .finish _ hserver
    . cases h
  | fire key =>
    simp only [step?] at h
    split at h
    . split at h
      . cases h
        apply Passage.aside
        refine Aside.trans ?_ (aside_handle _ key)
        exact aside_of_eq rfl rfl rfl rfl
      . cases h
    . cases h
  | advance index =>
    simp only [step?] at h
    split at h
    . split at h
      . next hadvance =>
        cases h
        apply Passage.aside
        refine Aside.trans (aside_advanceTask hadvance) ?_
        exact aside_of_eq rfl rfl rfl rfl
      . cases h
    . cases h
  | look index =>
    simp only [step?] at h
    split at h
    . next watcher _ =>
      split at h
      . cases h
        apply Passage.aside
        refine Aside.trans (aside_lookAt l watcher) ?_
        exact aside_of_eq rfl rfl rfl rfl
      . cases h
    . cases h

theorem passage_turn (l : Launcher) (t : Turn) : Passage t l (l.turn t) := by
  cases t with
  | move move =>
    simp only [turn]
    cases h : l.step? move with
    | none => exact .aside (.refl l)
    | some l' => exact passage_step h
  | apply settings => exact .aside (aside_applySettings l settings)
  | surround machine now web host => exact .aside (aside_of_eq rfl rfl rfl rfl)
  | pass milliseconds => exact .aside (aside_of_eq rfl rfl rfl rfl)
  | cancel => exact .aside (aside_of_eq rfl rfl rfl rfl)

end Launcher

end ServerLauncher
