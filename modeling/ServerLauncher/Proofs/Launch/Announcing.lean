import ServerLauncher.Proofs.Launch.Replacement
import ServerLauncher.Proofs.Launch.Searching

/-!
This module contains the advice to restart that is given while a server runs: it is given just when
something has been published that has not been announced yet, and it is about what has been published
last. Nobody compares that with what has been there before, so that a runtime which is found again is
announced as if it were another one.
-/

namespace ServerLauncher

theorem Settled.pollChange_of_ne {α : Type} {cell : Settled α} {reader : Reader} {a : α}
    (hnew : cell.publications ≠ reader.seen) (hcurrent : cell.current = some a) :
    cell.pollChange reader = (.value a, cell.reader) := by
  unfold pollChange
  rw [if_pos hnew, hcurrent]

def ServerState.IsEnded : ServerState → Prop
  | .ended _ => True
  | _ => False

namespace Launcher

/--
What may be published again while a server runs, and how that is announced.
-/
structure Topic (α : Type) where
  cell : Launcher → Settled α
  notice : Move
  reason : α → String
  /-- Out of the two readers of a server, the one of this cell. -/
  choose : Settled.Reader → Settled.Reader → Settled.Reader
  /-- Two values have the same path and the same version. -/
  agrees : α → α → Prop

namespace Topic

def runtimes : Topic Java.Runtime where
  cell l := l.locator.cell
  notice := .noticeRuntime
  reason := runtimeReason
  choose runtimeReader _ := runtimeReader
  agrees old new := old.path.sameAs new.path ∧ old.version = new.version

def distributions : Topic Distribution where
  cell l := l.resolver.cell
  notice := .noticeDistribution
  reason := distributionReason
  choose _ distributionReader := distributionReader
  agrees old new := old.path.sameAs new.path ∧ old.version = new.version

variable {α : Type} (topic : Topic α)

/--
With a turn, a value comes into the cell.
-/
def Publishes (l : Launcher) (t : Turn) (a : α) : Prop :=
  topic.cell (l.turn t) = (topic.cell l).publish a

/--
With a turn, a restart is advised because of a value.
-/
def Announces (l : Launcher) (t : Turn) (a : α) : Prop :=
  .restartRequested (topic.reason a) ∈ l.world.eventsSince (l.turn t).world

end Topic

def IsServing (l : Launcher) : Prop :=
  l.server.command?.isSome

namespace Topic

variable {α : Type} (topic : Topic α)

/--
On a course, something has been published beside a running server, and not announced.
-/
def IsDue (l : Launcher) (course : List Turn) : Prop :=
  ∃ before p after a, course = before ++ p :: after ∧ (l.turns before).IsServing ∧
    topic.Publishes (l.turns before) p a ∧
    ∀ front t back, after = front ++ t :: back →
      ∀ b, ¬topic.Announces (l.turns (before ++ p :: front)) t b

/--
On a course, this value has been published last, beside a running server.
-/
structure IsNews (l : Launcher) (course before : List Turn) (p : Turn) (a : α) : Prop where
  isPrefix : before ++ [p] <+: course
  isServing : (l.turns before).IsServing
  publishes : topic.Publishes (l.turns before) p a
  unchanged : topic.cell (l.turns course) = topic.cell (l.turns (before ++ [p]))

/--
Whatever a turn publishes differs from what has been there before.
-/
def Alters (l : Launcher) (p : Turn) : Prop :=
  ∀ a ∈ (topic.cell (l.turn p)).current, topic.Publishes l p a →
    ∀ old ∈ (topic.cell l).current, ¬topic.agrees old a

def Renews (l : Launcher) : List Turn → Prop
  | [] => True
  | p :: course => topic.Alters l p ∧ Renews (l.turn p) course

/--
How a turn after a course announces what has been published.
-/
structure Announcing (l : Launcher) (course : List Turn) (t : Turn) : Prop where
  iff_due : (∃ a, topic.Announces (l.turns course) t a) ↔
    t = .move topic.notice ∧ (l.turns course).IsServing ∧ topic.IsDue l course
  /-- What is announced has been published last. If every publication has made a difference, then what
  is announced differs from what has been there before. -/
  truthful : ∀ a, topic.Announces (l.turns course) t a →
    ∃ before p b, topic.IsNews l course before p b ∧ topic.reason b = topic.reason a ∧
      (topic.Renews l course →
        ∀ old, (topic.cell (l.turns before)).current = some old → ¬topic.agrees old b)

/--
How far a running server has looked at the cell.
-/
def reader? : ServerState → Option Settled.Reader
  | .serving _ _ runtimeReader distributionReader =>
    some (topic.choose runtimeReader distributionReader)
  | _ => none

/--
What a turn may do to the server, as far as the topic is concerned.
-/
inductive Change (l : Launcher) (t : Turn) : Prop where
  | aside (hreader : topic.reader? (l.turn t).server = topic.reader? l.server)
    (hended : l.server.IsEnded → (l.turn t).server.IsEnded)
    (hquiet : ∀ a, ¬topic.Announces l t a)
  | start (hbefore : topic.reader? l.server = none) (hended : ¬l.server.IsEnded)
    (hafter : topic.reader? (l.turn t).server = some (topic.cell l).reader)
    (hquiet : ∀ a, ¬topic.Announces l t a) (hcell : topic.cell (l.turn t) = topic.cell l)
  | announce {reader : Settled.Reader} {a : α} (hmove : t = .move topic.notice)
    (hbefore : topic.reader? l.server = some reader)
    (hnew : (topic.cell l).publications ≠ reader.seen) (hcurrent : (topic.cell l).current = some a)
    (hafter : topic.reader? (l.turn t).server = some (topic.cell l).reader)
    (hworld : (l.turn t).world = l.world.record (.restartRequested (topic.reason a)))
    (hcell : topic.cell (l.turn t) = topic.cell l)
  | finish (hended : (l.turn t).server.IsEnded) (hquiet : ∀ a, ¬topic.Announces l t a)

/--
A topic that the server of a launcher follows.
-/
structure IsFollowed : Prop where
  change : ∀ l t, topic.Change l t
  publishes_or_eq : ∀ l t, (∃ a, topic.Publishes l t a) ∨ topic.cell (l.turn t) = topic.cell l
  announces : ∀ l reader a, topic.reader? l.server = some reader →
    (topic.cell l).publications ≠ reader.seen → (topic.cell l).current = some a →
    topic.Announces l (.move topic.notice) a

variable {topic} {l : Launcher} {course : List Turn} {t p : Turn} {a : α}

theorem isSome_reader?_iff (topic : Topic α) : (topic.reader? l.server).isSome ↔ l.IsServing := by
  unfold IsServing
  cases l.server <;> simp [reader?, ServerState.command?]

theorem not_isEnded_of_reader? {topic : Topic α} {state : ServerState} {reader : Settled.Reader}
    (h : topic.reader? state = some reader) : ¬state.IsEnded := by
  cases state with
  | ended => cases h
  | _ => exact id

theorem not_announces_of_adds (hreason : ∀ a, ¬Quiet (.restartRequested (topic.reason a)))
    (h : World.Adds Quiet l.world (l.turn t).world) (a : α) : ¬topic.Announces l t a := by
  intro hannounces
  exact hreason a (h.of_mem_eventsSince hannounces)

theorem announces_iff_of_record {event : Event} (h : (l.turn t).world = l.world.record event) :
    topic.Announces l t a ↔ event = .restartRequested (topic.reason a) := by
  unfold Announces
  rw [World.eventsSince_of_eq_append (congrArg World.events h), List.mem_singleton]
  exact eq_comm

theorem not_announces_of_eq (h : (l.turn t).world = l.world) (a : α) : ¬topic.Announces l t a := by
  unfold Announces
  rw [h, World.eventsSince_of_eq_append (List.append_nil _).symm]
  exact List.not_mem_nil

theorem change_of_aside (hreason : ∀ a, ¬Quiet (.restartRequested (topic.reason a)))
    (h : Aside l (l.turn t)) : topic.Change l t := by
  apply Change.aside
  . rw [h.server]
  . rw [h.server]
    exact id
  . exact not_announces_of_adds hreason h.events

/--
A server that is still awaited is nobody's reader.
-/
theorem change_of_awaited {port port' : Option UInt16} {runtime runtime' : Option Java.Runtime}
    {d d' : Option Distribution} (hbefore : l.server = .awaited port runtime d)
    (hafter : (l.turn t).server = .awaited port' runtime' d')
    (hworld : (l.turn t).world = l.world) : topic.Change l t := by
  apply Change.aside
  . rw [hbefore, hafter]
    rfl
  . rw [hbefore]
    exact False.elim
  . exact not_announces_of_eq hworld

theorem change_of_spawn {port : Option UInt16} {runtime : Option Java.Runtime}
    {d : Option Distribution} {command : ServerCommand}
    (hreader : ∀ l : Launcher,
      topic.choose l.locator.cell.reader l.resolver.cell.reader = (topic.cell l).reader)
    (hcell : ∀ l l' : Launcher, l'.locator = l.locator → l'.resolver = l.resolver →
      topic.cell l' = topic.cell l)
    (hserver : l.server = .awaited port runtime d) (hturn : l.turn t = l.spawn command) :
    topic.Change l t := by
  unfold spawn at hturn
  split at hturn
  . next execution _ =>
    apply Change.start
    . rw [hserver]
      rfl
    . rw [hserver]
      exact id
    . rw [hturn]
      exact congrArg some (hreader l)
    . apply not_announces_of_eq
      rw [hturn]
    . apply hcell
      . rw [hturn]
      . rw [hturn]
  . apply Change.finish
    . rw [hturn]
      exact trivial
    . apply not_announces_of_eq
      rw [hturn]

theorem change_of_finish {result : Except LauncherError Nat}
    (hturn : l.turn t = { l with server := .ended result }) : topic.Change l t := by
  apply Change.finish
  . rw [hturn]
    exact trivial
  . apply not_announces_of_eq
    rw [hturn]

/--
What is announced of another topic leaves the reader as it is.
-/
theorem change_of_other {event : Event} (hended : ¬l.server.IsEnded)
    (hreader : topic.reader? (l.turn t).server = topic.reader? l.server)
    (hworld : (l.turn t).world = l.world.record event)
    (hother : ∀ a, event ≠ .restartRequested (topic.reason a)) : topic.Change l t := by
  apply Change.aside hreader
  . intro h
    exact absurd h hended
  . intro a hannounces
    exact hother a ((announces_iff_of_record hworld).1 hannounces)

theorem change_turn (l : Launcher) (t : Turn) : runtimes.Change l t ∧ distributions.Change l t := by
  have hpassage := passage_turn l t
  generalize hturn : l.turn t = l' at hpassage
  have hworld : (l.turn t).world = l'.world := by rw [hturn]
  have hafter : (l.turn t).server = l'.server := by rw [hturn]
  cases hpassage with
  | aside h =>
    rw [← hturn] at h
    exact ⟨change_of_aside not_quiet_runtimeReason h, change_of_aside not_quiet_distributionReason h⟩
  | keepRuntime hserver =>
    exact ⟨change_of_awaited hserver hafter hworld, change_of_awaited hserver hafter hworld⟩
  | keepDistribution hserver =>
    exact ⟨change_of_awaited hserver hafter hworld, change_of_awaited hserver hafter hworld⟩
  | start hserver =>
    constructor
    . apply change_of_spawn _ _ hserver hturn
      . intro l
        rfl
      . intro l l' hlocator _
        exact congrArg Java.Locator.cell hlocator
    . apply change_of_spawn _ _ hserver hturn
      . intro l
        rfl
      . intro l l' _ hresolver
        exact congrArg Distribution.Resolver.cell hresolver
  | noticeRuntime hserver hnew hcurrent =>
    have hbefore := congrArg runtimes.reader? hserver
    constructor
    . have hcell := congrArg runtimes.cell hturn
      exact .announce rfl hbefore hnew hcurrent (congrArg runtimes.reader? hafter) hworld hcell
    . apply change_of_other (not_isEnded_of_reader? hbefore) _ hworld
      . intro d heq
        exact runtimeReason_ne_distributionReason _ _ (Event.restartRequested.inj heq)
      . rw [hafter, hserver]
        rfl
  | noticeDistribution hserver hnew hcurrent =>
    have hbefore := congrArg distributions.reader? hserver
    constructor
    . apply change_of_other (not_isEnded_of_reader? hbefore) _ hworld
      . intro runtime heq
        exact runtimeReason_ne_distributionReason _ _ (Event.restartRequested.inj heq).symm
      . rw [hafter, hserver]
        rfl
    . have hcell := congrArg distributions.cell hturn
      exact .announce rfl hbefore hnew hcurrent (congrArg distributions.reader? hafter) hworld hcell
  | finish result => exact ⟨change_of_finish hturn, change_of_finish hturn⟩

/--
A runtime is published just by a search that finds it.
-/
theorem publishes_runtimes_iff {runtime : Java.Runtime} :
    runtimes.Publishes l t runtime ↔ ∃ time search, l.sign? t = some (.searched time search) ∧
      search.find l.locator.places = .ok runtime := by
  unfold Publishes
  show (l.turn t).locator.cell = l.locator.cell.publish runtime ↔ _
  rw [locator_turn]
  dsimp only
  have hne : l.locator.cell ≠ l.locator.cell.publish runtime := by
    intro heq
    have hcount := congrArg Settled.publications heq
    simp [Settled.publish] at hcount
  have hinj : ∀ other, l.locator.cell.publish other = l.locator.cell.publish runtime ↔
      other = runtime := by
    intro other
    simp [Settled.publish]
  cases hsign : l.sign? t with
  | none => simp [hne]
  | some sign =>
    cases sign with
    | searched time search =>
      cases hfind : search.find l.locator.places <;>
        simp [Sign.publish, hfind, hne, hinj]
    | _ => simp [Sign.publish, hne]

theorem publishes_runtimes_or_eq (l : Launcher) (t : Turn) :
    (∃ runtime, runtimes.Publishes l t runtime) ∨ runtimes.cell (l.turn t) = runtimes.cell l := by
  unfold Publishes
  show (∃ runtime, (l.turn t).locator.cell = _) ∨ (l.turn t).locator.cell = l.locator.cell
  rw [locator_turn]
  dsimp only
  cases hsign : l.sign? t with
  | none => exact .inr rfl
  | some sign =>
    cases sign with
    | searched time search =>
      simp only [Option.toList_some, List.foldl_cons, List.foldl_nil, Sign.publish]
      cases search.find l.locator.places with
      | ok runtime => exact .inl ⟨runtime, rfl⟩
      | error => exact .inr rfl
    | _ => exact .inr rfl

theorem publishes_distributions_or_eq (l : Launcher) (t : Turn) :
    (∃ d, distributions.Publishes l t d) ∨
      distributions.cell (l.turn t) = distributions.cell l := by
  unfold Publishes
  show (∃ d, (l.turn t).resolver.cell = l.resolver.cell.publish d) ∨
    (l.turn t).resolver.cell = l.resolver.cell
  have hwork := work_turn l t
  generalize l.turn t = l' at hwork
  cases hwork with
  | rest _ _ _ _ _ hsame =>
    rw [hsame.resolver]
    exact .inr rfl
  | adopt _ _ hadopts =>
    rw [hadopts.resolver]
    exact .inr rfl
  | fire => exact .inr rfl
  | advance _ hadvance =>
    cases progress_advanceTask hadvance with
    | other _ hresolver => exact .inr (congrArg Distribution.Resolver.cell hresolver)
    | ask => exact .inr rfl
    | finish _ published _ hresolver =>
      have hcell := congrArg Distribution.Resolver.cell hresolver
      cases published with
      | none => exact .inr hcell
      | some d => exact .inl ⟨d, hcell⟩

theorem announces_runtimes {reader : Settled.Reader} {runtime : Java.Runtime}
    (hreader : runtimes.reader? l.server = some reader)
    (hnew : l.locator.cell.publications ≠ reader.seen)
    (hcurrent : l.locator.cell.current = some runtime) :
    runtimes.Announces l (.move .noticeRuntime) runtime := by
  cases hserver : l.server with
  | serving command execution runtimeReader distributionReader =>
    rw [hserver] at hreader
    cases hreader
    have hpoll := Settled.pollChange_of_ne hnew hcurrent
    change l.locator.cell.pollChange runtimeReader = _ at hpoll
    unfold Announces turn
    simp only [step?, hserver, hpoll, Option.getD_some]
    exact World.mem_eventsSince_record (refl_of (World.Adds Quiet) l.world) _
  | _ =>
    rw [hserver] at hreader
    cases hreader

theorem announces_distributions {reader : Settled.Reader} {d : Distribution}
    (hreader : distributions.reader? l.server = some reader)
    (hnew : l.resolver.cell.publications ≠ reader.seen)
    (hcurrent : l.resolver.cell.current = some d) :
    distributions.Announces l (.move .noticeDistribution) d := by
  cases hserver : l.server with
  | serving command execution runtimeReader distributionReader =>
    rw [hserver] at hreader
    cases hreader
    have hpoll := Settled.pollChange_of_ne hnew hcurrent
    change l.resolver.cell.pollChange distributionReader = _ at hpoll
    unfold Announces turn
    simp only [step?, hserver, hpoll, Option.getD_some]
    exact World.mem_eventsSince_record (refl_of (World.Adds Quiet) l.world) _
  | _ =>
    rw [hserver] at hreader
    cases hreader

theorem isFollowed_runtimes : runtimes.IsFollowed where
  change l t := (change_turn l t).1
  publishes_or_eq := publishes_runtimes_or_eq
  announces _ _ _ := announces_runtimes

theorem isFollowed_distributions : distributions.IsFollowed where
  change l t := (change_turn l t).2
  publishes_or_eq := publishes_distributions_or_eq
  announces _ _ _ := announces_distributions

theorem not_publishes_of_eq (h : topic.cell (l.turn t) = topic.cell l) (a : α) :
    ¬topic.Publishes l t a := by
  intro hpublishes
  have hcount := congrArg Settled.publications (h.symm.trans hpublishes)
  simp [Settled.publish] at hcount

/--
A publication is due until it is announced.
-/
theorem isDue_concat_iff :
    topic.IsDue l (course ++ [t]) ↔
      (topic.IsDue l course ∧ ∀ b, ¬topic.Announces (l.turns course) t b) ∨
        ((l.turns course).IsServing ∧ ∃ a, topic.Publishes (l.turns course) t a) := by
  constructor
  . rintro ⟨before, p, after, a, heq, hserving, hpublishes, hquiet⟩
    rcases List.eq_nil_or_concat' after with rfl | ⟨after, last, rfl⟩
    . obtain ⟨rfl, hlast⟩ := List.append_inj' heq rfl
      cases hlast
      exact .inr ⟨hserving, a, hpublishes⟩
    . rw [← List.cons_append, ← List.append_assoc] at heq
      obtain ⟨rfl, hlast⟩ := List.append_inj' heq rfl
      cases hlast
      refine .inl ⟨⟨before, p, after, a, rfl, hserving, hpublishes, ?_⟩, hquiet after t [] rfl⟩
      rintro front other back rfl
      exact hquiet front other (back ++ [t]) (by simp)
  . rintro (⟨⟨before, p, after, a, rfl, hserving, hpublishes, hquiet⟩, hlast⟩ |
      ⟨hserving, a, hpublishes⟩)
    . refine ⟨before, p, after ++ [t], a, by simp, hserving, hpublishes, ?_⟩
      intro front other back heq
      rcases List.eq_nil_or_concat' back with rfl | ⟨back, last, rfl⟩
      . obtain ⟨rfl, hother⟩ := List.append_inj' heq rfl
        cases hother
        exact hlast
      . rw [← List.cons_append, ← List.append_assoc] at heq
        obtain ⟨rfl, _⟩ := List.append_inj' heq rfl
        exact hquiet front other back rfl
    . refine ⟨course, t, [], a, rfl, hserving, hpublishes, ?_⟩
      intro front other back heq
      simp at heq

/--
What the reader of a running server has not looked at is what is due.
-/
structure Abreast (topic : Topic α) (l : Launcher) (course : List Turn) (reader : Settled.Reader) :
    Prop where
  seen_le : reader.seen ≤ (topic.cell (l.turns course)).publications
  due_iff : topic.IsDue l course ↔ (topic.cell (l.turns course)).publications ≠ reader.seen
  news : (topic.cell (l.turns course)).publications ≠ reader.seen →
    ∃ before p a, topic.IsNews l course before p a

/--
How far the server has come on a course. It runs at most once.
-/
inductive Stage (topic : Topic α) (l : Launcher) (course : List Turn) : Prop where
  | waiting (h : ∀ before, before <+: course → topic.reader? (l.turns before).server = none)
  | serving {reader : Settled.Reader}
    (hreader : topic.reader? (l.turns course).server = some reader)
    (habreast : topic.Abreast l course reader)
  | ended (h : (l.turns course).server.IsEnded)

theorem abreast_of_reader (hnone : ¬topic.IsDue l course) :
    topic.Abreast l course (topic.cell (l.turns course)).reader where
  seen_le := Nat.le_refl _
  due_iff := iff_of_false hnone (fun h => h rfl)
  news h := absurd rfl h

theorem IsNews.concat {before : List Turn} (h : topic.IsNews l course before p a)
    (hcell : topic.cell ((l.turns course).turn t) = topic.cell (l.turns course)) :
    topic.IsNews l (course ++ [t]) before p a where
  isPrefix := h.isPrefix.trans (List.prefix_append _ _)
  isServing := h.isServing
  publishes := h.publishes
  unchanged := by rw [turns_concat, hcell, h.unchanged]

theorem isNews_concat (hserving : (l.turns course).IsServing)
    (h : topic.Publishes (l.turns course) t a) : topic.IsNews l (course ++ [t]) course t a where
  isPrefix := List.prefix_refl _
  isServing := hserving
  publishes := h
  unchanged := rfl

theorem Abreast.concat (hfollowed : topic.IsFollowed) {reader : Settled.Reader}
    (h : topic.Abreast l course reader)
    (hreader : topic.reader? (l.turns course).server = some reader)
    (hquiet : ∀ b, ¬topic.Announces (l.turns course) t b) :
    topic.Abreast l (course ++ [t]) reader := by
  have hserving : (l.turns course).IsServing := by
    rw [← isSome_reader?_iff topic, hreader]
    rfl
  rcases hfollowed.publishes_or_eq (l.turns course) t with ⟨a, hpublishes⟩ | hcell
  . have hcount : (topic.cell (l.turns (course ++ [t]))).publications =
        (topic.cell (l.turns course)).publications + 1 := by
      rw [turns_concat]
      exact congrArg Settled.publications hpublishes
    have hle := h.seen_le
    constructor
    . omega
    . rw [isDue_concat_iff]
      refine iff_of_true (.inr ⟨hserving, a, hpublishes⟩) ?_
      omega
    . intro _
      exact ⟨course, t, a, isNews_concat hserving hpublishes⟩
  . have hsame : topic.cell (l.turns (course ++ [t])) = topic.cell (l.turns course) := by
      rw [turns_concat]
      exact hcell
    constructor
    . rw [hsame]
      exact h.seen_le
    . rw [isDue_concat_iff, hsame, ← h.due_iff, or_iff_left, and_iff_left hquiet]
      rintro ⟨_, a, hpublishes⟩
      exact not_publishes_of_eq hcell a hpublishes
    . rw [hsame]
      intro hnew
      obtain ⟨before, p, a, hnews⟩ := h.news hnew
      exact ⟨before, p, a, hnews.concat hcell⟩

theorem not_isDue_of_waiting
    (h : ∀ before, before <+: course → topic.reader? (l.turns before).server = none) :
    ¬topic.IsDue l course := by
  rintro ⟨before, p, after, a, rfl, hserving, _⟩
  rw [← isSome_reader?_iff topic, h before (List.prefix_append _ _)] at hserving
  cases hserving

theorem stage_concat (hfollowed : topic.IsFollowed) (h : topic.Stage l course) (t : Turn) :
    topic.Stage l (course ++ [t]) := by
  have hturn := turns_concat l course t
  cases h with
  | waiting hwaiting =>
    have hnone := hwaiting course (List.prefix_refl _)
    cases hfollowed.change (l.turns course) t with
    | aside hreader =>
      apply Stage.waiting
      intro before hbefore
      rcases List.prefix_concat_iff.1 hbefore with rfl | hbefore
      . rw [hturn, hreader, hnone]
      . exact hwaiting before hbefore
    | start _ _ hafter hquiet hcell =>
      have hsame : topic.cell (l.turns (course ++ [t])) = topic.cell (l.turns course) := by
        rw [hturn, hcell]
      apply Stage.serving
      . rw [hturn, hafter, ← hsame]
      . apply abreast_of_reader
        rw [isDue_concat_iff]
        rintro (⟨hdue, _⟩ | ⟨_, a, hpublishes⟩)
        . exact not_isDue_of_waiting hwaiting hdue
        . exact not_publishes_of_eq hcell a hpublishes
    | announce _ hbefore =>
      rw [hnone] at hbefore
      cases hbefore
    | finish hended =>
      apply Stage.ended
      rw [hturn]
      exact hended
  | serving hreader habreast =>
    cases hfollowed.change (l.turns course) t with
    | aside hsame _ hquiet =>
      apply Stage.serving
      . rw [hturn, hsame, hreader]
      . exact habreast.concat hfollowed hreader hquiet
    | start hbefore =>
      rw [hreader] at hbefore
      cases hbefore
    | @announce _ a _ _ _ _ hafter hworld hcell =>
      have hsame : topic.cell (l.turns (course ++ [t])) = topic.cell (l.turns course) := by
        rw [hturn, hcell]
      apply Stage.serving
      . rw [hturn, hafter, ← hsame]
      . apply abreast_of_reader
        rw [isDue_concat_iff]
        rintro (⟨_, hquiet⟩ | ⟨_, a, hpublishes⟩)
        . exact hquiet a ((announces_iff_of_record hworld).2 rfl)
        . exact not_publishes_of_eq hcell a hpublishes
    | finish hended =>
      apply Stage.ended
      rw [hturn]
      exact hended
  | ended hended =>
    cases hfollowed.change (l.turns course) t with
    | aside _ hstill =>
      apply Stage.ended
      rw [hturn]
      exact hstill hended
    | start _ hnot => exact absurd hended hnot
    | announce _ hbefore => exact absurd hended (not_isEnded_of_reader? hbefore)
    | finish hended =>
      apply Stage.ended
      rw [hturn]
      exact hended

theorem stage_turns (hfollowed : topic.IsFollowed) (hserver : l.server.IsEnded ∨
      topic.reader? l.server = none) (course : List Turn) : topic.Stage l course := by
  induction course using List.reverseRecOn with
  | nil =>
    rcases hserver with hended | hnone
    . exact .ended hended
    . apply Stage.waiting
      intro before hbefore
      rw [List.prefix_nil.1 hbefore]
      exact hnone
  | append_singleton course t ih => exact stage_concat hfollowed ih t

theorem Renews.alters {before : List Turn} (h : topic.Renews l course)
    (hfront : before ++ [p] <+: course) : topic.Alters (l.turns before) p := by
  induction before generalizing l course with
  | nil =>
    obtain ⟨after, rfl⟩ := hfront
    exact h.1
  | cons first before ih =>
    obtain ⟨after, rfl⟩ := hfront
    exact ih h.2 ⟨after, rfl⟩

theorem Alters.not_agrees (h : topic.Alters l p) (hpublishes : topic.Publishes l p a) {old : α}
    (hold : (topic.cell l).current = some old) : ¬topic.agrees old a := by
  have hcurrent : (topic.cell (l.turn p)).current = some a :=
    congrArg Settled.current hpublishes
  exact h a hcurrent hpublishes old hold

theorem IsNews.current {before : List Turn} (h : topic.IsNews l course before p a) :
    (topic.cell (l.turns course)).current = some a := by
  rw [h.unchanged, turns_concat]
  exact congrArg Settled.current h.publishes

theorem Stage.abreast (h : topic.Stage l course) {reader : Settled.Reader}
    (hreader : topic.reader? (l.turns course).server = some reader) :
    topic.Abreast l course reader := by
  cases h with
  | waiting hwaiting =>
    rw [hwaiting course (List.prefix_refl _)] at hreader
    cases hreader
  | serving hreader' habreast =>
    rw [hreader'] at hreader
    cases hreader
    exact habreast
  | ended hended => exact absurd hended (not_isEnded_of_reader? hreader)

/--
Any advice is about what the cell holds, of which the server has not known.
-/
theorem Announces.due (hfollowed : topic.IsFollowed) (h : topic.Announces l t a) :
    t = .move topic.notice ∧ ∃ reader b, topic.reader? l.server = some reader ∧
      (topic.cell l).publications ≠ reader.seen ∧ (topic.cell l).current = some b ∧
      topic.reason b = topic.reason a := by
  cases hfollowed.change l t with
  | aside _ _ hquiet => exact absurd h (hquiet a)
  | start _ _ _ hquiet => exact absurd h (hquiet a)
  | @announce reader b hmove hbefore hnew hcurrent _ hworld =>
    refine ⟨hmove, reader, b, hbefore, hnew, hcurrent, ?_⟩
    exact Event.restartRequested.inj ((announces_iff_of_record hworld).1 h)
  | finish _ hquiet => exact absurd h (hquiet a)

theorem announcing_turns (hfollowed : topic.IsFollowed) (hserver : l.server.IsEnded ∨
      topic.reader? l.server = none) (course : List Turn) (t : Turn) :
    topic.Announcing l course t := by
  have hstage := stage_turns hfollowed hserver course
  constructor
  . constructor
    . rintro ⟨a, ha⟩
      obtain ⟨hmove, reader, b, hreader, hnew, _⟩ := ha.due hfollowed
      refine ⟨hmove, ?_, (hstage.abreast hreader).due_iff.2 hnew⟩
      rw [← isSome_reader?_iff topic, hreader]
      rfl
    . rintro ⟨rfl, hserving, hdue⟩
      rw [← isSome_reader?_iff topic] at hserving
      obtain ⟨reader, hreader⟩ := Option.isSome_iff_exists.1 hserving
      have habreast := hstage.abreast hreader
      have hnew := habreast.due_iff.1 hdue
      obtain ⟨before, p, a, hnews⟩ := habreast.news hnew
      exact ⟨a, hfollowed.announces _ _ _ hreader hnew hnews.current⟩
  . intro a ha
    obtain ⟨_, reader, b, hreader, hnew, hcurrent, hreason⟩ := ha.due hfollowed
    obtain ⟨before, p, c, hnews⟩ := (hstage.abreast hreader).news hnew
    rw [hnews.current] at hcurrent
    cases hcurrent
    refine ⟨before, p, b, hnews, hreason, ?_⟩
    intro hrenews old hold
    exact (hrenews.alters hnews.isPrefix).not_agrees hnews.publishes hold

end Topic

/--
On every course of a launcher, a restart is advised just when something is due, and because of what has
been published last. Whether that differs from what has been there before makes no difference.
-/
theorem announces_what_is_due (l : Launcher) (peers : Peers) (course : List Turn) (t : Turn) :
    Topic.runtimes.Announcing (l.run peers) course t ∧
      Topic.distributions.Announcing (l.run peers) course t := by
  have hserver : ∀ {α : Type} (topic : Topic α), (l.run peers).server.IsEnded ∨
      topic.reader? (l.run peers).server = none := by
    intro α topic
    cases hsocket : l.store.settings.socketPort with
    | none =>
      rw [server_run l peers hsocket]
      exact .inr rfl
    | some port =>
      simp only [run, hsocket, runRelay]
      split <;> exact .inl trivial
  exact ⟨Topic.announcing_turns Topic.isFollowed_runtimes (hserver _) course t,
    Topic.announcing_turns Topic.isFollowed_distributions (hserver _) course t⟩

section

variable {α : Type} [DecidableEq α] (topic : Topic α) (l : Launcher) (t : Turn) (a : α)

instance : Decidable (topic.Publishes l t a) :=
  inferInstanceAs (Decidable (_ = _))

instance : Decidable (topic.Announces l t a) :=
  inferInstanceAs (Decidable (_ ∈ _))

instance : Decidable l.IsServing :=
  inferInstanceAs (Decidable (_ = true))

instance [∀ old new, Decidable (topic.agrees old new)] : Decidable (topic.Alters l t) :=
  inferInstanceAs (Decidable (∀ _ ∈ _, _ → ∀ _ ∈ _, _))

instance decidableRenews [∀ old new, Decidable (topic.agrees old new)] (l : Launcher) :
    (course : List Turn) → Decidable (topic.Renews l course)
  | [] => inferInstanceAs (Decidable True)
  | p :: course =>
    have := decidableRenews (l.turn p) course
    inferInstanceAs (Decidable (_ ∧ _))

end

instance (old new : Java.Runtime) : Decidable (Topic.runtimes.agrees old new) :=
  inferInstanceAs (Decidable (_ ∧ _))

/--
The server has been started with the first of two runtimes.
-/
def servingCourse : List Turn :=
  [.move (.advance 0), .move (.advance 0), .move .observeRuntime, .move .observeDistribution,
    .move .startServer]

/--
Beside the server, the second runtime is configured and found.
-/
def changingCourse : List Turn :=
  servingCourse ++ [.apply { javaPath := some "/b", cacheDirectory := some "/cache" },
    .pass Debouncer.defaultWindow, .move (.fire .javaPath), .move (.advance 0)]

/--
Beside the server, the second runtime is configured, and the first one again before that has been quiet
for long. Then the first one is found.
-/
def returningCourse : List Turn :=
  servingCourse ++ [.apply { javaPath := some "/b", cacheDirectory := some "/cache" }, .pass 2000,
    .apply { javaPath := some "/a", cacheDirectory := some "/cache" },
    .pass Debouncer.defaultWindow, .move (.fire .javaPath), .move (.advance 0)]

theorem announces_what_is_due_on_changingCourse :
    Topic.runtimes.Announces ((onTwoRuntimes.run nobody).turns changingCourse)
        (.move .noticeRuntime) ⟨"/b", 23⟩ ∧
      Topic.runtimes.Renews (onTwoRuntimes.run nobody) changingCourse ∧
      ∃ before p runtime,
        Topic.runtimes.IsNews (onTwoRuntimes.run nobody) changingCourse before p runtime ∧
        runtimeReason runtime = runtimeReason ⟨"/b", 23⟩ ∧
        ∀ old, ((onTwoRuntimes.run nobody).turns before).locator.cell.current = some old →
          ¬(old.path.sameAs runtime.path ∧ old.version = runtime.version) := by
  have hannounces : Topic.runtimes.Announces ((onTwoRuntimes.run nobody).turns changingCourse)
      (.move .noticeRuntime) ⟨"/b", 23⟩ := by decide +kernel
  have hrenews : Topic.runtimes.Renews (onTwoRuntimes.run nobody) changingCourse := by
    decide +kernel
  have hall := announces_what_is_due onTwoRuntimes nobody changingCourse (.move .noticeRuntime)
  obtain ⟨before, p, runtime, hnews, hreason, hdiffers⟩ := hall.1.truthful _ hannounces
  exact ⟨hannounces, hrenews, before, p, runtime, hnews, hreason, hdiffers hrenews⟩

/--
The runtime that the server uses is announced as another one, although the configured path has come
back to it in time.
-/
theorem exists_announced_without_change :
    ∃ before p command runtime, returningCourse = before ++ [p] ∧
      ((onTwoRuntimes.run nobody).turns returningCourse).store.settings.javaPath =
        onTwoRuntimes.store.settings.javaPath ∧
      ((onTwoRuntimes.run nobody).turns before).server.command? = some command ∧
      command.UsesRuntime runtime ∧
      ((onTwoRuntimes.run nobody).turns before).locator.cell.current = some runtime ∧
      Topic.runtimes.Publishes ((onTwoRuntimes.run nobody).turns before) p runtime ∧
      Topic.runtimes.Announces ((onTwoRuntimes.run nobody).turns returningCourse)
        (.move .noticeRuntime) runtime := by
  refine ⟨returningCourse.dropLast, .move (.advance 0),
    .forDistribution ⟨"/a", 22⟩ ⟨"/pkl-lsp.jar", .ofNumbers 0 6 0, .bundled⟩ none, ⟨"/a", 22⟩, rfl,
    ?_, ?_, ?_, ?_, ?_, ?_⟩
  . decide +kernel
  . decide +kernel
  . rw [ServerCommand.usesRuntime_forDistribution_iff]
  . decide +kernel
  . decide +kernel
  . decide +kernel

end Launcher

end ServerLauncher
