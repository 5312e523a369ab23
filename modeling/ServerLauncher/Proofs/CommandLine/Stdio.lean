import ServerLauncher.Proofs.CommandLine.Stages
import ServerLauncher.Proofs.Launch.Ending

/-!
This module contains what the command that runs the server does with standard input and output: it
leaves both to the server. Whatever happens, nothing else is written than what the server writes, or
what the one sends that the command connects to, and nobody at a terminal is ever asked.
-/

namespace ServerLauncher.CommandLine

open Launcher

/--
What has been written to standard output up to the end of a run, or up to now.
-/
def Outcome.stdout : Outcome → ByteArray
  | .ended report _ => report.stdout
  | .running l => l.output

namespace LaunchCall

/--
Those who write to standard output: a server process, or a server that has been connected to.
-/
inductive Voice where
  | process (command : ServerCommand) (execution : Execution)
  | peer (host : String) (port : UInt16) (bytes : ByteArray)

def Voice.bytes : Voice → ByteArray
  | .process _ execution => execution.stdout
  | .peer _ _ bytes => bytes

/--
The process that comes to be if a launcher starts the server now.
-/
def processVoice? (l : Launcher) : Option Voice :=
  match l.server with
  | .awaited port (some runtime) (some d) =>
    let command := ServerCommand.forDistribution runtime d port
    (l.world.toMachine.run command.program command.arguments).toOption.map (.process command)
  | _ => none

/--
The server that a launcher is to connect to instead, if it can be reached.
-/
def peerVoice? (c : LaunchCall) (l : Launcher) : Option Voice :=
  match l.store.settings.socketPort with
  | some port =>
    let host := l.store.settings.socketHost.getD defaultSocketHost
    (c.peers host port).toOption.map (.peer host port)
  | none => none

/--
Who begins to write with a step.
-/
def voice? (c : LaunchCall) (s : Stage) : Step → Option Voice
  | .move .startServer =>
    match s with
    | .made l _ _ => processVoice? l
    | _ => none
  | .run =>
    match s with
    | .made l _ .run => c.peerVoice? l
    | _ => none
  | _ => none

def voices (c : LaunchCall) (s : Stage) : List Step → List Voice
  | [] => []
  | t :: course => (c.voice? s t).toList ++ c.voices (c.step s t) course

def Stage.output : Stage → ByteArray
  | .made l _ _ => l.output
  | _ => ByteArray.empty

/--
The same stage for another host. Once there is a launcher, that host does not occur any more.
-/
def Stage.withHost (host : Host) : Stage → Stage
  | .opened w => .opened { w with host }
  | .loaded w settings => .loaded { w with host } settings
  | s => s

/--
A launcher that works for a journal and that nobody has asked to stop.
-/
structure Attended (c : LaunchCall) (l : Launcher) : Prop where
  host : l.world.host = .journal c.assumeYes
  cancelled : l.cancelled = false

/--
Who has written so far. There is no server before the last phase, and the one that is there is the one
that writes.
-/
inductive Heard (c : LaunchCall) : Stage → List Voice → Prop where
  | opened (w : World) : Heard c (.opened w) []
  | loaded (w : World) (settings : Settings) : Heard c (.loaded w settings) []
  | silent {l : Launcher} {unwatched : Option Path} {next : Phase} (hattended : c.Attended l)
    (houtput : l.output = ByteArray.empty) (hserver : l.server.command? = none)
    (hnext : next ≠ .wait → l.server = .absent) : Heard c (.made l unwatched next) []
  | speaking {l : Launcher} {unwatched : Option Path} {voice : Voice} (hattended : c.Attended l)
    (houtput : l.output = voice.bytes) (hserver : ¬l.server.IsAwaited)
    (hvoice : ∀ command execution runtimeReader distributionReader,
      l.server = .serving command execution runtimeReader distributionReader →
        voice = .process command execution) : Heard c (.made l unwatched .wait) [voice]

variable {c : LaunchCall} {w : World} {s : Stage} {l l' : Launcher} {t : Step} {next : Phase}
  {unwatched : Option Path} {heard : List Voice}

theorem voices_concat (c : LaunchCall) (s : Stage) (course : List Step) (t : Step) :
    c.voices s (course ++ [t]) = c.voices s course ++ (c.voice? (c.steps s course) t).toList := by
  induction course generalizing s with
  | nil => exact List.append_nil _
  | cons first course ih =>
    show (c.voice? s first).toList ++ c.voices (c.step s first) (course ++ [t]) = _
    rw [ih, ← List.append_assoc]
    rfl

theorem voice?_of_ne_start {move : Move} (hmove : move ≠ .startServer) (s : Stage) :
    c.voice? s (.move move) = none := by
  cases move <;> first | rfl | exact absurd rfl hmove

theorem processVoice?_eq_none (h : l.step? .startServer = none) : processVoice? l = none := by
  unfold processVoice?
  split
  . next hserver =>
    simp only [step?, hserver] at h
    cases h
  . rfl

/--
A step that changes nothing does not let anybody write.
-/
theorem voice?_of_idle (hmove : ∀ move, t = .move move → l.step? move = none)
    (hrun : t = .run → next ≠ .run) : c.voice? (.made l unwatched next) t = none := by
  cases t with
  | move move =>
    by_cases hstart : move = .startServer
    . rw [hstart] at hmove ⊢
      exact processVoice?_eq_none (hmove _ rfl)
    . exact voice?_of_ne_start hstart _
  | run =>
    cases next with
    | run => exact absurd rfl (hrun rfl)
    | _ => rfl
  | _ => rfl

theorem Attended.step (h : c.Attended l) {move : Move} (hstep : l.step? move = some l') :
    c.Attended l' :=
  ⟨(sameHousehold_step h.host hstep).host.trans h.host, (serverTurn_step h.cancelled hstep).2⟩

theorem IsAwaited.command?_eq_none {server : ServerState} (h : server.IsAwaited) :
    server.command? = none := by
  cases server <;> first | rfl | cases h

/--
A step that does not start the server leaves it to those who have written before.
-/
theorem Heard.aside (h : Heard c (.made l unwatched next) heard) {move : Move}
    (hmove : move ≠ .startServer) (hstep : l.step? move = some l') :
    Heard c (.made l' unwatched next) heard := by
  cases h with
  | silent hattended houtput hserver hnext =>
    have hattended' := hattended.step hstep
    cases (serverTurn_step hattended.cancelled hstep).1 with
    | aside hserver' houtput' =>
      refine .silent hattended' (houtput'.trans houtput) ?_ ?_
      . rw [hserver']
        exact hserver
      . intro h
        rw [hserver']
        exact hnext h
    | keep hawaited hawaited' houtput' =>
      refine .silent hattended' (houtput'.trans houtput) (IsAwaited.command?_eq_none hawaited') ?_
      intro h
      rw [hnext h] at hawaited
      cases hawaited
    | start => exact absurd rfl hmove
    | notice hserver' =>
      rw [hserver'] at hserver
      cases hserver
    | finish hserver' =>
      rw [hserver'] at hserver
      cases hserver
  | speaking hattended houtput hserver hvoice =>
    have hattended' := hattended.step hstep
    cases (serverTurn_step hattended.cancelled hstep).1 with
    | aside hserver' houtput' =>
      refine .speaking hattended' (houtput'.trans houtput) ?_ ?_
      . rw [hserver']
        exact hserver
      . rw [hserver']
        exact hvoice
    | keep hawaited => exact absurd hawaited hserver
    | start => exact absurd rfl hmove
    | notice hserver' hserver'' houtput' =>
      refine .speaking hattended' (houtput'.trans houtput) ?_ ?_
      . rw [hserver'']
        intro h
        cases h
      . rw [hserver'']
        intro command execution _ _ h
        cases h
        exact hvoice _ _ _ _ hserver'
    | finish =>
      refine .speaking hattended' houtput ?_ ?_
      . intro h
        cases h
      . intro command execution _ _ h
        cases h

/--
When the server is started, nobody has written yet. The process writes from now on, if it comes to be.
-/
theorem Heard.start (h : Heard c (.made l unwatched next) heard) {port : Option UInt16}
    {runtime : Java.Runtime} {d : Distribution}
    (hserver : l.server = .awaited port (some runtime) (some d)) :
    Heard c (.made (l.spawn (.forDistribution runtime d port)) unwatched next)
      (heard ++ (processVoice? l).toList) := by
  cases h with
  | speaking _ _ hserver' =>
    rw [hserver] at hserver'
    exact absurd trivial hserver'
  | silent hattended houtput _ hnext =>
    have hwait : next = .wait := by
      by_contra h
      rw [hnext h] at hserver
      cases hserver
    subst hwait
    unfold spawn processVoice?
    rw [hserver]
    dsimp only
    cases l.world.toMachine.run (ServerCommand.forDistribution runtime d port).program
      (ServerCommand.forDistribution runtime d port).arguments with
    | ok execution =>
      refine .speaking ⟨hattended.host, hattended.cancelled⟩ ?_ ?_ ?_
      . show l.output ++ execution.stdout = execution.stdout
        rw [houtput]
        exact ByteArray.empty_append
      . intro h
        cases h
      . intro command execution _ _ h
        cases h
        rfl
    | error e =>
      refine .silent ⟨hattended.host, hattended.cancelled⟩ houtput rfl ?_
      intro h
      exact absurd rfl h

theorem Heard.move (h : Heard c (.made l unwatched next) heard) {move : Move}
    (hstep : l.step? move = some l') : Heard c (.made l' unwatched next)
      (heard ++ (c.voice? (.made l unwatched next) (.move move)).toList) := by
  by_cases hmove : move = .startServer
  . rw [hmove] at hstep ⊢
    simp only [step?] at hstep
    split at hstep <;> cases hstep
    next hserver =>
    exact h.start hserver
  . rw [voice?_of_ne_start hmove, Option.toList_none, List.append_nil]
    exact h.aside hmove hstep

/--
The command connects to a server, or begins to look for what is needed to start one.
-/
theorem Heard.run (h : Heard c (.made l unwatched .run) heard) :
    Heard c (.made (l.run c.peers) unwatched .wait) (heard ++ (c.peerVoice? l).toList) := by
  cases h with
  | silent hattended houtput hserver hnext =>
    unfold Launcher.run peerVoice?
    dsimp only
    cases l.store.settings.socketPort with
    | none => exact .silent ⟨hattended.host, hattended.cancelled⟩ houtput rfl fun h => absurd rfl h
    | some port =>
      dsimp only
      unfold runRelay
      cases c.peers (l.store.settings.socketHost.getD defaultSocketHost) port with
      | error reason =>
        exact .silent ⟨hattended.host, hattended.cancelled⟩ houtput rfl fun h => absurd rfl h
      | ok bytes =>
        refine .speaking ⟨hattended.host, hattended.cancelled⟩ ?_ ?_ ?_
        . show l.output ++ bytes = bytes
          rw [houtput]
          exact ByteArray.empty_append
        . intro h
          cases h
        . intro command execution _ _ h
          cases h

/--
Nobody notices what happens to a launcher aside from its server.
-/
theorem Heard.of_same (h : Heard c (.made l unwatched next) heard) (l' : Launcher)
    (unwatched' : Option Path) (hserver : l'.server = l.server) (houtput : l'.output = l.output)
    (hhost : l'.world.host = l.world.host) (hcancelled : l'.cancelled = l.cancelled) :
    Heard c (.made l' unwatched' next) heard := by
  have hattended : c.Attended l → c.Attended l' := fun hattended =>
    ⟨hhost.trans hattended.host, hcancelled.trans hattended.cancelled⟩
  cases h with
  | silent hattended' houtput' hserver' hnext =>
    rw [← hserver] at hserver' hnext
    exact .silent (hattended hattended') (houtput.trans houtput') hserver' hnext
  | speaking hattended' houtput' hserver' hvoice =>
    rw [← hserver] at hserver' hvoice
    exact .speaking (hattended hattended') (houtput.trans houtput') hserver' hvoice

/--
Nobody has written before the last phase.
-/
theorem Heard.advance (h : Heard c (.made l unwatched next) heard) (hnext : next ≠ .wait)
    (next' : Phase) : Heard c (.made l unwatched next') heard := by
  cases h with
  | silent hattended houtput hserver habsent =>
    exact .silent hattended houtput hserver fun _ => habsent hnext
  | speaking => exact absurd rfl hnext

theorem Heard.goes (h : Heard c (.made l unwatched next) heard)
    (hgoes : c.Goes l unwatched next t s) :
    Heard c s (heard ++ (c.voice? (.made l unwatched next) t).toList) := by
  have hsilent : c.voice? (.made l unwatched next) t = none → Heard c s heard →
      Heard c s (heard ++ (c.voice? (.made l unwatched next) t).toList) := by
    intro hvoice h'
    rw [hvoice, Option.toList_none, List.append_nil]
    exact h'
  cases hgoes with
  | idle hmove hrun => exact hsilent (voice?_of_idle hmove hrun) h
  | watch hnext =>
    have hsame := h.of_same l c.configuration rfl rfl rfl rfl
    exact hsilent rfl (hsame.advance (by simp [hnext]) .checkUpdate)
  | @observe path => exact hsilent rfl (h.of_same (l.watch path) none rfl rfl rfl rfl)
  | checkUpdate hnext =>
    have hsame : Heard c (.made l.spawnUpdateCheck unwatched next) heard := by
      rw [spawnUpdateCheck_eq]
      exact h.of_same _ unwatched rfl rfl rfl rfl
    exact hsilent rfl (hsame.advance (by simp [hnext]) .run)
  | run hnext =>
    subst hnext
    exact h.run
  | move hstep => exact h.move hstep
  | pass => exact hsilent rfl (h.of_same _ unwatched rfl rfl rfl rfl)
  | surround => exact hsilent rfl (h.of_same _ unwatched rfl rfl rfl rfl)

/--
What a step adds is what those write who begin to with it.
-/
theorem Heard.step (h : Heard c s heard) (t : Step) :
    Heard c (c.step s t) (heard ++ (c.voice? s t).toList) := by
  rcases s with w | ⟨w, settings⟩ | ⟨l, unwatched, next⟩
  . cases h
    cases t with
    | load => exact .loaded w _
    | move move => cases move <;> exact .opened w
    | _ => exact .opened _
  . cases h
    cases t with
    | make => exact .silent ⟨rfl, rfl⟩ rfl rfl fun _ => rfl
    | move move => cases move <;> exact .loaded w settings
    | _ => exact .loaded _ settings
  . exact h.goes (goes_step c l unwatched next t)

theorem heard_steps (c : LaunchCall) (w : World) (course : List Step) :
    Heard c (c.steps (.opened w) course) (c.voices (.opened w) course) := by
  induction course using List.reverseRecOn with
  | nil => exact .opened w
  | append_singleton course t ih =>
    rw [steps_concat, voices_concat]
    exact ih.step t

theorem Heard.output_eq (h : Heard c s heard) :
    s.output = heard.foldl (fun bytes voice => bytes ++ voice.bytes) ByteArray.empty := by
  cases h with
  | opened => rfl
  | loaded => rfl
  | silent _ houtput => exact houtput
  | speaking _ houtput => exact houtput.trans ByteArray.empty_append.symm

theorem Heard.length_le (h : Heard c s heard) : heard.length ≤ 1 := by
  cases h <;> simp

theorem Heard.attended (h : Heard c (.made l unwatched next) heard) : c.Attended l := by
  cases h with
  | silent hattended => exact hattended
  | speaking hattended => exact hattended

theorem Heard.eq_of_serving (h : Heard c (.made l unwatched next) heard) {command : ServerCommand}
    {execution : Execution} {runtimeReader distributionReader : Settled.Reader}
    (hserver : l.server = .serving command execution runtimeReader distributionReader) :
    heard = [.process command execution] := by
  cases h with
  | silent _ _ hnone =>
    rw [hserver] at hnone
    cases hnone
  | speaking _ _ _ hvoice => rw [hvoice _ _ _ _ hserver]

/--
Nothing that is told to a journal is written to the terminal.
-/
theorem terminalText_of_journal {assumeYes : Bool} (hhost : w.host = .journal assumeYes) :
    terminalText w = "" := by
  unfold terminalText
  rw [hhost]
  induction w.events with
  | nil => rfl
  | cons event events ih =>
    rw [List.map_cons, String.join_cons, ih]
    rfl

theorem step_withHost (c : LaunchCall) (s : Stage) (host : Host) (t : Step) :
    c.step (s.withHost host) t = (c.step s t).withHost host := by
  rcases s with w | ⟨w, settings⟩ | ⟨l, unwatched, next⟩
  . cases t <;> rfl
  . cases t <;> rfl
  . cases t <;> cases next <;> cases unwatched <;> rfl

theorem steps_withHost (c : LaunchCall) (s : Stage) (host : Host) (course : List Step) :
    c.steps (s.withHost host) course = (c.steps s course).withHost host := by
  induction course generalizing s with
  | nil => rfl
  | cons t course ih =>
    show c.steps (c.step (s.withHost host) t) course = _
    rw [step_withHost]
    exact ih (c.step s t)

theorem stdout_reportOf (l : Launcher) : (reportOf l).stdout = l.output := by
  unfold reportOf
  split <;> rfl

/--
Up to some point of its course, the command has left standard input and output to the server.
-/
structure LeavesStdio (c : LaunchCall) (w : World) (course : List Step) : Prop where
  /-- Nothing is written but what comes from a server, byte by byte. -/
  output : (c.steps (.opened w) course).output =
    (c.voices (.opened w) course).foldl (fun bytes voice => bytes ++ voice.bytes) ByteArray.empty
  /-- There is at most one server that writes. -/
  alone : (c.voices (.opened w) course).length ≤ 1
  /-- A process that is there is the one that writes. -/
  process : ∀ l unwatched next command execution runtimeReader distributionReader,
    c.steps (.opened w) course = .made l unwatched next →
      l.server = .serving command execution runtimeReader distributionReader →
        c.voices (.opened w) course = [.process command execution]
  /-- Notices and questions go to a journal, which gives its answers by itself. -/
  journal : ∀ l unwatched next, c.steps (.opened w) course = .made l unwatched next →
    l.world.host = .journal c.assumeYes ∧ terminalText l.world = ""
  /-- It does not matter who sits at the terminal, or what has been typed there. -/
  input : ∀ host, c.steps (.opened { w with host }) course =
    (c.steps (.opened w) course).withHost host

theorem leavesStdio (c : LaunchCall) (w : World) (course : List Step) : c.LeavesStdio w course := by
  have hheard := heard_steps c w course
  constructor
  . exact hheard.output_eq
  . exact hheard.length_le
  . intro l unwatched next command execution runtimeReader distributionReader hmade hserver
    rw [hmade] at hheard
    exact hheard.eq_of_serving hserver
  . intro l unwatched next hmade
    rw [hmade] at hheard
    have hhost := hheard.attended.host
    exact ⟨hhost, terminalText_of_journal hhost⟩
  . intro host
    exact steps_withHost c (.opened w) host course

/--
Standard input and output belong to the server. On every course that the command takes, whatever is
published, asked, told or changed meanwhile, exactly the bytes of the one server have been written
that has been started or connected to, if any, and whoever sits at the terminal plays no part. The
command itself takes one of these courses, and its standard output is what has been written on it.
-/
theorem stdio_belongs_to_server (c : LaunchCall) (w : World) :
    (∀ course : List Step, c.LeavesStdio w course) ∧
    (∃ (course : List Step) (l : Launcher), c.steps (.opened w) course = .made l none .wait ∧
      l.Rests ∧
      carryOut w c.peers c.configuration (.launch c.assumeYes) = reportOf l ∧
      (carryOut w c.peers c.configuration (.launch c.assumeYes)).stdout =
        (c.steps (.opened w) course).output) ∧
    ∀ host, carryOut { w with host } c.peers c.configuration (.launch c.assumeYes) =
      carryOut w c.peers c.configuration (.launch c.assumeYes) := by
  refine ⟨leavesStdio c w, ?_, ?_⟩
  . obtain ⟨moves, l, hmade, hrests, hlaunch⟩ := exists_course_of_launch c w
    refine ⟨opening ++ moves.map .move, l, hmade, hrests, hlaunch, ?_⟩
    rw [hmade]
    show (launch w c.peers c.configuration c.assumeYes).stdout = l.output
    rw [hlaunch]
    exact stdout_reportOf l
  . intro host
    rfl

end LaunchCall

end ServerLauncher.CommandLine
