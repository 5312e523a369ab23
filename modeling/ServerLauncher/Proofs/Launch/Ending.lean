import ServerLauncher.Proofs.Launch.Starting
import ServerLauncher.Proofs.Update.Fetching

/-!
This module contains the end of the server. If what a launcher reads is not in the places that its
update check may write to, then it spawns what it finds and chooses at the start, and relays how that
ends. No other place changes.
-/

namespace ServerLauncher

namespace Launcher

/--
A launcher that has not begun to do anything, for a host that declines. It may be to start a server, or
to connect to one.
-/
structure IsReady (l : Launcher) : Prop where
  runtime : l.locator.cell = .pending
  distribution : l.resolver.cell = .pending
  timers : l.debouncer.timers = []
  tasks : l.tasks = []
  host : l.world.host = .journal false
  watchers : ∀ watcher ∈ l.watchers, watcher.lastSeen = l.world.files.modified? watcher.path
  cancelled : l.cancelled = false

/--
The update check of a launcher may leave something at a place.
-/
def MayWriteTo (l : Launcher) (x : Location) : Prop :=
  ∃ update, l.updateCheck? = some update ∧ update.MayWriteTo l.world.files x

/--
The files may have become others in these places.
-/
def MayHave (l : Launcher) (files : FileSystem) : Prop :=
  l.world.files.SameBut l.MayWriteTo files

/--
Files have not become others anywhere else, so that every file that could be read at the start can
still be read, each downloaded jar for example, unless it is the document with the metadata.
-/
structure LeavesAlone (l : Launcher) (files : FileSystem) : Prop where
  elsewhere : l.MayHave files
  read : ∀ p body, l.world.files.read p = .ok body →
    (∀ update, l.updateCheck? = some update → ¬update.IsDocument l.world.files p) →
      files.read p = .ok body

/--
The search for the runtime, the choice of the distribution and the watchers read nothing there:
whatever there is, they come to the same result.
-/
def ReadsElsewhere (l : Launcher) : Prop :=
  ∀ files, l.MayHave files → l.Disregards files

/--
The runtime and the distribution that a launcher finds and chooses at the start, unless it is to
connect to a running server.
-/
def planned? (l : Launcher) : Option (Java.Runtime × Distribution) :=
  if l.store.settings.socketPort.isSome then none
  else (l.foundOn l.world.toMachine).toOption.bind fun runtime =>
    (l.chosenOn l.world.toMachine runtime).map (runtime, ·)

def commandFor (l : Launcher) (planned : Java.Runtime × Distribution) : ServerCommand :=
  .forDistribution planned.1 planned.2 l.store.settings.debugPort

/--
What comes of an attempt to run the server with some files.
-/
def serves (l : Launcher) (planned : Java.Runtime × Distribution) (files : FileSystem) :
    Except IoError Execution :=
  (l.machineWith files).run (l.commandFor planned).program (l.commandFor planned).arguments

/--
The server itself reads nothing there either.
-/
def ServesElsewhere (l : Launcher) : Prop :=
  ∀ planned, l.planned? = some planned → ∀ files, l.MayHave files →
    l.serves planned files = l.serves planned l.world.files

/--
The result of a launcher and all that has been written to its standard output, once there is one.
-/
def end? (l : Launcher) : Option (Except LauncherError Nat × ByteArray) :=
  match l.server with
  | .ended result => some (result, l.output)
  | _ => none

/--
The end that a launcher relays of an attempt to run a server. A process need not end.
-/
def relayed? (l : Launcher) (command : ServerCommand) :
    Except IoError Execution → Option (Except LauncherError Nat × ByteArray)
  | .ok execution =>
    (exitCode? execution.ending).map fun code => (.ok code, l.output ++ execution.stdout)
  | .error e => some (.error (.launch (command.program.text ++ ": " ++ e.message)), l.output)

/--
The command that a launcher is to spawn, if a process can be made from it.
-/
def plannedCommand? (l : Launcher) : Option ServerCommand :=
  l.planned?.bind fun planned =>
    ServerCommand.startable? planned.1 planned.2 l.store.settings.debugPort

/--
The end that a launcher is to come to: that of the server that it starts, or connects to.
-/
def plannedEnd? (l : Launcher) (peers : Peers) : Option (Except LauncherError Nat × ByteArray) :=
  match l.store.settings.socketPort with
  | some port =>
    (l.runRelay peers (l.store.settings.socketHost.getD defaultSocketHost) port).end?
  | none =>
    l.planned?.bind fun planned =>
      l.relayed? (l.commandFor planned) (l.serves planned l.world.files)

/--
On every course of its own, a launcher ends like this, if it ends at all. It has come to that when there
is nothing left to do, and gets there from wherever it is.
-/
structure Ends (l : Launcher) (expected? : Option (Except LauncherError Nat × ByteArray)) : Prop where
  within : ∀ course : List Turn, (∀ t ∈ course, t.IsOwn) →
    (l.turns course).end? = none ∨ (l.turns course).end? = expected?
  atRest : ∀ course : List Turn, (∀ t ∈ course, t.IsOwn) → (l.turns course).Rests →
    (l.turns course).end? = expected?
  comes : ∀ course : List Turn, (∀ t ∈ course, t.IsOwn) → ∃ later : List Turn,
    (∀ t ∈ later, t.IsOwn) ∧ (l.turns (course ++ later)).end? = expected?

/--
What a turn may do to the server and the output of a launcher that nobody asks to stop.
-/
inductive ServerTurn (l : Launcher) : Turn → Launcher → Prop where
  | aside {t : Turn} {l' : Launcher} (hserver : l'.server = l.server)
    (houtput : l'.output = l.output) : ServerTurn l t l'
  | keep {t : Turn} {l' : Launcher} (hserver : l.server.IsAwaited) (hserver' : l'.server.IsAwaited)
    (houtput : l'.output = l.output) : ServerTurn l t l'
  | start {port : Option UInt16} {runtime : Java.Runtime} {d : Distribution}
    (hserver : l.server = .awaited port (some runtime) (some d)) :
    ServerTurn l (.move .startServer) (l.spawn (.forDistribution runtime d port))
  | notice {t : Turn} {l' : Launcher} {command : ServerCommand} {execution : Execution}
    {runtimeReader distributionReader runtimeReader' distributionReader' : Settled.Reader}
    (hserver : l.server = .serving command execution runtimeReader distributionReader)
    (hserver' : l'.server = .serving command execution runtimeReader' distributionReader')
    (houtput : l'.output = l.output) : ServerTurn l t l'
  | finish {t : Turn} {command : ServerCommand} {execution : Execution}
    {runtimeReader distributionReader : Settled.Reader} {code : Nat}
    (hserver : l.server = .serving command execution runtimeReader distributionReader)
    (hcode : exitCode? execution.ending = some code) :
    ServerTurn l t { l with server := .ended (.ok code) }

/--
How far the server has come, and what it was started on.
-/
inductive Carries (l l' : Launcher) : Prop where
  | awaited (hserver : l'.server.IsAwaited) (houtput : l'.output = l.output) : Carries l l'
  | serving {planned : Java.Runtime × Distribution} {files : FileSystem} {execution : Execution}
    {runtimeReader distributionReader : Settled.Reader} (hplanned : l.planned? = some planned)
    (hfiles : l.MayHave files) (hserves : l.serves planned files = .ok execution)
    (hserver : l'.server =
      .serving (l.commandFor planned) execution runtimeReader distributionReader)
    (houtput : l'.output = l.output ++ execution.stdout) : Carries l l'
  | ended {planned : Java.Runtime × Distribution} {files : FileSystem}
    {result : Except LauncherError Nat} (hplanned : l.planned? = some planned)
    (hfiles : l.MayHave files) (hserver : l'.server = .ended result)
    (hend : some (result, l'.output) =
      l.relayed? (l.commandFor planned) (l.serves planned files)) : Carries l l'

variable {l l' : Launcher} {t : Turn} {course : List Turn} {planned : Java.Runtime × Distribution}

theorem planned?_eq_some_iff (hsocket : l.store.settings.socketPort = none) :
    l.planned? = some planned ↔
      l.foundOn l.world.toMachine = .ok planned.1 ∧
        l.chosenOn l.world.toMachine planned.1 = some planned.2 := by
  obtain ⟨runtime, d⟩ := planned
  unfold planned?
  rw [hsocket]
  cases l.foundOn l.world.toMachine with
  | error e => simp [Except.toOption]
  | ok found =>
    simp only [Option.isSome_none, Bool.false_eq_true, if_false, Except.toOption,
      Option.bind_some, Option.map_eq_some_iff, Prod.mk.injEq, Except.ok.injEq]
    constructor
    . rintro ⟨chosen, hchosen, rfl, rfl⟩
      exact ⟨rfl, hchosen⟩
    . rintro ⟨rfl, hchosen⟩
      exact ⟨d, hchosen, rfl, rfl⟩

theorem serverTurn_of_surroundings (h : SameSurroundings l l') (hcancelled : l.cancelled = false) :
    ServerTurn l t l' ∧ l'.cancelled = false :=
  ⟨.aside h.server h.output, h.cancelled.trans hcancelled⟩

theorem serverTurn_step {move : Move} (hcancelled : l.cancelled = false)
    (h : l.step? move = some l') : ServerTurn l (.move move) l' ∧ l'.cancelled = false := by
  cases move with
  | observeRuntime =>
    simp only [step?] at h
    split at h <;> cases h
    next hserver _ =>
    exact ⟨.keep (hserver ▸ trivial) trivial rfl, hcancelled⟩
  | observeDistribution =>
    simp only [step?] at h
    split at h <;> cases h
    next hserver _ =>
    exact ⟨.keep (hserver ▸ trivial) trivial rfl, hcancelled⟩
  | startServer =>
    simp only [step?] at h
    split at h <;> cases h
    next hserver =>
    refine ⟨.start hserver, ?_⟩
    unfold spawn
    split <;> exact hcancelled
  | killServer =>
    -- This takes a cancellation.
    simp only [step?, hcancelled] at h
    split at h <;> cases h
  | noticeRuntime =>
    simp only [step?] at h
    split at h
    . next hserver =>
      split at h <;> cases h
      exact ⟨.notice hserver rfl rfl, hcancelled⟩
    . cases h
  | noticeDistribution =>
    simp only [step?] at h
    split at h
    . next hserver =>
      split at h <;> cases h
      exact ⟨.notice hserver rfl rfl, hcancelled⟩
    . cases h
  | endServer =>
    simp only [step?] at h
    split at h
    . next hserver =>
      obtain ⟨code, hcode, rfl⟩ := Option.map_eq_some_iff.1 h
      exact ⟨.finish hserver hcode, hcancelled⟩
    . cases h
  | fire key =>
    obtain ⟨_, _, _, rfl⟩ := step_fire h
    exact serverTurn_of_surroundings (surroundings_fired l key) hcancelled
  | advance index =>
    simp only [step?] at h
    split at h
    . split at h
      . next hadvance =>
        cases h
        have hsame := surroundings_advanceTask hadvance
        exact ⟨.aside hsame.server hsame.output, hsame.cancelled.trans hcancelled⟩
      . cases h
    . cases h
  | look index =>
    simp only [step?] at h
    split at h
    . next watcher hwatcher =>
      split at h <;> cases h
      have hsame := surroundings_lookAt l watcher
      exact ⟨.aside hsame.server hsame.output, hsame.cancelled.trans hcancelled⟩
    . cases h

theorem serverTurn_turn (hcancelled : l.cancelled = false) (hown : t.IsOwn) :
    ServerTurn l t (l.turn t) ∧ (l.turn t).cancelled = false := by
  cases t with
  | move move =>
    simp only [turn]
    cases hstep : l.step? move with
    | none => exact ⟨.aside rfl rfl, hcancelled⟩
    | some l' => exact serverTurn_step hcancelled hstep
  | pass milliseconds => exact ⟨.aside rfl rfl, hcancelled⟩
  | _ => cases hown

theorem grows_of_mayBecome {files : FileSystem} (h : l.MayBecome files) :
    l.world.files.Grows files := by
  rcases h with rfl | ⟨update, hupdate, rfl | ⟨cache, hcache, hkeeps⟩⟩
  . exact .refl _
  . exact .refl _
  . exact hkeeps.grows

theorem leavesAlone_of_mayBecome {files : FileSystem} (hbecome : l.MayBecome files)
    (hmay : l.MayHave files) : l.LeavesAlone files where
  elsewhere := hmay
  read := by
    intro p body hread hnot
    apply (grows_of_mayBecome hbecome).read hread
    intro x hleads hx
    apply hmay.find?_eq
    rintro ⟨update, hupdate, cache, hcache, hdocument | ⟨hmissing, _⟩⟩
    . exact hnot update hupdate ⟨cache, x, hcache, hdocument, hleads⟩
    . exact hx hmissing

/--
Only the update check changes files, and only in its places.
-/
theorem Stays.mayHave_turn (h : Stays l l') (htasks : ∀ entry ∈ l'.tasks, l.Expects entry.2)
    (hdisregards : l.Disregards l'.world.files) (hfiles : l.MayHave l'.world.files)
    (hown : t.IsOwn) : l.MayHave (l'.turn t).world.files := by
  have hwork := ownWork_turn h.timers (h.seen hdisregards) hown
  generalize l'.turn t = l₁ at hwork
  cases hwork with
  | rest _ hworld =>
    rw [hworld]
    exact hfiles
  | @advance index origin task left l₁ hentry hadvance =>
    rcases world_advanceTask hadvance with hworld | ⟨update, rfl, hworld⟩
    . show l.MayHave l₁.world.files
      rw [hworld]
      exact hfiles
    . cases htasks _ (List.mem_of_getElem? hentry) with
      | checkUpdate hupdate =>
        show l.MayHave l₁.world.files
        rw [hworld]
        refine hfiles.trans ((update.sameBut_check_of_journal h.host).mono ?_)
        intro x hx
        obtain ⟨cache, hcache, hx⟩ := hx
        exact ⟨update, hupdate, cache, hcache, .of_grows (grows_of_mayBecome h.files) hx⟩

/--
An attempt to run the server succeeds or fails.
-/
theorem carries_spawn (hstays : Stays l l') (hfiles : l.MayHave l'.world.files)
    (hplanned : l.planned? = some planned) (houtput : l'.output = l.output) :
    Carries l (l'.spawn (l.commandFor planned)) := by
  have hserves : l'.world.toMachine.run (l.commandFor planned).program
      (l.commandFor planned).arguments = l.serves planned l'.world.files := by
    rw [hstays.machine]
    rfl
  unfold spawn
  rw [hserves]
  cases hresult : l.serves planned l'.world.files with
  | ok execution =>
    refine .serving hplanned hfiles hresult rfl ?_
    exact congrArg (· ++ execution.stdout) houtput
  | error e =>
    refine .ended hplanned hfiles rfl ?_
    rw [hresult, relayed?, ← houtput]

theorem Carries.turn {commands : List ServerCommand} (h : Carries l l')
    (hsocket : l.store.settings.socketPort = none) (hstays : Stays l l')
    (hserved : Served l l' commands) (hfiles : l.MayHave l'.world.files) {l₁ : Launcher}
    (hturn : ServerTurn l' t l₁) : Carries l l₁ := by
  cases h with
  | awaited hserver houtput =>
    cases hturn with
    | aside hserver' houtput' => exact .awaited (hserver' ▸ hserver) (houtput'.trans houtput)
    | keep _ hserver' houtput' => exact .awaited hserver' (houtput'.trans houtput)
    | @start port runtime d hserver' =>
      cases hserved with
      | started hserver'' => exact absurd hserver hserver''
      | awaited hserver'' hruntime hdistribution =>
        rw [hserver'] at hserver''
        cases hserver''
        have hfound := hruntime runtime rfl
        have hplanned : l.planned? = some (runtime, d) :=
          (planned?_eq_some_iff hsocket).2 ⟨hfound, hdistribution d rfl runtime hfound⟩
        have hcarries := carries_spawn hstays hfiles hplanned houtput
        unfold commandFor at hcarries
        exact hcarries
    | notice hserver' =>
      rw [hserver'] at hserver
      cases hserver
    | finish hserver' =>
      rw [hserver'] at hserver
      cases hserver
  | serving hplanned hfiles' hserves hserver houtput =>
    cases hturn with
    | aside hserver' houtput' =>
      exact .serving hplanned hfiles' hserves (hserver'.trans hserver) (houtput'.trans houtput)
    | keep hserver' =>
      rw [hserver] at hserver'
      cases hserver'
    | start hserver' =>
      rw [hserver] at hserver'
      cases hserver'
    | notice hserver' hserver'' houtput' =>
      rw [hserver] at hserver'
      cases hserver'
      exact .serving hplanned hfiles' hserves hserver'' (houtput'.trans houtput)
    | finish hserver' hcode =>
      rw [hserver] at hserver'
      cases hserver'
      refine .ended hplanned hfiles' rfl ?_
      rw [hserves, relayed?, hcode, ← houtput]
      rfl
  | ended hplanned hfiles' hserver hend =>
    cases hturn with
    | aside hserver' houtput' =>
      refine .ended hplanned hfiles' (hserver'.trans hserver) ?_
      rw [houtput']
      exact hend
    | keep hserver' =>
      rw [hserver] at hserver'
      cases hserver'
    | start hserver' =>
      rw [hserver] at hserver'
      cases hserver'
    | notice hserver' =>
      rw [hserver] at hserver'
      cases hserver'
    | finish hserver' =>
      rw [hserver] at hserver'
      cases hserver'

/--
All that is known of a launcher on a course of its own.
-/
structure OwnRun (l l' : Launcher) (spawned : List ServerCommand) : Prop
    extends Run l l' spawned where
  files : l.MayHave l'.world.files
  cancelled : l'.cancelled = false
  carries : Carries l l'

theorem IsReady.isFresh (h : l.IsReady) (hsocket : l.store.settings.socketPort = none) :
    l.IsFresh :=
  ⟨h.runtime, h.distribution, h.timers, h.tasks, h.host, hsocket, h.watchers⟩

theorem ownRun_turns (hready : l.IsReady) (hsocket : l.store.settings.socketPort = none)
    (hreads : l.ReadsElsewhere) (peers : Peers) (hcourse : ∀ t ∈ course, t.IsOwn) :
    OwnRun l ((l.begun peers).turns course) ((l.begun peers).spawned course) := by
  have hfresh := hready.isFresh hsocket
  induction course using List.reverseRecOn with
  | nil =>
    have hbegun := begun_eq peers hsocket
    exact {
      underway := hfresh.underway peers
      served := hfresh.served peers
      files := .of_eq _ (congrArg (·.world.files) hbegun)
      cancelled := (congrArg cancelled hbegun).trans hready.cancelled
      carries := by
        rw [hbegun]
        exact .awaited trivial rfl }
  | append_singleton course t ih =>
    obtain ⟨⟨hunderway, hserved⟩, hfiles, hcancelled, hcarries⟩ :=
      ih fun t ht => hcourse t (List.mem_append_left _ ht)
    have hown : t.IsOwn := hcourse t (by simp)
    have hdisregards := hreads _ hfiles
    have hstays := hunderway.toStays
    obtain ⟨hturn, hcancelled'⟩ := serverTurn_turn hcancelled hown
    rw [turns_concat, spawned_concat]
    exact {
      underway := hunderway.turn hdisregards hown
      served := hserved.turn hdisregards hunderway t
      files := hstays.mayHave_turn hunderway.tasks hdisregards hfiles hown
      cancelled := hcancelled'
      carries := hcarries.turn hsocket hstays hserved hfiles hturn }

theorem end?_of_isAwaited (h : l.server.IsAwaited) : l.end? = none := by
  unfold end?
  split
  . next hserver =>
    rw [hserver] at h
    cases h
  . rfl

/--
A launcher that is not at its end either still waits for what it is to run, or the server runs.
-/
theorem Carries.end?_eq (h : Carries l l') (hsocket : l.store.settings.socketPort = none)
    (hserves : l.ServesElsewhere) (peers : Peers) :
    l'.end? = none ∨ l'.end? = l.plannedEnd? peers := by
  cases h with
  | awaited hserver => exact .inl (end?_of_isAwaited hserver)
  | serving _ _ _ hserver =>
    left
    unfold end?
    rw [hserver]
  | ended hplanned hfiles hserver hend =>
    right
    rw [hserves _ hplanned _ hfiles] at hend
    unfold end? plannedEnd?
    rw [hserver, hsocket, hplanned]
    exact hend

theorem OwnRun.end?_of_rests {commands : List ServerCommand} (h : OwnRun l l' commands)
    (hsocket : l.store.settings.socketPort = none) (hserves : l.ServesElsewhere) (peers : Peers)
    (hrests : l'.Rests) : l'.end? = l.plannedEnd? peers := by
  cases h.carries with
  | awaited hserver =>
    rw [end?_of_isAwaited hserver]
    unfold plannedEnd?
    rw [hsocket]
    cases hplanned : l.planned? with
    | none => rfl
    | some planned =>
      have ⟨hfound, hchosen⟩ := (planned?_eq_some_iff hsocket).1 hplanned
      exact absurd hserver (h.underway.not_isAwaited_of_rests hrests hfound hchosen)
  | @serving planned files execution _ _ hplanned hfiles hrun hserver =>
    -- A process that ends by itself would be seen to end.
    have hend := hrests .endServer id
    simp only [step?, hserver, Option.map_eq_none_iff] at hend
    unfold end? plannedEnd?
    rw [hserver, hsocket, hplanned, Option.bind_some, ← hserves _ hplanned _ hfiles, hrun]
    simp only [relayed?, hend, Option.map_none]
  | ended hplanned hfiles hserver hend =>
    rw [hserves _ hplanned _ hfiles] at hend
    unfold end? plannedEnd?
    rw [hserver, hsocket, hplanned]
    exact hend

theorem ends_of_atRest {expected? : Option (Except LauncherError Nat × ByteArray)}
    (hwithin : ∀ course : List Turn, (∀ t ∈ course, t.IsOwn) →
      (l.turns course).end? = none ∨ (l.turns course).end? = expected?)
    (hrest : ∀ course : List Turn, (∀ t ∈ course, t.IsOwn) → (l.turns course).Rests →
      (l.turns course).end? = expected?) : l.Ends expected? where
  within := hwithin
  atRest := hrest
  comes _ hcourse :=
    have ⟨later, hlater, hboth, hrests⟩ := l.exists_later_rests hcourse
    ⟨later, hlater, hrest _ hboth hrests⟩

/--
A launcher that has connected to a running server has nothing left to do but its update check.
-/
structure Relays (l l' : Launcher) (peers : Peers) : Prop extends Stays l l' where
  tasks : ∀ entry ∈ l'.tasks, ∃ update, entry.2 = .checkUpdate update ∧ l.updateCheck? = some update
  mayHave : l.MayHave l'.world.files
  cancelled : l'.cancelled = false
  server : ∃ result, l'.server = .ended result
  ends : l'.end? = l.plannedEnd? peers

theorem exists_begun_eq (peers : Peers) {port : UInt16}
    (hsocket : l.store.settings.socketPort = some port) :
    ∃ result bytes, l.plannedEnd? peers = some (result, l.output ++ bytes) ∧
      l.begun peers = { l with
        tasks := l.tasks ++
          (l.updateCheck?.map fun update => (.start, .checkUpdate update)).toList
        server := .ended result
        output := l.output ++ bytes } := by
  unfold plannedEnd? begun
  rw [spawnUpdateCheck_eq]
  simp only [run, hsocket, runRelay]
  cases peers (l.store.settings.socketHost.getD defaultSocketHost) port with
  | error reason => exact ⟨_, ByteArray.empty, by rw [ByteArray.append_empty]; rfl, by simp⟩
  | ok bytes => exact ⟨.ok 0, bytes, rfl, rfl⟩

theorem spawned_of_not_isAwaited (h : ¬l.server.IsAwaited) (course : List Turn) :
    l.spawned course = [] := by
  induction course generalizing l with
  | nil => rfl
  | cons t course ih =>
    have ⟨hnone, hserver⟩ := spawned?_of_not_isAwaited h t
    unfold spawned
    rw [hnone, ih hserver]
    rfl

theorem Relays.turn {peers : Peers} (h : Relays l l' peers) (hreads : l.ReadsElsewhere)
    (hown : t.IsOwn) : Relays l (l'.turn t) peers := by
  have hexpects : ∀ entry ∈ l'.tasks, l.Expects entry.2 := by
    intro entry hmem
    have ⟨update, htask, hupdate⟩ := h.tasks entry hmem
    rw [htask]
    exact .checkUpdate hupdate
  have hdisregards := hreads _ h.mayHave
  have hseen := h.seen hdisregards
  have hmayHave := h.mayHave_turn hexpects hdisregards h.mayHave hown
  obtain ⟨hturn, hcancelled⟩ := serverTurn_turn h.cancelled hown
  have hwork := ownWork_turn h.timers hseen hown
  obtain ⟨result, hserver⟩ := h.server
  have hsame : (l'.turn t).server = l'.server ∧ (l'.turn t).output = l'.output := by
    generalize l'.turn t = l₁ at hturn
    cases hturn with
    | aside hserver' houtput => exact ⟨hserver', houtput⟩
    | keep hserver' =>
      rw [hserver] at hserver'
      cases hserver'
    | start hserver' =>
      rw [hserver] at hserver'
      cases hserver'
    | notice hserver' =>
      rw [hserver] at hserver'
      cases hserver'
    | finish hserver' =>
      rw [hserver] at hserver'
      cases hserver'
  have hends : (l'.turn t).end? = l.plannedEnd? peers := by
    rw [← h.ends]
    unfold end?
    rw [hsame.1, hsame.2]
  have hstays : Stays l (l'.turn t) ∧ ∀ entry ∈ (l'.turn t).tasks,
      ∃ update, entry.2 = .checkUpdate update ∧ l.updateCheck? = some update := by
    generalize l'.turn t = l₁ at hwork
    cases hwork with
    | rest hsame hworld hwatchers =>
      refine ⟨h.toStays.rest hsame hworld hwatchers, ?_⟩
      rw [hsame.tasks]
      exact h.tasks
    | @advance index origin task left l₁ hentry hadvance =>
      have hmem := List.mem_of_getElem? hentry
      refine ⟨h.toStays.advance (hexpects _ hmem) hadvance _, ?_⟩
      obtain ⟨update, rfl, _⟩ := h.tasks _ hmem
      cases hadvance
      intro entry hmem
      rw [Option.map_none, Option.toList_none, List.append_nil] at hmem
      exact h.tasks entry (List.mem_of_mem_eraseIdx hmem)
  exact {
    toStays := hstays.1
    tasks := hstays.2
    mayHave := hmayHave
    cancelled := hcancelled
    server := ⟨result, hsame.1.trans hserver⟩
    ends := hends }

theorem relays_turns (hready : l.IsReady) (hsocket : l.store.settings.socketPort.isSome)
    (hreads : l.ReadsElsewhere) (peers : Peers) (hcourse : ∀ t ∈ course, t.IsOwn) :
    Relays l ((l.begun peers).turns course) peers := by
  induction course using List.reverseRecOn with
  | nil =>
    obtain ⟨port, hport⟩ := Option.isSome_iff_exists.1 hsocket
    obtain ⟨result, bytes, hends, hbegun⟩ := exists_begun_eq peers hport
    show Relays l (l.begun peers) peers
    rw [hbegun, hready.tasks]
    exact {
      settings := rfl
      places := rfl
      bundled := rfl
      cache := rfl
      timers := hready.timers
      host := hready.host
      machine := rfl
      files := .inl rfl
      watchers := fun watcher hmem => ⟨watcher, hmem, rfl, hready.watchers watcher hmem⟩
      tasks := by simp
      mayHave := FileSystem.SameBut.refl _ _
      cancelled := hready.cancelled
      server := ⟨result, rfl⟩
      ends := hends.symm }
  | append_singleton course t ih =>
    have hrelays := ih fun t ht => hcourse t (List.mem_append_left _ ht)
    rw [turns_concat]
    exact hrelays.turn hreads (hcourse t (by simp))

section

variable (hready : l.IsReady) (hreads : l.ReadsElsewhere) (peers : Peers)

include hready hreads

/--
The process that a launcher spawns is settled at the start, whatever comes of its update check.
-/
theorem spawns_planned : (l.begun peers).Spawns l.plannedCommand? := by
  cases hsocket : l.store.settings.socketPort with
  | some port =>
    -- There is a server already.
    have hnone : l.plannedCommand? = none := by simp [plannedCommand?, planned?, hsocket]
    obtain ⟨result, bytes, _, hbegun⟩ := exists_begun_eq peers hsocket
    have hserver : ¬(l.begun peers).server.IsAwaited := by
      rw [hbegun]
      exact id
    rw [hnone]
    apply spawns_of_atRest
    . intro course _
      rw [spawned_of_not_isAwaited hserver]
      exact List.nil_prefix
    . intro course _ _
      exact spawned_of_not_isAwaited hserver course
  | none =>
    have hrun : ∀ course : List Turn, (∀ t ∈ course, t.IsOwn) →
        Run l ((l.begun peers).turns course) ((l.begun peers).spawned course) :=
      fun course hcourse => (ownRun_turns hready hsocket hreads peers hcourse).toRun
    unfold plannedCommand?
    cases hplanned : l.planned? with
    | some planned =>
      have ⟨hfound, hchosen⟩ := (planned?_eq_some_iff hsocket).1 hplanned
      exact spawns_of_run hrun hfound hchosen
    | none =>
      apply spawns_none_of_run hrun
      intro runtime hfound
      by_contra hchosen
      obtain ⟨d, hchosen⟩ := Option.ne_none_iff_exists'.1 hchosen
      have hsome : l.planned? = some (runtime, d) :=
        (planned?_eq_some_iff hsocket).2 ⟨hfound, hchosen⟩
      rw [hplanned] at hsome
      cases hsome

/--
And so is the end that it relays, if the server does not look at what the check has left behind.
-/
theorem ends_planned (hserves : l.ServesElsewhere) :
    (l.begun peers).Ends (l.plannedEnd? peers) := by
  cases hsocket : l.store.settings.socketPort with
  | some port =>
    have hrelays : ∀ course : List Turn, (∀ t ∈ course, t.IsOwn) →
        ((l.begun peers).turns course).end? = l.plannedEnd? peers := fun course hcourse =>
      (relays_turns hready (Option.isSome_of_eq_some hsocket) hreads peers hcourse).ends
    apply ends_of_atRest
    . intro course hcourse
      exact .inr (hrelays course hcourse)
    . intro course hcourse _
      exact hrelays course hcourse
  | none =>
    apply ends_of_atRest
    . intro course hcourse
      have hrun := ownRun_turns hready hsocket hreads peers hcourse
      exact hrun.carries.end?_eq hsocket hserves peers
    . intro course hcourse hrests
      have hrun := ownRun_turns hready hsocket hreads peers hcourse
      exact hrun.end?_of_rests hsocket hserves peers hrests

theorem leavesAlone_turns (hcourse : ∀ t ∈ course, t.IsOwn) :
    l.LeavesAlone ((l.begun peers).turns course).world.files := by
  cases hsocket : l.store.settings.socketPort with
  | some port =>
    have hrelays := relays_turns hready (Option.isSome_of_eq_some hsocket) hreads peers hcourse
    exact leavesAlone_of_mayBecome hrelays.toStays.files hrelays.mayHave
  | none =>
    have hrun := ownRun_turns hready hsocket hreads peers hcourse
    exact leavesAlone_of_mayBecome hrun.underway.toStays.files hrun.files

end

end Launcher

end ServerLauncher
