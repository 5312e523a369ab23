import ServerLauncher.CommandLine.Run
import ServerLauncher.Proofs.Launch.Starting
import ServerLauncher.Proofs.Update.Resolving

/-!
This module contains the agreement between the command that shows what would be run and the command
that runs it. The first one resolves step by step, and the second one does everything at the same time.
-/

namespace ServerLauncher.CommandLine

open Launcher

/--
The launcher that runs the server for some settings, before it begins.
-/
def launcherFor (w : World) (configuration : Option Path) (settings : Settings) : Launcher :=
  let l := Launcher.ofSettings { w with host := .journal false } ⟨settings, configuration⟩
  match configuration with
  | some path => l.watch path
  | none => l

/--
The launcher that shows what would be run for some settings.
-/
def viewerFor (w : World) (configuration : Option Path) (settings : Settings) : Launcher :=
  Launcher.ofSettings (withTerminal w false configuration) ⟨settings, configuration⟩

/--
What the command that runs the server leaves behind, given the launcher once it is calm.
-/
def reportOf (l : Launcher) : Outcome :=
  match l.server with
  | .ended (.ok code) => .ended ⟨exitByte code, l.output, ""⟩ l.world
  | .ended (.error e) => .ended ⟨1, l.output, errorLine e.message⟩ l.world
  | _ => .running l

/--
The settings that the server is run with. Those of a broken configuration are the usual ones.
-/
def settingsOf (w : World) (configuration : Option Path) : Settings :=
  (loadStrict w configuration).toOption.getD {}

def shown (json : Bool) (runtime : Java.Runtime) (d : Distribution) : String :=
  if json then resolvedJson runtime d else resolvedText runtime d

variable {w : World} {peers : Peers} {configuration : Option Path} {settings : Settings}
  {json : Bool} {runtime : Java.Runtime} {d : Distribution}

theorem settingsOf_of_ok (hload : loadStrict w configuration = .ok settings) :
    settingsOf w configuration = settings := by
  unfold settingsOf
  rw [hload]
  rfl

theorem launch_eq (w : World) (peers : Peers) (configuration : Option Path) :
    launch w peers configuration false =
      reportOf ((launcherFor w configuration (settingsOf w configuration)).begun peers).calm := by
  have hsettings : (loadStrict { w with host := .journal false } configuration).toOption.getD {} =
      settingsOf w configuration := rfl
  unfold launch
  dsimp only
  rw [hsettings]
  rfl

theorem toMachine_withTerminal (w : World) (assumeYes : Bool) (configuration : Option Path) :
    (withTerminal w assumeYes configuration).toMachine = w.toMachine := by
  unfold withTerminal
  split <;> rfl

theorem loadStrict_congr {w' : World} (h : w'.toMachine = w.toMachine)
    (configuration : Option Path) : loadStrict w' configuration = loadStrict w configuration := by
  unfold loadStrict
  rw [h]

theorem resolve_eq (hload : loadStrict w configuration = .ok settings) :
    resolve w configuration json =
      match (viewerFor w configuration settings).resolveAll id with
      | (.error e, launcher) => fail e.message launcher.world
      | (.ok (runtime, d), launcher) => succeed (shown json runtime d) launcher.world := by
  have hmachine := toMachine_withTerminal w false configuration
  unfold resolve
  dsimp only
  rw [loadStrict_congr hmachine, hload]
  rfl

theorem resolve_of_ok (hload : loadStrict w configuration = .ok settings)
    (hresolved : ((viewerFor w configuration settings).resolveAll id).1 = .ok (runtime, d)) :
    ∃ after, resolve w configuration json = succeed (shown json runtime d) after := by
  rw [resolve_eq hload]
  rcases hresolve : (viewerFor w configuration settings).resolveAll id with ⟨result, launcher⟩
  rw [hresolve] at hresolved
  cases hresolved
  exact ⟨launcher.world, rfl⟩

theorem resolve_of_error (hload : loadStrict w configuration = .ok settings) {e : LauncherError}
    (hresolved : ((viewerFor w configuration settings).resolveAll id).1 = .error e) :
    ∃ after, resolve w configuration json = fail e.message after := by
  rw [resolve_eq hload]
  rcases hresolve : (viewerFor w configuration settings).resolveAll id with ⟨result, launcher⟩
  rw [hresolve] at hresolved
  cases hresolved
  exact ⟨launcher.world, rfl⟩

theorem isFresh_launcherFor (w : World) (configuration : Option Path)
    (hsocket : settings.socketPort = none) : (launcherFor w configuration settings).IsFresh := by
  cases configuration with
  | none =>
    refine ⟨rfl, rfl, rfl, rfl, rfl, hsocket, ?_⟩
    intro watcher hmem
    cases hmem
  | some path =>
    refine ⟨rfl, rfl, rfl, rfl, rfl, hsocket, ?_⟩
    intro watcher hmem
    cases List.mem_singleton.1 hmem
    rfl

theorem isUnwatched_begun (w : World) (configuration : Option Path) (settings : Settings)
    (peers : Peers) : ((launcherFor w configuration settings).begun peers).IsUnwatched := by
  have ⟨hwatchers, hclock⟩ := (launcherFor w configuration settings).same_begun peers
  unfold IsUnwatched
  rw [hwatchers, hclock]
  cases configuration with
  | none =>
    intro watcher hmem
    cases hmem
  | some path =>
    intro watcher hmem
    cases List.mem_singleton.1 hmem
    exact Nat.lt_add_of_pos_right (by decide)

/--
The command takes its steps in one of the orders that are possible.
-/
theorem exists_course_launch (w : World) (peers : Peers) (configuration : Option Path) :
    ∃ course : List Turn, (∀ t ∈ course, t.IsOwn) ∧
      (((launcherFor w configuration (settingsOf w configuration)).begun peers).turns
        course).Rests ∧
      launch w peers configuration false =
        reportOf (((launcherFor w configuration (settingsOf w configuration)).begun peers).turns
          course) := by
  obtain ⟨moves, _, hcalm, hrests⟩ :=
    calm_eq_turns (isUnwatched_begun w configuration (settingsOf w configuration) peers)
  rw [launch_eq, hcalm]
  rw [hcalm] at hrests
  exact ⟨moves.map .move, isOwn_of_moves moves, hrests, rfl⟩

/--
Both commands look for the same runtime and distribution.
-/
theorem resolved_iff :
    ((viewerFor w configuration settings).resolveAll id).1 = .ok (runtime, d) ↔
      (launcherFor w configuration settings).foundOn w.toMachine = .ok runtime ∧
        (launcherFor w configuration settings).chosenOn w.toMachine runtime = some d := by
  rw [resolveAll_eq_ok_iff]
  unfold viewerFor launcherFor
  have hmachine := toMachine_withTerminal w false configuration
  unfold Launcher.ofSettings Launcher.new Launcher.foundOn Launcher.chosenOn
  dsimp only
  rw [hmachine]
  cases configuration <;> rfl

/--
Whatever the order of its steps, the command that runs the server spawns just the process that the
command shows which resolves step by step, if a process can be made with these arguments. If nothing
can be resolved, no process is spawned.
-/
theorem launched_as_resolved (w : World) (peers : Peers) (configuration : Option Path) (json : Bool)
    (settings : Settings) (hload : loadStrict w configuration = .ok settings)
    (hsocket : settings.socketPort = none)
    (hsteady : (launcherFor w configuration settings).IsSteady) :
    (∀ runtime d,
      ((viewerFor w configuration settings).resolveAll id).1 = .ok (runtime, d) →
        (∃ after, resolve w configuration json = succeed (shown json runtime d) after) ∧
        ((launcherFor w configuration settings).begun peers).Spawns
          (ServerCommand.startable? runtime d settings.debugPort)) ∧
    (∀ e, ((viewerFor w configuration settings).resolveAll id).1 = .error e →
      (∃ after, resolve w configuration json = fail e.message after) ∧
        ((launcherFor w configuration settings).begun peers).Spawns none) ∧
    ∃ course : List Turn, (∀ t ∈ course, t.IsOwn) ∧
      (((launcherFor w configuration settings).begun peers).turns course).Rests ∧
      launch w peers configuration false =
        reportOf (((launcherFor w configuration settings).begun peers).turns course) := by
  have hfresh := isFresh_launcherFor w configuration hsocket
  have hmachine : (launcherFor w configuration settings).world.toMachine = w.toMachine := by
    cases configuration <;> rfl
  have hsettings : (launcherFor w configuration settings).store.settings = settings := by
    cases configuration <;> rfl
  refine ⟨?_, ?_, ?_⟩
  . intro runtime d hresolved
    refine ⟨resolve_of_ok hload hresolved, ?_⟩
    obtain ⟨hfound, hchosen⟩ := resolved_iff.1 hresolved
    rw [← hmachine] at hfound hchosen
    have hspawns := spawns_begun hfresh hsteady peers hfound hchosen
    rw [hsettings] at hspawns
    exact hspawns
  . intro e hresolved
    refine ⟨resolve_of_error hload hresolved, ?_⟩
    apply spawns_none_begun hfresh hsteady peers
    intro runtime hfound
    by_contra hchosen
    obtain ⟨d, hchosen⟩ := Option.ne_none_iff_exists'.1 hchosen
    rw [hmachine] at hfound hchosen
    rw [resolved_iff.2 ⟨hfound, hchosen⟩] at hresolved
    cases hresolved
  . have hlaunch := exists_course_launch w peers configuration
    rw [settingsOf_of_ok hload] at hlaunch
    exact hlaunch

/--
A Java executable that prints jars when it is asked for their versions, and runs them otherwise.
-/
def printingJava : Entry :=
  .file ByteArray.empty 0 (some fun arguments read =>
    match arguments with
    | ["-version"] => ⟨.exited 0, ByteArray.empty, "openjdk version \"22\"".toUTF8⟩
    | ["-jar", jar, "--version"] => ⟨.exited 0, (read ⟨jar⟩).getD ByteArray.empty, ByteArray.empty⟩
    | _ => ⟨.exited 0, "server".toUTF8, ByteArray.empty⟩)

/--
A world with that executable, with a configuration file and with some other entries, in which data is
kept in a directory.
-/
def printingWorld (configuration : String) (others : List (Location × Entry))
    (dataHome : Option String) : World :=
  { Update.firstWorld with
    files := {
      Update.firstWorld.files with
      entries := [
        (["tmp"], .directory),
        (["config"], .file configuration.toUTF8 0 none),
        (["jdk"], .directory),
        (["bin", "jdk"], .directory),
        (["java", "bin", "jdk"], printingJava)] ++ others }
    environment := { javaHome := some "/jdk", dataHome }
    now := 4000000000000 }

/--
A world with a configured jar, which is to be debugged.
-/
def debuggedWorld : World :=
  printingWorld
    "registry.url='http://r/'\ncache.dir='/servers'\nlsp.path='/server.jar'\nlsp.debug_port=5005"
    [(["server.jar"], .file "pkl-lsp version 0.6.1".toUTF8 0 none)] none

def debuggedSettings : Settings :=
  { Update.configuredSettings with serverPath := some "/server.jar", debugPort := some 5005 }

theorem isSteady_debugged :
    (launcherFor debuggedWorld (some "/config") debuggedSettings).IsSteady := by
  have hcheck : (launcherFor debuggedWorld (some "/config") debuggedSettings).updateCheck? =
      some Update.configuredUpdate := by
    decide +kernel
  apply isSteady_of_no_cache
  intro update hupdate
  rw [hcheck] at hupdate
  cases hupdate
  rfl

theorem launched_as_resolved_with_debugger :
    loadStrict debuggedWorld (some "/config") = .ok debuggedSettings ∧
      debuggedSettings.socketPort = none ∧
      (launcherFor debuggedWorld (some "/config") debuggedSettings).IsSteady ∧
      ((launcherFor debuggedWorld (some "/config") debuggedSettings).begun nobody).Spawns
        (some ⟨"/jdk/bin/java", [ServerCommand.debugAgent 5005, "-jar", "/server.jar", "--verbose"]⟩) := by
  have hload : loadStrict debuggedWorld (some "/config") = .ok debuggedSettings := by
    decide +kernel
  have hresolved : ((viewerFor debuggedWorld (some "/config") debuggedSettings).resolveAll id).1 =
      .ok (⟨"/jdk/bin/java", 22⟩, ⟨"/server.jar", .ofNumbers 0 6 1, .configured⟩) := by
    decide +kernel
  have hcommand : ServerCommand.startable? ⟨"/jdk/bin/java", 22⟩
      ⟨"/server.jar", .ofNumbers 0 6 1, .configured⟩ debuggedSettings.debugPort =
        some ⟨"/jdk/bin/java", [ServerCommand.debugAgent 5005, "-jar", "/server.jar", "--verbose"]⟩ := by
    decide +kernel
  have hlaunched := launched_as_resolved debuggedWorld nobody (some "/config") true debuggedSettings
    hload rfl isSteady_debugged
  have hspawns := (hlaunched.1 _ _ hresolved).2
  rw [hcommand] at hspawns
  exact ⟨hload, rfl, isSteady_debugged, hspawns⟩

/--
A world whose bundled jar is configured under a name that no argument may hold.
-/
def unnameableWorld : World :=
  printingWorld "bundled.path=\"/server\\u0000.jar\"\nupdate.check=false" [] none

def unnameableSettings : Settings :=
  { bundledPath := some "/server\x00.jar", updateCheck := false }

/--
The place of the metadata that the update check keeps.
-/
def metadataPath : Path :=
  "/data/pkl-lsp-launcher/cache/org.pkl-lang/pkl-lsp/maven-metadata.xml"

/--
A world with a configured jar in that place.
-/
def overwrittenWorld : World :=
  printingWorld
    ("registry.url='http://r/'\ncache.dir='/servers'\nlsp.path='" ++ metadataPath.text ++ "'")
    [(["data"], .directory),
      (["pkl-lsp-launcher", "data"], .directory),
      (["cache", "pkl-lsp-launcher", "data"], .directory),
      (["org.pkl-lang", "cache", "pkl-lsp-launcher", "data"], .directory),
      (["pkl-lsp", "org.pkl-lang", "cache", "pkl-lsp-launcher", "data"], .directory),
      (["maven-metadata.xml", "pkl-lsp", "org.pkl-lang", "cache", "pkl-lsp-launcher", "data"],
        .file "pkl-lsp version 0.6.1".toUTF8 0 none)]
    (some "/data")

def overwrittenSettings : Settings :=
  { Update.configuredSettings with serverPath := some metadataPath }

/--
The update check is over before the jar is asked for its version.
-/
def checkFirst : List Turn :=
  [.move (.advance 0), .move (.advance 0), .move (.advance 0), .move (.advance 0),
    .move .observeRuntime]

/--
A runtime and a distribution may be resolved although no process can be made for them. And the command
that runs the server may spawn nothing because its own update check has written over the jar.
-/
theorem exists_resolved_not_spawned :
    (∃ (w : World) (settings : Settings) (runtime : Java.Runtime) (d : Distribution),
      loadStrict w (some "/config") = .ok settings ∧ settings.socketPort = none ∧
        ((viewerFor w (some "/config") settings).resolveAll id).1 = .ok (runtime, d) ∧
        ∀ course : List Turn, (∀ t ∈ course, t.IsOwn) →
          ((launcherFor w (some "/config") settings).begun nobody).spawned course = []) ∧
    ∃ (w : World) (settings : Settings) (runtime : Java.Runtime) (d : Distribution)
      (course : List Turn),
      loadStrict w (some "/config") = .ok settings ∧ settings.socketPort = none ∧
        ((viewerFor w (some "/config") settings).resolveAll id).1 = .ok (runtime, d) ∧
        (ServerCommand.startable? runtime d settings.debugPort).isSome ∧
        (∀ t ∈ course, t.IsOwn) ∧
        (((launcherFor w (some "/config") settings).begun nobody).turns course).Rests ∧
        ((launcherFor w (some "/config") settings).begun nobody).spawned course = [] := by
  constructor
  . have hload : loadStrict unnameableWorld (some "/config") = .ok unnameableSettings := by
      decide +kernel
    have hresolved :
        ((viewerFor unnameableWorld (some "/config") unnameableSettings).resolveAll id).1 =
          .ok (⟨"/jdk/bin/java", 22⟩, ⟨"/server\x00.jar", .ofNumbers 0 6 0, .bundled⟩) := by
      decide +kernel
    have hsteady : (launcherFor unnameableWorld (some "/config") unnameableSettings).IsSteady := by
      have hcheck : (launcherFor unnameableWorld (some "/config") unnameableSettings).updateCheck? =
          none := rfl
      apply isSteady_of_no_cache
      intro update hupdate
      rw [hcheck] at hupdate
      cases hupdate
    have hcommand : ∀ debugPort, ServerCommand.startable? ⟨"/jdk/bin/java", 22⟩
        ⟨"/server\x00.jar", .ofNumbers 0 6 0, .bundled⟩ debugPort = none := by
      intro debugPort
      exact if_pos (by decide)
    obtain ⟨hfound, hchosen⟩ := resolved_iff.1 hresolved
    have hspawns := spawns_begun (isFresh_launcherFor unnameableWorld (some "/config") rfl) hsteady
      nobody hfound hchosen
    rw [hcommand] at hspawns
    refine ⟨_, _, _, _, hload, rfl, hresolved, ?_⟩
    intro course hcourse
    exact List.prefix_nil.1 (hspawns.within course hcourse)
  . have hrun :
        (((launcherFor overwrittenWorld (some "/config") overwrittenSettings).begun nobody).turns
          checkFirst).stepFirst?.isNone ∧
        ((launcherFor overwrittenWorld (some "/config") overwrittenSettings).begun nobody).spawned
          checkFirst = [] := by
      decide +kernel
    refine ⟨overwrittenWorld, overwrittenSettings, ⟨"/jdk/bin/java", 22⟩,
      ⟨metadataPath, .ofNumbers 0 6 1, .configured⟩, checkFirst, ?_, rfl, ?_, ?_, ?_, ?_, hrun.2⟩
    . decide +kernel
    . decide +kernel
    . decide +kernel
    . simp [checkFirst, Turn.IsOwn]
    . exact rests_of_stepFirst? (Option.isNone_iff_eq_none.1 hrun.1)

end ServerLauncher.CommandLine
