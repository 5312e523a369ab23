import ServerLauncher.Proofs.CommandLine.Launching
import ServerLauncher.Proofs.FileSystem.Writing
import ServerLauncher.Proofs.Launch.Ending
import ServerLauncher.Proofs.Update.Registries

/-!
This module contains the independence of the command that runs the server from the registry, as long as
nobody agrees to a download. Two runs that differ in nothing but what the registry does spawn the same
process and come to the same end, unless they read what their update checks write.
-/

namespace ServerLauncher

/--
All settings but the one that says where the registry is.
-/
def Settings.withoutRegistry (settings : Settings) : Settings :=
  { settings with registryUrl := none }

namespace CommandLine

open Launcher

/--
What a run has left behind, if it has ended.
-/
def Outcome.report? : Outcome → Option Report
  | .ended report _ => some report
  | .running _ => none

/--
The launcher that runs the server, before it begins.
-/
def launcherOf (w : World) (configuration : Option Path) : Launcher :=
  launcherFor w configuration (settingsOf w configuration)

def reportOfEnd : Except LauncherError Nat × ByteArray → Report
  | (.ok code, output) => ⟨exitByte code, output, ""⟩
  | (.error e, output) => ⟨1, output, errorLine e.message⟩

variable {w w₁ w₂ : World} {peers : Peers} {configuration configuration₁ configuration₂ : Option Path}
  {settings settings₁ settings₂ : Settings}

theorem report?_reportOf (l : Launcher) : (reportOf l).report? = l.end?.map reportOfEnd := by
  unfold reportOf end?
  split
  . next hserver =>
    rw [hserver]
    rfl
  . next hserver =>
    rw [hserver]
    rfl
  . next hok herror =>
    split
    . next result hserver =>
      cases result with
      | ok code => exact absurd hserver (hok code)
      | error e => exact absurd hserver (herror e)
    . rfl

theorem isReady_launcherFor (w : World) (configuration : Option Path) (settings : Settings) :
    (launcherFor w configuration settings).IsReady := by
  cases configuration with
  | none =>
    refine ⟨rfl, rfl, rfl, rfl, rfl, ?_, rfl⟩
    intro watcher hmem
    cases hmem
  | some path =>
    refine ⟨rfl, rfl, rfl, rfl, rfl, ?_, rfl⟩
    intro watcher hmem
    cases List.mem_singleton.1 hmem
    rfl

/--
Two launchers are made for the same machine and for the same settings but for the registry.
-/
structure Alike (l₁ l₂ : Launcher) : Prop where
  machine : l₂.world.toMachine = l₁.world.toMachine
  settings : l₂.store.settings.withoutRegistry = l₁.store.settings.withoutRegistry
  places : l₂.locator.places = l₁.locator.places
  bundled : l₂.resolver.bundled = l₁.resolver.bundled
  cache : l₂.resolver.cache = l₁.resolver.cache
  output : l₂.output = l₁.output

theorem alike_launcherFor (hmachine : w₂.toMachine = w₁.toMachine)
    (hsettings : settings₂.withoutRegistry = settings₁.withoutRegistry) :
    Alike (launcherFor w₁ configuration₁ settings₁) (launcherFor w₂ configuration₂ settings₂) := by
  have hlauncher : ∀ w configuration settings, ∃ watchers,
      launcherFor w configuration settings =
        { Launcher.ofSettings { w with host := .journal false } ⟨settings, configuration⟩ with
          watchers } := by
    intro w configuration settings
    cases configuration <;> exact ⟨_, rfl⟩
  have hresolver : ∀ (m : Machine) (settings : Settings),
      Distribution.Resolver.ofSettings m settings.withoutRegistry =
        Distribution.Resolver.ofSettings m settings := fun _ _ => rfl
  obtain ⟨_, h₁⟩ := hlauncher w₁ configuration₁ settings₁
  obtain ⟨_, h₂⟩ := hlauncher w₂ configuration₂ settings₂
  rw [h₁, h₂]
  have hsame : Distribution.Resolver.ofSettings w₂.toMachine settings₂ =
      Distribution.Resolver.ofSettings w₁.toMachine settings₁ := by
    rw [← hresolver, hmachine, hsettings, hresolver]
  exact {
    machine := hmachine
    settings := hsettings
    places := congrArg (fun m : Machine => Java.Places.ofEnvironment m.environment) hmachine
    bundled := congrArg Distribution.Resolver.bundled hsame
    cache := congrArg Distribution.Resolver.cache hsame
    output := rfl }

namespace Alike

variable {l₁ l₂ : Launcher} (h : Alike l₁ l₂)

include h

theorem setting {α : Type} (f : Settings → α) (hf : ∀ s, f s.withoutRegistry = f s) :
    f l₂.store.settings = f l₁.store.settings := by
  rw [← hf, h.settings, hf]

theorem planned? : l₂.planned? = l₁.planned? := by
  have hsocket := h.setting Settings.socketPort fun _ => rfl
  have hjava := h.setting Settings.javaPath fun _ => rfl
  have hserver := h.setting Settings.serverPath fun _ => rfl
  unfold Launcher.planned? foundOn chosenOn Distribution.Resolver.chooseUnconfigured
  rw [hsocket, hjava, hserver, h.machine, h.places, h.bundled, h.cache]

theorem plannedCommand? : l₂.plannedCommand? = l₁.plannedCommand? := by
  have hport := h.setting Settings.debugPort fun _ => rfl
  unfold Launcher.plannedCommand?
  rw [h.planned?, hport]

theorem plannedEnd? (peers : Peers) : l₂.plannedEnd? peers = l₁.plannedEnd? peers := by
  have hsocket := h.setting Settings.socketPort fun _ => rfl
  have hhost := h.setting Settings.socketHost fun _ => rfl
  have hport := h.setting Settings.debugPort fun _ => rfl
  unfold Launcher.plannedEnd?
  rw [hsocket]
  cases l₁.store.settings.socketPort with
  | some port =>
    dsimp only
    unfold runRelay
    rw [hhost]
    cases peers (l₁.store.settings.socketHost.getD defaultSocketHost) port with
    | error reason => simp only [end?, h.output]
    | ok bytes => simp only [end?, h.output]
  | none =>
    dsimp only
    unfold relayed? serves machineWith commandFor
    rw [h.planned?, h.machine, hport, h.output]

end Alike

theorem report?_launch (w : World) (peers : Peers) (configuration : Option Path)
    {expected? : Option (Except LauncherError Nat × ByteArray)}
    (hends : ((launcherOf w configuration).begun peers).Ends expected?) :
    (launch w peers configuration false).report? = expected?.map reportOfEnd := by
  obtain ⟨course, hcourse, hrests, hlaunch⟩ := exists_course_launch w peers configuration
  rw [hlaunch, report?_reportOf]
  exact congrArg (Option.map reportOfEnd) (hends.atRest course hcourse hrests)

/--
A Java executable that prints jars when it is asked for their versions. It runs them like `serve`.
-/
def servingJava (serve : (Path → Option ByteArray) → Execution) : Program :=
  fun arguments read =>
    match arguments with
    | ["-version"] => ⟨.exited 0, ByteArray.empty, "openjdk version \"22\"".toUTF8⟩
    | ["-jar", jar, "--version"] => ⟨.exited 0, (read ⟨jar⟩).getD ByteArray.empty, ByteArray.empty⟩
    | _ => serve read

def downloadedJar : Path :=
  "/servers/0.6.1/pkl-lsp-0.6.1.jar"

def servingConfiguration : String :=
  "registry.url='http://r/'\ncache.dir='/servers'\nlsp.path='/servers/0.6.1/pkl-lsp-0.6.1.jar'"

def servingSettings : Settings :=
  { Update.configuredSettings with serverPath := some downloadedJar }

/--
A world with that executable, with a jar in the cache that is configured too, and with some other
entries.
-/
def servingWorld (serve : (Path → Option ByteArray) → Execution)
    (others : List (Location × Entry)) : World :=
  { Update.firstWorld with
    files := {
      Update.firstWorld.files with
      entries := [
        (["config"], .file servingConfiguration.toUTF8 0 none),
        (["jdk"], .directory),
        (["bin", "jdk"], .directory),
        (["java", "bin", "jdk"], .file ByteArray.empty 0 (some (servingJava serve))),
        (["servers"], .directory),
        (["0.6.1", "servers"], .directory),
        (["pkl-lsp-0.6.1.jar", "0.6.1", "servers"], .file "pkl-lsp version 0.6.1".toUTF8 0 none),
        (["data"], .directory),
        (["pkl-lsp-launcher", "data"], .directory),
        (["cache", "pkl-lsp-launcher", "data"], .directory),
        (["org.pkl-lang", "cache", "pkl-lsp-launcher", "data"], .directory),
        (["pkl-lsp", "org.pkl-lang", "cache", "pkl-lsp-launcher", "data"], .directory)] ++ others }
    environment := { javaHome := some "/jdk", dataHome := some "/data" }
    now := 4000000000000 }

def withoutWeb (w : World) : World :=
  { w with web := fun _ _ => none }

/--
The places that are looked at in that world.
-/
def readPlaces : List Location :=
  [["config"], ["jdk"], ["bin", "jdk"], ["java", "bin", "jdk"], ["servers"], ["0.6.1", "servers"],
    ["pkl-lsp-0.6.1.jar", "0.6.1", "servers"]]

/--
What is there.
-/
structure HasWhatIsRead (serve : (Path → Option ByteArray) → Execution) (files : FileSystem) :
    Prop where
  config : files.find? ["config"] = some (.file servingConfiguration.toUTF8 0 none)
  jdk : files.find? ["jdk"] = some .directory
  bin : files.find? ["bin", "jdk"] = some .directory
  java : files.find? ["java", "bin", "jdk"] =
    some (.file ByteArray.empty 0 (some (servingJava serve)))
  servers : files.find? ["servers"] = some .directory
  version : files.find? ["0.6.1", "servers"] = some .directory
  jar : files.find? ["pkl-lsp-0.6.1.jar", "0.6.1", "servers"] =
    some (.file "pkl-lsp version 0.6.1".toUTF8 0 none)

variable {serve : (Path → Option ByteArray) → Execution} {files : FileSystem}
  {others : List (Location × Entry)} {l : Launcher} {planned : Java.Runtime × Distribution}

theorem hasWhatIsRead_of_sameBut {P : Location → Prop}
    (h : (servingWorld serve others).files.SameBut P files) (hP : ∀ x ∈ readPlaces, ¬P x) :
    HasWhatIsRead serve files := by
  have hfind : ∀ x ∈ readPlaces, files.find? x = (servingWorld serve others).files.find? x := by
    intro x hx
    exact h.find?_eq (hP x hx)
  constructor
  all_goals exact hfind _ (by decide)

namespace HasWhatIsRead

theorem place_config (h : HasWhatIsRead serve files) : files.place true "/config" =
    .ok (.occupied ["config"] (.file servingConfiguration.toUTF8 0 none)) := by
  refine FileSystem.place_eq_ok_iff.2 ⟨⟨by decide, by decide, by decide⟩, [], ?_, by decide⟩
  show FileSystem.Walks files true [] ["", "config"] [] _
  apply FileSystem.Walks.idle (.inl rfl)
  exact .file ⟨by decide, by decide, by decide⟩ h.config

theorem place_java (h : HasWhatIsRead serve files) : files.place true "/jdk/bin/java" =
    .ok (.occupied ["java", "bin", "jdk"]
      (.file ByteArray.empty 0 (some (servingJava serve)))) := by
  refine FileSystem.place_eq_ok_iff.2 ⟨⟨by decide, by decide, by decide⟩, [], ?_, by decide⟩
  show FileSystem.Walks files true [] ["", "jdk", "bin", "java"] [] _
  apply FileSystem.Walks.idle (.inl rfl)
  apply FileSystem.Walks.enter ⟨by decide, by decide, by decide⟩ h.jdk
  apply FileSystem.Walks.enter ⟨by decide, by decide, by decide⟩ h.bin
  exact .file ⟨by decide, by decide, by decide⟩ h.java

theorem place_jar (h : HasWhatIsRead serve files) : files.place true downloadedJar =
    .ok (.occupied ["pkl-lsp-0.6.1.jar", "0.6.1", "servers"]
      (.file "pkl-lsp version 0.6.1".toUTF8 0 none)) := by
  refine FileSystem.place_eq_ok_iff.2 ⟨⟨by decide, by decide, by decide⟩, [], ?_, by decide⟩
  show FileSystem.Walks files true [] ["", "servers", "0.6.1", "pkl-lsp-0.6.1.jar"] [] _
  apply FileSystem.Walks.idle (.inl rfl)
  apply FileSystem.Walks.enter ⟨by decide, by decide, by decide⟩ h.servers
  apply FileSystem.Walks.enter ⟨by decide, by decide, by decide⟩ h.version
  exact .file ⟨by decide, by decide, by decide⟩ h.jar

theorem modified?_config (h : HasWhatIsRead serve files) : files.modified? "/config" = some 0 := by
  unfold FileSystem.modified? FileSystem.lookup
  rw [h.place_config]
  rfl

theorem load_config (h : HasWhatIsRead serve files) :
    Settings.load files none "/config" = .ok servingSettings := by
  have htext : files.readText "/config" = .ok servingConfiguration :=
    FileSystem.readText_of_read (FileSystem.read_eq_ok_iff.2 ⟨_, _, _, h.place_config⟩)
  have hparse : Settings.parse none servingConfiguration = .ok servingSettings := by
    decide +kernel
  unfold Settings.load
  rw [htext]
  dsimp only
  rw [hparse]

theorem run_java {m : Machine} (h : HasWhatIsRead serve m.files) {arguments : List String}
    (hnul : arguments.any FileSystem.holdsNul = false) :
    m.run "/jdk/bin/java" arguments =
      .ok (servingJava serve arguments fun p => (m.files.read p).toOption) := by
  refine FileSystem.run_eq_ok_iff.2 ⟨?_, servingJava serve, ?_, rfl⟩
  . rw [hnul]
    decide
  . unfold FileSystem.program FileSystem.programAt FileSystem.lookup
    rw [if_pos (by decide), h.place_java]
    rfl

theorem find_eq {m : Machine} (h : HasWhatIsRead serve m.files) :
    Java.find m { javaHome := some "/jdk" } none = .ok ⟨"/jdk/bin/java", 22⟩ := by
  have hfile : m.files.isFile "/jdk/bin/java" := by
    unfold FileSystem.isFile FileSystem.lookup
    rw [h.place_java]
    rfl
  have hversion : Java.parseVersion? (Utf8.decodeLossy "openjdk version \"22\"".toUTF8) =
      some 22 := by
    decide +kernel
  have hprobe : Java.probe m "/jdk/bin/java" = some ⟨"/jdk/bin/java", 22⟩ :=
    Java.probe_eq_some_iff.2 ⟨rfl, hfile, _, h.run_java (by decide), rfl, hversion⟩
  have hdirectories : Java.Places.directories { javaHome := some "/jdk" } = [⟨"/jdk/bin"⟩] := by
    decide +kernel
  have hpath : ("/jdk/bin" : Path) / "java" = "/jdk/bin/java" := by
    decide +kernel
  unfold Java.find Java.locate Java.findIn
  dsimp only
  rw [hdirectories]
  simp only [Java.Places.executableNames, List.findSome?, hpath, hprobe]
  rfl

theorem probe_eq {m : Machine} (h : HasWhatIsRead serve m.files) :
    Distribution.probe m "/jdk/bin/java" downloadedJar = some (.ofNumbers 0 6 1) := by
  have hread : m.files.read downloadedJar = .ok "pkl-lsp version 0.6.1".toUTF8 :=
    FileSystem.read_eq_ok_iff.2 ⟨_, _, _, h.place_jar⟩
  have hstdout : (servingJava serve ["-jar", downloadedJar.text, "--version"] fun p =>
      (m.files.read p).toOption).stdout = "pkl-lsp version 0.6.1".toUTF8 := by
    show ((m.files.read downloadedJar).toOption).getD ByteArray.empty = _
    rw [hread]
    rfl
  have hversion : Distribution.parseVersion? (Utf8.decodeLossy "pkl-lsp version 0.6.1".toUTF8) =
      some (.ofNumbers 0 6 1) := by
    decide +kernel
  unfold Distribution.probe
  rw [h.run_java (by decide)]
  dsimp only
  rw [hstdout, hversion]
  rfl

end HasWhatIsRead

/--
A launcher in that world.
-/
structure IsServing (serve : (Path → Option ByteArray) → Execution)
    (others : List (Location × Entry)) (l : Launcher) : Prop where
  machine : l.world.toMachine = (servingWorld serve others).toMachine
  places : l.locator.places = { javaHome := some "/jdk" }
  settings : l.store.settings = servingSettings
  watchers : ∀ watcher ∈ l.watchers, watcher.path = "/config"

namespace IsServing

theorem files_eq (h : IsServing serve others l) : l.world.files = (servingWorld serve others).files :=
  congrArg Machine.files h.machine

theorem hasWhatIsRead (h : IsServing serve others l) : HasWhatIsRead serve l.world.files := by
  rw [h.files_eq]
  exact ⟨rfl, rfl, rfl, rfl, rfl, rfl, rfl⟩

theorem foundOn_eq (h : IsServing serve others l) {m : Machine}
    (hm : HasWhatIsRead serve m.files) : l.foundOn m = .ok ⟨"/jdk/bin/java", 22⟩ := by
  unfold foundOn
  rw [h.places, h.settings]
  exact hm.find_eq

theorem chosenOn_eq (h : IsServing serve others l) {m : Machine}
    (hm : HasWhatIsRead serve m.files) :
    l.chosenOn m ⟨"/jdk/bin/java", 22⟩ = some ⟨downloadedJar, .ofNumbers 0 6 1, .configured⟩ := by
  unfold chosenOn
  rw [h.settings]
  simp only [servingSettings, hm.probe_eq, Option.map_some]

theorem disregards (h : IsServing serve others l) (hfiles : HasWhatIsRead serve files) :
    l.Disregards files where
  found := (h.foundOn_eq hfiles).trans (h.foundOn_eq h.hasWhatIsRead).symm
  chosen runtime hfound := by
    rw [h.foundOn_eq h.hasWhatIsRead] at hfound
    cases hfound
    exact (h.chosenOn_eq hfiles).trans (h.chosenOn_eq h.hasWhatIsRead).symm
  modified watcher hmem := by
    rw [h.watchers watcher hmem, hfiles.modified?_config, h.hasWhatIsRead.modified?_config]

theorem serves_eq (h : IsServing serve others l) (hplanned : l.planned? = some planned)
    (hfiles : HasWhatIsRead serve files) :
    l.serves planned files = .ok (serve fun p => (files.read p).toOption) := by
  have hsocket : l.store.settings.socketPort = none := by
    rw [h.settings]
    rfl
  obtain ⟨runtime, d⟩ := planned
  obtain ⟨hfound, hchosen⟩ := (planned?_eq_some_iff hsocket).1 hplanned
  rw [h.foundOn_eq h.hasWhatIsRead] at hfound
  cases hfound
  rw [h.chosenOn_eq h.hasWhatIsRead] at hchosen
  cases hchosen
  have hm : HasWhatIsRead serve (l.machineWith files).files := hfiles
  unfold serves commandFor
  rw [h.settings]
  show (l.machineWith files).run "/jdk/bin/java" ["-jar", downloadedJar.text] = _
  exact hm.run_java (by decide)

end IsServing

theorem settingsOf_serving (hmachine : w.toMachine = (servingWorld serve others).toMachine) :
    settingsOf w (some "/config") = servingSettings := by
  have hfiles : HasWhatIsRead serve (servingWorld serve others).files :=
    ⟨rfl, rfl, rfl, rfl, rfl, rfl, rfl⟩
  have hload : Settings.load w.files w.environment.home "/config" = .ok servingSettings := by
    rw [hmachine]
    exact hfiles.load_config
  apply settingsOf_of_ok
  unfold loadStrict
  dsimp only
  rw [hload]

theorem isServing_launcherOf (hmachine : w.toMachine = (servingWorld serve others).toMachine) :
    IsServing serve others (launcherOf w (some "/config")) where
  machine := hmachine
  places := congrArg (fun m : Machine => Java.Places.ofEnvironment m.environment) hmachine
  settings := settingsOf_serving hmachine
  watchers watcher hmem := by
    cases List.mem_singleton.1 hmem
    rfl

/--
The update check writes in the data directory, or where links in it lead.
-/
theorem exists_data_of_mayWriteTo {x : Location} (h : l.MayWriteTo x) :
    ∃ data, l.world.environment.dataDirectory? = some data ∧
      l.world.files.MayWriteTo ((Update.metadataIn data).path .server) x := by
  obtain ⟨update, hupdate, cache, hcache, hx⟩ := h
  unfold updateCheck? at hupdate
  split at hupdate
  . cases hresult : Update.ofSettings l.world.environment l.store.settings with
    | error e =>
      rw [hresult] at hupdate
      cases hupdate
    | ok loaded =>
      rw [hresult] at hupdate
      cases hupdate
      have ⟨hregistry, hcoordinate⟩ := Update.registry_of_ofSettings hresult
      rw [hregistry, Option.map_eq_some_iff] at hcache
      obtain ⟨data, hdata, rfl⟩ := hcache
      rw [hcoordinate] at hx
      exact ⟨data, hdata, hx⟩
  . cases hupdate

/--
A run of the server that ends with an exit code of its own.
-/
def servesAlone (_ : Path → Option ByteArray) : Execution :=
  ⟨.exited 3, "server".toUTF8, ByteArray.empty⟩

theorem servesAlone_congr (read read' : Path → Option ByteArray) :
    servesAlone read = servesAlone read' := rfl

def attendedWorld : World :=
  servingWorld servesAlone []

theorem not_mayWriteTo_of_mem (hmachine : l.world.toMachine = attendedWorld.toMachine) :
    ∀ x ∈ readPlaces, ¬l.MayWriteTo x := by
  have hplace : attendedWorld.files.place true
      ((Update.metadataIn "/data/pkl-lsp-launcher").path .server) = .ok (.vacant
        ["maven-metadata.xml", "pkl-lsp", "org.pkl-lang", "cache", "pkl-lsp-launcher", "data"]
        false) :=
    rfl
  have hthere : ∀ x ∈ readPlaces, (attendedWorld.files.find? x).isSome := by
    decide +kernel
  intro x hx hwrites
  obtain ⟨data, hdata, hwrites⟩ := exists_data_of_mayWriteTo hwrites
  rw [hmachine] at hdata hwrites
  cases hdata
  rcases hwrites with hleads | ⟨hmissing, _⟩
  . have heq := (FileSystem.leadsTo_of_place hplace).unique hleads
    revert hx
    rw [heq]
    decide
  . have hsome := hthere x hx
    rw [hmissing] at hsome
    cases hsome

/--
A launcher reads nothing inside a directory: whatever is there, it comes to the same result.
-/
def ReadsNothingIn (l : Launcher) (directory : Location) : Prop :=
  ∀ files, l.world.files.SameBut (directory <:+ ·) files → l.Disregards files

/--
The data directory in these worlds.
-/
def dataLocation : Location :=
  ["pkl-lsp-launcher", "data"]

theorem readsNothingIn_data (hmachine : w.toMachine = (servingWorld serve others).toMachine) :
    ReadsNothingIn (launcherOf w (some "/config")) dataLocation := by
  intro files hfiles
  have hserving := isServing_launcherOf hmachine
  rw [hserving.files_eq] at hfiles
  exact hserving.disregards (hasWhatIsRead_of_sameBut hfiles (by decide))

/--
A world in which the metadata that the update check keeps are linked to the downloaded jar.
-/
def linkedWorld : World :=
  servingWorld servesAlone
    [("maven-metadata.xml" :: "pkl-lsp" :: "org.pkl-lang" :: "cache" :: dataLocation,
      .link downloadedJar)]

/--
A world in which the server ends in another way when there are metadata.
-/
def lookingWorld : World :=
  servingWorld (fun read =>
    ⟨.exited (if (read metadataPath).isSome then 1 else 0), ByteArray.empty, ByteArray.empty⟩) []

def serverFirst : List Turn :=
  checkFirst ++ [.move .observeDistribution, .move .startServer]

end CommandLine

end ServerLauncher
