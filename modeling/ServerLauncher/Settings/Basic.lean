import ServerLauncher.Path.Normal
import ServerLauncher.Version.Grammar

/-!
This module contains the settings of the launcher, the keys that name them, and the comparison of
two settings key by key.
-/

namespace ServerLauncher

/--
What the user can configure. Everything but the update check may be left unset.
-/
structure Settings where
  /-- The Java executable to use, instead of searching for one. -/
  javaPath : Option Path := none
  /-- The server jar to use, instead of a downloaded or bundled one. -/
  serverPath : Option Path := none
  /-- The port of a running server to connect to, instead of starting one. -/
  socketPort : Option UInt16 := none
  socketHost : Option String := none
  /-- The port on which the server waits for a debugger. -/
  debugPort : Option UInt16 := none
  /-- The server jar that came with the launcher. -/
  bundledPath : Option Path := none
  /-- The version of that jar, which all others have to be compatible with. -/
  bundledVersion : Option Version := none
  /-- Whether to look for newer servers. -/
  updateCheck : Bool := true
  registryUrl : Option String := none
  /-- The directory of the downloaded jars. -/
  cacheDirectory : Option Path := none
deriving DecidableEq, Repr

namespace Settings

/--
The names of the single settings.
-/
inductive Key where
  | javaPath
  | serverPath
  | socketPort
  | socketHost
  | debugPort
  | bundledPath
  | bundledVersion
  | updateCheck
  | registryUrl
  | cacheDirectory
deriving DecidableEq, Repr

/--
All keys in the order in which changes are reported.
-/
def Key.all : List Key :=
  [.javaPath, .serverPath, .socketPort, .socketHost, .debugPort, .bundledPath, .bundledVersion,
    .updateCheck, .registryUrl, .cacheDirectory]

/--
The name of a setting that editors show.
-/
def Key.id : Key → String
  | .javaPath => "pkl.lsp.java.path"
  | .serverPath => "pkl.lsp.path"
  | .socketPort => "pkl.lsp.socket.port"
  | .socketHost => "pkl.lsp.socket.host"
  | .debugPort => "pkl.lsp.debug.port"
  | .bundledPath => "pkl.lsp.bundled.path"
  | .bundledVersion => "pkl.lsp.bundled.version"
  | .updateCheck => "pkl.lsp.update.check"
  | .registryUrl => "pkl.lsp.registry.url"
  | .cacheDirectory => "pkl.lsp.cache.dir"

/--
The table and the field of a setting in the configuration file.
-/
def Key.place : Key → String × String
  | .javaPath => ("java", "path")
  | .serverPath => ("lsp", "path")
  | .socketPort => ("lsp", "socket_port")
  | .socketHost => ("lsp", "socket_host")
  | .debugPort => ("lsp", "debug_port")
  | .bundledPath => ("bundled", "path")
  | .bundledVersion => ("bundled", "version")
  | .updateCheck => ("update", "check")
  | .registryUrl => ("registry", "url")
  | .cacheDirectory => ("cache", "dir")

/--
The place of a setting in the configuration file in one text.
-/
def Key.tomlPath (key : Key) : String :=
  key.place.1 ++ "." ++ key.place.2

theorem Key.mem_all (key : Key) : key ∈ Key.all := by
  cases key <;> simp [Key.all]

/--
Whether two optional values are both missing or the same in the sense of `same`.
-/
def sameOption {α : Type} (same : α → α → Bool) : Option α → Option α → Bool
  | none, none => true
  | some a, some b => same a b
  | _, _ => false

/--
Whether two settings give a key the same value. Paths are compared by their components and versions
by their whole text.
-/
def sameAt (s t : Settings) : Key → Bool
  | .javaPath => sameOption Path.sameAs s.javaPath t.javaPath
  | .serverPath => sameOption Path.sameAs s.serverPath t.serverPath
  | .socketPort => s.socketPort == t.socketPort
  | .socketHost => s.socketHost == t.socketHost
  | .debugPort => s.debugPort == t.debugPort
  | .bundledPath => sameOption Path.sameAs s.bundledPath t.bundledPath
  | .bundledVersion => s.bundledVersion.map Version.text == t.bundledVersion.map Version.text
  | .updateCheck => s.updateCheck == t.updateCheck
  | .registryUrl => s.registryUrl == t.registryUrl
  | .cacheDirectory => sameOption Path.sameAs s.cacheDirectory t.cacheDirectory

def changedKeys (s t : Settings) : List Key :=
  Key.all.filter fun key => !s.sameAt t key

/--
Expand and normalize all paths.
-/
def normalized (home : Option Path) (s : Settings) : Settings :=
  { s with
    javaPath := s.javaPath.map (Path.expand home)
    serverPath := s.serverPath.map (Path.expand home)
    bundledPath := s.bundledPath.map (Path.expand home)
    cacheDirectory := s.cacheDirectory.map (Path.expand home) }

theorem sameOption_sameAs_iff {p q : Option Path} :
    sameOption Path.sameAs p q = true ↔ p.map Path.components = q.map Path.components := by
  cases p <;> cases q <;> simp [sameOption, Path.sameAs_iff]

theorem mem_changedKeys {s t : Settings} {key : Key} :
    key ∈ s.changedKeys t ↔ s.sameAt t key = false := by
  simp [changedKeys, Key.mem_all]

end Settings

end ServerLauncher
