import ServerLauncher.Settings.Basic
import ServerLauncher.Toml.Document

/-!
This module contains the reading of settings from the text of a configuration file.
-/

namespace ServerLauncher.Settings

/--
The reason why a text is no configuration.
-/
inductive Fault where
  | document (reason : Toml.Error)
  | wrongType (name : String)
  | hugeNumber
  | outOfRange (key : Key)
  | version (reason : Version.Invalid)
deriving DecidableEq, Repr

def Fault.message : Fault → String
  | .document reason => reason.message
  | .wrongType name => "TOML parse error: invalid type of " ++ name
  | .hugeNumber => "TOML parse error: number is too large"
  | .outOfRange key => "TOML parse error: invalid value of " ++ key.tomlPath
  | .version reason => "TOML parse error: " ++ reason.message

def sectionNames : List String := ["java", "lsp", "bundled", "update", "registry", "cache"]

/--
Whether a number that is too large occurs where it is noticed.
-/
def hasHugeNumber (document : Toml.Table) : Bool :=
  document.any fun (name, value) =>
    match value with
    -- What an array has more than a table of settings has fields is not even looked at.
    | .array _ => !sectionNames.contains name && value.hasHuge
    | value => value.hasHuge

/--
The entries of a table of settings.
-/
def sectionEntries (document : Toml.Table) (name : String) (fields : List String) :
    Except Fault Toml.Table :=
  match document.get? name with
  | none => .ok []
  | some (.table _ entries) => .ok entries
  -- The values of the fields in order, of which the last may be left out.
  | some (.array items) => .ok (fields.zip items)
  -- A date or time is read as a table without known fields.
  | some (.scalar .moment) => .ok []
  | some _ => .error (.wrongType name)

/--
The value of a field, as `read` understands it.
-/
def field {α : Type} (entries : Toml.Table) (key : Key) (read : Toml.Scalar → Except Fault α) :
    Except Fault (Option α) :=
  match entries.get? key.place.2 with
  | none => .ok none
  | some (.scalar scalar) => some <$> read scalar
  | some _ => .error (.wrongType key.tomlPath)

def readText (key : Key) : Toml.Scalar → Except Fault String
  | .text s => .ok s
  | _ => .error (.wrongType key.tomlPath)

def readPath (key : Key) (scalar : Toml.Scalar) : Except Fault Path :=
  Path.mk <$> readText key scalar

def readPort (key : Key) : Toml.Scalar → Except Fault UInt16
  | .integer n =>
    if 0 ≤ n ∧ n < UInt16.size then .ok (UInt16.ofNat n.toNat) else .error (.outOfRange key)
  | _ => .error (.wrongType key.tomlPath)

def readBoolean (key : Key) : Toml.Scalar → Except Fault Bool
  | .boolean b => .ok b
  | _ => .error (.wrongType key.tomlPath)

def readVersion (key : Key) (scalar : Toml.Scalar) : Except Fault Version := do
  let text ← readText key scalar
  match Version.parse text with
  | .ok v => .ok v
  | .error reason => .error (.version reason)

/--
The settings in a document, whatever else it holds.
-/
def ofDocument (document : Toml.Table) : Except Fault Settings := do
  let java ← sectionEntries document "java" ["path"]
  let javaPath ← field java .javaPath (readPath .javaPath)
  let server ←
    sectionEntries document "lsp" ["path", "socket_port", "socket_host", "debug_port"]
  let serverPath ← field server .serverPath (readPath .serverPath)
  let socketPort ← field server .socketPort (readPort .socketPort)
  let socketHost ← field server .socketHost (readText .socketHost)
  let debugPort ← field server .debugPort (readPort .debugPort)
  let bundled ← sectionEntries document "bundled" ["path", "version"]
  let bundledPath ← field bundled .bundledPath (readPath .bundledPath)
  let bundledVersion ← field bundled .bundledVersion (readVersion .bundledVersion)
  let update ← sectionEntries document "update" ["check"]
  let updateCheck ← field update .updateCheck (readBoolean .updateCheck)
  let registry ← sectionEntries document "registry" ["url"]
  let registryUrl ← field registry .registryUrl (readText .registryUrl)
  let cache ← sectionEntries document "cache" ["dir"]
  let cacheDirectory ← field cache .cacheDirectory (readPath .cacheDirectory)
  if hasHugeNumber document then throw .hugeNumber
  return {
    javaPath, serverPath, socketPort, socketHost, debugPort, bundledPath, bundledVersion
    updateCheck := updateCheck.getD true
    registryUrl, cacheDirectory }

/--
The settings that the text of a configuration file gives, with all paths normalized.
-/
def parse (home : Option Path) (text : String) : Except Fault Settings :=
  match Toml.parse text with
  | .error reason => .error (.document reason)
  | .ok document => Settings.normalized home <$> ofDocument document

end ServerLauncher.Settings
