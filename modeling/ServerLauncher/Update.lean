import ServerLauncher.Distribution.Cache
import ServerLauncher.Error

/-!
This module contains the check for newer servers, and downloads that the user asks for.
-/

namespace ServerLauncher

/--
What an update needs to know: the registry, the artifact, the directory of downloaded servers, the
version that others have to be compatible with, and whether the cache for metadata may be used.
-/
structure Update where
  registry : Registry.Client
  coordinate : Registry.Coordinate
  cache : Distribution.Cache
  bundledVersion : Version
  useCache : Bool
deriving DecidableEq, Repr

/--
What a check for newer servers has led to.
-/
inductive Update.Outcome where
  | incompatible (latest : Version)
  | alreadyDownloaded (latest : Version)
  | upToDate (latest : Version)
  | declined (latest : Version)
  | downloaded (version : Version) (path : Path)
  | failed (cause : LauncherError)
deriving DecidableEq, Repr

namespace Update

/--
The affirmative answer to the question whether to download a server.
-/
def downloadLabel : String := "Download and restart"

def question (latest : Version) : String :=
  "A new version of pkl-lsp (" ++ latest.text ++ ") is available."

def restartReason (latest : Version) : String :=
  "pkl-lsp " ++ latest.text ++ " was downloaded"

/--
The update that settings describe.
-/
def ofSettings (env : Environment) (settings : Settings) : Except LauncherError Update :=
  let metadata := env.dataDirectory?.map fun data =>
    Registry.MetadataCache.inDirectory data Registry.MetadataCache.defaultLifetime
  match Registry.Client.new (settings.registryUrl.getD Registry.defaultUrl) metadata none with
  | .error e => .error (.registry e)
  | .ok registry =>
    match settings.cacheDirectory.or env.distributionsDirectory? with
    | none => .error (.internal "Cannot determine the home directory for the download cache")
    | some root =>
      .ok {
        registry
        coordinate := .server
        cache := ⟨root⟩
        bundledVersion := settings.bundledVersion.getD Distribution.bundledVersion
        useCache := true }

def latest (u : Update) : Attempt LauncherError Version :=
  (u.registry.latest u.coordinate u.useCache).adapt LauncherError.registry

/--
Download the jar of a version to its place in the cache.
-/
def fetch (u : Update) (v : Version) : Attempt LauncherError Unit :=
  (u.registry.downloadArtifact u.coordinate v (u.cache.jarPath v)).adapt LauncherError.registry

/--
Offer the user a version, and download it if the user wants that.
-/
def offer (u : Update) (v : Version) : Attempt LauncherError Outcome := do
  let accepted ← Action.ask (question v) downloadLabel
  if !accepted then return .declined v
  u.fetch v
  Action.requestRestart (restartReason v)
  return .downloaded v (u.cache.jarPath v)

/--
Look for a newer server, and offer it if it is compatible, not there yet, and newer than the bundled
one.
-/
def run (u : Update) : Attempt LauncherError Outcome := do
  let latest ← u.latest
  if !latest.isCompatibleWith u.bundledVersion then return .incompatible latest
  -- The other versions that are there do not matter for an offer.
  if u.cache.contains (← Action.machine).files latest then return .alreadyDownloaded latest
  if !latest.isNewerThan u.bundledVersion then return .upToDate latest
  u.offer latest

/--
Look for a newer server. Failing is an outcome too.
-/
def check (u : Update) : Action Outcome := do
  match ← u.run.run with
  | .ok outcome => return outcome
  | .error cause => return .failed cause

/--
Download a version, or the latest one.
-/
def download (u : Update) (version : Option Version) : Attempt LauncherError Distribution := do
  let v ← match version with
    | some v => pure v
    | none => u.latest
  -- A jar that is there already is taken for what it is called.
  if !u.cache.contains (← Action.machine).files v then u.fetch v
  return u.cache.distribution v

end Update

end ServerLauncher
