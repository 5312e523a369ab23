import ServerLauncher.Registry.Download
import ServerLauncher.Registry.Metadata
import ServerLauncher.Registry.MetadataCache

/-!
This module contains the client of a registry, which finds the latest version of an artifact and
downloads its jars.
-/

namespace ServerLauncher.Registry

inductive RegistryError where
  | http (url : String) (cause : Http.Error)
  | invalidRemoteVersion (text : String)
  | invalidUrl (cause : Url.ParseError)
  | fetch (cause : FetchError)
deriving DecidableEq, Repr

def RegistryError.message : RegistryError → String
  | .http url cause => "HTTP error for " ++ url ++ ": " ++ cause.message
  | .invalidRemoteVersion text =>
    "Got an artifact from Maven that is not valid semver: " ++ text
  | .invalidUrl cause => "Invalid registry URL: " ++ cause.message
  | .fetch cause => cause.message

/--
The registry that is asked unless another one is configured.
-/
def defaultUrl : String := "https://repo1.maven.org/maven2/"

/--
The client of a registry: its URL, the cache for metadata, and the directory for unfinished
downloads if it is not the usual one.
-/
structure Client where
  base : Url
  cache : Option MetadataCache
  staging : Option Path
deriving DecidableEq, Repr

namespace Client

/--
The client of the registry under a URL, whose path is taken for a directory.
-/
def new (url : String) (cache : Option MetadataCache) (staging : Option Path) :
    Except RegistryError Client :=
  match Url.parse url with
  | .ok base => .ok ⟨base.asDirectory, cache, staging⟩
  | .error e => .error (.invalidUrl e)

def urlOf (client : Client) (file : String) : Except RegistryError Url :=
  match client.base.join file with
  | .ok url => .ok url
  | .error e => .error (.invalidUrl e)

def getText (url : Url) : Attempt RegistryError String :=
  (Http.getText url).adapt (RegistryError.http url.text)

/--
The latest version that metadata names.
-/
def parseLatest (metadata : String) : Except RegistryError Version :=
  match latestText? metadata with
  | none => .error (.invalidRemoteVersion "<missing>")
  | some text =>
    match Version.parse? text with
    | some v => .ok v
    | none => .error (.invalidRemoteVersion text)

/--
The latest version that the cache knows.
-/
def cachedLatest (client : Client) (w : World) (c : Coordinate) : Option Version := do
  let cache ← client.cache
  let metadata ← cache.read w.files w.now c
  (parseLatest metadata).toOption

/--
Keep metadata in the cache.
-/
def keep (client : Client) (c : Coordinate) (metadata : String) : Action Unit :=
  modify fun w =>
    match client.cache with
    | none => w
    -- It does not matter if that fails, and what it has done half way stays.
    | some cache => w.withFiles (cache.write w.files w.now c metadata).2

/--
Ask the registry for the latest version of an artifact.
-/
def fetchLatest (client : Client) (c : Coordinate) : Attempt RegistryError Version := do
  let url ← Attempt.ofExcept (client.urlOf c.metadataPath)
  let metadata ← getText url
  -- Only an answer that names a version is kept.
  let latest ← Attempt.ofExcept (parseLatest metadata)
  client.keep c metadata
  return latest

/--
The latest version of an artifact. The cache is looked at first unless that is ruled out.
-/
def latest (client : Client) (c : Coordinate) (useCache : Bool) :
    Attempt RegistryError Version := do
  let w ← get
  match if useCache then client.cachedLatest w c else none with
  | some v => return v
  | none => client.fetchLatest c

/--
Download the jar of a version to a destination, verified by the checksum that the registry publishes
for it.
-/
def downloadArtifact (client : Client) (c : Coordinate) (v : Version) (destination : Path) :
    Attempt RegistryError Unit := do
  let jarUrl ← Attempt.ofExcept (client.urlOf (c.jarPath v))
  let checksumUrl ← Attempt.ofExcept (client.urlOf (c.checksumPath v))
  let checksum ← getText checksumUrl
  (download client.staging jarUrl.text destination checksum).adapt RegistryError.fetch

end Client

end ServerLauncher.Registry
