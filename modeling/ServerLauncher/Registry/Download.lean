import ServerLauncher.Digest.Checksum
import ServerLauncher.Http.Client

/-!
This module contains downloads that are verified by a checksum. The bytes go to a file that nobody
else looks at; only when they have turned out right, that file is moved to its destination.
-/

namespace ServerLauncher.Registry

inductive FetchError where
  | network (url : String) (cause : Http.Error)
  | checksumMismatch (url expected actual : String)
  | io (cause : IoError)
deriving DecidableEq, Repr

def FetchError.message : FetchError → String
  | .network url cause => "Failed to download " ++ url ++ ": " ++ cause.message
  | .checksumMismatch url expected actual =>
    "Failed to download " ++ url ++ ": expected checksum " ++ expected ++ ", but got " ++ actual
  | .io cause => "IO error: " ++ cause.message

/--
Change the files, if that is possible.
-/
def changeFiles {α : Type} (change : World → Except IoError (α × FileSystem)) :
    Attempt FetchError α := do
  match change (← get) with
  | .error e => throw (.io e)
  | .ok (a, files) => do
    Action.setFiles files
    return a

/--
Remove a file, if it is there.
-/
def discard (path : Path) : Action Unit :=
  modify fun w => w.withFiles (w.files.removeFile path)

/--
Make an empty file in a directory.
-/
def stage (directory : Path) (front : String) : Attempt FetchError Path :=
  changeFiles fun w => w.files.createFresh directory front ByteArray.empty w.now

/--
Write the bytes under a URL to a file, and tell their digest.
-/
def stream (url : String) (staged : Path) : Attempt FetchError String := do
  let body ← (Http.getBytes url).adapt (FetchError.network url)
  changeFiles fun w => (((), ·)) <$> w.files.writeFile staged body w.now
  return Sha256.hexDigest body

def directoryOf (path : Path) : Path :=
  (path.parent?.filter fun parent => parent.text ≠ "").getD ⟨"."⟩

def makeDirectories (directory : Path) : Attempt FetchError Unit := do
  match (← get).files.createDirectories directory with
  | (failed, files) =>
    Action.setFiles files
    match failed with
    | some e => throw (.io e)
    | none => return ()

/--
Move a file, or discard it if that is not possible.
-/
def moveOrDiscard (source destination : Path) : Attempt FetchError Unit := do
  match (← get).files.rename source destination with
  | .ok files => Action.setFiles files
  | .error e =>
    discard source
    throw (.io e)

/--
Copy a file to a place beside its destination and move the copy.
-/
def moveCopy (staged destination : Path) : Attempt FetchError Unit := do
  let copy ← stage (directoryOf destination) ".pkl-lsp-"
  changeFiles fun w => do
    let content ← w.files.read staged
    return ((), ← w.files.writeFile copy content w.now)
  moveOrDiscard copy destination

/--
Move a verified file to its destination, and tell whether it has gone there itself. Where that cannot be
done in one step, a copy beside the destination is moved instead.
-/
def commit (staged destination : Path) : Attempt FetchError Bool := do
  makeDirectories (directoryOf destination)
  match (← get).files.rename staged destination with
  | .ok files => do
    Action.setFiles files
    return true
  | .error _ => do
    moveCopy staged destination
    return false

/--
Fill a staged file, verify it and move it to its destination.
-/
def fill (staged : Path) (url : String) (destination : Path) (expected : String) :
    Attempt FetchError Bool := do
  let actual ← stream url staged
  if actual ≠ expected then throw (.checksumMismatch url expected actual)
  commit staged destination

/--
Download a file that has a published checksum. `staging` is the directory for unfinished downloads,
if it is not the usual one.
-/
def download (staging : Option Path) (url : String) (destination : Path) (checksum : String) :
    Attempt FetchError Unit := do
  let directory := staging.getD (← get).files.temporaryDirectory
  let staged ← stage directory "pkl-lsp-"
  ExceptT.mk do
    let result ← (fill staged url destination (Checksum.normalize checksum)).run
    -- However it ends, nothing unfinished stays behind.
    unless result.toOption = some true do discard staged
    return result.map fun _ => ()

end ServerLauncher.Registry
