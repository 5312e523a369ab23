import ServerLauncher.CommandLine.Run
import Std.Time.DateTime.Timestamp

/-!
This module contains the program: it looks at the machine, carries out the command line on what it has
seen, and writes what there is to say. It knows the user's files, but it starts no programs and does not
reach the web.
-/

namespace ServerLauncher.CommandLine

def readEnvironment : IO Environment := do
  return {
    home := (← IO.getEnv "HOME").map (⟨·⟩)
    configHome := ← IO.getEnv "XDG_CONFIG_HOME"
    dataHome := ← IO.getEnv "XDG_DATA_HOME"
    javaHome := ← IO.getEnv "JAVA_HOME"
    path := ← IO.getEnv "PATH"
    pathExtensions := ← IO.getEnv "PATHEXT" }

/--
Copy what is at a path, down to some depth. What cannot be read is left out.
-/
def copyFrom (depth : Nat) (files : FileSystem) (p : Path) : IO FileSystem := do
  let .ok place ← (IO.FS.realPath p.text).toBaseIO | return files
  let .ok metadata ← place.metadata.toBaseIO | return files
  match metadata.type, depth with
  | .file, _ =>
    let .ok content ← (IO.FS.readBinFile place).toBaseIO | return files
    let modified := metadata.modified.sec * 1000000000 + metadata.modified.nsec.toNat
    let files := match p.parent? with
      | some parent => (files.createDirectories parent).2
      | none => files
    return (files.writeFile p content modified).toOption.getD files
  | .dir, depth + 1 =>
    let .ok names ← place.readDir.toBaseIO | return files
    names.foldlM (fun files name => copyFrom depth files (p / name.fileName))
      (files.createDirectories p).2
  | _, _ => return files

/--
The depth down to which directories are looked at.
-/
def copyDepth : Nat := 8

/--
The places that a run may look at.
-/
def placesFor (environment : Environment) (arguments : List String) : List Path :=
  let configuration := match parse arguments with
    | .command configuration _ => configuration
    | _ => none
  (configuration.or environment.configPath?).toList ++ environment.dataDirectory?.toList ++
    environment.distributionsDirectory?.toList

def readWorld (arguments : List String) : IO World := do
  let environment ← readEnvironment
  let directory : Path := ⟨(← IO.currentDir).toString⟩
  let empty : FileSystem := {
    entries := []
    workingDirectory := (directory.segments.map String.ofList).filter (· ≠ "") |>.reverse
    temporaryDirectory := ⟨"/tmp"⟩
    device := fun _ => 0 }
  let files ← (placesFor environment arguments).foldlM (copyFrom copyDepth)
    (empty.createDirectories directory).2
  return {
    files
    environment
    executable := ⟨(← IO.appPath).toString⟩
    now := (← Std.Time.Timestamp.now).toNanosecondsSinceUnixEpoch.val
    web := fun _ _ => none
    host := .terminal ⟨false, none, []⟩
    events := [] }

/--
Nobody can be connected to.
-/
def noPeers : Peers := fun _ _ => .error "Network is unreachable (os error 101)"

end ServerLauncher.CommandLine

open ServerLauncher in
/--
Carry out the command line.
-/
def main (arguments : List String) : IO UInt32 := do
  match CommandLine.run (← CommandLine.readWorld arguments) CommandLine.noPeers arguments with
  | .ended report _ =>
    (← IO.getStdout).write report.stdout
    (← IO.getStderr).putStr report.stderr
    return report.code.toUInt32
  | .running _ => return 0
