import ServerLauncher.Distribution.Basic
import ServerLauncher.Java.Runtime

/-!
This module contains the command that starts the server.
-/

namespace ServerLauncher

structure ServerCommand where
  program : Path
  arguments : List String
deriving DecidableEq, Repr

namespace ServerCommand

def run (java jar : Path) : ServerCommand :=
  ⟨java, ["-jar", jar.text]⟩

/--
The argument that makes Java wait for a debugger on a port, without delaying the program.
-/
def debugAgent (port : UInt16) : String :=
  "-agentlib:jdwp=transport=dt_socket,server=y,suspend=n,quiet=y,address=*:" ++
    toString port.toNat

/--
Run a jar that can be debugged and tells more of what it does.
-/
def debug (java jar : Path) (port : UInt16) : ServerCommand :=
  ⟨java, [debugAgent port, "-jar", jar.text, "--verbose"]⟩

/--
The command for a runtime and a distribution. With a port the server can be debugged.
-/
def forDistribution (runtime : Java.Runtime) (distribution : Distribution)
    (debugPort : Option UInt16) : ServerCommand :=
  match debugPort with
  | some port => debug runtime.path distribution.path port
  | none => run runtime.path distribution.path

end ServerCommand

end ServerLauncher
