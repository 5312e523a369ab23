import ServerLauncher.Path.Basic

/-!
This module contains Java runtimes, and the reasons why there is none.
-/

namespace ServerLauncher.Java

/--
The oldest version that can run the server.
-/
def minimumVersion : Nat := 22

/--
A Java executable and its major version.
-/
structure Runtime where
  path : Path
  version : Nat
deriving DecidableEq, Repr

inductive RuntimeError where
  | notFound (minimum : Nat)
  | invalidConfiguredPath (path : Path)
  | configuredVersionTooLow (path : Path) (version minimum : Nat)
deriving DecidableEq, Repr

def RuntimeError.message : RuntimeError → String
  | .notFound minimum =>
    "Cannot find suitable Java in $PATH or $JAVA_HOME. pkl-lsp requires Java " ++
      toString minimum ++ " or higher."
  | .invalidConfiguredPath path =>
    "Could not resolve Java version information from " ++ path.text ++
      ". Ensure it is the path to the Java executable."
  | .configuredVersionTooLow path version minimum =>
    "pkl-lsp requires Java " ++ toString minimum ++
      " or higher, but was configured to use version " ++ toString version ++ " (" ++
      path.text ++ ")"

end ServerLauncher.Java
