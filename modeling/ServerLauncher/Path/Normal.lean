import ServerLauncher.Path.Basic

/-!
This module contains the normal form of paths: `Path.normalize` removes steps that lead back, and
`Path.expand` also replaces a leading `~` by the home directory.
-/

namespace ServerLauncher.Path

/--
Take a step from the place that the components in `before` lead to, the last of them first.
-/
def Component.after (before : List Component) (step : Component) : List Component :=
  match step, before with
  | .current, before => before
  -- There is nothing above the root.
  | .parent, .root :: before => .root :: before
  | .parent, .name _ :: before => before
  | step, before => step :: before

def normalComponents (components : List Component) : List Component :=
  (components.foldl Component.after []).reverse

def Component.chars : Component → List Char
  | .root => []
  | .current => ['.']
  | .parent => ['.', '.']
  | .name text => text.toList

def ofComponents (components : List Component) : Path :=
  match components with
  | [] => ⟨"."⟩
  | [.root] => ⟨"/"⟩
  | components => ⟨String.ofList (Text.joinPieces '/' (components.map Component.chars))⟩

/--
The shortest path to the same place, as far as that is known without looking at the file system.
-/
def normalize (p : Path) : Path :=
  ofComponents (normalComponents p.components)

/--
Replace a leading `~` by the home directory, if there is one, and normalize.
-/
def expand (home : Option Path) (p : Path) : Path :=
  match home, p.components with
  | some home, .name "~" :: rest => ofComponents (normalComponents (home.components ++ rest))
  | _, components => ofComponents (normalComponents components)

end ServerLauncher.Path
