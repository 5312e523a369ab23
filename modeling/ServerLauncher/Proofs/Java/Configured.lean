import ServerLauncher.Proofs.FileSystem.Walk
import ServerLauncher.Proofs.Java.Probing
import ServerLauncher.Proofs.Launch.Command
import ServerLauncher.Proofs.Path.Expanding
import ServerLauncher.Settings.Load

/-!
This module contains how far a configured executable depends on the variables that say where commands
and runtimes are searched: not at all if its path holds a slash, and by the name otherwise.
-/

namespace ServerLauncher.Java

/--
Values for the variables that a search depends on.
-/
structure SearchVariables where
  javaHome : Option String
  path : Option String
  pathExtensions : Option String

/--
The same world, where these variables have these values.
-/
def SearchVariables.apply (vars : SearchVariables) (w : World) : World :=
  { w with
    environment := {
      w.environment with
      javaHome := vars.javaHome
      path := vars.path
      pathExtensions := vars.pathExtensions } }

/--
What a locator with a cell finds, what is in the cell afterwards, and what has been told by then.
-/
def resolved (settings : Settings) (cell : Settled Runtime) (w : World) :
    Except RuntimeError Runtime × Settled Runtime × List Event :=
  let ((result, locator), after) :=
    (Locator.resolve ⟨.ofEnvironment w.environment, cell⟩ settings).run w
  (result, locator.cell, after.events)

/--
Whatever the variables for searches are, a locator does the same.
-/
def IgnoresSearch (settings : Settings) (cell : Settled Runtime) (w : World) : Prop :=
  ∀ vars others : SearchVariables,
    resolved settings cell (vars.apply w) = resolved settings cell (others.apply w)

/--
A program answers like Java of a version.
-/
def ProgramAnswers (fs : FileSystem) (program : Program) (version : Nat) : Prop :=
  let execution := program ["-version"] fun p => (fs.read p).toOption
  execution.succeeded ∧ parseVersion? (Utf8.decodeLossy execution.stderr) = some version

/--
The program that a path leads to answers like Java of a version.
-/
def AnswersAt (fs : FileSystem) (p : Path) (version : Nat) : Prop :=
  ∃ program, fs.programAt p = .ok program ∧ ProgramAnswers fs program version

/--
The first program that is found under a name answers like Java of a version.
-/
def AnswersIn (fs : FileSystem) (name : String) (directories : List Path) (version : Nat) : Prop :=
  ∃ program, fs.programIn name directories = .ok program ∧ ProgramAnswers fs program version

variable {fs : FileSystem} {m m' : Machine} {path : Path} {program : Program} {version : Nat}

section Programs

theorem lookup_eq_ok_of_programAt (h : fs.programAt path = .ok program) :
    ∃ location content modified,
      fs.lookup path = .ok (location, .file content modified (some program)) := by
  unfold FileSystem.programAt at h
  cases hlookup : fs.lookup path with
  | error e =>
    rw [hlookup] at h
    cases h
  | ok found =>
    rw [hlookup] at h
    rcases found with ⟨location, entry⟩
    cases entry with
    | directory => cases h
    | link target => cases h
    | file content modified program? =>
      cases program? with
      | none => cases h
      | some found =>
        cases h
        exact ⟨location, content, modified, rfl⟩

theorem isFile_of_programAt (h : fs.programAt path = .ok program) : fs.isFile path := by
  have ⟨_, _, _, hlookup⟩ := lookup_eq_ok_of_programAt h
  unfold FileSystem.isFile
  rw [hlookup]

theorem admissible_of_lookup {found : Location × Entry} (h : fs.lookup path = .ok found) :
    FileSystem.Admissible path := by
  unfold FileSystem.lookup at h
  cases hplace : fs.place true path with
  | error e =>
    rw [hplace] at h
    cases h
  | ok place => exact (FileSystem.place_eq_ok_iff.1 hplace).1

theorem admissible_of_isFile (h : fs.isFile path) : FileSystem.Admissible path := by
  unfold FileSystem.isFile at h
  cases hlookup : fs.lookup path with
  | error e =>
    rw [hlookup] at h
    cases h
  | ok found => exact admissible_of_lookup hlookup

theorem exists_programAt_of_programIn {name : String} {directories : List Path}
    (h : fs.programIn name directories = .ok program) :
    ∃ directory ∈ directories, fs.programAt (directory / name) = .ok program := by
  induction directories with
  | nil => cases h
  | cons directory rest ih =>
    unfold FileSystem.programIn at h
    split at h
    . next hprogram =>
      cases h
      exact ⟨directory, List.mem_cons_self, hprogram⟩
    . have ⟨other, hother, hprogram⟩ := ih h
      exact ⟨other, List.mem_cons_of_mem _ hother, hprogram⟩
    . have ⟨other, hother, hprogram⟩ := ih h
      exact ⟨other, List.mem_cons_of_mem _ hother, hprogram⟩
    . split at h
      . next hrest =>
        cases h
        have ⟨other, hother, hprogram⟩ := ih hrest
        exact ⟨other, List.mem_cons_of_mem _ hother, hprogram⟩
      . cases h
      . cases h
    . cases h

theorem programIn_singleton {name : String} {directory : Path}
    (h : fs.programAt (directory / name) = .ok program) :
    fs.programIn name [directory] = .ok program := by
  unfold FileSystem.programIn
  rw [h]

theorem run_version_iff {execution : Execution} (hfile : m.files.isFile path) :
    m.run path ["-version"] = .ok execution ↔
      ∃ program, m.files.program m.environment.commandDirectories path = .ok program ∧
        execution = program ["-version"] fun p => (m.files.read p).toOption := by
  have hversion : FileSystem.holdsNul "-version" = false := by decide
  unfold Machine.run
  rw [FileSystem.run_eq_ok_iff]
  simp [(admissible_of_isFile hfile).no_nul, hversion]

theorem answers_iff_program :
    Answers m path version ↔ m.files.isFile path ∧
      ∃ program, m.files.program m.environment.commandDirectories path = .ok program ∧
        ProgramAnswers m.files program version := by
  unfold Answers ProgramAnswers
  apply and_congr_right
  intro hfile
  simp only [run_version_iff hfile]
  constructor
  . rintro ⟨_, ⟨program, hprogram, rfl⟩, hanswers⟩
    exact ⟨program, hprogram, hanswers⟩
  . rintro ⟨program, hprogram, hanswers⟩
    exact ⟨_, ⟨program, hprogram, rfl⟩, hanswers⟩

/--
An executable whose path holds a slash is run as it is.
-/
theorem answers_iff_of_slash (h : '/' ∈ path.chars) :
    Answers m path version ↔ AnswersAt m.files path version := by
  have hprogram : m.files.program m.environment.commandDirectories path = m.files.programAt path := by
    unfold FileSystem.program
    rw [if_pos (List.contains_iff_mem.2 h)]
  rw [answers_iff_program]
  rw [hprogram]
  unfold AnswersAt
  constructor
  . intro hanswers
    exact hanswers.2
  . intro hanswers
    have ⟨program, hat, _⟩ := hanswers
    exact ⟨isFile_of_programAt hat, hanswers⟩

/--
The name of an executable is looked up where commands are looked up, after it has been seen that there
is a file of that name in the working directory.
-/
theorem answers_iff_of_bare (h : '/' ∉ path.chars) (hne : path.text ≠ "") :
    Answers m path version ↔ m.files.isFile path ∧
      AnswersIn m.files path.text m.environment.commandDirectories version := by
  have hprogram : m.files.program m.environment.commandDirectories path =
      m.files.programIn path.text m.environment.commandDirectories := by
    unfold FileSystem.program
    rw [if_neg]
    . rw [if_neg hne]
    . rw [List.contains_iff_mem]
      exact h
  rw [answers_iff_program]
  rw [hprogram]
  rfl

end Programs

section Loading

variable {files : FileSystem} {home : Option Path} {file : Path} {settings : Settings}

/--
A configured path is expanded as it is loaded.
-/
theorem exists_expand_of_load (hload : Settings.load files home file = .ok settings)
    (hpath : settings.javaPath = some path) : ∃ written, path = Path.expand home written := by
  unfold Settings.load at hload
  split at hload
  . cases hload
    cases hpath
  . cases hload
  . next text _ =>
    split at hload
    . next parsed hparse =>
      cases hload
      unfold Settings.parse at hparse
      split at hparse
      . cases hparse
      . next document _ =>
        cases hdocument : Settings.ofDocument document with
        | error fault =>
          rw [hdocument] at hparse
          cases hparse
        | ok raw =>
          rw [hdocument] at hparse
          cases hparse
          have ⟨written, _, hexpand⟩ := Option.map_eq_some_iff.1 hpath
          exact ⟨written, hexpand.symm⟩
    . cases hload

end Loading

section Search

variable {settings : Settings} {cell : Settled Runtime} {w : World}

/--
What a locator does with what it has found.
-/
def settled (cell : Settled Runtime) (events : List Event) (result : Except RuntimeError Runtime) :
    Except RuntimeError Runtime × Settled Runtime × List Event :=
  match result with
  | .ok runtime => (result, cell.publish runtime, events)
  | .error e => (result, cell, events ++ [.notified ((Notice.warning e.message).withSetting .javaPath)])

theorem settled_fst (cell : Settled Runtime) (events : List Event)
    (result : Except RuntimeError Runtime) : (settled cell events result).1 = result := by
  cases result <;> rfl

theorem resolved_eq_settled (hpath : settings.javaPath = some path) (cell : Settled Runtime)
    (w : World) :
    resolved settings cell w = settled cell w.events (resolveConfigured w.toMachine path) := by
  have hresolve : (Locator.resolve ⟨.ofEnvironment w.environment, cell⟩ settings).run w =
      let ((locator, after)) := (Locator.settle ⟨.ofEnvironment w.environment, cell⟩
        (resolveConfigured w.toMachine path)).run w
      ((resolveConfigured w.toMachine path, locator), after) := by
    unfold Locator.resolve
    rw [hpath]
    rfl
  unfold resolved
  rw [hresolve]
  cases resolveConfigured w.toMachine path <;> rfl

theorem resolved_eq_iff (hpath : settings.javaPath = some path) (vars others : SearchVariables) :
    resolved settings cell (vars.apply w) = resolved settings cell (others.apply w) ↔
      resolveConfigured (vars.apply w).toMachine path =
        resolveConfigured (others.apply w).toMachine path := by
  rw [resolved_eq_settled hpath, resolved_eq_settled hpath]
  constructor
  . intro h
    have hfst := congrArg Prod.fst h
    rw [settled_fst, settled_fst] at hfst
    exact hfst
  . intro h
    rw [h]
    rfl

theorem answers_of_resolveConfigured_eq
    (h : resolveConfigured m' path = resolveConfigured m path) (hanswers : Answers m path version) :
    Answers m' path version := by
  have hverdict := verdict_resolveConfigured m' path
  rw [h] at hverdict
  by_cases hminimum : minimumVersion ≤ version
  . have hok : resolveConfigured m path = .ok ⟨path, version⟩ :=
      (verdict_resolveConfigured m path).eq_ok_iff.2 ⟨rfl, hanswers, hminimum⟩
    rw [hok] at hverdict
    exact (hverdict.eq_ok_iff.1 rfl).2.1
  . have htooLow : resolveConfigured m path =
        .error (.configuredVersionTooLow path version minimumVersion) :=
      (verdict_resolveConfigured m path).eq_tooLow_iff.2
        ⟨rfl, rfl, hanswers, Nat.lt_of_not_le hminimum⟩
    rw [htooLow] at hverdict
    exact (hverdict.eq_tooLow_iff.1 rfl).2.2.1

def onPath (path : String) : SearchVariables :=
  ⟨none, some path, none⟩

theorem splitPaths_of_not_mem {directory : Path} (h : ':' ∉ directory.chars) :
    Environment.splitPaths directory.text = [directory] := by
  unfold Path.chars at h
  unfold Environment.splitPaths
  rw [Text.pieces_of_not_mem h]
  simp

theorem colon_not_mem_of_mem_splitPaths {list : String} {directory : Path}
    (h : directory ∈ Environment.splitPaths list) : ':' ∉ directory.chars := by
  unfold Environment.splitPaths at h
  have ⟨piece, hpiece, hdirectory⟩ := List.mem_map.1 h
  rw [← hdirectory]
  unfold Path.chars
  rw [String.toList_ofList]
  exact Text.sep_not_mem_of_mem_pieces hpiece

/--
A letter as many times as a power of two says.
-/
def doubled : Nat → String
  | 0 => "a"
  | n + 1 => doubled n ++ doubled n

theorem utf8ByteSize_doubled (n : Nat) : (doubled n).utf8ByteSize = 1 <<< n := by
  induction n with
  | zero => decide
  | succ n ih =>
    unfold doubled
    rw [String.utf8ByteSize_append]
    rw [ih]
    rw [Nat.shiftLeft_succ, Nat.two_mul]

theorem colon_not_mem_doubled (n : Nat) : ':' ∉ (doubled n).toList := by
  induction n with
  | zero => decide
  | succ n ih =>
    unfold doubled
    rw [String.toList_append]
    rw [List.mem_append, not_or]
    exact ⟨ih, ih⟩

/--
A directory whose path is too long to lead anywhere.
-/
def endless : Path :=
  ⟨doubled 12⟩

theorem not_programAt_endless {name : String} (hname : '/' ∉ name.toList) :
    fs.programAt (endless / name) ≠ .ok program := by
  intro h
  have ⟨_, _, _, hlookup⟩ := lookup_eq_ok_of_programAt h
  have hlimit := (admissible_of_lookup hlookup).le_limit
  have hlong : FileSystem.pathLimit < endless.text.utf8ByteSize := by
    unfold endless
    rw [utf8ByteSize_doubled]
    decide
  have hrelative : (Path.mk name).isAbsolute = false := by
    unfold Path.isAbsolute
    rw [decide_eq_false_iff_not]
    intro hhead
    exact hname (List.mem_of_mem_head? hhead)
  have hle := Path.utf8ByteSize_le_join hrelative endless
  exact hlimit (Nat.lt_of_lt_of_le hlong hle)

theorem not_answersIn_endless {name : String} (hname : '/' ∉ name.toList) :
    ¬AnswersIn fs name [endless] version := by
  intro h
  have ⟨program, hprogram, _⟩ := h
  have ⟨directory, hdirectory, hat⟩ := exists_programAt_of_programIn hprogram
  rw [List.mem_singleton.1 hdirectory] at hat
  exact not_programAt_endless hname hat

theorem answersAt_of_answersIn {name : String} {directories : List Path}
    (h : AnswersIn fs name directories version) :
    ∃ directory ∈ directories, AnswersAt fs (directory / name) version := by
  have ⟨program, hprogram, hanswers⟩ := h
  have ⟨directory, hdirectory, hat⟩ := exists_programAt_of_programIn hprogram
  exact ⟨directory, hdirectory, program, hat, hanswers⟩

theorem answersIn_singleton {name : String} {directory : Path}
    (h : AnswersAt fs (directory / name) version) : AnswersIn fs name [directory] version := by
  have ⟨program, hat, hanswers⟩ := h
  exact ⟨program, programIn_singleton hat, hanswers⟩

theorem commandDirectories_onPath (path : String) (w : World) :
    ((onPath path).apply w).environment.commandDirectories = Environment.splitPaths path := rfl

/--
An executable that is looked up by its name does not depend on the variables only where no directory
that they can name has anything under that name that answers.
-/
theorem ignoresSearch_iff_of_bare (hpath : settings.javaPath = some path) (h : '/' ∉ path.chars)
    (hne : path.text ≠ "") :
    IgnoresSearch settings cell w ↔ ¬w.files.isFile path ∨
      ∀ directory : Path, ':' ∉ directory.chars →
        ∀ version, ¬AnswersAt w.files (directory / path.text) version := by
  constructor
  . intro hignores
    by_cases hfile : w.files.isFile path
    . apply Or.inr
      intro directory hcolon version hat
      have hsame := (resolved_eq_iff hpath _ _).1
        (hignores (onPath endless.text) (onPath directory.text))
      have hanswers : Answers ((onPath directory.text).apply w).toMachine path version := by
        rw [answers_iff_of_bare h hne]
        rw [commandDirectories_onPath]
        rw [splitPaths_of_not_mem hcolon]
        exact ⟨hfile, answersIn_singleton hat⟩
      have hletters : ':' ∉ endless.chars := colon_not_mem_doubled 12
      have hendless := answers_of_resolveConfigured_eq hsame hanswers
      rw [answers_iff_of_bare h hne] at hendless
      rw [commandDirectories_onPath] at hendless
      rw [splitPaths_of_not_mem hletters] at hendless
      exact not_answersIn_endless h hendless.2
    . exact .inl hfile
  . intro hnothing vars others
    rw [resolved_eq_iff hpath]
    apply resolveConfigured_congr
    have hsilent : ∀ (vars : SearchVariables) version,
        ¬Answers (vars.apply w).toMachine path version := by
      intro vars version hanswers
      rw [answers_iff_of_bare h hne] at hanswers
      cases hnothing with
      | inl hfile => exact hfile hanswers.1
      | inr hnothing =>
        have ⟨directory, hdirectory, hat⟩ := answersAt_of_answersIn hanswers.2
        exact hnothing directory (colon_not_mem_of_mem_splitPaths hdirectory) version hat
    intro version
    exact iff_of_false (hsilent vars version) (hsilent others version)

theorem ignoresSearch_of_slash (hpath : settings.javaPath = some path) (h : '/' ∈ path.chars) :
    IgnoresSearch settings cell w := by
  intro vars others
  rw [resolved_eq_iff hpath]
  apply resolveConfigured_congr
  intro version
  rw [answers_iff_of_slash h, answers_iff_of_slash h]
  rfl

/--
What becomes of a path that has been configured for Java.
-/
structure Probes (settings : Settings) (path : Path) (cell : Settled Runtime) (w : World) :
    Prop where
  verdict : ∀ vars : SearchVariables,
    Verdict (vars.apply w).toMachine path (resolved settings cell (vars.apply w)).1
  /-- A path with a slash is run as it is. -/
  exact : '/' ∈ path.chars → ∀ (vars : SearchVariables) version,
    Answers (vars.apply w).toMachine path version ↔ AnswersAt w.files path version
  /-- A path without one is looked for in the working directory, and then a program of that name is
  run that is found elsewhere. -/
  byName : '/' ∉ path.chars → ∀ (vars : SearchVariables) version,
    Answers (vars.apply w).toMachine path version ↔ w.files.isFile path ∧
      AnswersIn w.files path.text (vars.apply w).environment.commandDirectories version
  /-- So the variables do not matter exactly if there is a slash, or no such file, or nowhere a
  program of that name that answers. -/
  ignoresSearch_iff : IgnoresSearch settings cell w ↔
    '/' ∈ path.chars ∨ ¬w.files.isFile path ∨
      ∀ directory : Path, ':' ∉ directory.chars →
        ∀ version, ¬AnswersAt w.files (directory / path.text) version
  /-- The home of Java and the extensions of executables never matter. -/
  onlyPath : ∀ vars others : SearchVariables, vars.path = others.path →
    resolved settings cell (vars.apply w) = resolved settings cell (others.apply w)
  /-- The path is what has been written in the file, expanded. It holds a slash unless it is a single
  step from the working directory. -/
  shape : ∃ home written, path = Path.expand home written ∧
    ('/' ∈ path.chars ↔ path.isAbsolute ∨ 2 ≤ path.components.length)

theorem probes_of_load {files : FileSystem} {home : Option Path} {file : Path}
    (hload : Settings.load files home file = .ok settings) (hpath : settings.javaPath = some path)
    (cell : Settled Runtime) (w : World) : Probes settings path cell w := by
  have ⟨written, hwritten⟩ := exists_expand_of_load hload hpath
  have hne : path.text ≠ "" := by
    rw [hwritten]
    exact Path.text_expand_ne_empty home written
  constructor
  case verdict =>
    intro vars
    rw [resolved_eq_settled hpath]
    rw [settled_fst]
    exact verdict_resolveConfigured _ path
  case exact =>
    intro hslash vars version
    exact answers_iff_of_slash hslash
  case byName =>
    intro hslash vars version
    exact answers_iff_of_bare hslash hne
  case ignoresSearch_iff =>
    by_cases hslash : '/' ∈ path.chars
    . exact iff_of_true (ignoresSearch_of_slash hpath hslash) (.inl hslash)
    . rw [ignoresSearch_iff_of_bare hpath hslash hne]
      simp only [hslash, false_or]
  case onlyPath =>
    intro vars others hsame
    rw [resolved_eq_iff hpath]
    apply resolveConfigured_congr
    intro version
    rw [answers_iff_program, answers_iff_program]
    unfold SearchVariables.apply Environment.commandDirectories
    rw [hsame]
  case shape =>
    refine ⟨home, written, hwritten, ?_⟩
    rw [hwritten]
    exact Path.slash_mem_expand_iff

end Search

def java22 : Program :=
  fun _ _ => ⟨.exited 0, .empty, "openjdk version \"22.0.1\" 2024-04-16\n".toUTF8⟩

/--
A world where Java lies in the working directory, and is configured as `./java`.
-/
def worldWithJava : World where
  files := {
    entries := [
      (["config"], .file "java.path='./java'".toUTF8 0 none),
      (["java"], .file .empty 0 (some java22))]
    workingDirectory := []
    temporaryDirectory := "/tmp"
    device := fun _ => 0 }
  environment := {}
  executable := "/launcher"
  now := 0
  web := fun _ _ => none
  host := .steady true
  events := []

def settingsWithJava : Settings :=
  { javaPath := some "java" }

theorem load_settingsWithJava :
    Settings.load worldWithJava.files none "/config" = .ok settingsWithJava := by
  decide +kernel

theorem probes_of_load_on_worldWithJava :
    Settings.load worldWithJava.files none "/config" = .ok settingsWithJava ∧
      settingsWithJava.javaPath = some "java" ∧
      Probes settingsWithJava "java" .pending worldWithJava :=
  ⟨load_settingsWithJava, rfl, probes_of_load load_settingsWithJava rfl .pending worldWithJava⟩

/--
Written as `./java`, the executable in the working directory loses its slash as it is loaded, and is
then found or not as commands are searched.
-/
theorem exists_configured_not_ignoresSearch :
    ∃ (w : World) (file path : Path) (settings : Settings),
      Settings.load w.files w.environment.home file = .ok settings ∧
      settings.javaPath = some path ∧
      (resolved settings .pending ((onPath ".").apply w)).1 = .ok ⟨path, 22⟩ ∧
      (resolved settings .pending ((onPath "nowhere").apply w)).1 =
        .error (.invalidConfiguredPath path) ∧
      ¬IgnoresSearch settings .pending w := by
  have hfound : (resolved settingsWithJava .pending ((onPath ".").apply worldWithJava)).1 =
      .ok ⟨"java", 22⟩ := by
    decide +kernel
  have hlost : (resolved settingsWithJava .pending ((onPath "nowhere").apply worldWithJava)).1 =
      .error (.invalidConfiguredPath "java") := by
    decide +kernel
  refine ⟨worldWithJava, "/config", "java", settingsWithJava, load_settingsWithJava, rfl, hfound,
    hlost, ?_⟩
  intro hignores
  rw [hignores (onPath ".") (onPath "nowhere")] at hfound
  rw [hlost] at hfound
  cases hfound

end ServerLauncher.Java
