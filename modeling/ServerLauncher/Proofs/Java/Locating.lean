import ServerLauncher.Proofs.Java.Configured

/-!
This module contains the search for Java. The main statements tell which runtime is found, in terms of
the directories and names in their order and of what the programs there answer, and that a runtime
which is too old hides none but those under later names in its own directory.
-/

namespace ServerLauncher.Java

/--
The entries of a variable that holds a list: the texts between its colons. If it is not set there are
none.
-/
inductive Lists : Option String → List String → Prop where
  | unset : Lists none []
  | set {entries : List String} (hne : entries ≠ [])
    (hcolon : ∀ entry ∈ entries, ':' ∉ entry.toList) :
    Lists (some (String.ofList (Text.joinPieces ':' (entries.map String.toList)))) entries

/--
The names among some that have been written, each of them once, in the order in which they come first.
-/
structure FirstNames (written names : List String) : Prop where
  mem_iff : ∀ name, name ∈ names ↔ name ∈ written
  inOrder : names.Pairwise fun name other => written.idxOf name < written.idxOf other

/--
A directory counts by the first of the names under which a program answers.
-/
def IsCandidate (fs : FileSystem) (names : List String) (directory : Path) (runtime : Runtime) :
    Prop :=
  ∃ (before : List String) (name : String) (after : List String),
    names = before ++ name :: after ∧ runtime.path = directory / name ∧
    AnswersAt fs runtime.path runtime.version ∧
    ∀ other ∈ before, ∀ version, ¬AnswersAt fs (directory / other) version

/--
The runtime that a directory counts by is new enough.
-/
def Qualifies (fs : FileSystem) (names : List String) (directory : Path) : Prop :=
  ∃ runtime, IsCandidate fs names directory runtime ∧ minimumVersion ≤ runtime.version

section Entries

variable {written : List String}

theorem exists_lists_splitPaths (text : String) :
    ∃ entries, Lists (some text) entries ∧ Environment.splitPaths text = entries.map Path.mk := by
  refine ⟨(Text.pieces ':' text.toList).map String.ofList, ?_, ?_⟩
  . have hpieces : ((Text.pieces ':' text.toList).map String.ofList).map String.toList =
        Text.pieces ':' text.toList := by
      simp [Function.comp_def]
    have hset := @Lists.set ((Text.pieces ':' text.toList).map String.ofList)
      (by simp [Text.pieces_ne_nil]) ?_
    . rw [hpieces] at hset
      rw [Text.joinPieces_pieces] at hset
      rw [String.ofList_toList] at hset
      exact hset
    . intro entry hentry
      have ⟨piece, hpiece, heq⟩ := List.mem_map.1 hentry
      rw [← heq]
      rw [String.toList_ofList]
      exact Text.sep_not_mem_of_mem_pieces hpiece
  . unfold Environment.splitPaths
    simp [Function.comp_def]

/--
Leaving out others does not change which of two names comes first.
-/
theorem idxOf_lt_of_filter {keep : String → Bool} {name other : String} (hname : keep name)
    (hother : keep other)
    (h : (written.filter keep).idxOf name < (written.filter keep).idxOf other) :
    written.idxOf name < written.idxOf other := by
  induction written with
  | nil => exact absurd h (Nat.lt_irrefl _)
  | cons first rest ih =>
    rw [List.idxOf_cons, List.idxOf_cons]
    by_cases hkeep : keep first
    . rw [List.filter_cons_of_pos hkeep] at h
      rw [List.idxOf_cons, List.idxOf_cons] at h
      grind
    . rw [List.filter_cons_of_neg hkeep] at h
      have hne : ∀ kept, keep kept → (first == kept) = false := by
        intro kept hkept
        rw [beq_eq_false_iff_ne]
        intro heq
        exact hkeep (heq ▸ hkept)
      rw [hne name hname, hne other hother]
      exact Nat.succ_lt_succ (ih h)

theorem inOrder_eraseDups (written : List String) :
    written.eraseDups.Pairwise fun name other => written.idxOf name < written.idxOf other := by
  cases written with
  | nil => simp
  | cons first rest =>
    rw [List.eraseDups_cons]
    have hkept : ∀ name ∈ (rest.filter fun name => !name == first).eraseDups,
        (!name == first) = true := by
      intro name hname
      exact (List.mem_filter.1 (List.mem_eraseDups.1 hname)).2
    rw [List.pairwise_cons]
    constructor
    . intro name hname
      have hne := hkept name hname
      rw [List.idxOf_cons_self]
      rw [List.idxOf_cons]
      grind
    . have hrest := inOrder_eraseDups (rest.filter fun name => !name == first)
      refine List.Pairwise.imp_of_mem ?_ hrest
      intro name other hname hother hless
      have hbehind := idxOf_lt_of_filter (hkept name hname) (hkept other hother) hless
      rw [List.idxOf_cons, List.idxOf_cons]
      grind
termination_by written.length
decreasing_by exact Nat.lt_succ_of_le (List.length_filter_le _ _)

theorem firstNames_eraseDups (written : List String) : FirstNames written written.eraseDups :=
  ⟨fun _ => List.mem_eraseDups, inOrder_eraseDups written⟩

end Entries

section Directories

variable {m : Machine} {places : Places} {directory : Path} {runtime : Runtime} {name : String}

theorem slash_mem_div (hdirectory : directory.text ≠ "")
    (hname : (Path.mk name).isAbsolute = false) : '/' ∈ (directory / name).chars := by
  show '/' ∈ (directory.join ⟨name⟩).chars
  unfold Path.join
  rw [hname]
  rw [if_neg Bool.false_ne_true]
  split
  . next hslash =>
    rw [Bool.or_eq_true, decide_eq_true_eq, decide_eq_true_eq] at hslash
    have hlast := hslash.resolve_left hdirectory
    unfold Path.chars at hlast ⊢
    rw [String.toList_append]
    exact List.mem_append_left _ (List.mem_of_getLast? hlast)
  . unfold Path.chars
    simp

theorem lists_directories (places : Places) :
    ∃ entries, Lists places.path entries ∧ places.directories =
      (places.javaHome.map (· / "bin")).toList ++ (entries.filter (· ≠ "")).map Path.mk := by
  unfold Places.directories
  cases hpath : places.path with
  | none =>
    refine ⟨[], .unset, ?_⟩
    cases places.javaHome <;> rfl
  | some text =>
    have ⟨entries, hlists, hsplit⟩ := exists_lists_splitPaths text
    refine ⟨entries, hlists, ?_⟩
    dsimp only
    rw [Option.map_some, Option.getD_some]
    rw [hsplit]
    rw [List.filter_map]
    cases places.javaHome <;> rfl

theorem text_ne_empty_of_mem_directories (h : directory ∈ places.directories) :
    directory.text ≠ "" := by
  unfold Places.directories at h
  cases List.mem_append.1 h with
  | inl hhome =>
    have ⟨home, _, heq⟩ := List.mem_map.1 hhome
    rw [← heq]
    exact Path.text_div_ne_empty ⟨by decide, by decide, by decide, by decide⟩ home
  | inr hpath => exact of_decide_eq_true (List.mem_filter.1 hpath).2

theorem executableNames_of_some {text : String} (h : places.pathExtensions = some text) :
    ∃ entries, Lists (some text) entries ∧
      places.executableNames = (entries.map ("java" ++ ·)).eraseDups := by
  have ⟨entries, hlists, hsplit⟩ := exists_lists_splitPaths text
  refine ⟨entries, hlists, ?_⟩
  unfold Places.executableNames
  rw [h]
  dsimp only
  rw [hsplit]
  rw [List.map_map]
  rfl

theorem isAbsolute_of_mem_executableNames (h : name ∈ places.executableNames) :
    (Path.mk name).isAbsolute = false := by
  have hjava : ∀ ending : String, (Path.mk ("java" ++ ending)).isAbsolute = false := by
    intro ending
    unfold Path.isAbsolute Path.chars
    rw [String.toList_append]
    rfl
  cases hextensions : places.pathExtensions with
  | none =>
    unfold Places.executableNames at h
    rw [hextensions] at h
    rw [List.mem_singleton.1 h]
    exact hjava ""
  | some text =>
    have ⟨entries, _, hnames⟩ := executableNames_of_some hextensions
    rw [hnames] at h
    have ⟨ending, _, heq⟩ := List.mem_map.1 (List.mem_eraseDups.1 h)
    rw [← heq]
    exact hjava ending

/--
What is found in a directory is run by its path, wherever commands are looked up.
-/
theorem probe_div_eq_some_iff (hdirectory : directory.text ≠ "")
    (hname : name ∈ places.executableNames) :
    probe m (directory / name) = some runtime ↔
      runtime.path = directory / name ∧ AnswersAt m.files runtime.path runtime.version := by
  rw [probe_eq_some_iff]
  apply and_congr_right
  intro hpath
  rw [hpath]
  exact answers_iff_of_slash
    (slash_mem_div hdirectory (isAbsolute_of_mem_executableNames hname))

theorem probe_div_eq_none_iff (hdirectory : directory.text ≠ "")
    (hname : name ∈ places.executableNames) :
    probe m (directory / name) = none ↔ ∀ version, ¬AnswersAt m.files (directory / name) version := by
  rw [probe_eq_none_iff]
  apply forall_congr'
  intro version
  rw [answers_iff_of_slash
    (slash_mem_div hdirectory (isAbsolute_of_mem_executableNames hname))]

theorem findIn_eq_some_iff (hdirectory : directory.text ≠ "") :
    findIn m places directory = some runtime ↔
      IsCandidate m.files places.executableNames directory runtime := by
  unfold findIn IsCandidate
  rw [List.findSome?_eq_some_iff]
  constructor
  . intro h
    have ⟨before, name, after, hnames, hfound, hbefore⟩ := h
    have hname : name ∈ places.executableNames := by simp [hnames]
    have ⟨hpath, hanswers⟩ := (probe_div_eq_some_iff hdirectory hname).1 hfound
    refine ⟨before, name, after, hnames, hpath, hanswers, ?_⟩
    intro other hother
    have hmem : other ∈ places.executableNames := by simp [hnames, hother]
    exact (probe_div_eq_none_iff hdirectory hmem).1 (hbefore other hother)
  . intro h
    have ⟨before, name, after, hnames, hpath, hanswers, hbefore⟩ := h
    have hname : name ∈ places.executableNames := by simp [hnames]
    refine ⟨before, name, after, hnames, ?_, ?_⟩
    . exact (probe_div_eq_some_iff hdirectory hname).2 ⟨hpath, hanswers⟩
    . intro other hother
      have hmem : other ∈ places.executableNames := by simp [hnames, hother]
      exact (probe_div_eq_none_iff hdirectory hmem).2 (hbefore other hother)

/--
The runtime that a directory counts by, if it is new enough.
-/
def qualified (m : Machine) (places : Places) (directory : Path) : Option Runtime :=
  (findIn m places directory).filter fun runtime => minimumVersion ≤ runtime.version

theorem qualified_eq_some_iff (hdirectory : directory.text ≠ "") :
    qualified m places directory = some runtime ↔
      IsCandidate m.files places.executableNames directory runtime ∧
        minimumVersion ≤ runtime.version := by
  unfold qualified
  rw [Option.filter_eq_some_iff]
  rw [findIn_eq_some_iff hdirectory]
  rw [decide_eq_true_eq]

theorem qualified_eq_none_iff (hdirectory : directory.text ≠ "") :
    qualified m places directory = none ↔
      ¬Qualifies m.files places.executableNames directory := by
  unfold Qualifies
  rw [Option.eq_none_iff_forall_ne_some]
  simp only [ne_eq, qualified_eq_some_iff hdirectory, not_exists]

/--
The first directory that qualifies decides.
-/
theorem locate_eq (m : Machine) (places : Places) :
    locate m places = (places.directories.findSome? (qualified m places)).elim
      (.error (.notFound minimumVersion)) .ok := by
  unfold locate
  dsimp only
  split
  . next runtime hfound =>
    have hqualified : places.directories.findSome? (qualified m places) = some runtime := hfound
    rw [hqualified]
    rfl
  . next hfound =>
    have hqualified : places.directories.findSome? (qualified m places) = none := hfound
    rw [hqualified]
    rfl

theorem locate_eq_ok_iff_qualified :
    locate m places = .ok runtime ↔
      places.directories.findSome? (qualified m places) = some runtime := by
  rw [locate_eq]
  cases places.directories.findSome? (qualified m places) <;> simp

theorem locate_eq_error_iff_qualified {e : RuntimeError} :
    locate m places = .error e ↔
      e = .notFound minimumVersion ∧ places.directories.findSome? (qualified m places) = none := by
  rw [locate_eq]
  cases places.directories.findSome? (qualified m places) <;> simp [eq_comm]

theorem locate_eq_ok_iff :
    locate m places = .ok runtime ↔
      ∃ (before : List Path) (directory : Path) (after : List Path),
        places.directories = before ++ directory :: after ∧
        IsCandidate m.files places.executableNames directory runtime ∧
        minimumVersion ≤ runtime.version ∧
        ∀ earlier ∈ before, ¬Qualifies m.files places.executableNames earlier := by
  rw [locate_eq_ok_iff_qualified]
  rw [List.findSome?_eq_some_iff]
  apply exists_congr
  intro before
  apply exists_congr
  intro directory
  apply exists_congr
  intro after
  apply and_congr_right
  intro hdirectories
  have hne : ∀ listed ∈ before ++ directory :: after, listed.text ≠ "" := by
    rw [← hdirectories]
    intro listed hlisted
    exact text_ne_empty_of_mem_directories hlisted
  rw [qualified_eq_some_iff (hne directory (by simp))]
  rw [and_assoc]
  apply and_congr_right
  intro _
  apply and_congr_right
  intro _
  apply forall₂_congr
  intro earlier hearlier
  exact qualified_eq_none_iff (hne earlier (by simp [hearlier]))

theorem locate_eq_error_iff {e : RuntimeError} :
    locate m places = .error e ↔
      e = .notFound minimumVersion ∧
        ∀ directory ∈ places.directories, ¬Qualifies m.files places.executableNames directory := by
  rw [locate_eq_error_iff_qualified]
  rw [List.findSome?_eq_none_iff]
  apply and_congr_right
  intro _
  apply forall₂_congr
  intro directory hdirectory
  exact qualified_eq_none_iff (text_ne_empty_of_mem_directories hdirectory)

end Directories

section Search

variable {m : Machine} {places : Places} {directory : Path}

/--
How a search goes through the directories and through the names in each of them.
-/
structure SearchesInOrder (m : Machine) (places : Places) : Prop where
  /-- The home of Java comes first, and then the entries of the path that are not empty. -/
  directories : ∃ entries, Lists places.path entries ∧ places.directories =
    (places.javaHome.map (· / "bin")).toList ++ (entries.filter (· ≠ "")).map Path.mk
  names_of_unset : places.pathExtensions = none → places.executableNames = ["java"]
  names_of_set : ∀ text, places.pathExtensions = some text →
    ∃ entries, Lists (some text) entries ∧
      FirstNames (entries.map ("java" ++ ·)) places.executableNames
  /-- The first directory that qualifies decides. -/
  ok_iff : ∀ runtime, locate m places = .ok runtime ↔
    ∃ (before : List Path) (directory : Path) (after : List Path),
      places.directories = before ++ directory :: after ∧
      IsCandidate m.files places.executableNames directory runtime ∧
      minimumVersion ≤ runtime.version ∧
      ∀ earlier ∈ before, ¬Qualifies m.files places.executableNames earlier
  error_iff : ∀ e, locate m places = .error e ↔
    e = .notFound minimumVersion ∧
      ∀ directory ∈ places.directories, ¬Qualifies m.files places.executableNames directory
  /-- Without a directory that does not qualify, the search comes to the same. -/
  unaffected : ∀ (others : Places) (before : List Path) (directory : Path) (after : List Path),
    places.directories = before ++ directory :: after → others.directories = before ++ after →
    others.executableNames = places.executableNames →
    ¬Qualifies m.files places.executableNames directory → locate m others = locate m places

end Search

section Hiding

variable {m : Machine} {places : Places} {directory : Path} {name : String} {version : Nat}

/--
The search may come upon a program that is new enough.
-/
structure Suits (m : Machine) (places : Places) (directory : Path) (name : String) (version : Nat) :
    Prop where
  directory_mem : directory ∈ places.directories
  name_mem : name ∈ places.executableNames
  answers : AnswersAt m.files (directory / name) version
  le_version : minimumVersion ≤ version

/--
Under an earlier name the same directory has a program that is too old.
-/
def IsHidden (m : Machine) (places : Places) (directory : Path) (name : String) : Prop :=
  ∃ other ∈ places.executableNames,
    places.executableNames.idxOf other < places.executableNames.idxOf name ∧
    ∃ version, AnswersAt m.files (directory / other) version ∧ version < minimumVersion

theorem AnswersAt.unique {fs : FileSystem} {path : Path} {v w : Nat} (h : AnswersAt fs path v)
    (h' : AnswersAt fs path w) : v = w := by
  have ⟨program, hprogram, _, hv⟩ := h
  have ⟨program', hprogram', _, hw⟩ := h'
  rw [hprogram] at hprogram'
  cases hprogram'
  rw [hv] at hw
  exact Option.some.inj hw

theorem idxOf_eq_length {before after : List String} (h : name ∉ before) :
    (before ++ name :: after).idxOf name = before.length := by
  rw [List.idxOf_append]
  rw [if_neg h]
  rw [List.idxOf_cons_self]
  rw [Nat.zero_add]

theorem suits_of_isCandidate {runtime : Runtime} (hdirectory : directory ∈ places.directories)
    (h : IsCandidate m.files places.executableNames directory runtime)
    (hminimum : minimumVersion ≤ runtime.version) :
    ∃ name : String, runtime.path = directory / name ∧
      Suits m places directory name runtime.version ∧ ¬IsHidden m places directory name := by
  have ⟨before, name, after, hnames, hpath, hanswers, hbefore⟩ := h
  rw [hpath] at hanswers
  have hsuits : Suits m places directory name runtime.version :=
    ⟨hdirectory, by simp [hnames], hanswers, hminimum⟩
  refine ⟨name, hpath, hsuits, ?_⟩
  intro hhidden
  have ⟨other, _, hless, version, hother, _⟩ := hhidden
  have hname : name ∉ before := fun hmem => hbefore name hmem _ hanswers
  have hsilent : other ∉ before := fun hmem => hbefore other hmem _ hother
  rw [hnames] at hless
  rw [idxOf_eq_length hname] at hless
  rw [List.idxOf_append] at hless
  rw [if_neg hsilent] at hless
  exact absurd hless (Nat.not_lt.2 (Nat.le_add_left _ _))

/--
The first name that answers in a directory is either new enough or hides the others.
-/
theorem isHidden_of_not_qualifies (hsuits : Suits m places directory name version)
    (h : ¬Qualifies m.files places.executableNames directory) : IsHidden m places directory name := by
  have hne := text_ne_empty_of_mem_directories hsuits.directory_mem
  cases hfound : findIn m places directory with
  | none =>
    unfold findIn at hfound
    rw [List.findSome?_eq_none_iff] at hfound
    have hsilent := (probe_div_eq_none_iff hne hsuits.name_mem).1 (hfound name hsuits.name_mem)
    exact absurd hsuits.answers (hsilent version)
  | some runtime =>
    have hcandidate := (findIn_eq_some_iff hne).1 hfound
    have hold : runtime.version < minimumVersion := by
      apply Nat.lt_of_not_le
      intro hminimum
      exact h ⟨runtime, hcandidate, hminimum⟩
    have ⟨before, other, after, hnames, hpath, hanswers, hbefore⟩ := hcandidate
    rw [hpath] at hanswers
    have hother : other ∉ before := fun hmem => hbefore other hmem _ hanswers
    have hname : name ∉ before := fun hmem => hbefore name hmem _ hsuits.answers
    have hdiffer : other ≠ name := by
      intro heq
      rw [heq] at hanswers
      rw [hanswers.unique hsuits.answers] at hold
      exact absurd hsuits.le_version (Nat.not_le.2 hold)
    refine ⟨other, by simp [hnames], ?_, runtime.version, hanswers, hold⟩
    rw [hnames]
    rw [idxOf_eq_length hother]
    rw [List.idxOf_append]
    rw [if_neg hname]
    rw [List.idxOf_cons]
    rw [beq_eq_false_iff_ne.2 hdiffer]
    dsimp only [cond_false]
    omega

/--
What a search can overlook.
-/
structure HidesOnlySiblings (m : Machine) (places : Places) : Prop where
  /-- What is found is new enough, and it is not hidden. -/
  suits_of_ok : ∀ runtime, locate m places = .ok runtime →
    ∃ (directory : Path) (name : String), runtime.path = directory / name ∧
      Suits m places directory name runtime.version ∧ ¬IsHidden m places directory name
  /-- Something is found if anything that is new enough is not hidden. -/
  ok_iff : (∃ runtime, locate m places = .ok runtime) ↔
    ∃ directory name version, Suits m places directory name version ∧
      ¬IsHidden m places directory name
  error_iff : ∀ e, locate m places = .error e ↔
    e = .notFound minimumVersion ∧ ∀ directory name version,
      Suits m places directory name version → IsHidden m places directory name
  /-- Where there is but one name, nothing is hidden. -/
  not_isHidden_of_unset : places.pathExtensions = none → ∀ directory name version,
    Suits m places directory name version → ¬IsHidden m places directory name

def java17 : Program :=
  fun _ _ => ⟨.exited 0, .empty, "openjdk version \"17.0.9\" 2023-10-17\n".toUTF8⟩

/--
A machine with two programs that answer like Java in one directory.
-/
def machineWithSiblings : Machine where
  files := {
    entries := [
      (["bin"], .directory),
      (["java", "bin"], .file .empty 0 (some java17)),
      (["java.sh", "bin"], .file .empty 0 (some java22))]
    workingDirectory := []
    temporaryDirectory := "/tmp"
    device := fun _ => 0 }
  environment := {}
  executable := "/launcher"

def placesWithSiblings : Places :=
  { path := some "/bin", pathExtensions := some ":.sh" }

end Hiding

end ServerLauncher.Java
