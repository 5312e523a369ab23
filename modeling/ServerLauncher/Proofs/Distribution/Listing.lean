import ServerLauncher.Proofs.Distribution.Cache
import ServerLauncher.Proofs.FileSystem.Operations

/-!
This module contains how the choice from the directory of downloaded servers depends on the order in
which the directory is listed. Of several newest servers, which differ only in their pre-release and
build text, the one that is listed first is chosen.
-/

namespace ServerLauncher

namespace FileSystem

/--
The same files, where the names in the directories may come in another order.
-/
structure Relisted (fs fs' : FileSystem) : Prop extends SameTree fs fs' where
  names : ∀ x, (fs'.namesIn x).Perm (fs.namesIn x)

variable {fs fs' : FileSystem} {p : Path} {x : Location} {name : String}

theorem SameTree.lookup_eq (h : SameTree fs fs') (p : Path) : fs'.lookup p = fs.lookup p := by
  unfold lookup
  rw [h.place_eq]

theorem SameTree.isFile_eq (h : SameTree fs fs') (p : Path) : fs'.isFile p = fs.isFile p := by
  unfold isFile
  rw [h.lookup_eq]

theorem list_eq_ok_iff {names : List String} :
    fs.list p = .ok names ↔ ∃ x, fs.lookup p = .ok (x, .directory) ∧ names = fs.namesIn x := by
  unfold list
  cases hlookup : fs.lookup p with
  | error e =>
    constructor
    . intro h
      cases h
    . intro h
      have ⟨x, hx, _⟩ := h
      cases hx
  | ok found =>
    rcases found with ⟨x, entry⟩
    constructor
    . intro h
      cases entry with
      | directory =>
        cases h
        exact ⟨x, rfl, rfl⟩
      | file => cases h
      | link => cases h
    . intro h
      have ⟨y, hy, hnames⟩ := h
      cases hy
      rw [hnames]
      rfl

theorem Relisted.symm (h : Relisted fs fs') : Relisted fs' fs where
  ground := by
    unfold SameGround
    rw [h.ground]
  find?_eq y := (h.find?_eq y).symm
  names y := (h.names y).symm

theorem Relisted.list (h : Relisted fs fs') {names : List String} (hlist : fs.list p = .ok names) :
    ∃ names', fs'.list p = .ok names' ∧ names'.Perm names := by
  have ⟨x, hlookup, hnames⟩ := list_eq_ok_iff.1 hlist
  refine ⟨fs'.namesIn x, list_eq_ok_iff.2 ⟨x, ?_, rfl⟩, ?_⟩
  . rw [h.lookup_eq]
    exact hlookup
  . rw [hnames]
    exact h.names x

/--
The name that the place of an entry has in a directory.
-/
def nameIn? (x : Location) : Location → Option String
  | name :: parent => if parent = x then some name else none
  | [] => none

theorem namesIn_eq (fs : FileSystem) (x : Location) :
    fs.namesIn x = fs.entries.filterMap fun entry => nameIn? x entry.1 := by
  unfold namesIn
  apply List.filterMap_congr
  intro entry _
  rcases entry with ⟨location, _⟩
  cases location <;> rfl

theorem nameIn?_eq_some_iff {location : Location} :
    nameIn? x location = some name ↔ location = name :: x := by
  cases location with
  | nil => simp [nameIn?]
  | cons first parent => simp [nameIn?, and_comm]

/--
The first entry of a place can as well stand in front of all others.
-/
theorem relisted_middle {front back : Keyed Location Entry} {value : Entry}
    (hentries : fs.entries = front ++ (x, value) :: back) (hfront : ∀ entry ∈ front, entry.1 ≠ x) :
    Relisted fs { fs with entries := (x, value) :: (front ++ back) } where
  ground := rfl
  find?_eq y := by
    unfold find?
    rw [hentries]
    rw [Keyed.get?_middle hfront]
  names y := by
    rw [namesIn_eq, namesIn_eq]
    apply List.Perm.filterMap
    rw [hentries]
    exact List.perm_middle.symm

/--
Any name can be the first one that is listed.
-/
theorem exists_relisted (h : name ∈ fs.namesIn x) :
    ∃ fs' rest, Relisted fs fs' ∧ fs'.namesIn x = name :: rest := by
  rw [namesIn_eq] at h
  have ⟨entry, hentry, hname⟩ := List.mem_filterMap.1 h
  rw [nameIn?_eq_some_iff] at hname
  have hkey : name :: x ∈ fs.entries.map Prod.fst := List.mem_map.2 ⟨entry, hentry, hname⟩
  have ⟨front, value, back, hentries, hfront⟩ := Keyed.exists_first hkey
  refine ⟨_, (front ++ back).filterMap fun entry => nameIn? x entry.1,
    relisted_middle hentries hfront, ?_⟩
  rw [namesIn_eq]
  exact List.filterMap_cons_some (nameIn?_eq_some_iff.2 rfl)

end FileSystem

namespace Distribution.Cache

/--
A version that is listed and can be taken instead of a reference.
-/
structure IsAvailable (cache : Cache) (files : FileSystem) (reference v : Version) : Prop where
  mem_scan : v ∈ cache.scan files
  isCompatible : v.isCompatibleWith reference
  contains : cache.contains files v

/--
None of the available versions is newer. There may be several, which differ in pre-release or build
text.
-/
structure IsNewest (cache : Cache) (files : FileSystem) (reference v : Version) : Prop
    extends cache.IsAvailable files reference v where
  newest : ∀ w, cache.IsAvailable files reference w → ¬w.isNewerThan v

variable {cache : Cache} {files files' : FileSystem} {v w reference : Version} {d : Distribution}

theorem isNewest_iff_isBest (h : v ∈ cache.scan files) :
    cache.IsNewest files reference v ↔ v.isCompatibleWith reference ∧
      Version.isBest ((cache.scan files).filter fun v => v.isCompatibleWith reference)
        (cache.contains files) v := by
  rw [Version.isBest_iff]
  constructor
  . intro hnewest
    refine ⟨hnewest.isCompatible, hnewest.contains, ?_⟩
    intro w hw hcontains
    have ⟨hscan, hcompatible⟩ := List.mem_filter.1 hw
    exact hnewest.newest w ⟨hscan, hcompatible, hcontains⟩
  . intro hbest
    have ⟨hcompatible, hcontains, hnewest⟩ := hbest
    refine ⟨⟨h, hcompatible, hcontains⟩, ?_⟩
    intro w hw
    exact hnewest w (List.mem_filter.2 ⟨hw.mem_scan, hw.isCompatible⟩) hw.contains

theorem bestCompatible_eq_find? (cache : Cache) (files : FileSystem) (reference : Version) :
    cache.bestCompatible files reference =
      (((cache.scan files).filter fun v => v.isCompatibleWith reference).find?
        (Version.isBest ((cache.scan files).filter fun v => v.isCompatibleWith reference)
          (cache.contains files))).map cache.distribution := by
  rw [← Version.find?_descending]
  rfl

/--
Of the newest versions that are available, the one that is listed first is chosen.
-/
theorem bestCompatible_eq_some_iff :
    cache.bestCompatible files reference = some d ↔
      ∃ (before : List Version) (v : Version) (after : List Version),
        cache.scan files = before ++ v :: after ∧ cache.IsNewest files reference v ∧
        (∀ u ∈ before, ¬cache.IsNewest files reference u) ∧ d = cache.distribution v := by
  rw [bestCompatible_eq_find?]
  rw [Option.map_eq_some_iff]
  simp only [List.find?_filter, List.find?_eq_some_iff_append]
  constructor
  . intro h
    have ⟨v, ⟨hv, before, after, hscan, hbefore⟩, hd⟩ := h
    refine ⟨before, v, after, hscan, ?_, ?_, hd.symm⟩
    . rw [isNewest_iff_isBest (by simp [hscan])]
      exact of_decide_eq_true hv
    . intro u hu
      have hnot := hbefore u hu
      rw [Bool.not_eq_true', decide_eq_false_iff_not] at hnot
      rw [isNewest_iff_isBest (by simp [hscan, hu])]
      exact hnot
  . intro h
    have ⟨before, v, after, hscan, hv, hbefore, hd⟩ := h
    refine ⟨v, ⟨?_, before, after, hscan, ?_⟩, hd.symm⟩
    . rw [isNewest_iff_isBest (by simp [hscan])] at hv
      exact decide_eq_true hv
    . intro u hu
      have hnot := hbefore u hu
      rw [isNewest_iff_isBest (by simp [hscan, hu])] at hnot
      rw [Bool.not_eq_true', decide_eq_false_iff_not]
      exact hnot

theorem bestCompatible_eq_none_iff :
    cache.bestCompatible files reference = none ↔ ∀ v, ¬cache.IsAvailable files reference v := by
  unfold bestCompatible
  rw [Option.map_eq_none_iff, List.find?_eq_none]
  constructor
  . intro h v hv
    apply h v _ hv.contains
    rw [Version.mem_descending, List.mem_filter]
    exact ⟨hv.mem_scan, hv.isCompatible⟩
  . intro h v hv hcontains
    rw [Version.mem_descending, List.mem_filter] at hv
    exact h v ⟨hv.1, hv.2, hcontains⟩

theorem exists_isNewest_of_bestCompatible (h : cache.bestCompatible files reference = some d) :
    ∃ v, cache.IsNewest files reference v ∧ d = cache.distribution v := by
  have ⟨_, v, _, _, hv, _, hd⟩ := bestCompatible_eq_some_iff.1 h
  exact ⟨v, hv, hd⟩

theorem mem_scan_of_relisted (h : files.Relisted files') (hv : v ∈ cache.scan files) :
    v ∈ cache.scan files' := by
  unfold scan at hv ⊢
  cases hlist : files.list cache.root with
  | error e =>
    rw [hlist] at hv
    cases hv
  | ok names =>
    rw [hlist] at hv
    have ⟨names', hlist', hperm⟩ := h.list hlist
    rw [hlist']
    exact (hperm.filterMap _).mem_iff.2 hv

theorem IsAvailable.of_relisted (hv : cache.IsAvailable files reference v)
    (h : files.Relisted files') : cache.IsAvailable files' reference v where
  mem_scan := mem_scan_of_relisted h hv.mem_scan
  isCompatible := hv.isCompatible
  contains := by
    unfold Cache.contains
    rw [h.isFile_eq]
    exact hv.contains

theorem isAvailable_iff_of_relisted (h : files.Relisted files') :
    cache.IsAvailable files' reference v ↔ cache.IsAvailable files reference v :=
  ⟨fun hv => hv.of_relisted h.symm, fun hv => hv.of_relisted h⟩

theorem isNewest_iff_of_relisted (h : files.Relisted files') :
    cache.IsNewest files' reference v ↔ cache.IsNewest files reference v := by
  constructor
  . intro hv
    refine ⟨hv.of_relisted h.symm, ?_⟩
    intro w hw
    exact hv.newest w (hw.of_relisted h)
  . intro hv
    refine ⟨hv.of_relisted h, ?_⟩
    intro w hw
    exact hv.newest w (hw.of_relisted h.symm)

theorem IsNewest.triple_eq (hv : cache.IsNewest files reference v)
    (hw : cache.IsNewest files reference w) : v.triple = w.triple := by
  have hvw := hv.newest w hw.toIsAvailable
  have hwv := hw.newest v hv.toIsAvailable
  rw [Version.isNewerThan_iff] at hvw hwv
  unfold Version.triple
  rw [Prod.mk.injEq, Prod.mk.injEq]
  omega

/--
Some order of the listing puts a given version first.
-/
theorem exists_scan_eq_cons (h : v ∈ cache.scan files) :
    ∃ files' rest, files.Relisted files' ∧ cache.scan files' = v :: rest := by
  unfold scan at h
  cases hlist : files.list cache.root with
  | error e =>
    rw [hlist] at h
    cases h
  | ok names =>
    rw [hlist] at h
    have ⟨name, hname, hparse⟩ := List.mem_filterMap.1 h
    have ⟨x, hlookup, hnames⟩ := FileSystem.list_eq_ok_iff.1 hlist
    rw [hnames] at hname
    have ⟨files', rest, hrelisted, hnames'⟩ := FileSystem.exists_relisted hname
    refine ⟨files', rest.filterMap Version.parse?, hrelisted, ?_⟩
    have hlist' : files'.list cache.root = .ok (name :: rest) := by
      rw [FileSystem.list_eq_ok_iff]
      exact ⟨x, hrelisted.lookup_eq _ ▸ hlookup, hnames'.symm⟩
    unfold scan
    rw [hlist']
    exact List.filterMap_cons_some hparse

theorem exists_bestCompatible_eq (h : cache.IsNewest files reference v) :
    ∃ files', files.Relisted files' ∧
      cache.bestCompatible files' reference = some (cache.distribution v) := by
  have ⟨files', rest, hrelisted, hscan⟩ := exists_scan_eq_cons h.mem_scan
  refine ⟨files', hrelisted, ?_⟩
  rw [bestCompatible_eq_some_iff]
  exact ⟨[], v, rest, hscan, (isNewest_iff_of_relisted hrelisted).2 h, by simp, rfl⟩

/--
How the choice depends on the order in which the directory is listed.
-/
structure ChoosesFirstNewest (cache : Cache) (files : FileSystem) (reference : Version) : Prop where
  some_iff : ∀ d, cache.bestCompatible files reference = some d ↔
    ∃ (before : List Version) (v : Version) (after : List Version),
      cache.scan files = before ++ v :: after ∧ cache.IsNewest files reference v ∧
      (∀ u ∈ before, ¬cache.IsNewest files reference u) ∧ d = cache.distribution v
  none_iff : cache.bestCompatible files reference = none ↔
    ∀ v, ¬cache.IsAvailable files reference v
  /-- In any order the same versions are available, and the same ones are the newest. -/
  isAvailable_iff : ∀ files', files.Relisted files' → ∀ v,
    cache.IsAvailable files' reference v ↔ cache.IsAvailable files reference v
  isNewest_iff : ∀ files', files.Relisted files' → ∀ v,
    cache.IsNewest files' reference v ↔ cache.IsNewest files reference v
  /-- In any order the same release is chosen, or none. -/
  release_eq : ∀ files', files.Relisted files' →
    (cache.bestCompatible files' reference).map (·.version.triple) =
      (cache.bestCompatible files reference).map (·.version.triple)
  /-- The order does not matter exactly if there is no more than one newest version. -/
  independent_iff : (∀ files', files.Relisted files' →
      cache.bestCompatible files' reference = cache.bestCompatible files reference) ↔
    ∀ v w, cache.IsNewest files reference v → cache.IsNewest files reference w → v = w

theorem release_eq_of_relisted (cache : Cache) (reference : Version) (h : files.Relisted files') :
    (cache.bestCompatible files' reference).map (·.version.triple) =
      (cache.bestCompatible files reference).map (·.version.triple) := by
  cases hbest : cache.bestCompatible files reference with
  | none =>
    have hnone : cache.bestCompatible files' reference = none := by
      rw [bestCompatible_eq_none_iff] at *
      intro v hv
      exact hbest v (hv.of_relisted h.symm)
    rw [hnone]
  | some d =>
    have ⟨v, hv, hd⟩ := exists_isNewest_of_bestCompatible hbest
    have hsome : cache.bestCompatible files' reference ≠ none := by
      intro hnone
      rw [bestCompatible_eq_none_iff] at hnone
      exact hnone v (hv.toIsAvailable.of_relisted h)
    have ⟨d', hbest'⟩ := Option.ne_none_iff_exists'.1 hsome
    have ⟨w, hw, hd'⟩ := exists_isNewest_of_bestCompatible hbest'
    rw [hbest', hd, hd']
    have htriple := ((isNewest_iff_of_relisted h).1 hw).triple_eq hv
    exact congrArg some htriple

theorem chooses_first_newest (cache : Cache) (files : FileSystem) (reference : Version) :
    cache.ChoosesFirstNewest files reference := by
  constructor
  case some_iff =>
    intro d
    exact bestCompatible_eq_some_iff
  case none_iff => exact bestCompatible_eq_none_iff
  case isAvailable_iff =>
    intro files' h v
    exact isAvailable_iff_of_relisted h
  case isNewest_iff =>
    intro files' h v
    exact isNewest_iff_of_relisted h
  case release_eq =>
    intro files' h
    exact release_eq_of_relisted cache reference h
  case independent_iff =>
    constructor
    . intro hsame v w hv hw
      have ⟨files₁, h₁, hbest₁⟩ := exists_bestCompatible_eq hv
      have ⟨files₂, h₂, hbest₂⟩ := exists_bestCompatible_eq hw
      rw [hsame files₁ h₁] at hbest₁
      rw [hsame files₂ h₂, hbest₁] at hbest₂
      exact congrArg Distribution.version (Option.some.inj hbest₂)
    . intro hunique files' h
      cases hbest : cache.bestCompatible files reference with
      | none =>
        have hrelease := release_eq_of_relisted cache reference h
        rw [hbest] at hrelease
        exact Option.map_eq_none_iff.1 hrelease
      | some d =>
        have hrelease := release_eq_of_relisted cache reference h
        rw [hbest] at hrelease
        have ⟨d', hbest', _⟩ := Option.map_eq_some_iff.1 hrelease
        have ⟨v, hv, hd⟩ := exists_isNewest_of_bestCompatible hbest
        have ⟨w, hw, hd'⟩ := exists_isNewest_of_bestCompatible hbest'
        rw [hbest', hd, hd']
        rw [hunique w v ((isNewest_iff_of_relisted h).1 hw) hv]

/--
The directories and jars of two builds of the same release, one after the other.
-/
def filesOfBuilds : FileSystem where
  entries := [
    (["c"], .directory),
    (["0.6.1+a", "c"], .directory),
    (["pkl-lsp-0.6.1+a.jar", "0.6.1+a", "c"], .file .empty 0 none),
    (["0.6.1+b", "c"], .directory),
    (["pkl-lsp-0.6.1+b.jar", "0.6.1+b", "c"], .file .empty 0 none)]
  workingDirectory := []
  temporaryDirectory := "/tmp"
  device := fun _ => 0

/--
The same, where the second build is listed first.
-/
def filesOfBuildsRelisted : FileSystem :=
  { filesOfBuilds with entries :=
      (["0.6.1+b", "c"], .directory) :: (filesOfBuilds.entries.take 3 ++ filesOfBuilds.entries.drop 4) }

/--
Which of the two builds is chosen depends on the order in which they are listed.
-/
theorem exists_choice_depends_on_listing :
    ∃ (cache : Cache) (files files' : FileSystem) (reference : Version) (d d' : Distribution),
      files.Relisted files' ∧ cache.bestCompatible files reference = some d ∧
      cache.bestCompatible files' reference = some d' ∧ d.path ≠ d'.path ∧
      d.version.text ≠ d'.version.text := by
  refine ⟨⟨"/c"⟩, filesOfBuilds, filesOfBuildsRelisted, .ofNumbers 0 6 0,
    ⟨"/c/0.6.1+a/pkl-lsp-0.6.1+a.jar", ⟨0, 6, 1, none, some "a"⟩, .downloaded⟩,
    ⟨"/c/0.6.1+b/pkl-lsp-0.6.1+b.jar", ⟨0, 6, 1, none, some "b"⟩, .downloaded⟩, ?_, ?_, ?_, ?_, ?_⟩
  . exact FileSystem.relisted_middle rfl (by decide)
  . rw [bestCompatible_eq_find?]
    decide +kernel
  . rw [bestCompatible_eq_find?]
    decide +kernel
  . decide
  . decide +kernel

end Distribution.Cache

end ServerLauncher
