import ServerLauncher.Distribution.Cache
import ServerLauncher.Proofs.FileSystem.Walk
import ServerLauncher.Proofs.Keyed
import ServerLauncher.Proofs.Version.Order
import ServerLauncher.Proofs.Version.Reading

/-!
This module contains lemmas about the directory of downloaded servers: a jar that is there is found
by listing the directory, and no compatible one is newer than the one that is chosen.
-/

namespace ServerLauncher

namespace FileSystem

theorem mem_namesIn {fs : FileSystem} {x : Location} {name : String} {entry : Entry}
    (h : fs.find? (name :: x) = some entry) : name ∈ fs.namesIn x := by
  unfold find? at h
  rw [if_neg (by simp)] at h
  unfold namesIn
  rw [List.mem_filterMap]
  exact ⟨(name :: x, entry), Keyed.mem_of_get?_eq_some h, by simp⟩

theorem list_eq_of_place {fs : FileSystem} {p : Path} {x : Location}
    (h : fs.place true p = .ok (.occupied x .directory)) : fs.list p = .ok (fs.namesIn x) := by
  unfold list lookup
  rw [h]
  rfl

theorem place_of_isFile {fs : FileSystem} {p : Path} (h : fs.isFile p) :
    ∃ place, fs.place true p = .ok place := by
  unfold isFile lookup at h
  cases hplace : fs.place true p with
  | ok place => exact ⟨place, rfl⟩
  | error e =>
    rw [hplace] at h
    cases h

theorem mem_list_of_isFile {fs : FileSystem} {root : Path} {directory name : String}
    (hroot : root.text ≠ "") (hdirectory : Path.IsName directory) (hname : Path.IsName name)
    (h : fs.isFile (root / directory / name)) :
    ∃ names, fs.list root = .ok names ∧ directory ∈ names := by
  have ⟨place, hplace⟩ := place_of_isFile h
  have hne := Path.text_div_ne_empty hdirectory root
  have ⟨y, _, hinner, _⟩ := place_of_place_div hne hname hplace
  have ⟨x, via, houter, hwalks⟩ := place_of_place_div hroot hdirectory hinner
  refine ⟨fs.namesIn x, list_eq_of_place houter, ?_⟩
  have ⟨_, hlast⟩ := hwalks.singleton hdirectory
  -- The directory is listed also if it is a link.
  rcases hlast with ⟨hvacant, _⟩ | ⟨⟨entry, _, hfind⟩, _⟩ | ⟨_, target, hfind⟩
  . cases hvacant
  . exact mem_namesIn hfind
  . exact mem_namesIn hfind

end FileSystem

namespace Version

theorem isName_text {v : Version} (h : v.WellFormed) : Path.IsName v.text := by
  have ⟨c, hhead, hdigit⟩ := head?_text v
  constructor
  . intro heq
    rw [heq] at hhead
    cases hhead
  . intro heq
    rw [heq] at hhead
    cases hhead
    cases hdigit
  . intro heq
    rw [heq] at hhead
    cases hhead
    cases hdigit
  . exact not_mem_text h (by decide) (by decide) (by decide)

end Version

namespace Distribution.Cache

def jarName (v : Version) : String :=
  "pkl-lsp-" ++ v.text ++ ".jar"

theorem toList_jarName (v : Version) :
    (jarName v).toList = "pkl-lsp-".toList ++ v.text.toList ++ ".jar".toList := by
  simp [jarName]

theorem getLast?_jarName (v : Version) : (jarName v).toList.getLast? = some 'r' := by
  rw [toList_jarName]
  rw [List.getLast?_append]
  rfl

theorem isName_jarName {v : Version} (h : v.WellFormed) : Path.IsName (jarName v) := by
  have hslash := (Version.isName_text h).slash_not_mem
  have hlast := getLast?_jarName v
  constructor
  . intro heq
    rw [heq] at hlast
    cases hlast
  . intro heq
    rw [heq] at hlast
    cases hlast
  . intro heq
    rw [heq] at hlast
    cases hlast
  . rw [toList_jarName]
    simp [hslash]

variable {cache : Cache} {files : FileSystem} {v reference : Version} {d : Distribution}

theorem wellFormed_of_mem_scan (h : v ∈ cache.scan files) : v.WellFormed := by
  unfold scan at h
  split at h
  . have ⟨name, _, hparse⟩ := List.mem_filterMap.1 h
    exact (Version.parse?_eq_some_iff.1 hparse).1
  . cases h

theorem mem_scan_of_contains (hroot : cache.root.text ≠ "") (hv : v.WellFormed)
    (h : cache.contains files v) : v ∈ cache.scan files := by
  have ⟨names, hlist, hmem⟩ :=
    FileSystem.mem_list_of_isFile hroot (Version.isName_text hv) (isName_jarName hv) h
  unfold scan
  rw [hlist]
  exact List.mem_filterMap.2 ⟨v.text, hmem, Version.parse?_eq_some_iff.2 ⟨hv, rfl⟩⟩

/--
A version that can be taken from the cache instead of a reference.
-/
structure Offers (cache : Cache) (files : FileSystem) (reference v : Version) : Prop where
  wellFormed : v.WellFormed
  isCompatible : v.isCompatibleWith reference
  contains : cache.contains files v

theorem mem_candidates_of_offers (hroot : cache.root.text ≠ "")
    (h : cache.Offers files reference v) :
    v ∈ (cache.scan files).filter fun v => v.isCompatibleWith reference :=
  List.mem_filter.2 ⟨mem_scan_of_contains hroot h.wellFormed h.contains, h.isCompatible⟩

theorem not_offers_of_bestCompatible_none (hroot : cache.root.text ≠ "")
    (h : cache.bestCompatible files reference = none) (v : Version) :
    ¬cache.Offers files reference v := by
  intro hv
  unfold bestCompatible at h
  rw [Option.map_eq_none_iff, List.find?_eq_none] at h
  apply h v
  . rw [Version.mem_descending]
    exact mem_candidates_of_offers hroot hv
  . exact hv.contains

theorem bestCompatible_eq_some (h : cache.bestCompatible files reference = some d) :
    d = cache.distribution d.version ∧ cache.Offers files reference d.version := by
  unfold bestCompatible at h
  rw [Option.map_eq_some_iff] at h
  have ⟨v, hfind, hd⟩ := h
  have hmem := List.mem_of_find?_eq_some hfind
  rw [Version.mem_descending, List.mem_filter] at hmem
  rw [← hd]
  exact ⟨rfl, wellFormed_of_mem_scan hmem.1, hmem.2, List.find?_some hfind⟩

theorem offers_of_bestCompatible (hroot : cache.root.text ≠ "")
    (h : cache.bestCompatible files reference = some d) :
    d = cache.distribution d.version ∧ cache.Offers files reference d.version ∧
      ∀ v, cache.Offers files reference v → ¬v.isNewerThan d.version := by
  have ⟨hd, hoffers⟩ := bestCompatible_eq_some h
  refine ⟨hd, hoffers, ?_⟩
  unfold bestCompatible at h
  have ⟨v, hfind, hv⟩ := Option.map_eq_some_iff.1 h
  rw [← hv]
  intro w hw
  apply Version.not_isNewerThan_of_find?_descending hfind
  . exact mem_candidates_of_offers hroot hw
  . exact hw.contains

end Distribution.Cache

end ServerLauncher
