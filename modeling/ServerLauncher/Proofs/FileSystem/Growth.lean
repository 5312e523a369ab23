import Mathlib.Order.Defs.Unbundled
import ServerLauncher.FileSystem.Operations
import ServerLauncher.Proofs.FileSystem.Walk

/-!
This module contains the growth of file systems: directories and links stay, and what was missing may
become a directory or a file. The route of a path depends on nothing but the links, so that it stays
the same.
-/

namespace ServerLauncher.FileSystem

/--
Where some segments lead from a directory, and through which links, if all directories that are
missing were made.
-/
inductive Route (fs : FileSystem) (final : Bool) :
    Location → List String → List Location → Location → Prop where
  | stop (x : Location) : Route fs final x [] [] x
  | idle {x y : Location} {segment : String} {rest : List String} {via : List Location}
    (hsegment : segment = "" ∨ segment = ".") (hrest : Route fs final x rest via y) :
    Route fs final x (segment :: rest) via y
  | up {x y : Location} {rest : List String} {via : List Location}
    (hrest : Route fs final x.tail rest via y) : Route fs final x (".." :: rest) via y
  | enter {x y : Location} {segment : String} {rest : List String} {via : List Location}
    (hname : IsEntryName segment) (hfind : ∀ target, fs.find? (segment :: x) ≠ some (.link target))
    (hrest : Route fs final (segment :: x) rest via y) : Route fs final x (segment :: rest) via y
  | keep {x : Location} {segment : String} {target : Path} (hname : IsEntryName segment)
    (hfind : fs.find? (segment :: x) = some (.link target)) (hfinal : final = false) :
    Route fs final x [segment] [] (segment :: x)
  | follow {x y : Location} {segment : String} {rest : List String} {target : Path}
    {via : List Location} (hname : IsEntryName segment)
    (hfind : fs.find? (segment :: x) = some (.link target)) (hfinal : rest = [] → final = true)
    (hrest : Route fs final (linkStart target x) (steps target ++ rest) via y) :
    Route fs final x (segment :: rest) ((segment :: x) :: via) y

/--
The place that a path leads to if all directories that are missing were made.
-/
def LeadsTo (fs : FileSystem) (final : Bool) (p : Path) (x : Location) : Prop :=
  ∃ via, Route fs final (fs.startOf p) (steps p) via x

/--
The way of a path goes through the link at a place.
-/
def PassesThrough (fs : FileSystem) (p : Path) (d : Location) : Prop :=
  ∃ via x, Route fs true (fs.startOf p) (steps p) via x ∧ d ∈ via

variable {fs fs' fs'' : FileSystem} {final : Bool} {x y : Location}
  {segments front rest : List String} {via : List Location} {place : Place} {p : Path}

theorem route_of_all_empty (h : rest.all (· = "")) (x : Location) : Route fs final x rest [] x := by
  induction rest with
  | nil => exact .stop x
  | cons segment rest ih =>
    simp only [List.all_cons, Bool.and_eq_true, decide_eq_true_eq] at h
    exact .idle (.inl h.1) (ih h.2)

theorem Walks.route (h : Walks fs final x segments via place) :
    Route fs final x segments via place.location := by
  induction h with
  | stop x => exact .stop x
  | idle hsegment _ ih => exact .idle hsegment ih
  | up _ ih => exact .up ih
  | missing hname hfind hrest =>
    apply Route.enter hname
    . simp [hfind]
    . exact route_of_all_empty hrest _
  | enter hname hfind _ ih =>
    apply Route.enter hname
    . simp [hfind]
    . exact ih
  | file hname hfind =>
    apply Route.enter hname
    . simp [hfind]
    . exact .stop _
  | keep hname hfind hfinal => exact .keep hname hfind hfinal
  | follow hname hfind hfinal _ ih => exact .follow hname hfind hfinal ih

theorem leadsTo_of_place (h : fs.place final p = .ok place) : fs.LeadsTo final p place.location := by
  have ⟨_, via, hwalks, _⟩ := place_eq_ok_iff.1 h
  exact ⟨via, hwalks.route⟩

theorem Route.unique {y' : Location} {via' : List Location}
    (h : Route fs final x segments via y) (h' : Route fs final x segments via' y') :
    via' = via ∧ y' = y := by
  induction h generalizing via' with
  | stop =>
    cases h'
    exact ⟨rfl, rfl⟩
  | idle hsegment _ ih =>
    cases h' with
    | idle _ hrest => exact ih hrest
    | up => simp at hsegment
    | enter hname => exact absurd hsegment hname.ne_idle
    | keep hname => exact absurd hsegment hname.ne_idle
    | follow hname => exact absurd hsegment hname.ne_idle
  | up _ ih =>
    cases h' with
    | idle hsegment => simp at hsegment
    | up hrest => exact ih hrest
    | enter hname => exact absurd rfl hname.ne_dots
    | keep hname => exact absurd rfl hname.ne_dots
    | follow hname => exact absurd rfl hname.ne_dots
  | enter hname hfind _ ih =>
    cases h' with
    | idle hsegment => exact absurd hsegment hname.ne_idle
    | up => exact absurd rfl hname.ne_dots
    | enter _ _ hrest => exact ih hrest
    | keep _ hlink => exact absurd hlink (hfind _)
    | follow _ hlink => exact absurd hlink (hfind _)
  | keep hname hfind hfinal =>
    cases h' with
    | idle hsegment => exact absurd hsegment hname.ne_idle
    | up => exact absurd rfl hname.ne_dots
    | enter _ hnone => exact absurd hfind (hnone _)
    | keep => exact ⟨rfl, rfl⟩
    | follow _ _ hfollow => simp [hfinal] at hfollow
  | follow hname hfind hfinal _ ih =>
    cases h' with
    | idle hsegment => exact absurd hsegment hname.ne_idle
    | up => exact absurd rfl hname.ne_dots
    | enter _ hnone => exact absurd hfind (hnone _)
    | keep _ _ hkeep => simp [hkeep] at hfinal
    | follow _ hlink _ hrest =>
      rw [hfind] at hlink
      cases hlink
      have ⟨hvia, hy⟩ := ih hrest
      rw [hvia]
      exact ⟨rfl, hy⟩

theorem LeadsTo.unique {x' : Location} (h : fs.LeadsTo final p x) (h' : fs.LeadsTo final p x') :
    x' = x := by
  have ⟨_, hroute⟩ := h
  have ⟨_, hroute'⟩ := h'
  exact (hroute.unique hroute').2

theorem Walks.transfer_of_occupied {entry : Entry}
    (h : Walks fs final x segments via (.occupied y entry))
    (hdirectory : ∀ z, fs.find? z = some .directory → fs'.find? z = some .directory)
    (hlink : ∀ z ∈ via, fs'.find? z = fs.find? z)
    (hlast : entry ≠ .directory → fs'.find? y = fs.find? y) :
    Walks fs' final x segments via (.occupied y entry) := by
  generalize hplace : Place.occupied y entry = place at h
  -- The way goes through directories, which stay, and through the links of `via` only.
  induction h with
  | stop =>
    cases hplace
    exact .stop _
  | idle hsegment _ ih => exact .idle hsegment (ih hlink hplace)
  | up _ ih => exact .up (ih hlink hplace)
  | missing => cases hplace
  | enter hname hfind _ ih => exact .enter hname (hdirectory _ hfind) (ih hlink hplace)
  | file hname hfind =>
    cases hplace
    rw [← hlast (by simp)] at hfind
    exact .file hname hfind
  | keep hname hfind hfinal =>
    cases hplace
    rw [← hlast (by simp)] at hfind
    exact .keep hname hfind hfinal
  | follow hname hfind hfinal _ ih =>
    rw [← hlink _ List.mem_cons_self] at hfind
    apply Walks.follow hname hfind hfinal
    apply ih
    . intro z hz
      exact hlink z (List.mem_cons_of_mem _ hz)
    . exact hplace

theorem Walks.transfer (h : Walks fs true x segments via (.occupied y .directory))
    (hdirectory : ∀ z, fs.find? z = some .directory → fs'.find? z = some .directory)
    (hlink : ∀ z ∈ via, fs'.find? z = fs.find? z) :
    Walks fs' true x segments via (.occupied y .directory) :=
  h.transfer_of_occupied hdirectory hlink (absurd rfl)

theorem Route.isLink_of_mem (h : Route fs final x segments via y) {z : Location} (hz : z ∈ via) :
    ∃ target, fs.find? z = some (.link target) := by
  induction h with
  | stop => cases hz
  | idle _ _ ih => exact ih hz
  | up _ ih => exact ih hz
  | enter _ _ _ ih => exact ih hz
  | keep => cases hz
  | follow _ hfind _ _ ih =>
    cases List.mem_cons.1 hz with
    | inl hz =>
      rw [hz]
      exact ⟨_, hfind⟩
    | inr hz => exact ih hz

theorem not_passesThrough_of_no_link (h : ∀ y target, fs.find? y ≠ some (.link target)) :
    ¬fs.PassesThrough p x := by
  intro hpasses
  have ⟨via, y, hroute, hmem⟩ := hpasses
  have ⟨target, htarget⟩ := hroute.isLink_of_mem hmem
  exact h x target htarget

/--
The route to a name, which is not followed if it is that of a link, goes along the segments in front.
-/
theorem Route.front_of_isName {name : String} (hname : Path.IsName name)
    (h : Route fs false x (front ++ [name]) via y) : ∃ z, Route fs true x front via z := by
  generalize hsegments : front ++ [name] = segments at h
  -- Induction on the route. Where the front is used up, only the name is left, and no link follows.
  induction h generalizing front with
  | stop => exact absurd hsegments (by simp)
  | idle hsegment _ ih =>
    cases front with
    | nil =>
      cases hsegments
      exact absurd hsegment (not_or.2 ⟨hname.ne_empty, hname.ne_dot⟩)
    | cons first front =>
      cases hsegments
      have ⟨z, hroute⟩ := ih rfl
      exact ⟨z, .idle hsegment hroute⟩
  | up _ ih =>
    cases front with
    | nil =>
      cases hsegments
      exact absurd rfl hname.ne_dots
    | cons first front =>
      cases hsegments
      have ⟨z, hroute⟩ := ih rfl
      exact ⟨z, .up hroute⟩
  | enter hentry hfind hrest ih =>
    cases front with
    | nil =>
      cases hsegments
      cases hrest
      exact ⟨_, .stop _⟩
    | cons first front =>
      cases hsegments
      have ⟨z, hroute⟩ := ih rfl
      exact ⟨z, .enter hentry hfind hroute⟩
  | keep =>
    cases front with
    | nil => exact ⟨_, .stop _⟩
    | cons first front =>
      rw [List.cons_append, List.cons.injEq] at hsegments
      exact absurd (List.append_eq_nil_iff.1 hsegments.2).2 (by simp)
  | @follow x y segment rest target via hentry hfind hfollow _ ih =>
    cases front with
    | nil =>
      cases hsegments
      cases hfollow rfl
    | cons first front =>
      cases hsegments
      have ⟨z, hroute⟩ := ih (List.append_assoc _ _ _)
      exact ⟨z, .follow hentry hfind (fun _ => rfl) hroute⟩

theorem Route.append_slash (h : Route fs true x segments via y) :
    Route fs true x (segments ++ [""]) via y := by
  induction h with
  | stop x => exact .idle (.inl rfl) (.stop x)
  | idle hsegment _ ih => exact .idle hsegment ih
  | up _ ih => exact .up ih
  | enter hname hfind _ ih => exact .enter hname hfind ih
  | keep _ _ hfinal => cases hfinal
  | follow hname hfind _ _ ih =>
    rw [List.append_assoc] at ih
    exact .follow hname hfind (fun _ => rfl) ih

/--
A link that is followed on the way to a name in a directory is on the way to the directory.
-/
theorem passesThrough_of_route_div {name : String} (hname : Path.IsName name) {d : Location}
    (h : Route fs false (fs.startOf (p / name)) (steps (p / name)) via y) (hd : d ∈ via) :
    fs.PassesThrough p d := by
  have ⟨front, hsteps, hfront⟩ := steps_div hname p
  rw [hsteps, startOf_div hname] at h
  have ⟨z, hroute⟩ := h.front_of_isName hname
  refine ⟨via, z, ?_, hd⟩
  cases hfront with
  | inl hfront =>
    rw [hfront]
    exact hroute
  | inr hfront =>
    rw [hfront]
    exact hroute.append_slash

/--
A link on the way that a file has taken the place of bars the way.
-/
theorem Route.not_walks {z : Location} {content : ByteArray} {modified : Int}
    {program : Option Program} (h : Route fs false x segments via y) (hz : z ∈ via)
    (hfile : fs'.find? z = some (.file content modified program))
    (hlink : ∀ u target, u ≠ z →
      (fs'.find? u = some (.link target) ↔ fs.find? u = some (.link target)))
    {via' : List Location} {u : Location} {entry : Entry} :
    ¬Walks fs' final x segments via' (.occupied u entry) := by
  intro hwalks
  -- Induction on the route. The way takes the same steps up to the first link that has been replaced.
  induction h generalizing via' with
  | stop => cases hz
  | idle hsegment _ ih => exact ih hz (hwalks.rest_of_idle hsegment)
  | up _ ih =>
    cases hwalks with
    | idle hsegment => simp at hsegment
    | up hrest => exact ih hz hrest
    | enter hname => exact absurd rfl hname.ne_dots
    | file hname => exact absurd rfl hname.ne_dots
    | keep hname => exact absurd rfl hname.ne_dots
    | follow hname => exact absurd rfl hname.ne_dots
  | @enter x y segment rest via hname hfind hrest ih =>
    have hnone : ∀ target, fs'.find? (segment :: x) ≠ some (.link target) := by
      intro target htarget
      by_cases heq : segment :: x = z
      . rw [heq, hfile] at htarget
        cases htarget
      . exact hfind target ((hlink _ target heq).1 htarget)
    cases hwalks with
    | idle hsegment => exact absurd hsegment hname.ne_idle
    | up => exact absurd rfl hname.ne_dots
    | enter _ _ hwalks => exact ih hz hwalks
    | file =>
      cases hrest
      cases hz
    | keep _ htarget => exact absurd htarget (hnone _)
    | follow _ htarget => exact absurd htarget (hnone _)
  | keep => cases hz
  | @follow x y segment rest target via hname hfind hfinal _ ih =>
    have hne : rest ≠ [] := by
      intro hnil
      cases hfinal hnil
    by_cases heq : segment :: x = z
    . rw [← heq] at hfile
      cases hwalks with
      | idle hsegment => exact absurd hsegment hname.ne_idle
      | up => exact absurd rfl hname.ne_dots
      | enter _ hdirectory =>
        rw [hfile] at hdirectory
        cases hdirectory
      | file => exact absurd rfl hne
      | keep => exact absurd rfl hne
      | follow _ htarget =>
        rw [hfile] at htarget
        cases htarget
    . have htarget := (hlink _ target heq).2 hfind
      cases hwalks with
      | idle hsegment => exact absurd hsegment hname.ne_idle
      | up => exact absurd rfl hname.ne_dots
      | enter _ hdirectory =>
        rw [htarget] at hdirectory
        cases hdirectory
      | file => exact absurd rfl hne
      | keep => exact absurd rfl hne
      | follow _ htarget' _ hwalks =>
        rw [htarget] at htarget'
        cases htarget'
        cases List.mem_cons.1 hz with
        | inl hself => exact absurd hself.symm heq
        | inr hz => exact ih hz hwalks

theorem Route.congr (h : Route fs final x segments via y)
    (hlink : ∀ z target, fs'.find? z = some (.link target) ↔ fs.find? z = some (.link target)) :
    Route fs' final x segments via y := by
  induction h with
  | stop x => exact .stop x
  | idle hsegment _ ih => exact .idle hsegment ih
  | up _ ih => exact .up ih
  | enter hname hfind _ ih =>
    apply Route.enter hname
    . intro target htarget
      exact hfind target ((hlink _ target).1 htarget)
    . exact ih
  | keep hname hfind hfinal => exact .keep hname ((hlink _ _).2 hfind) hfinal
  | follow hname hfind hfinal _ ih => exact .follow hname ((hlink _ _).2 hfind) hfinal ih

/--
One file system stands on the same ground as another: they may differ in their entries only.
-/
def SameGround (fs fs' : FileSystem) : Prop :=
  fs' = { fs with entries := fs'.entries }

theorem SameGround.refl (fs : FileSystem) : SameGround fs fs := rfl

theorem SameGround.trans (h : SameGround fs fs') (h' : SameGround fs' fs'') :
    SameGround fs fs'' := by
  unfold SameGround at *
  rw [h', h]

theorem SameGround.startOf (h : SameGround fs fs') (p : Path) : fs'.startOf p = fs.startOf p := by
  unfold SameGround at h
  rw [h]
  rfl

/--
A file system has grown into another one.
-/
structure Grows (fs fs' : FileSystem) : Prop where
  ground : SameGround fs fs'
  directory : ∀ x, fs.find? x = some .directory → fs'.find? x = some .directory
  link_iff : ∀ x target, fs'.find? x = some (.link target) ↔ fs.find? x = some (.link target)
  missing : ∀ x, fs'.find? x = none → fs.find? x = none

namespace Grows

theorem refl (fs : FileSystem) : Grows fs fs where
  ground := .refl fs
  directory := by
    intro x h
    exact h
  link_iff := by
    intro x target
    exact Iff.rfl
  missing := by
    intro x h
    exact h

theorem trans (h : Grows fs fs') (h' : Grows fs' fs'') : Grows fs fs'' where
  ground := h.ground.trans h'.ground
  directory := by
    intro x hx
    exact h'.directory x (h.directory x hx)
  link_iff := by
    intro x target
    rw [h'.link_iff, h.link_iff]
  missing := by
    intro x hx
    exact h.missing x (h'.missing x hx)

theorem find?_of_mem (h : Grows fs fs') (hroute : Route fs final x segments via y) {z : Location}
    (hz : z ∈ via) : fs'.find? z = fs.find? z := by
  have ⟨target, htarget⟩ := hroute.isLink_of_mem hz
  rw [htarget]
  exact (h.link_iff z target).2 htarget

theorem walks (h : Grows fs fs') (hwalks : Walks fs true x segments via (.occupied y .directory)) :
    Walks fs' true x segments via (.occupied y .directory) := by
  apply hwalks.transfer h.directory
  intro z hz
  exact h.find?_of_mem hwalks.route hz

theorem route_iff (h : Grows fs fs') :
    Route fs' final x segments via y ↔ Route fs final x segments via y := by
  constructor
  . intro hroute
    apply hroute.congr
    intro z target
    rw [h.link_iff]
  . intro hroute
    exact hroute.congr h.link_iff

theorem leadsTo_iff (h : Grows fs fs') : fs'.LeadsTo final p x ↔ fs.LeadsTo final p x := by
  unfold LeadsTo
  rw [h.ground.startOf]
  simp only [h.route_iff]

theorem passesThrough_iff (h : Grows fs fs') :
    fs'.PassesThrough p x ↔ fs.PassesThrough p x := by
  unfold PassesThrough
  rw [h.ground.startOf]
  simp only [h.route_iff]

end Grows

theorem find?_drop_self (h : x ≠ []) (fs : FileSystem) : (fs.drop x).find? x = none := by
  have hget : Keyed.get? (Keyed.removeIf fs.entries (· = x)) x = none := by
    apply Keyed.get?_removeIf_of_true
    simp
  unfold find?
  rw [if_neg h]
  exact hget

theorem find?_drop_of_ne (h : y ≠ x) (fs : FileSystem) : (fs.drop x).find? y = fs.find? y := by
  have hget : Keyed.get? (Keyed.removeIf fs.entries (· = x)) y = Keyed.get? fs.entries y := by
    apply Keyed.get?_removeIf_of_false
    simpa using h
  unfold find?
  split
  . rfl
  . exact hget

theorem ground_put (fs : FileSystem) (x : Location) (entry : Entry) :
    SameGround fs (fs.put x entry) := rfl

theorem ground_drop (fs : FileSystem) (x : Location) : SameGround fs (fs.drop x) := rfl

theorem ne_nil_of_find?_ne_directory (h : fs.find? x ≠ some .directory) : x ≠ [] := by
  intro hnil
  rw [hnil] at h
  exact h rfl

theorem grows_put {entry : Entry} (hdirectory : fs.find? x ≠ some .directory)
    (hlink : ∀ target, fs.find? x ≠ some (.link target)) (hentry : ∀ target, entry ≠ .link target) :
    Grows fs (fs.put x entry) where
  ground := ground_put fs x entry
  directory := by
    intro z hz
    have hne : z ≠ x := by
      intro heq
      rw [heq] at hz
      exact hdirectory hz
    rw [find?_put_of_ne hne]
    exact hz
  link_iff := by
    intro z target
    by_cases heq : z = x
    . rw [heq]
      rw [find?_put_self (ne_nil_of_find?_ne_directory hdirectory)]
      simp [hentry, hlink]
    . rw [find?_put_of_ne heq]
  missing := by
    intro z hz
    by_cases heq : z = x
    . rw [heq, find?_put_self (ne_nil_of_find?_ne_directory hdirectory)] at hz
      cases hz
    . rw [find?_put_of_ne heq] at hz
      exact hz

theorem grows_put_of_missing {entry : Entry} (hx : fs.find? x = none)
    (hentry : ∀ target, entry ≠ .link target) : Grows fs (fs.put x entry) := by
  apply grows_put
  . simp [hx]
  . simp [hx]
  . exact hentry

end ServerLauncher.FileSystem
