import ServerLauncher.FileSystem.Basic
import ServerLauncher.Proofs.Path.Joining

/-!
This module contains the ways that paths take through a file system, as derivations that tell which
links are followed. A way along a longer path goes on from the end of a way along its front.
-/

namespace ServerLauncher.FileSystem

def Place.location : Place → Location
  | .occupied location _ => location
  | .vacant location _ => location

/--
The segment stands for an entry of a directory.
-/
structure IsEntryName (segment : String) : Prop where
  ne_idle : ¬(segment = "" ∨ segment = ".")
  ne_dots : segment ≠ ".."
  le_limit : ¬nameLimit < segment.utf8ByteSize

/--
The place that a link leads on from.
-/
def linkStart (target : Path) (location : Location) : Location :=
  if target.isAbsolute then [] else location

def steps (p : Path) : List String :=
  p.segments.map String.ofList

/--
The way along some segments from a directory to a place, and the links on it.
-/
inductive Walks (fs : FileSystem) (final : Bool) :
    Location → List String → List Location → Place → Prop where
  | stop (x : Location) : Walks fs final x [] [] (.occupied x .directory)
  | idle {x : Location} {segment : String} {rest : List String} {via : List Location}
    {place : Place} (hsegment : segment = "" ∨ segment = ".")
    (hrest : Walks fs final x rest via place) : Walks fs final x (segment :: rest) via place
  | up {x : Location} {rest : List String} {via : List Location} {place : Place}
    (hrest : Walks fs final x.tail rest via place) : Walks fs final x (".." :: rest) via place
  | missing {x : Location} {segment : String} {rest : List String} (hname : IsEntryName segment)
    (hfind : fs.find? (segment :: x) = none) (hrest : rest.all (· = "")) :
    Walks fs final x (segment :: rest) [] (.vacant (segment :: x) !rest.isEmpty)
  | enter {x : Location} {segment : String} {rest : List String} {via : List Location}
    {place : Place} (hname : IsEntryName segment)
    (hfind : fs.find? (segment :: x) = some .directory)
    (hrest : Walks fs final (segment :: x) rest via place) :
    Walks fs final x (segment :: rest) via place
  | file {x : Location} {segment : String} {content : ByteArray} {modified : Int}
    {program : Option Program} (hname : IsEntryName segment)
    (hfind : fs.find? (segment :: x) = some (.file content modified program)) :
    Walks fs final x [segment] [] (.occupied (segment :: x) (.file content modified program))
  | keep {x : Location} {segment : String} {target : Path} (hname : IsEntryName segment)
    (hfind : fs.find? (segment :: x) = some (.link target)) (hfinal : final = false) :
    Walks fs final x [segment] [] (.occupied (segment :: x) (.link target))
  | follow {x : Location} {segment : String} {rest : List String} {target : Path}
    {via : List Location} {place : Place} (hname : IsEntryName segment)
    (hfind : fs.find? (segment :: x) = some (.link target)) (hfinal : rest = [] → final = true)
    (hrest : Walks fs final (linkStart target x) (steps target ++ rest) via place) :
    Walks fs final x (segment :: rest) ((segment :: x) :: via) place

variable {fs : FileSystem} {final : Bool} {x y : Location} {segments front rest : List String}
  {via : List Location} {place : Place}

theorem walk_nil (fs : FileSystem) (final : Bool) (n : Nat) (x : Location) :
    fs.walk final n x [] = .ok (.occupied x .directory) := by
  cases n <;> rfl

theorem walk_idle {segment : String} (h : segment = "" ∨ segment = ".") (n : Nat) :
    fs.walk final n x (segment :: rest) = fs.walk final n x rest := by
  cases n <;>
  . unfold walk
    rw [stepAlong]
    rw [if_pos h]

theorem walk_up (n : Nat) : fs.walk final n x (".." :: rest) = fs.walk final n x.tail rest := by
  cases n <;>
  . unfold walk
    rw [stepAlong]
    rw [if_neg (by decide)]
    rw [if_pos rfl]

/--
Go on behind a link, as long as some are allowed.
-/
def jumpFrom (fs : FileSystem) (final : Bool) (n : Nat) (x : Location) (segments : List String) :
    Except IoError Place :=
  match n with
  | 0 => .error .tooManyLinks
  | n + 1 => fs.walk final n x segments

theorem walk_name {segment : String} (h : IsEntryName segment) (n : Nat) :
    fs.walk final n x (segment :: rest) =
      match fs.find? (segment :: x) with
      | none =>
        if rest.all (· = "") then .ok (.vacant (segment :: x) !rest.isEmpty)
        else .error .notFound
      | some .directory => fs.walk final n (segment :: x) rest
      | some (.file content modified program) =>
        if rest.isEmpty then .ok (.occupied (segment :: x) (.file content modified program))
        else .error .notADirectory
      | some (.link target) =>
        if rest.isEmpty && !final then .ok (.occupied (segment :: x) (.link target))
        else fs.jumpFrom final n (linkStart target x) (steps target ++ rest) := by
  cases n <;>
  . unfold walk
    rw [stepAlong]
    rw [if_neg h.ne_idle]
    rw [if_neg h.ne_dots]
    rw [if_neg h.le_limit]
    rfl

theorem walk_long {segment : String} (hidle : ¬(segment = "" ∨ segment = "."))
    (hdots : segment ≠ "..") (hlimit : nameLimit < segment.utf8ByteSize) (n : Nat) :
    fs.walk final n x (segment :: rest) = .error .nameTooLong := by
  cases n <;>
  . unfold walk
    rw [stepAlong]
    rw [if_neg hidle]
    rw [if_neg hdots]
    rw [if_pos hlimit]

theorem walks_of_walk_of_jump {n : Nat}
    (hjump : ∀ {x segments place}, fs.jumpFrom final n x segments = .ok place →
      ∃ via, Walks fs final x segments via place ∧ via.length < n)
    (h : fs.walk final n x segments = .ok place) :
    ∃ via, Walks fs final x segments via place ∧ via.length ≤ n := by
  induction segments generalizing x with
  | nil =>
    rw [walk_nil] at h
    cases h
    exact ⟨[], .stop x, Nat.zero_le _⟩
  | cons segment rest ih =>
    by_cases hidle : segment = "" ∨ segment = "."
    . rw [walk_idle hidle] at h
      have ⟨via, hvia, hle⟩ := ih h
      exact ⟨via, .idle hidle hvia, hle⟩
    by_cases hdots : segment = ".."
    . rw [hdots, walk_up] at h
      have ⟨via, hvia, hle⟩ := ih h
      rw [hdots]
      exact ⟨via, .up hvia, hle⟩
    by_cases hlimit : nameLimit < segment.utf8ByteSize
    . rw [walk_long hidle hdots hlimit] at h
      cases h
    have hname : IsEntryName segment := ⟨hidle, hdots, hlimit⟩
    rw [walk_name hname] at h
    cases hfind : fs.find? (segment :: x) with
    | none =>
      simp only [hfind] at h
      split at h
      . next hrest =>
        cases h
        exact ⟨[], .missing hname hfind hrest, Nat.zero_le _⟩
      . cases h
    | some entry =>
      cases entry with
      | directory =>
        simp only [hfind] at h
        have ⟨via, hvia, hle⟩ := ih h
        exact ⟨via, .enter hname hfind hvia, hle⟩
      | file content modified program =>
        simp only [hfind] at h
        split at h
        . next hrest =>
          cases h
          rw [List.isEmpty_iff.1 hrest]
          exact ⟨[], .file hname hfind, Nat.zero_le _⟩
        . cases h
      | link target =>
        simp only [hfind] at h
        split at h
        . next hkeep =>
          simp only [Bool.and_eq_true, List.isEmpty_iff, Bool.not_eq_true'] at hkeep
          cases h
          rw [hkeep.1]
          exact ⟨[], .keep hname hfind hkeep.2, Nat.zero_le _⟩
        . next hkeep =>
          simp only [Bool.and_eq_true, List.isEmpty_iff, Bool.not_eq_true', not_and,
            Bool.not_eq_false] at hkeep
          have ⟨via, hvia, hlt⟩ := hjump h
          exact ⟨_, .follow hname hfind hkeep hvia, hlt⟩

theorem walks_of_walk {n : Nat} (h : fs.walk final n x segments = .ok place) :
    ∃ via, Walks fs final x segments via place ∧ via.length ≤ n := by
  induction n generalizing x segments place with
  | zero =>
    apply walks_of_walk_of_jump _ h
    intro x segments place hjump
    cases hjump
  | succ n ih =>
    apply walks_of_walk_of_jump _ h
    intro x segments place hjump
    have ⟨via, hvia, hle⟩ := ih hjump
    exact ⟨via, hvia, Nat.lt_succ_of_le hle⟩

theorem walk_of_walks (h : Walks fs final x segments via place) {n : Nat} (hle : via.length ≤ n) :
    fs.walk final n x segments = .ok place := by
  induction h generalizing n with
  | stop x => exact walk_nil fs final n x
  | idle hsegment _ ih =>
    rw [walk_idle hsegment]
    exact ih hle
  | up _ ih =>
    rw [walk_up]
    exact ih hle
  | missing hname hfind hrest =>
    rw [walk_name hname]
    simp only [hfind]
    rw [if_pos hrest]
  | enter hname hfind _ ih =>
    rw [walk_name hname]
    simp only [hfind]
    exact ih hle
  | file hname hfind =>
    rw [walk_name hname]
    simp only [hfind]
    rfl
  | keep hname hfind hfinal =>
    rw [walk_name hname]
    simp only [hfind, hfinal]
    rfl
  | follow hname hfind hfinal _ ih =>
    rw [walk_name hname]
    simp only [hfind]
    rw [if_neg]
    . cases n with
      | zero => cases hle
      | succ n => exact ih (Nat.le_of_succ_le_succ hle)
    . simp only [Bool.and_eq_true, List.isEmpty_iff, Bool.not_eq_true', not_and, Bool.not_eq_false]
      exact hfinal

theorem walks_unique {via' : List Location} {place' : Place}
    (h : Walks fs final x segments via place) (h' : Walks fs final x segments via' place') :
    place = place' := by
  have hwalk := walk_of_walks h (Nat.le_max_left _ via'.length)
  rw [walk_of_walks h' (Nat.le_max_right _ _)] at hwalk
  exact (Except.ok.inj hwalk).symm

theorem Walks.append {via' : List Location} (h : Walks fs true x front via (.occupied y .directory))
    (hrest : Walks fs final y rest via' place) (hne : rest ≠ []) :
    Walks fs final x (front ++ rest) (via ++ via') place := by
  generalize hplace : Place.occupied y .directory = last at h
  -- Induction on the first way, which goes on where it would have stopped.
  induction h with
  | stop x =>
    cases hplace
    exact hrest
  | idle hsegment _ ih => exact .idle hsegment (ih hplace)
  | up _ ih => exact .up (ih hplace)
  | missing => cases hplace
  | enter hname hfind _ ih => exact .enter hname hfind (ih hplace)
  | file => cases hplace
  | keep => cases hplace
  | follow hname hfind _ _ ih =>
    apply Walks.follow hname hfind
    . intro hnil
      exact absurd (List.append_eq_nil_iff.1 hnil).2 hne
    . have hlonger := ih hplace
      rw [List.append_assoc] at hlonger
      exact hlonger

/--
A way is made of a way along some segments to a directory, and a way that goes on from there.
-/
def Splits (fs : FileSystem) (final : Bool) (x : Location) (front rest : List String)
    (via : List Location) (place : Place) : Prop :=
  ∃ y via₁ via₂, via = via₁ ++ via₂ ∧ Walks fs true x front via₁ (.occupied y .directory) ∧
    Walks fs final y rest via₂ place

theorem Walks.splits_nil (h : Walks fs final x segments via place)
    (hsegments : [] ++ rest = segments) : Splits fs final x [] rest via place := by
  rw [List.nil_append] at hsegments
  rw [← hsegments] at h
  exact ⟨x, [], via, rfl, .stop x, h⟩

theorem Walks.split (h : Walks fs final x (front ++ rest) via place) (hnil : rest ≠ [])
    (hne : rest.all (· = "") → ∃ y entry, place = .occupied y entry) :
    Splits fs final x front rest via place := by
  generalize hsegments : front ++ rest = segments at h
  -- Induction on the whole way. In every step the front is either used up, and the rest of the way
  -- starts here, or it begins with the segment of this step.
  induction h generalizing front with
  | stop x => exact absurd (List.append_eq_nil_iff.1 hsegments).2 hnil
  | @idle x segment others via place hsegment hothers ih =>
    cases front with
    | nil => exact (Walks.idle hsegment hothers).splits_nil hsegments
    | cons first front =>
      rw [List.cons_append, List.cons.injEq] at hsegments
      have ⟨y, via₁, via₂, hvia, hfront, hrest⟩ := ih hne hsegments.2
      rw [hsegments.1]
      exact ⟨y, via₁, via₂, hvia, .idle hsegment hfront, hrest⟩
  | @up x others via place hothers ih =>
    cases front with
    | nil => exact (Walks.up hothers).splits_nil hsegments
    | cons first front =>
      rw [List.cons_append, List.cons.injEq] at hsegments
      have ⟨y, via₁, via₂, hvia, hfront, hrest⟩ := ih hne hsegments.2
      rw [hsegments.1]
      exact ⟨y, via₁, via₂, hvia, .up hfront, hrest⟩
  | @missing x segment others hname hfind hothers =>
    cases front with
    | nil => exact (Walks.missing hname hfind hothers).splits_nil hsegments
    | cons first front =>
      rw [List.cons_append, List.cons.injEq] at hsegments
      rw [← hsegments.2, List.all_append, Bool.and_eq_true] at hothers
      have ⟨_, _, hplace⟩ := hne hothers.2
      cases hplace
  | @enter x segment others via place hname hfind hothers ih =>
    cases front with
    | nil => exact (Walks.enter hname hfind hothers).splits_nil hsegments
    | cons first front =>
      rw [List.cons_append, List.cons.injEq] at hsegments
      have ⟨y, via₁, via₂, hvia, hfront, hrest⟩ := ih hne hsegments.2
      rw [hsegments.1]
      exact ⟨y, via₁, via₂, hvia, .enter hname hfind hfront, hrest⟩
  | @file x segment content modified program hname hfind =>
    cases front with
    | nil => exact (Walks.file hname hfind).splits_nil hsegments
    | cons first front =>
      rw [List.cons_append, List.cons.injEq] at hsegments
      exact absurd (List.append_eq_nil_iff.1 hsegments.2).2 hnil
  | @keep x segment target hname hfind hfinal =>
    cases front with
    | nil => exact (Walks.keep hname hfind hfinal).splits_nil hsegments
    | cons first front =>
      rw [List.cons_append, List.cons.injEq] at hsegments
      exact absurd (List.append_eq_nil_iff.1 hsegments.2).2 hnil
  | @follow x segment others target via place hname hfind hfinal hothers ih =>
    cases front with
    | nil => exact (Walks.follow hname hfind hfinal hothers).splits_nil hsegments
    | cons first front =>
      rw [List.cons_append, List.cons.injEq] at hsegments
      have hlonger : (steps target ++ front) ++ rest = steps target ++ others := by
        rw [List.append_assoc, hsegments.2]
      have ⟨y, via₁, via₂, hvia, hfront, hrest⟩ := ih hne hlonger
      rw [hsegments.1]
      refine ⟨y, _ :: via₁, via₂, ?_, .follow hname hfind (fun _ => rfl) hfront, hrest⟩
      rw [hvia]
      rfl

theorem isEntryName_of_isName {name : String} (h : Path.IsName name)
    (hlimit : name.utf8ByteSize ≤ nameLimit) : IsEntryName name where
  ne_idle := by
    intro hidle
    cases hidle with
    | inl hempty => exact h.ne_empty hempty
    | inr hdot => exact h.ne_dot hdot
  ne_dots := h.ne_dots
  le_limit := Nat.not_lt.2 hlimit

theorem Walks.singleton {name : String} (h : Walks fs final x [name] via place)
    (hname : Path.IsName name) :
    name.utf8ByteSize ≤ nameLimit ∧
      (place = .vacant (name :: x) false ∧ fs.find? (name :: x) = none ∧ via = [] ∨
        (∃ entry, place = .occupied (name :: x) entry ∧ fs.find? (name :: x) = some entry) ∧
          via = [] ∨
        final = true ∧ ∃ target, fs.find? (name :: x) = some (.link target)) := by
  -- A single name ends the way, unless it is the name of a link to follow.
  cases h with
  | idle hsegment _ =>
    cases hsegment with
    | inl hempty => exact absurd hempty hname.ne_empty
    | inr hdot => exact absurd hdot hname.ne_dot
  | up => exact absurd rfl hname.ne_dots
  | missing hentry hfind _ =>
    exact ⟨Nat.not_lt.1 hentry.le_limit, .inl ⟨rfl, hfind, rfl⟩⟩
  | enter hentry hfind hrest =>
    cases hrest
    exact ⟨Nat.not_lt.1 hentry.le_limit, .inr (.inl ⟨⟨_, rfl, hfind⟩, rfl⟩)⟩
  | file hentry hfind =>
    exact ⟨Nat.not_lt.1 hentry.le_limit, .inr (.inl ⟨⟨_, rfl, hfind⟩, rfl⟩)⟩
  | keep hentry hfind _ =>
    exact ⟨Nat.not_lt.1 hentry.le_limit, .inr (.inl ⟨⟨_, rfl, hfind⟩, rfl⟩)⟩
  | follow hentry hfind hfinal _ =>
    exact ⟨Nat.not_lt.1 hentry.le_limit, .inr (.inr ⟨hfinal rfl, _, hfind⟩)⟩

def startOf (fs : FileSystem) (p : Path) : Location :=
  if p.isAbsolute then [] else fs.workingDirectory

/--
The path can be handed to the operating system.
-/
structure Admissible (p : Path) : Prop where
  no_nul : holdsNul p.text = false
  ne_empty : p.text ≠ ""
  le_limit : ¬pathLimit < p.text.utf8ByteSize

theorem place_eq_ok_iff {p : Path} :
    fs.place final p = .ok place ↔
      Admissible p ∧
        ∃ via, Walks fs final (fs.startOf p) (steps p) via place ∧ via.length ≤ linkLimit := by
  unfold FileSystem.place
  constructor
  . intro h
    split at h
    . cases h
    next hnul =>
    split at h
    . cases h
    next hempty =>
    split at h
    . cases h
    next hlimit =>
    exact ⟨⟨by simpa using hnul, hempty, hlimit⟩, walks_of_walk h⟩
  . intro h
    have ⟨hp, via, hwalks, hle⟩ := h
    rw [if_neg (Bool.not_eq_true _ ▸ hp.no_nul)]
    rw [if_neg hp.ne_empty]
    rw [if_neg hp.le_limit]
    exact walk_of_walks hwalks hle

variable {p : Path} {name : String}

theorem not_all_empty_of_isName (hname : Path.IsName name) : ¬[name].all (· = "") := by
  simp [hname.ne_empty]

theorem steps_div (hname : Path.IsName name) (p : Path) :
    ∃ front, steps (p / name) = front ++ [name] ∧ (steps p = front ∨ steps p = front ++ [""]) := by
  -- The path has these steps, or one more for a slash at its end.
  have ⟨front, hsegments, hfront⟩ := Path.segments_div hname p
  refine ⟨front.map String.ofList, ?_, ?_⟩
  . unfold steps
    rw [hsegments]
    simp
  . unfold steps
    cases hfront with
    | inl hfront =>
      rw [hfront]
      exact .inl rfl
    | inr hfront =>
      rw [hfront]
      exact .inr (by simp)

theorem startOf_div (hname : Path.IsName name) (fs : FileSystem) (p : Path) :
    fs.startOf (p / name) = fs.startOf p := by
  unfold startOf
  rw [Path.isAbsolute_div hname]

theorem admissible_of_div (hp : p.text ≠ "") (hname : Path.IsName name)
    (h : Admissible (p / name)) : Admissible p := by
  have htext := Path.text_div hname p
  have hnul := h.no_nul
  have hlimit := h.le_limit
  unfold holdsNul at hnul
  rw [htext] at hnul hlimit
  constructor
  . unfold holdsNul
    split at hnul <;> simp_all
  . exact hp
  . split at hlimit <;> simp only [String.utf8ByteSize_append] at hlimit <;> omega

theorem Walks.rest_of_idle {segment : String} (hsegment : segment = "" ∨ segment = ".")
    (h : Walks fs final x (segment :: rest) via place) : Walks fs final x rest via place := by
  cases h with
  | idle _ hrest => exact hrest
  | up => simp at hsegment
  | missing hname => exact absurd hsegment hname.ne_idle
  | enter hname => exact absurd hsegment hname.ne_idle
  | file hname => exact absurd hsegment hname.ne_idle
  | keep hname => exact absurd hsegment hname.ne_idle
  | follow hname => exact absurd hsegment hname.ne_idle

theorem walks_slash_iff :
    Walks fs true x (front ++ [""]) via (.occupied y .directory) ↔
      Walks fs true x front via (.occupied y .directory) := by
  -- A slash behind a directory leads nowhere else.
  constructor
  . intro h
    have ⟨z, via₁, via₂, hvia, hfront, hrest⟩ := h.split (by simp) (fun _ => ⟨_, _, rfl⟩)
    cases hrest.rest_of_idle (.inl rfl)
    rw [hvia, List.append_nil]
    exact hfront
  . intro h
    have hslash : Walks fs true y [""] [] (.occupied y .directory) := .idle (.inl rfl) (.stop y)
    have hlonger := h.append hslash (by simp)
    rw [List.append_nil] at hlonger
    exact hlonger

theorem walks_steps_iff (hp : steps p = front ∨ steps p = front ++ [""]) :
    Walks fs true x (steps p) via (.occupied y .directory) ↔
      Walks fs true x front via (.occupied y .directory) := by
  cases hp with
  | inl hp => rw [hp]
  | inr hp =>
    rw [hp]
    exact walks_slash_iff

theorem walks_of_place_div (hname : Path.IsName name)
    (h : fs.place final (p / name) = .ok place) :
    Admissible (p / name) ∧ ∃ x via₁ via₂,
      Walks fs true (fs.startOf p) (steps p) via₁ (.occupied x .directory) ∧
        Walks fs final x [name] via₂ place ∧ via₁.length ≤ linkLimit := by
  rw [place_eq_ok_iff] at h
  have ⟨hadmissible, via, hwalks, hle⟩ := h
  have ⟨front, hsteps, hfront⟩ := steps_div hname p
  rw [hsteps, startOf_div hname] at hwalks
  -- The way is cut in two before the name.
  have ⟨x, via₁, via₂, hvia, hwalks₁, hwalks₂⟩ :=
    hwalks.split (by simp) (fun hall => absurd hall (not_all_empty_of_isName hname))
  refine ⟨hadmissible, x, via₁, via₂, (walks_steps_iff hfront).2 hwalks₁, hwalks₂, ?_⟩
  rw [hvia, List.length_append] at hle
  omega

theorem place_of_place_div (hp : p.text ≠ "") (hname : Path.IsName name)
    (h : fs.place final (p / name) = .ok place) :
    ∃ x via, fs.place true p = .ok (.occupied x .directory) ∧
      Walks fs final x [name] via place := by
  have ⟨hadmissible, x, via₁, via₂, hwalks, hlast, hle⟩ := walks_of_place_div hname h
  refine ⟨x, via₂, ?_, hlast⟩
  rw [place_eq_ok_iff]
  exact ⟨admissible_of_div hp hname hadmissible, via₁, hwalks, hle⟩

theorem place_div_of_walks (hname : Path.IsName name) (hadmissible : Admissible (p / name))
    (hwalks : Walks fs true (fs.startOf p) (steps p) via (.occupied x .directory))
    (hle : via.length ≤ linkLimit) (hlast : Walks fs final x [name] [] place) :
    fs.place final (p / name) = .ok place := by
  rw [place_eq_ok_iff]
  have ⟨front, hsteps, hfront⟩ := steps_div hname p
  refine ⟨hadmissible, via, ?_, hle⟩
  rw [hsteps, startOf_div hname]
  have hwhole := ((walks_steps_iff hfront).1 hwalks).append hlast (by simp)
  rw [List.append_nil] at hwhole
  exact hwhole

end ServerLauncher.FileSystem
