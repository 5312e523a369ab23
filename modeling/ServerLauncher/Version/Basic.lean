/-!
This module contains the versions of server distributions, their order and the compatibility
relation that decides which distribution a launcher accepts. Only the three numbers take part in
either; pre-release and build text is kept because it names directories, files and URLs.
-/

namespace ServerLauncher

/--
A version `major.minor.patch[-preRelease][+build]`.
-/
structure Version where
  major : Nat
  minor : Nat
  patch : Nat
  preRelease : Option String
  build : Option String
deriving DecidableEq, Repr

namespace Version

def ofNumbers (major minor patch : Nat) : Version :=
  ⟨major, minor, patch, none, none⟩

/--
The part of a version that order, sameness and hashing look at.
-/
def triple (v : Version) : Nat × Nat × Nat :=
  (v.major, v.minor, v.patch)

def cmp (v w : Version) : Ordering :=
  (compare v.major w.major).then ((compare v.minor w.minor).then (compare v.patch w.patch))

/--
Whether two versions are the same release, whatever their pre-release and build text.
-/
def same (v w : Version) : Bool :=
  v.triple == w.triple

/--
What becomes of the state of a hasher that takes in a version: the three numbers, one after the other.
-/
def hashInto {σ : Type} (write : σ → Nat → σ) (state : σ) (v : Version) : σ :=
  [v.major, v.minor, v.patch].foldl write state

def isNewerThan (v w : Version) : Bool :=
  v.cmp w == .gt

/--
Whether something made for `reference` can use `v`.
-/
def isCompatibleWith (v reference : Version) : Bool :=
  if v.major = 0 then
    -- Before `1.0.0` a change of the minor number breaks.
    reference.major = 0 && v.minor = reference.minor && reference.patch ≤ v.patch
  else
    v.major = reference.major && reference.minor ≤ v.minor

/--
Versions from oldest to newest. Those of the same release keep their order.
-/
def ascending (vs : List Version) : List Version :=
  vs.mergeSort fun v w => v.cmp w != .gt

def descending (vs : List Version) : List Version :=
  vs.mergeSort fun v w => w.cmp v != .gt

def countReleases (vs : List Version) : Nat :=
  (vs.map triple).eraseDups.length

theorem same_iff {v w : Version} : v.same w = true ↔ v.triple = w.triple := by
  simp [same]

theorem cmp_eq_eq_iff {v w : Version} : v.cmp w = .eq ↔ v.triple = w.triple := by
  simp [cmp, triple, Ordering.then_eq_eq]

end Version

end ServerLauncher
