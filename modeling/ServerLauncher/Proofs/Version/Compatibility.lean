import ServerLauncher.Proofs.Version.Order

/-!
This module contains how compatibility goes with the order of versions. The order sees nothing but the
numbers, as sameness and hashing do. A version can be used in the place of another one if it is on the
same release line and not older than the floor of the other one, so that it stays compatible as it gets
newer on its line.
-/

namespace ServerLauncher.Version

variable {u v w v' w' : Version}

section Comparing

theorem transCmp_cmp : Std.TransCmp cmp :=
  inferInstanceAs (Std.TransCmp
    (compareLex (compareOn major) (compareLex (compareOn minor) (compareOn patch))))

theorem isGE_cmp_iff : (v.cmp w).isGE ↔ ¬w.isNewerThan v := by
  have := transCmp_cmp
  unfold isNewerThan
  rw [beq_iff_eq]
  rw [Std.OrientedCmp.gt_iff_lt]
  cases v.cmp w <;> decide

theorem triple_eq_iff :
    v.triple = w.triple ↔ v.major = w.major ∧ v.minor = w.minor ∧ v.patch = w.patch := by
  simp [triple]

/--
A hasher that keeps all that it takes in tells different releases apart.
-/
theorem same_iff_hashInto :
    v.same w ↔ ∀ (σ : Type) (write : σ → Nat → σ) (state : σ),
      v.hashInto write state = w.hashInto write state := by
  rw [same_iff, triple_eq_iff]
  constructor
  . intro h σ write state
    unfold hashInto
    rw [h.1, h.2.1, h.2.2]
  . intro h
    have hkept := h (List Nat) (fun kept n => kept ++ [n]) []
    simpa [hashInto] using hkept

theorem cmp_congr (hv : v.triple = v'.triple) (hw : w.triple = w'.triple) :
    v.cmp w = v'.cmp w' := by
  rw [triple_eq_iff] at hv hw
  unfold cmp
  rw [hv.1, hv.2.1, hv.2.2]
  rw [hw.1, hw.2.1, hw.2.2]

end Comparing

section Lines

/--
Two versions are on the same release line. Before `1.0.0` every minor number has a line of its own, and
from then on every major number.
-/
structure SameLine (v w : Version) : Prop where
  major_eq : v.major = w.major
  minor_eq : w.major = 0 → v.minor = w.minor

theorem SameLine.refl (v : Version) : v.SameLine v :=
  ⟨rfl, fun _ => rfl⟩

theorem SameLine.trans (h : u.SameLine v) (hvw : v.SameLine w) : u.SameLine w where
  major_eq := h.major_eq.trans hvw.major_eq
  minor_eq hzero := (h.minor_eq (hvw.major_eq.trans hzero)).trans (hvw.minor_eq hzero)

/--
The oldest version that can be used in the place of `v`.
-/
def floor (v : Version) : Version :=
  if v.major = 0 then v else ofNumbers v.major v.minor 0

theorem floor_of_major_eq_zero (h : v.major = 0) : v.floor = v :=
  if_pos h

theorem floor_of_major_ne_zero (h : v.major ≠ 0) : v.floor = ofNumbers v.major v.minor 0 :=
  if_neg h

theorem not_floor_isNewerThan (v : Version) : ¬v.floor.isNewerThan v := by
  by_cases hzero : v.major = 0
  . rw [floor_of_major_eq_zero hzero]
    exact not_isNewerThan_self v
  . rw [floor_of_major_ne_zero hzero, isNewerThan_iff]
    simp [ofNumbers]

theorem floor_isNewerThan_iff (h : v.SameLine w) :
    w.floor.isNewerThan v ↔ if v.major = 0 then v.patch < w.patch else v.minor < w.minor := by
  have hmajor := h.major_eq
  by_cases hzero : w.major = 0
  . have hminor := h.minor_eq hzero
    rw [floor_of_major_eq_zero hzero, isNewerThan_iff]
    rw [if_pos (hmajor.trans hzero)]
    omega
  . rw [floor_of_major_ne_zero hzero, isNewerThan_iff]
    rw [if_neg (hmajor ▸ hzero)]
    simp only [ofNumbers]
    omega

/--
Within a line, what is not older than a floor has its own floor there.
-/
theorem not_floor_isNewerThan_floor (hline : v.SameLine w) (h : ¬w.floor.isNewerThan v) :
    ¬w.floor.isNewerThan v.floor := by
  by_cases hzero : v.major = 0
  . rwa [floor_of_major_eq_zero hzero]
  . have hmajor := hline.major_eq
    have hzero' : w.major ≠ 0 := hmajor ▸ hzero
    rw [floor_isNewerThan_iff hline, if_neg hzero] at h
    rw [floor_of_major_ne_zero hzero, floor_of_major_ne_zero hzero', isNewerThan_iff]
    simp only [ofNumbers]
    omega

theorem sameLine_of_isCompatibleWith (h : v.isCompatibleWith w) : v.SameLine w := by
  unfold isCompatibleWith at h
  split at h
  . next hzero =>
    simp only [Bool.and_eq_true, decide_eq_true_eq] at h
    have ⟨⟨hmajor, hminor⟩, _⟩ := h
    exact ⟨hzero.trans hmajor.symm, fun _ => hminor⟩
  . next hzero =>
    simp only [Bool.and_eq_true, decide_eq_true_eq] at h
    have ⟨hmajor, _⟩ := h
    exact ⟨hmajor, fun hw => absurd (hmajor.trans hw) hzero⟩

theorem SameLine.isCompatibleWith_iff (h : v.SameLine w) :
    v.isCompatibleWith w ↔ ¬w.floor.isNewerThan v := by
  rw [floor_isNewerThan_iff h]
  have hmajor := h.major_eq
  unfold isCompatibleWith
  split
  . next hzero =>
    have hzero' := hmajor.symm.trans hzero
    simp [hzero', h.minor_eq hzero']
  . simp [hmajor]

theorem isCompatibleWith_iff :
    v.isCompatibleWith w ↔ v.SameLine w ∧ ¬w.floor.isNewerThan v := by
  constructor
  . intro h
    have hline := sameLine_of_isCompatibleWith h
    exact ⟨hline, hline.isCompatibleWith_iff.1 h⟩
  . intro h
    exact h.1.isCompatibleWith_iff.2 h.2

end Lines

section Compatibility

theorem isCompatibleWith_congr (hv : v.triple = v'.triple) (hw : w.triple = w'.triple) :
    v.isCompatibleWith w = v'.isCompatibleWith w' := by
  rw [triple_eq_iff] at hv hw
  unfold isCompatibleWith
  rw [hv.1, hv.2.1, hv.2.2]
  rw [hw.1, hw.2.1, hw.2.2]

theorem isCompatibleWith_refl (v : Version) : v.isCompatibleWith v :=
  isCompatibleWith_iff.2 ⟨.refl v, not_floor_isNewerThan v⟩

theorem isCompatibleWith_trans (h : u.isCompatibleWith v) (hvw : v.isCompatibleWith w) :
    u.isCompatibleWith w := by
  rw [isCompatibleWith_iff] at *
  have ⟨huv, hu⟩ := h
  have ⟨hline, hv⟩ := hvw
  refine ⟨huv.trans hline, ?_⟩
  intro hnewer
  have hfloor := not_floor_isNewerThan_floor hline hv
  exact hu (isNewerThan_of_not_isNewerThan hnewer hfloor)

/--
What is not older than a compatible version of its line is compatible, too.
-/
theorem isCompatibleWith_of_not_isNewerThan (h : v.isCompatibleWith w) (hline : u.SameLine v)
    (hnewer : ¬v.isNewerThan u) : u.isCompatibleWith w := by
  rw [isCompatibleWith_iff] at *
  refine ⟨hline.trans h.1, ?_⟩
  intro hfloor
  exact hnewer (isNewerThan_of_not_isNewerThan hfloor h.2)

theorem not_isNewerThan_of_isCompatibleWith (h : v.isCompatibleWith w) (hzero : v.major = 0) :
    ¬w.isNewerThan v := by
  have ⟨hline, hfloor⟩ := isCompatibleWith_iff.1 h
  rwa [floor_of_major_eq_zero (hline.major_eq.symm.trans hzero)] at hfloor

/--
From the newest to the oldest version, those of a line that are compatible come before those that are
not.
-/
theorem pairwise_descending_isCompatibleWith (vs : List Version) (w : Version) :
    (descending vs).Pairwise fun u v =>
      u.SameLine v → v.isCompatibleWith w → u.isCompatibleWith w := by
  apply (pairwise_descending vs).imp
  intro u v hnewer hline h
  exact isCompatibleWith_of_not_isNewerThan h hline hnewer

end Compatibility

/--
The order, sameness and hashing agree about versions and see nothing but their numbers. So does
compatibility, which a version of a release line keeps as it gets newer.
-/
theorem newer_on_line_stays_compatible :
    -- The order is total and transitive. What is equal in it is the same to whoever asks.
    Std.TransCmp cmp ∧
    (∀ a b : Version, a.cmp b = .eq ↔ a.same b) ∧
    (∀ a b : Version, a.same b ↔ ∀ (σ : Type) (write : σ → Nat → σ) (state : σ),
      a.hashInto write state = b.hashInto write state) ∧
    -- Neither the order nor compatibility depends on pre-release and build text.
    (∀ a a' b b' : Version, a.triple = a'.triple → b.triple = b'.triple →
      a.cmp b = a'.cmp b' ∧ a.isCompatibleWith b = a'.isCompatibleWith b') ∧
    -- Compatibility is reflexive and transitive.
    (∀ a : Version, a.isCompatibleWith a) ∧
    (∀ a b c : Version, a.isCompatibleWith b → b.isCompatibleWith c → a.isCompatibleWith c) ∧
    -- It goes upwards in a line, and only upwards before `1.0.0`.
    (∀ a b c : Version, a.isCompatibleWith c → (b.cmp a).isGE → b.SameLine a →
      b.isCompatibleWith c) ∧
    (∀ a c : Version, a.major = 0 → a.isCompatibleWith c → (a.cmp c).isGE) ∧
    -- The newest version of a line is compatible if any is.
    (∀ (line : Version → Prop) (newest c : Version), line newest →
      (∀ a, line a → newest.SameLine a ∧ (newest.cmp a).isGE) →
      (∃ a, line a ∧ a.isCompatibleWith c) → newest.isCompatibleWith c) ∧
    ∀ (vs : List Version) (c : Version), (descending vs).Pairwise fun b a =>
      b.SameLine a → a.isCompatibleWith c → b.isCompatibleWith c := by
  refine ⟨transCmp_cmp, ?_, ?_, ?_, isCompatibleWith_refl, ?_, ?_, ?_, ?_,
    pairwise_descending_isCompatibleWith⟩
  . intro a b
    rw [cmp_eq_eq_iff, same_iff]
  . intro a b
    exact same_iff_hashInto
  . intro a a' b b' ha hb
    exact ⟨cmp_congr ha hb, isCompatibleWith_congr ha hb⟩
  . intro a b c
    exact isCompatibleWith_trans
  . intro a b c h hge hline
    exact isCompatibleWith_of_not_isNewerThan h hline (isGE_cmp_iff.1 hge)
  . intro a c hzero h
    exact isGE_cmp_iff.2 (not_isNewerThan_of_isCompatibleWith h hzero)
  . intro line newest c _ hnewest hcompatible
    have ⟨a, ha, h⟩ := hcompatible
    have ⟨hline, hge⟩ := hnewest a ha
    exact isCompatibleWith_of_not_isNewerThan h hline (isGE_cmp_iff.1 hge)

-- From `1.0.0` on the patch number does not matter, so that an older version may be compatible.
example : (ofNumbers 1 3 0).isCompatibleWith (ofNumbers 1 3 5) ∧
    (ofNumbers 1 3 5).isNewerThan (ofNumbers 1 3 0) := by
  decide

end ServerLauncher.Version
