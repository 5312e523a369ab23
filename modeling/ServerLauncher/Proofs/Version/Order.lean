import Mathlib.Data.List.Find
import ServerLauncher.Version.Basic

/-!
This module contains the order of versions by their numbers, and the search through versions from the
newest to the oldest.
-/

namespace ServerLauncher.Version

variable {u v w : Version}

theorem isNewerThan_iff :
    v.isNewerThan w ↔
      w.major < v.major ∨ w.major = v.major ∧
        (w.minor < v.minor ∨ w.minor = v.minor ∧ w.patch < v.patch) := by
  unfold isNewerThan cmp
  rw [beq_iff_eq]
  rw [Ordering.then_eq_gt, Ordering.then_eq_gt]
  rw [Nat.compare_eq_gt, Nat.compare_eq_gt, Nat.compare_eq_gt]
  rw [Nat.compare_eq_eq, Nat.compare_eq_eq]
  omega

theorem cmp_bne_gt_iff : (v.cmp w != .gt) = true ↔ ¬v.isNewerThan w := by
  simp [isNewerThan]

theorem not_isNewerThan_self (v : Version) : ¬v.isNewerThan v := by
  rw [isNewerThan_iff]
  omega

theorem isNewerThan_trans (h : u.isNewerThan v) (hvw : v.isNewerThan w) : u.isNewerThan w := by
  rw [isNewerThan_iff] at *
  omega

theorem isNewerThan_of_not_isNewerThan (h : u.isNewerThan w) (hvu : ¬u.isNewerThan v) :
    v.isNewerThan w := by
  rw [isNewerThan_iff] at *
  omega

theorem mem_descending {vs : List Version} : v ∈ descending vs ↔ v ∈ vs :=
  List.mem_mergeSort

theorem descends_trans (u v w : Version) (huv : v.cmp u != .gt) (hvw : w.cmp v != .gt) :
    w.cmp u != .gt := by
  rw [cmp_bne_gt_iff, isNewerThan_iff] at *
  omega

theorem descends_total (v w : Version) : (w.cmp v != .gt || v.cmp w != .gt) = true := by
  rw [Bool.or_eq_true]
  rw [cmp_bne_gt_iff, cmp_bne_gt_iff]
  rw [isNewerThan_iff, isNewerThan_iff]
  omega

theorem pairwise_descending (vs : List Version) :
    (descending vs).Pairwise fun v w => ¬w.isNewerThan v := by
  have hsorted : (descending vs).Pairwise fun v w => (w.cmp v != .gt) = true :=
    List.pairwise_mergeSort descends_trans descends_total vs
  exact hsorted.imp cmp_bne_gt_iff.1

theorem not_isNewerThan_of_find?_descending {vs : List Version} {test : Version → Bool}
    (h : (descending vs).find? test = some v) (hw : w ∈ vs) (htest : test w) :
    ¬w.isNewerThan v := by
  rw [List.find?_eq_some_iff_append] at h
  have ⟨_, front, back, happend, hfront⟩ := h
  have hsorted := pairwise_descending vs
  rw [← mem_descending] at hw
  rw [happend] at hw hsorted
  rw [List.pairwise_append] at hsorted
  -- What stands before the first hit fails the test, and what stands behind it is not newer.
  cases List.mem_append.1 hw with
  | inl hw =>
    have hnot := hfront w hw
    rw [htest] at hnot
    cases hnot
  | inr hw =>
    cases List.mem_cons.1 hw with
    | inl hw =>
      rw [hw]
      exact not_isNewerThan_self v
    | inr hw => exact List.rel_of_pairwise_cons hsorted.2.1 hw

variable {test : Version → Bool} {vs : List Version}

/--
A version passes a test, and none that does is newer.
-/
def isBest (vs : List Version) (test : Version → Bool) (v : Version) : Bool :=
  test v && vs.all fun w => !(test w && w.isNewerThan v)

theorem isBest_iff : isBest vs test v ↔ test v ∧ ∀ w ∈ vs, test w → ¬w.isNewerThan v := by
  unfold isBest
  rw [Bool.and_eq_true, List.all_eq_true]
  simp only [Bool.not_eq_true', Bool.and_eq_false_imp, Bool.not_eq_true]

theorem isBest_cons_iff :
    isBest (w :: vs) test v ↔ isBest vs test v ∧ (test w → ¬w.isNewerThan v) := by
  rw [isBest_iff, isBest_iff]
  rw [List.forall_mem_cons]
  constructor
  . intro h
    exact ⟨⟨h.1, h.2.2⟩, h.2.1⟩
  . intro h
    exact ⟨h.1.1, h.2, h.1.2⟩

/--
A version that is not among the best ones can be left out if it is not newer than any of them.
-/
theorem find?_isBest_cons (hnot : ¬isBest (v :: vs) test v)
    (h : ∀ u, isBest vs test u → test v → ¬v.isNewerThan u) :
    (v :: vs).find? (isBest (v :: vs) test) = vs.find? (isBest vs test) := by
  rw [List.find?_cons_of_neg hnot]
  apply List.find?_congr
  intro u _
  rw [Bool.eq_iff_iff]
  rw [isBest_cons_iff]
  exact and_iff_left_of_imp (h u)

theorem exists_descending_cons (v : Version) (vs : List Version) :
    ∃ front back, descending (v :: vs) = front ++ v :: back ∧ descending vs = front ++ back ∧
      ∀ w ∈ front, w.isNewerThan v := by
  have ⟨front, back, hcons, hrest, hfront⟩ :=
    List.mergeSort_cons descends_trans descends_total v vs
  refine ⟨front, back, hcons, hrest, ?_⟩
  intro w hw
  simpa [isNewerThan] using hfront w hw

/--
Versions of the same release keep their order as they are sorted, so that the first of the best ones
stays the first.
-/
theorem find?_descending (vs : List Version) (test : Version → Bool) :
    (descending vs).find? test = vs.find? (isBest vs test) := by
  induction vs with
  | nil => simp [descending]
  | cons v vs ih =>
    have ⟨front, back, hcons, hrest, hfront⟩ := exists_descending_cons v vs
    rw [hrest] at ih
    by_cases hpassed : ∃ w ∈ front, test w
    -- Something newer than the first version is there, and it is found with or without that one.
    . have ⟨w, hw, htest⟩ := hpassed
      have hnewer := hfront w hw
      have hvs : w ∈ vs := by
        rw [← mem_descending, hrest]
        exact List.mem_append_left _ hw
      have hsome : (front.find? test).isSome := List.find?_isSome.2 hpassed
      rw [find?_isBest_cons]
      . rw [← ih, hcons]
        rw [List.find?_append, List.find?_append]
        rw [Option.or_of_isSome hsome, Option.or_of_isSome hsome]
      . intro hbest
        exact (isBest_iff.1 hbest).2 w (List.mem_cons_of_mem _ hvs) htest hnewer
      . intro u hbest _ hvu
        exact (isBest_iff.1 hbest).2 w hvs htest (isNewerThan_trans hnewer hvu)
    . have hnone : front.find? test = none := by
        rw [List.find?_eq_none]
        intro w hw htest
        exact hpassed ⟨w, hw, htest⟩
      have hfound : (descending (v :: vs)).find? test = (v :: back).find? test := by
        rw [hcons]
        rw [List.find?_append]
        rw [hnone, Option.none_or]
      by_cases hv : test v
      . rw [List.find?_cons_of_pos hv] at hfound
        have hbest : isBest (v :: vs) test v := by
          rw [isBest_iff]
          refine ⟨hv, ?_⟩
          intro w hw htest
          exact not_isNewerThan_of_find?_descending hfound hw htest
        rw [hfound]
        rw [List.find?_cons_of_pos hbest]
      . rw [List.find?_cons_of_neg hv] at hfound
        rw [find?_isBest_cons]
        . rw [← ih, hfound]
          rw [List.find?_append]
          rw [hnone, Option.none_or]
        . intro hbest
          exact hv (isBest_iff.1 hbest).1
        . intro _ _ htest
          exact absurd htest hv

end ServerLauncher.Version
