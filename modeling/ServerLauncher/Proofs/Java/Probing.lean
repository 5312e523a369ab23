import ServerLauncher.Java.Search

/-!
This module contains what becomes of asking executables for their versions: a configured executable is
judged by its own answer, and a search finds nothing that is too old.
-/

namespace ServerLauncher.Java

/--
A file, run on a machine, answers like Java of a version.
-/
def Answers (m : Machine) (path : Path) (version : Nat) : Prop :=
  m.files.isFile path ∧ ∃ execution, m.run path ["-version"] = .ok execution ∧
    execution.succeeded ∧ parseVersion? (Utf8.decodeLossy execution.stderr) = some version

variable {m m' : Machine} {path : Path} {runtime : Runtime} {v w : Nat}

theorem probe_eq_some_iff :
    probe m path = some runtime ↔ runtime.path = path ∧ Answers m path runtime.version := by
  constructor
  . intro h
    unfold probe at h
    split at h
    . next hfile =>
      split at h
      . next execution hrun =>
        split at h
        . next hsucceeded =>
          have ⟨version, hversion, hruntime⟩ := Option.map_eq_some_iff.1 h
          rw [← hruntime]
          exact ⟨rfl, hfile, execution, hrun, hsucceeded, hversion⟩
        . cases h
      . cases h
    . cases h
  . intro h
    have ⟨hpath, hfile, execution, hrun, hsucceeded, hversion⟩ := h
    unfold probe
    rw [if_pos hfile, hrun]
    dsimp only
    rw [if_pos hsucceeded, hversion, ← hpath]
    rfl

theorem probe_eq_none_iff : probe m path = none ↔ ∀ v, ¬Answers m path v := by
  constructor
  . intro h v hv
    have hsome : probe m path = some ⟨path, v⟩ := probe_eq_some_iff.2 ⟨rfl, hv⟩
    rw [h] at hsome
    cases hsome
  . intro h
    cases hprobe : probe m path with
    | none => rfl
    | some runtime => exact absurd (probe_eq_some_iff.1 hprobe).2 (h _)

theorem Answers.unique (h : Answers m path v) (h' : Answers m path w) : v = w := by
  have hv : probe m path = some ⟨path, v⟩ := probe_eq_some_iff.2 ⟨rfl, h⟩
  have hw : probe m path = some ⟨path, w⟩ := probe_eq_some_iff.2 ⟨rfl, h'⟩
  rw [hv] at hw
  cases hw
  rfl

theorem probe_congr (h : ∀ v, Answers m' path v ↔ Answers m path v) :
    probe m' path = probe m path := by
  cases hprobe : probe m path with
  | none =>
    rw [probe_eq_none_iff] at *
    intro v
    rw [h]
    exact hprobe v
  | some runtime =>
    rw [probe_eq_some_iff] at *
    rw [h]
    exact hprobe

/--
How a configured executable is judged.
-/
inductive Verdict (m : Machine) (path : Path) : Except RuntimeError Runtime → Prop where
  | usable {v : Nat} (hanswers : Answers m path v) (hminimum : minimumVersion ≤ v) :
    Verdict m path (.ok ⟨path, v⟩)
  | tooOld {v : Nat} (hanswers : Answers m path v) (hminimum : v < minimumVersion) :
    Verdict m path (.error (.configuredVersionTooLow path v minimumVersion))
  | silent (hsilent : ∀ v, ¬Answers m path v) :
    Verdict m path (.error (.invalidConfiguredPath path))

theorem verdict_resolveConfigured (m : Machine) (path : Path) :
    Verdict m path (resolveConfigured m path) := by
  unfold resolveConfigured
  cases hprobe : probe m path with
  | none => exact .silent (probe_eq_none_iff.1 hprobe)
  | some runtime =>
    have ⟨hpath, hanswers⟩ := probe_eq_some_iff.1 hprobe
    rcases runtime with ⟨found, version⟩
    cases hpath
    dsimp only
    split
    . next hminimum => exact .tooOld hanswers hminimum
    . next hminimum => exact .usable hanswers (Nat.le_of_not_lt hminimum)

theorem resolveConfigured_congr (h : ∀ v, Answers m' path v ↔ Answers m path v) :
    resolveConfigured m' path = resolveConfigured m path := by
  unfold resolveConfigured
  rw [probe_congr h]

theorem Verdict.eq_ok_iff {result : Except RuntimeError Runtime} (h : Verdict m path result) :
    result = .ok runtime ↔
      runtime.path = path ∧ Answers m path runtime.version ∧ minimumVersion ≤ runtime.version := by
  constructor
  . intro hresult
    rw [hresult] at h
    cases h with
    | usable hanswers hminimum => exact ⟨rfl, hanswers, hminimum⟩
  . intro hruntime
    have ⟨hpath, hanswers, hminimum⟩ := hruntime
    cases h with
    | usable hanswers' _ =>
      rw [hanswers'.unique hanswers]
      rw [← hpath]
    | tooOld hanswers' hlt =>
      rw [hanswers'.unique hanswers] at hlt
      exact absurd hminimum (Nat.not_le.2 hlt)
    | silent hsilent => exact absurd hanswers (hsilent _)

theorem Verdict.eq_tooLow_iff {result : Except RuntimeError Runtime} (h : Verdict m path result)
    {p : Path} {minimum : Nat} :
    result = .error (.configuredVersionTooLow p v minimum) ↔
      p = path ∧ minimum = minimumVersion ∧ Answers m path v ∧ v < minimumVersion := by
  constructor
  . intro hresult
    rw [hresult] at h
    cases h with
    | tooOld hanswers hlt => exact ⟨rfl, rfl, hanswers, hlt⟩
  . intro hold
    have ⟨hpath, hminimum, hanswers, hlt⟩ := hold
    rw [hpath, hminimum]
    cases h with
    | usable hanswers' hle =>
      rw [hanswers'.unique hanswers] at hle
      exact absurd hle (Nat.not_le.2 hlt)
    | tooOld hanswers' _ => rw [hanswers'.unique hanswers]
    | silent hsilent => exact absurd hanswers (hsilent _)

theorem Verdict.eq_invalid_iff {result : Except RuntimeError Runtime} (h : Verdict m path result)
    {p : Path} :
    result = .error (.invalidConfiguredPath p) ↔ p = path ∧ ∀ v, ¬Answers m path v := by
  constructor
  . intro hresult
    rw [hresult] at h
    cases h with
    | silent hsilent => exact ⟨rfl, hsilent⟩
  . intro hinvalid
    have ⟨hpath, hsilent⟩ := hinvalid
    rw [hpath]
    cases h with
    | usable hanswers _ => exact absurd hanswers (hsilent _)
    | tooOld hanswers _ => exact absurd hanswers (hsilent _)
    | silent _ => rfl

theorem minimum_le_of_locate {places : Places} (h : locate m places = .ok runtime) :
    minimumVersion ≤ runtime.version := by
  unfold locate at h
  dsimp only at h
  split at h
  . next found hfound =>
    cases h
    have ⟨directory, _, hfilter⟩ := List.exists_of_findSome?_eq_some hfound
    have ⟨_, hminimum⟩ := Option.filter_eq_some_iff.1 hfilter
    exact of_decide_eq_true hminimum
  . cases h

theorem minimum_le_of_find {places : Places} {configured : Option Path}
    (h : find m places configured = .ok runtime) : minimumVersion ≤ runtime.version := by
  cases configured with
  | none => exact minimum_le_of_locate h
  | some path => exact ((verdict_resolveConfigured m path).eq_ok_iff.1 h).2.2

theorem answers_of_find {places : Places} {configured : Option Path}
    (h : find m places configured = .ok runtime) : Answers m runtime.path runtime.version := by
  cases configured with
  | none =>
    unfold find locate at h
    dsimp only at h
    split at h
    . next found hfound =>
      cases h
      have ⟨directory, _, hfilter⟩ := List.exists_of_findSome?_eq_some hfound
      have ⟨hfind, _⟩ := Option.filter_eq_some_iff.1 hfilter
      have ⟨name, _, hprobe⟩ := List.exists_of_findSome?_eq_some hfind
      have ⟨hpath, hanswers⟩ := probe_eq_some_iff.1 hprobe
      rw [hpath]
      exact hanswers
    . cases h
  | some path =>
    have ⟨hpath, hanswers, _⟩ := (verdict_resolveConfigured m path).eq_ok_iff.1 h
    rw [hpath]
    exact hanswers

end ServerLauncher.Java
