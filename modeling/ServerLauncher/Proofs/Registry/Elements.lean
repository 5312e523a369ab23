import Mathlib.Data.List.TakeWhile
import Mathlib.Data.Option.Basic
import ServerLauncher.Proofs.Text.Fronts
import ServerLauncher.Registry.Metadata

/-!
This module contains which elements the search for the latest version finds. An element is described
by what it consists of, and the search returns the value of the leftmost one.
-/

namespace ServerLauncher.Registry

/--
The characters may be the value of an element: there are some, and neither white space nor the start
of a tag is among them.
-/
structure IsValue (value : List Char) : Prop where
  ne_nil : value ≠ []
  lt_not_mem : '<' ∉ value
  not_isBlank : ∀ c ∈ value, Text.isBlank c = false

def AllBlank (cs : List Char) : Prop :=
  ∀ c ∈ cs, Text.isBlank c

/--
An element with a value starts at a position of a text: its opening tag, white space, the value,
white space, and its closing tag.
-/
def ElementAt (text tag : String) (i : Nat) (value : String) : Prop :=
  ∃ before behind rest : List Char,
    text.toList.drop i =
      ("<" ++ tag ++ ">").toList ++ (before ++ (value.toList ++ (behind ++
        (("</" ++ tag ++ ">").toList ++ rest)))) ∧
    AllBlank before ∧ IsValue value.toList ∧ AllBlank behind

/--
The value is that of the leftmost element with a tag.
-/
def IsLeftmost (text tag value : String) : Prop :=
  ∃ i, ElementAt text tag i value ∧ ∀ j < i, ∀ other, ¬ElementAt text tag j other

section Cutting

variable {front cs rest value : List Char} {c : Char}

theorem dropBlank_append (hfront : AllBlank front)
    (hcs : ∀ c, cs.head? = some c → Text.isBlank c = false) : Text.dropBlank (front ++ cs) = cs :=
  Text.dropWhile_append_of_stop hfront hcs

theorem exists_eq_append_dropBlank (cs : List Char) :
    ∃ front, AllBlank front ∧ cs = front ++ Text.dropBlank cs := by
  refine ⟨cs.takeWhile Text.isBlank, ?_, ?_⟩
  . intro c hc
    exact List.mem_takeWhile_imp hc
  . exact List.takeWhile_append_dropWhile.symm

theorem exists_eq_trimBlank (cs : List Char) :
    ∃ before behind, AllBlank before ∧ AllBlank behind ∧
      cs = before ++ (Text.trimBlank cs ++ behind) := by
  have ⟨before, hbefore, hcs⟩ := exists_eq_append_dropBlank cs
  have ⟨behind, hbehind, hrest⟩ := exists_eq_append_dropBlank (Text.dropBlank cs).reverse
  refine ⟨before, behind.reverse, hbefore, by simpa [AllBlank] using hbehind, ?_⟩
  unfold Text.trimBlank
  rw [← List.reverse_append]
  rw [← hrest]
  rw [List.reverse_reverse]
  exact hcs

theorem AllBlank.lt_not_mem (h : AllBlank front) : '<' ∉ front := by
  intro hlt
  have hblank := h '<' hlt
  revert hblank
  decide

theorem isValue_iff : IsValue value ↔ value ≠ [] ∧ ∀ c ∈ value, isValueChar c := by
  simp only [isValueChar, Bool.and_eq_true, Bool.not_eq_true', decide_eq_true_eq]
  constructor
  . intro h
    refine ⟨h.ne_nil, ?_⟩
    intro c hc
    exact ⟨fun heq => h.lt_not_mem (heq ▸ hc), h.not_isBlank c hc⟩
  . intro h
    exact ⟨h.1, fun hlt => (h.2 _ hlt).1 rfl, fun c hc => (h.2 c hc).2⟩

theorem IsValue.head?_append (h : IsValue value) (cs : List Char) :
    ∀ c, (value ++ cs).head? = some c → Text.isBlank c = false := by
  intro c hc
  rw [List.head?_append_of_ne_nil value h.ne_nil] at hc
  exact h.not_isBlank c (List.mem_of_head? hc)

/--
A value ends where white space or a tag starts.
-/
theorem IsValue.takeWhile_append (h : IsValue value) (hfront : AllBlank front)
    (hcs : cs.head? = some '<') : (value ++ (front ++ cs)).takeWhile isValueChar = value := by
  have hstop : ∀ c, (front ++ cs).head? = some c → isValueChar c = false := by
    intro c hc
    cases front with
    | nil =>
      rw [List.nil_append, hcs] at hc
      cases hc
      rfl
    | cons blank front =>
      cases hc
      simp [isValueChar, hfront c List.mem_cons_self]
  exact Text.takeWhile_append_of_stop (isValue_iff.1 h).2 hstop

end Cutting

section Elements

variable {tag : String} {cs value : List Char}

theorem elementAt?_eq_some_iff :
    elementAt? tag cs = some value ↔
      ∃ before behind rest : List Char,
        cs = ("<" ++ tag ++ ">").toList ++ (before ++ (value ++ (behind ++
          (("</" ++ tag ++ ">").toList ++ rest)))) ∧
        AllBlank before ∧ IsValue value ∧ AllBlank behind := by
  unfold elementAt?
  simp only [Option.bind_eq_bind, Option.bind_eq_some_iff, Text.afterFront?_eq_some_iff,
    Option.guard_eq_some', Option.pure_def, Option.some.injEq]
  constructor
  . intro h
    obtain ⟨opened, hcs, _, hguard, rest, hrest, hvalue⟩ := h
    obtain ⟨before, hbefore, hopened⟩ := exists_eq_append_dropBlank opened
    generalize Text.dropBlank opened = inside at *
    have hinside := List.takeWhile_append_dropWhile (p := isValueChar) (l := inside)
    rw [hvalue] at hguard hrest hinside
    obtain ⟨behind, hbehind, hclosing⟩ := exists_eq_append_dropBlank (inside.drop value.length)
    refine ⟨before, behind, rest, ?_, hbefore, ?_, hbehind⟩
    . rw [hcs, hopened]
      rw [← hrest]
      rw [← hclosing]
      rw [← hinside]
      simp
    . rw [isValue_iff]
      constructor
      . simpa using hguard
      . intro c hc
        rw [← hvalue] at hc
        exact List.mem_takeWhile_imp hc
  . intro h
    obtain ⟨before, behind, rest, hcs, hbefore, hvalue, hbehind⟩ := h
    have hclosing : (("</" ++ tag ++ ">").toList ++ rest).head? = some '<' := by simp
    have hblank : ∀ c, (("</" ++ tag ++ ">").toList ++ rest).head? = some c →
        Text.isBlank c = false := by
      intro c hc
      rw [hclosing] at hc
      cases hc
      decide
    refine ⟨_, hcs, (), ?_⟩
    rw [dropBlank_append hbefore (hvalue.head?_append _)]
    rw [hvalue.takeWhile_append hbehind hclosing]
    refine ⟨?_, rest, ?_, rfl⟩
    . simpa using hvalue.ne_nil
    . rw [List.drop_left]
      exact dropBlank_append hbehind hblank

theorem elementAt?_nil : elementAt? tag [] = none := by
  rw [Option.eq_none_iff_forall_ne_some]
  intro value h
  have ⟨before, behind, rest, hnil, _⟩ := elementAt?_eq_some_iff.1 h
  simp at hnil

theorem firstElement?_eq_none_iff :
    firstElement? tag cs = none ↔ ∀ i, elementAt? tag (cs.drop i) = none := by
  induction cs with
  | nil => simp [firstElement?, elementAt?_nil]
  | cons c rest ih =>
    unfold firstElement?
    rw [Option.or_eq_none_iff, ih]
    constructor
    . intro h i
      cases i with
      | zero => exact h.1
      | succ i => exact h.2 i
    . intro h
      exact ⟨h 0, fun i => h (i + 1)⟩

theorem firstElement?_eq_some_iff :
    firstElement? tag cs = some value ↔
      ∃ i, elementAt? tag (cs.drop i) = some value ∧ ∀ j < i, elementAt? tag (cs.drop j) = none := by
  induction cs with
  | nil => simp [firstElement?, elementAt?_nil]
  | cons c rest ih =>
    unfold firstElement?
    rw [Option.or_eq_some_iff, ih]
    constructor
    . intro h
      rcases h with hhere | ⟨hnone, i, hi, hbefore⟩
      . exact ⟨0, hhere, by simp⟩
      . refine ⟨i + 1, hi, ?_⟩
        intro j hj
        cases j with
        | zero => exact hnone
        | succ j => exact hbefore j (Nat.lt_of_succ_lt_succ hj)
    . intro h
      have ⟨i, hi, hbefore⟩ := h
      cases i with
      | zero => exact .inl hi
      | succ i =>
        refine .inr ⟨hbefore 0 (Nat.succ_pos i), i, hi, ?_⟩
        intro j hj
        exact hbefore (j + 1) (Nat.succ_lt_succ hj)

/--
What stands in front of an element does not matter if no element starts in it.
-/
theorem firstElement?_append {front : List Char}
    (h : ∀ i < front.length, elementAt? tag ((front ++ cs).drop i) = none) :
    firstElement? tag (front ++ cs) = firstElement? tag cs := by
  induction front with
  | nil => rfl
  | cons c front ih =>
    have hhere : elementAt? tag (c :: (front ++ cs)) = none := h 0 (Nat.succ_pos _)
    have hstep : firstElement? tag (c :: front ++ cs) =
        (elementAt? tag (c :: (front ++ cs))).or (firstElement? tag (front ++ cs)) := rfl
    rw [hstep, hhere, Option.none_or]
    apply ih
    intro i hi
    exact h (i + 1) (Nat.succ_lt_succ hi)

end Elements

section Texts

variable {text tag value : String} {i : Nat}

theorem elementAt_iff :
    ElementAt text tag i value ↔ elementAt? tag (text.toList.drop i) = some value.toList :=
  elementAt?_eq_some_iff.symm

theorem not_elementAt_iff :
    (∀ value, ¬ElementAt text tag i value) ↔ elementAt? tag (text.toList.drop i) = none := by
  rw [Option.eq_none_iff_forall_ne_some]
  constructor
  . intro h value hvalue
    apply h (String.ofList value)
    rw [elementAt_iff, hvalue, String.toList_ofList]
  . intro h value hvalue
    exact h _ (elementAt_iff.1 hvalue)

theorem isLeftmost_iff :
    IsLeftmost text tag value ↔ firstElement? tag text.toList = some value.toList := by
  unfold IsLeftmost
  simp only [firstElement?_eq_some_iff, ← not_elementAt_iff, ← elementAt_iff]

theorem trimBlank_append {before value behind : List Char} (hbefore : AllBlank before)
    (hvalue : IsValue value) (hbehind : AllBlank behind) :
    Text.trimBlank (before ++ (value ++ behind)) = value := by
  have hreverse : IsValue value.reverse := by
    constructor
    case ne_nil => simpa using hvalue.ne_nil
    case lt_not_mem => simpa using hvalue.lt_not_mem
    case not_isBlank => simpa using hvalue.not_isBlank
  unfold Text.trimBlank
  rw [dropBlank_append hbefore (hvalue.head?_append behind)]
  rw [List.reverse_append]
  rw [dropBlank_append (by simpa [AllBlank] using hbehind)]
  . exact List.reverse_reverse value
  . have h := hreverse.head?_append []
    rwa [List.append_nil] at h

/--
The value is all that there is between the tags, apart from the white space around it.
-/
theorem elementAt_iff_trimBlank :
    ElementAt text tag i value ↔
      ∃ content rest : List Char,
        text.toList.drop i =
          ("<" ++ tag ++ ">").toList ++ (content ++ (("</" ++ tag ++ ">").toList ++ rest)) ∧
        '<' ∉ content ∧ Text.trimBlank content = value.toList ∧ IsValue value.toList := by
  constructor
  . intro h
    have ⟨before, behind, rest, htext, hbefore, hvalue, hbehind⟩ := h
    refine ⟨before ++ (value.toList ++ behind), rest, ?_, ?_,
      trimBlank_append hbefore hvalue hbehind, hvalue⟩
    . rw [htext]
      simp
    . simp [hbefore.lt_not_mem, hvalue.lt_not_mem, hbehind.lt_not_mem]
  . intro h
    have ⟨content, rest, htext, _, htrim, hvalue⟩ := h
    have ⟨before, behind, hbefore, hbehind, hcontent⟩ := exists_eq_trimBlank content
    refine ⟨before, behind, rest, ?_, hbefore, hvalue, hbehind⟩
    rw [htext, hcontent, htrim]
    simp

end Texts

/--
What the search for the latest version finds in metadata: the value of the leftmost `latest` element,
or else of the leftmost `release` element. The value of an element is the whole of its content, so that
nothing is ever found within a value or across elements, and whatever is no such element is passed
over.
-/
structure FindsLeftmost (metadata : String) : Prop where
  found : ∀ value, latestText? metadata = some value ↔
    IsLeftmost metadata "latest" value ∨
      (∀ i other, ¬ElementAt metadata "latest" i other) ∧ IsLeftmost metadata "release" value
  missing : latestText? metadata = none ↔
    ∀ i value, ¬ElementAt metadata "latest" i value ∧ ¬ElementAt metadata "release" i value
  whole : ∀ tag i value, ElementAt metadata tag i value ↔
    ∃ content rest : List Char,
      metadata.toList.drop i =
        ("<" ++ tag ++ ">").toList ++ (content ++ (("</" ++ tag ++ ">").toList ++ rest)) ∧
      '<' ∉ content ∧ Text.trimBlank content = value.toList ∧ IsValue value.toList
  unique : ∀ tag i value other, ElementAt metadata tag i value → ElementAt metadata tag i other →
    value = other
  skipped : ∀ front back, metadata = front ++ back →
    (∀ i < front.length, ∀ value,
      ¬ElementAt metadata "latest" i value ∧ ¬ElementAt metadata "release" i value) →
    latestText? metadata = latestText? back

section Metadata

variable {metadata value : String}

theorem latestText?_eq_none_iff :
    latestText? metadata = none ↔
      ∀ i value, ¬ElementAt metadata "latest" i value ∧ ¬ElementAt metadata "release" i value := by
  unfold latestText?
  simp only [Option.map_eq_none_iff, Option.or_eq_none_iff, firstElement?_eq_none_iff,
    ← not_elementAt_iff, ← forall_and]

theorem latestText?_eq_some_iff :
    latestText? metadata = some value ↔
      IsLeftmost metadata "latest" value ∨
        (∀ i other, ¬ElementAt metadata "latest" i other) ∧ IsLeftmost metadata "release" value := by
  have hvalue : ∀ found : List Char, String.ofList found = value ↔ found = value.toList := by
    intro found
    rw [← String.toList_inj, String.toList_ofList]
  unfold latestText?
  simp only [Option.map_eq_some_iff, hvalue, exists_eq_right, Option.or_eq_some_iff,
    isLeftmost_iff, firstElement?_eq_none_iff, ← not_elementAt_iff]

theorem latestText?_append {front back : String} (h : metadata = front ++ back)
    (hfront : ∀ i < front.length, ∀ value,
      ¬ElementAt metadata "latest" i value ∧ ¬ElementAt metadata "release" i value) :
    latestText? metadata = latestText? back := by
  have htext : metadata.toList = front.toList ++ back.toList := by rw [h, String.toList_append]
  have hskip : ∀ tag, (∀ i < front.length, ∀ value, ¬ElementAt metadata tag i value) →
      firstElement? tag metadata.toList = firstElement? tag back.toList := by
    intro tag hnone
    rw [htext]
    apply firstElement?_append
    intro i hi
    rw [← htext]
    exact not_elementAt_iff.1 (hnone i (by rwa [String.length_toList] at hi))
  unfold latestText?
  rw [hskip "latest" fun i hi value => (hfront i hi value).1]
  rw [hskip "release" fun i hi value => (hfront i hi value).2]

theorem finds_leftmost_element (metadata : String) : FindsLeftmost metadata where
  found _ := latestText?_eq_some_iff
  missing := latestText?_eq_none_iff
  whole _ _ _ := elementAt_iff_trimBlank
  unique tag i value other hvalue hother := by
    have h := (elementAt_iff.1 hvalue).symm.trans (elementAt_iff.1 hother)
    exact String.toList_inj.1 (Option.some.inj h)
  skipped _ _ := latestText?_append

end Metadata

end ServerLauncher.Registry
