import ServerLauncher.Distribution.Basic
import ServerLauncher.Proofs.Text.Fronts
import ServerLauncher.Proofs.Version.Canonical

/-!
This module contains which version a server jar tells: what it prints has to end with the text of a
version and perhaps one line break. In front of it there is nothing, or anything that ends with the
marker.
-/

namespace ServerLauncher.Distribution

/--
What stands in front of a version. Without it, the version stands alone.
-/
def marker : String := " version "

def lineBreaks : List String := ["\n", "\r\n"]

/--
What may follow a version.
-/
def endings : List String := "" :: lineBreaks

/--
What a jar may print in front of its version.
-/
def IsBanner (banner : String) : Prop :=
  banner = "" ∨ ∃ front, banner = front ++ marker

section LineBreaks

variable {cs line : List Char}

theorem exists_eq_append_dropLineBreak (cs : List Char) :
    ∃ ending ∈ endings, cs = dropLineBreak cs ++ ending.toList := by
  unfold dropLineBreak
  split
  . exact ⟨"", by decide, by simp⟩
  . next front hfront =>
    rw [Text.beforeBack?_eq_some_iff] at hfront
    cases hreturn : Text.beforeBack? ['\r'] front with
    | none => exact ⟨"\n", by decide, hfront⟩
    | some line =>
      rw [Text.beforeBack?_eq_some_iff] at hreturn
      refine ⟨"\r\n", by decide, ?_⟩
      rw [hfront, hreturn]
      simp

theorem beforeBack?_singleton_of_ne {last c : Char} (hlast : cs.getLast? = some last)
    (hne : last ≠ c) : Text.beforeBack? [c] cs = none := by
  rw [Text.beforeBack?_eq_none_iff]
  intro front heq
  rw [heq] at hlast
  simp at hlast
  exact hne hlast.symm

theorem dropLineBreak_of_ne {last : Char} (hlast : line.getLast? = some last)
    (hbreak : last ≠ '\n') : dropLineBreak line = line := by
  unfold dropLineBreak
  rw [beforeBack?_singleton_of_ne hlast hbreak]

/--
A line break is dropped with its carriage return, and not more than one.
-/
theorem dropLineBreak_append {last : Char} {lineBreak : String} (hlast : line.getLast? = some last)
    (hreturn : last ≠ '\r') (h : lineBreak ∈ lineBreaks) :
    dropLineBreak (line ++ lineBreak.toList) = line := by
  unfold dropLineBreak
  simp only [lineBreaks, List.mem_cons, List.not_mem_nil, or_false] at h
  cases h with
  | inl h =>
    have hfeed : line ++ lineBreak.toList = line ++ ['\n'] := by simp [h]
    rw [hfeed]
    rw [Text.beforeBack?_append]
    dsimp only
    rw [beforeBack?_singleton_of_ne hlast hreturn]
    rfl
  | inr h =>
    have hfeed : line ++ lineBreak.toList = line ++ ['\r'] ++ ['\n'] := by simp [h]
    rw [hfeed]
    rw [Text.beforeBack?_append]
    dsimp only
    rw [Text.beforeBack?_append]
    rfl

end LineBreaks

section Versions

variable {s banner : String} {v : Version}

theorem getLast?_chars (h : v.WellFormed) :
    ∃ last, v.chars.getLast? = some last ∧ last ≠ '\n' ∧ last ≠ '\r' := by
  have hne : v.chars ≠ [] := by simp [Version.chars]
  have hmem := Version.mem_chars h (List.getLast_mem hne)
  refine ⟨_, List.getLast?_eq_some_getLast hne, ?_, ?_⟩
  . intro heq
    rw [heq] at hmem
    simp [Version.isIdentifierChar] at hmem
  . intro heq
    rw [heq] at hmem
    simp [Version.isIdentifierChar] at hmem

theorem parseChars?_eq_some_iff {cs : List Char} :
    Version.parseChars? cs = some v ↔ v.WellFormed ∧ cs = v.chars := by
  constructor
  . exact Version.wellFormed_of_parseChars?
  . intro h
    rw [h.2]
    exact Version.parseChars?_chars h.1

theorem isBanner_iff :
    IsBanner banner ↔ banner.toList = [] ∨ marker.toList <:+ banner.toList := by
  unfold IsBanner
  apply or_congr
  . exact String.toList_eq_nil_iff.symm
  . constructor
    . rintro ⟨front, rfl⟩
      rw [String.toList_append]
      exact List.suffix_append _ _
    . rintro ⟨front, h⟩
      refine ⟨String.ofList front, ?_⟩
      rw [← String.toList_inj]
      rw [← h]
      simp

/--
No version contains or completes the marker, since it ends with a space.
-/
theorem lastPiece_eq_chars_iff {cs : List Char} (h : v.WellFormed) :
    Text.lastPiece marker.toList cs = v.chars ↔
      ∃ banner : String, IsBanner banner ∧ cs = banner.toList ++ v.chars := by
  have hspace := Version.not_mem_text h (c := ' ') (by decide) (by decide) rfl
  rw [Version.toList_text] at hspace
  have hlast : marker.toList.getLast? = some ' ' := rfl
  rw [Text.lastPiece_eq_iff hlast hspace]
  constructor
  . intro h
    have ⟨front, hcs, hfront⟩ := h
    refine ⟨String.ofList front, isBanner_iff.2 ?_, ?_⟩
    . rwa [String.toList_ofList]
    . rwa [String.toList_ofList]
  . intro h
    have ⟨banner, hbanner, hcs⟩ := h
    exact ⟨banner.toList, hcs, isBanner_iff.1 hbanner⟩

theorem parseVersion?_eq_some_iff :
    parseVersion? s = some v ↔
      v.WellFormed ∧ ∃ banner ending, IsBanner banner ∧ ending ∈ endings ∧
        s = banner ++ v.text ++ ending := by
  unfold parseVersion?
  rw [parseChars?_eq_some_iff]
  apply and_congr_right
  intro hwf
  change Text.lastPiece marker.toList _ = _ ↔ _
  rw [lastPiece_eq_chars_iff hwf]
  constructor
  . intro h
    have ⟨banner, hbanner, hline⟩ := h
    have ⟨ending, hending, hs⟩ := exists_eq_append_dropLineBreak s.toList
    refine ⟨banner, ending, hbanner, hending, ?_⟩
    rw [← String.toList_inj]
    rw [hs, hline]
    simp [Version.toList_text]
  . intro h
    have ⟨banner, ending, hbanner, hending, hs⟩ := h
    have ⟨last, hlast, hbreak, hreturn⟩ := getLast?_chars hwf
    have hline : (banner.toList ++ v.chars).getLast? = some last := by
      rw [List.getLast?_append, hlast]
      rfl
    refine ⟨banner, hbanner, ?_⟩
    rw [hs]
    rw [String.toList_append, String.toList_append, Version.toList_text]
    cases List.mem_cons.1 hending with
    | inl hnone =>
      rw [hnone, String.toList_empty, List.append_nil]
      exact dropLineBreak_of_ne hline hbreak
    | inr hlineBreak => exact dropLineBreak_append hline hreturn hlineBreak

/--
Of two line breaks only one is dropped, so that no version is left in front of them.
-/
theorem parseVersion?_append_lineBreaks {b₁ b₂ : String} (h₁ : b₁ ∈ lineBreaks)
    (h₂ : b₂ ∈ lineBreaks) : parseVersion? (s ++ b₁ ++ b₂) = none := by
  have hlast : (s.toList ++ b₁.toList).getLast? = some '\n' := by
    simp only [lineBreaks, List.mem_cons, List.not_mem_nil, or_false] at h₁
    rcases h₁ with rfl | rfl <;> simp
  rw [Option.eq_none_iff_forall_ne_some]
  intro v h
  unfold parseVersion? at h
  rw [String.toList_append, String.toList_append] at h
  rw [dropLineBreak_append hlast (by decide) h₂] at h
  rw [parseChars?_eq_some_iff] at h
  have ⟨hwf, hchars⟩ := h
  have ⟨banner, _, hline⟩ := (lastPiece_eq_chars_iff hwf).1 hchars
  have ⟨last, hend, hbreak, _⟩ := getLast?_chars hwf
  rw [hline, List.getLast?_append, hend] at hlast
  exact hbreak (Option.some.inj hlast)

theorem space_not_mem_told {ending : String} (h : v.WellFormed) (hending : ending ∈ endings) :
    ' ' ∉ v.text.toList ++ ending.toList := by
  have hspace := Version.not_mem_text h (c := ' ') (by decide) (by decide) rfl
  simp only [endings, lineBreaks, List.mem_cons, List.not_mem_nil, or_false] at hending
  rcases hending with rfl | rfl | rfl <;> simp [hspace]

theorem exists_eq_append_marker {ending : String} (h : v.WellFormed) (hending : ending ∈ endings)
    (hbanner : IsBanner banner) (hs : marker ++ s = banner ++ v.text ++ ending) :
    ∃ front, banner = front ++ marker := by
  cases hbanner with
  | inr hbanner => exact hbanner
  | inl hnone =>
    have htold := congrArg String.toList hs
    rw [hnone] at htold
    simp only [String.toList_append, String.toList_empty, List.nil_append] at htold
    apply absurd (space_not_mem_told h hending)
    rw [← htold]
    simp [marker]

/--
The marker does not reach into the version behind it, so that the banner goes on behind the marker.
-/
theorem exists_banner_eq_append {front : String} {ending : String} (h : v.WellFormed)
    (hending : ending ∈ endings)
    (hs : front ++ (marker ++ s) = banner ++ v.text ++ ending) :
    ∃ others, banner = front ++ (marker ++ others) ∧ s = others ++ v.text ++ ending := by
  have htold := congrArg String.toList hs
  simp only [String.toList_append, List.append_assoc] at htold
  rw [← List.append_assoc front.toList] at htold
  rcases List.append_eq_append_iff.1 htold with ⟨others, hbanner, hrest⟩ | ⟨others, hfront, hrest⟩
  . refine ⟨String.ofList others, ?_, ?_⟩
    . rw [← String.toList_inj]
      simp [hbanner]
    . rw [← String.toList_inj]
      simp [hrest]
  . cases hothers : others.getLast? with
    | none =>
      rw [List.getLast?_eq_none_iff] at hothers
      rw [hothers, List.append_nil] at hfront
      rw [hothers, List.nil_append] at hrest
      refine ⟨"", ?_, ?_⟩
      . rw [← String.toList_inj]
        simp [hfront]
      . rw [← String.toList_inj]
        simp [hrest]
    | some last =>
      have hspace : last = ' ' := by
        have hend := congrArg List.getLast? hfront
        rw [List.getLast?_append, List.getLast?_append, hothers] at hend
        exact (Option.some.inj hend).symm
      apply absurd (space_not_mem_told h hending)
      rw [hrest]
      rw [hspace] at hothers
      exact fun hnot => hnot (List.mem_append_left _ (List.mem_of_getLast? hothers))

/--
A text that holds the marker tells the same version whatever stands in front of the marker.
-/
theorem parseVersion?_append_marker (front : String) :
    parseVersion? (front ++ (marker ++ s)) = parseVersion? (marker ++ s) := by
  apply Option.ext
  intro v
  rw [parseVersion?_eq_some_iff, parseVersion?_eq_some_iff]
  apply and_congr_right
  intro hwf
  constructor
  . intro h
    have ⟨banner, ending, hbanner, hending, hs⟩ := h
    have ⟨others, heq, hs⟩ := exists_banner_eq_append hwf hending hs
    refine ⟨marker ++ others, ending, ?_, hending, ?_⟩
    . rw [isBanner_iff] at hbanner ⊢
      rw [heq] at hbanner
      simp only [String.toList_append] at hbanner ⊢
      apply Or.inr
      have hmarker := hbanner.resolve_left (by simp [marker])
      apply List.suffix_of_suffix_length_le hmarker (List.suffix_append _ _)
      simp
    . rw [hs]
      simp only [String.append_assoc]
  . intro h
    have ⟨banner, ending, hbanner, hending, hs⟩ := h
    have ⟨before, hbefore⟩ := exists_eq_append_marker hwf hending hbanner hs
    refine ⟨front ++ banner, ending, .inr ⟨front ++ before, ?_⟩, hending, ?_⟩
    . rw [hbefore, String.append_assoc]
    . rw [hs]
      simp only [String.append_assoc]

end Versions

/--
What a jar tells by its output. The version is read in full from behind the last marker, or from the
whole output, and exactly one line break may follow it.
-/
structure TellsVersion (output : String) : Prop where
  told : ∀ v, parseVersion? output = some v ↔
    v.Canonical ∧ ∃ banner ending, IsBanner banner ∧ ending ∈ endings ∧
      output = banner ++ v.text ++ ending
  ignored : ∀ front, parseVersion? (front ++ (marker ++ output)) = parseVersion? (marker ++ output)
  once : ∀ b₁ ∈ lineBreaks, ∀ b₂ ∈ lineBreaks, parseVersion? (output ++ b₁ ++ b₂) = none

theorem tells_version (output : String) : TellsVersion output where
  told v := by
    rw [parseVersion?_eq_some_iff]
    rw [Version.wellFormed_iff_canonical]
  ignored := parseVersion?_append_marker
  once _ h₁ _ h₂ := parseVersion?_append_lineBreaks h₁ h₂

end ServerLauncher.Distribution
