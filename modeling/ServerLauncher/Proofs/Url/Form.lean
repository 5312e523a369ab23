import ServerLauncher.Proofs.Url.Authority
import ServerLauncher.Proofs.Url.Segments

/-!
This module contains the form of the URLs that reading a text leads to, as far as their paths have
segments.
-/

namespace ServerLauncher.Url

/--
Whether a scheme may have a character behind its first one.
-/
def isSchemeChar (c : Char) : Bool :=
  c.isAlphanum || c = '+' || c = '-' || c = '.'

/--
A scheme in small letters.
-/
structure IsScheme (scheme : String) : Prop where
  head : scheme.toList.head?.any Char.isAlpha
  chars : scheme.toList.all isSchemeChar
  lower : scheme.toList.map Char.toLower = scheme.toList

/--
The characters that the query of a URL encodes.
-/
def querySet (scheme : String) : Char → Bool :=
  if isSpecialScheme scheme then inSpecialQuerySet else inQuerySet

/--
The host of a file: there is none, or one that is not the machine itself.
-/
def IsFileHost (host : String) : Prop :=
  host = "" ∨ host ≠ "localhost" ∧ ∃ cs, specialHost cs = .ok host

/--
The authorities that go with a scheme and the names of a path.
-/
inductive IsPlaced (scheme : String) : Option Authority → List String → Prop where
  | file {host : String} {names : List String} (hscheme : scheme = "file") (hhost : IsFileHost host)
    (hnames : trimNames names = names) : IsPlaced scheme (some ⟨"", "", host, none⟩) names
  | remote {a : Authority} {names : List String} (hscheme : scheme ≠ "file")
    (ha : a.IsWritten scheme) (hnames : isSpecialScheme scheme → names ≠ []) :
    IsPlaced scheme (some a) names
  | bare {names : List String} (hscheme : isSpecialScheme scheme = false) (hnames : names ≠ []) :
    IsPlaced scheme none names

/--
A URL in the form that reading one with the given names in its path leads to.
-/
structure IsWritten (u : Url) (names : List String) : Prop where
  path : u.path = .segments names
  scheme : IsScheme u.scheme
  segments : ∀ name ∈ names, IsSegment (isSpecialScheme u.scheme) name
  query : ∀ query ∈ u.query, Avoids (querySet u.scheme) query.toList
  fragment : ∀ fragment ∈ u.fragment, Avoids inFragmentSet fragment.toList
  placed : IsPlaced u.scheme u.authority names

variable {scheme host : String} {authority : Option Authority} {names : List String}
  {cs rest : List Char} {u : Url}

theorem sparesEscapes_querySet (scheme : String) : SparesEscapes (querySet scheme) := by
  unfold querySet
  split
  . exact sparesEscapes_inSpecialQuerySet
  . exact sparesEscapes_inQuerySet

/--
Query and fragment are encoded.
-/
theorem avoids_readTail (scheme : String) (cs : List Char) :
    (∀ query ∈ (readTail scheme cs).1, Avoids (querySet scheme) query.toList) ∧
      ∀ fragment ∈ (readTail scheme cs).2, Avoids inFragmentSet fragment.toList := by
  have hfragment : ∀ cs : List Char,
      Avoids inFragmentSet (String.ofList (encode inFragmentSet cs)).toList := by
    intro cs
    rw [String.toList_ofList]
    exact avoids_encode sparesEscapes_inFragmentSet cs
  unfold readTail
  split
  . next rest =>
    refine ⟨?_, ?_⟩
    . intro query hquery
      cases hquery
    . intro fragment h
      cases h
      exact hfragment rest
  . refine ⟨?_, ?_⟩
    . intro query hquery
      cases hquery
      rw [String.toList_ofList]
      exact avoids_encode (sparesEscapes_querySet scheme) _
    . intro fragment h
      have ⟨cs, _, heq⟩ := Option.map_eq_some_iff.1 h
      rw [← heq]
      exact hfragment cs
  . refine ⟨?_, ?_⟩
    . intro query hquery
      cases hquery
    . intro fragment h
      cases h

theorem isWritten_finish (hscheme : IsScheme scheme)
    (hnames : ∀ name ∈ names, IsSegment (isSpecialScheme scheme) name)
    (hplaced : IsPlaced scheme authority names) (cs : List Char) :
    (finish scheme authority (.segments names, cs)).IsWritten names where
  path := rfl
  scheme := hscheme
  segments := hnames
  query := (avoids_readTail scheme cs).1
  fragment := (avoids_readTail scheme cs).2
  placed := hplaced

theorem toNat_lt_of_isSchemeChar {c : Char} (h : isSchemeChar c) : c.toNat < 0x80 := by
  unfold isSchemeChar at h
  simp only [Bool.or_eq_true, decide_eq_true_eq] at h
  rcases h with ((h | h) | h) | h
  . exact Text.toNat_lt_of_isAlphanum h
  all_goals
    rw [h]
    decide

theorem isSchemeChar_toLower {c : Char} (h : isSchemeChar c) :
    isSchemeChar c.toLower ∧ c.toLower.toLower = c.toLower ∧ (c.isAlpha → c.toLower.isAlpha) :=
  Text.forall_ascii
    (P := fun c => isSchemeChar c → isSchemeChar c.toLower ∧ c.toLower.toLower = c.toLower ∧
      (c.isAlpha → c.toLower.isAlpha))
    (by decide) (toNat_lt_of_isSchemeChar h) h

theorem isScheme_of_readScheme? (h : readScheme? cs = some (scheme, rest)) : IsScheme scheme := by
  unfold readScheme? at h
  split at h
  . next front behind _ =>
    dsimp only at h
    split at h
    . next hfront =>
      cases h
      rw [Bool.and_eq_true] at hfront
      have ⟨hhead, hall⟩ := hfront
      have hchars : ∀ c ∈ front, isSchemeChar c := List.all_eq_true.1 hall
      constructor
      case head =>
        rw [String.toList_ofList]
        cases front with
        | nil => cases hhead
        | cons c front => exact (isSchemeChar_toLower (hchars c List.mem_cons_self)).2.2 hhead
      case chars =>
        rw [String.toList_ofList, List.all_map]
        rw [List.all_eq_true]
        intro c hc
        exact (isSchemeChar_toLower (hchars c hc)).1
      case lower =>
        rw [String.toList_ofList, List.map_map]
        apply List.map_congr_left
        intro c hc
        exact (isSchemeChar_toLower (hchars c hc)).2.1
    . cases h
  . cases h

theorem isScheme_file : IsScheme "file" := by
  constructor <;> decide

theorem ne_file_of_not_special (h : isSpecialScheme scheme = false) : scheme ≠ "file" := by
  intro hfile
  rw [hfile] at h
  exact absurd h (by decide)

section Files

variable (hhost : IsFileHost host)

include hhost

theorem isWritten_file (hnames : ∀ name ∈ names, IsSegment true name)
    (htrim : trimNames names = names) (cs : List Char) :
    (finish "file" (some ⟨"", "", host, none⟩) (.segments names, cs)).IsWritten names :=
  isWritten_finish isScheme_file hnames (.file rfl hhost htrim) cs

theorem isWritten_readSegments_file (cs : List Char) :
    ∃ names, (finish "file" (some ⟨"", "", host, none⟩) (readSegments "file" [] cs)).IsWritten
      names := by
  have hnames : ∀ name ∈ readNames "file" [] cs, IsSegment true name :=
    isSegment_readNames "file" cs
  exact ⟨_, isWritten_file hhost (isSegment_trimNames hnames) (trimNames_trimNames _) _⟩

end Files

theorem isWritten_onDisk (h : readFileUrl.onDisk host cs = some u) : ∃ names, u.IsWritten names := by
  have hnames : ∀ name ∈ readNames "file" [] cs, IsSegment true name :=
    isSegment_readNames "file" cs
  unfold readFileUrl.onDisk at h
  split at h
  . next disk names heq =>
    rw [heq] at hnames
    have ⟨hdisk, hothers⟩ := List.forall_mem_cons.1 hnames
    split at h
    . next hcond =>
      cases h
      have hne : disk ≠ "" := by
        intro hempty
        rw [hempty] at hcond
        exact absurd hcond.2 (by decide)
      refine ⟨_, isWritten_file (.inl rfl) ?_ ?_ _⟩
      . exact List.forall_mem_cons.2 ⟨isSegment_withDiskColon hdisk, hothers⟩
      . exact trimNames_eq_self_iff.2 (.inr ⟨_, _, rfl, withDiskColon_ne_empty hne⟩)
    . cases h
  . cases h

theorem isFileHost_ite (h : host = "" ∨ ∃ cs, specialHost cs = .ok host) :
    IsFileHost (if host = "localhost" then "" else host) := by
  split
  . exact .inl rfl
  . next hlocal =>
    rcases h with h | h
    . exact .inl h
    . exact .inr ⟨hlocal, h⟩

theorem isWritten_getD (hhost : IsFileHost host) (cs : List Char) :
    ∃ names, ((readFileUrl.onDisk host cs).getD
      (finish "file" (some ⟨"", "", host, none⟩) (readSegments "file" [] cs))).IsWritten names := by
  cases hdisk : readFileUrl.onDisk host cs with
  | some u => exact isWritten_onDisk hdisk
  | none => exact isWritten_readSegments_file hhost cs

/--
The URL of a file is read in the form that is read back.
-/
theorem isWritten_readFileUrl (h : readFileUrl none cs = .ok u) : ∃ names, u.IsWritten names := by
  have hlocal : IsFileHost "" := .inl rfl
  unfold readFileUrl at h
  split at h
  . next first second rest =>
    split at h
    . dsimp only at h
      split at h
      . cases h
        exact isWritten_readSegments_file hlocal _
      . split at h
        . cases h
          exact isWritten_getD hlocal _
        . cases hhost : specialHost (rest.takeWhile fun c => !endsAuthority true c) with
          | error e =>
            rw [hhost] at h
            cases h
          | ok host =>
            rw [hhost] at h
            cases h
            exact isWritten_getD (isFileHost_ite (.inr ⟨_, hhost⟩)) _
    . cases h
      exact isWritten_readSegments_file hlocal _
  . cases h
    exact isWritten_readSegments_file hlocal _
  . cases h
    refine ⟨_, isWritten_file hlocal ?_ rfl []⟩
    exact List.forall_mem_singleton.2 (isSegment_empty true)

/--
What a path that is not that of a file is read as.
-/
theorem exists_readSegments (hfile : scheme ≠ "file") (cs : List Char) :
    ∃ names rest, readSegments scheme [] cs = (.segments names, rest) ∧ names ≠ [] ∧
      ∀ name ∈ names, IsSegment (isSpecialScheme scheme) name := by
  refine ⟨readNames scheme [] cs, cs.dropWhile fun c => !endsPath c, ?_,
    readNames_ne_nil scheme [] cs, isSegment_readNames scheme cs⟩
  unfold readSegments
  dsimp only
  rw [if_neg hfile]

theorem exists_readPath (hfile : scheme ≠ "file") (cs : List Char) :
    ∃ names rest, readPath scheme cs = (.segments names, rest) ∧
      (isSpecialScheme scheme → names ≠ []) ∧
      ∀ name ∈ names, IsSegment (isSpecialScheme scheme) name := by
  unfold readPath
  dsimp only
  split
  . next hcond =>
    refine ⟨[], cs, rfl, ?_, ?_⟩
    . intro hspecial
      rw [hspecial] at hcond
      cases hcond
    . intro name hname
      cases hname
  . have ⟨names, rest, hread, hne, hsegments⟩ :=
      exists_readSegments hfile (dropSlash (isSpecialScheme scheme) cs)
    exact ⟨names, rest, hread, fun _ => hne, hsegments⟩

theorem isWritten_readBehindSlashes (hscheme : IsScheme scheme) (hfile : scheme ≠ "file")
    (h : readBehindSlashes scheme cs = .ok u) : ∃ names, u.IsWritten names := by
  unfold readBehindSlashes at h
  cases hauthority : readAuthority scheme cs with
  | error e =>
    rw [hauthority] at h
    cases h
  | ok found =>
    rw [hauthority] at h
    have ⟨names, rest, hread, hne, hsegments⟩ := exists_readPath hfile found.2
    have heq : finish scheme (some found.1) (readPath scheme found.2) = u := Except.ok.inj h
    rw [← heq]
    rw [hread]
    exact ⟨names, isWritten_finish hscheme hsegments
      (.remote hfile (isWritten_of_readAuthority hauthority) hne) rest⟩

/--
The path of a URL is a single text, or the URL has the form that is read back.
-/
theorem isWritten_readBehindScheme (hscheme : IsScheme scheme)
    (h : readBehindScheme none scheme cs = .ok u) :
    (∃ names, u.IsWritten names) ∨ ∃ text, u.path = .whole text := by
  unfold readBehindScheme at h
  split at h
  . exact .inl (isWritten_readFileUrl h)
  . next hfile =>
    split at h
    . exact .inl (isWritten_readBehindSlashes hscheme hfile h)
    . next hspecial =>
      split at h
      . exact .inl (isWritten_readBehindSlashes hscheme hfile h)
      . next rest _ =>
        have ⟨names, tail, hread, hne, hsegments⟩ := exists_readSegments hfile rest
        cases h
        rw [hread]
        exact .inl ⟨names, isWritten_finish hscheme hsegments
          (.bare (Bool.eq_false_iff.2 hspecial) hne) tail⟩
      . cases h
        exact .inr ⟨_, rfl⟩

theorem isWritten_of_parse {text : String} (h : parse text = .ok u) :
    (∃ names, u.IsWritten names) ∨ ∃ text, u.path = .whole text := by
  unfold parse read at h
  cases hscheme : readScheme? (significant text) with
  | none =>
    dsimp only at h
    rw [hscheme] at h
    cases h
  | some found =>
    dsimp only at h
    rw [hscheme] at h
    exact isWritten_readBehindScheme (isScheme_of_readScheme? hscheme) h

end ServerLauncher.Url
