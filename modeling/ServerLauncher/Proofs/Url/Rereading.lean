import ServerLauncher.Proofs.Url.Form

/-!
This module contains the reading of URLs as the inverse of their writing: a URL that has been read and
whose path has segments reads back as itself.
-/

namespace ServerLauncher.Url

/--
What the standard for URLs promises of one that has been read. It is taken for granted where it depends
on the tables of characters in domain names, and on the letters for disks.
-/
structure FollowsStandard (u : Url) : Prop where
  /-- A domain name that has been read is in its ASCII form. -/
  domain : ∀ a ∈ u.authority, isSpecialScheme u.scheme → ¬isPlainDomain a.host.toList →
    asciiDomain? a.host.toList = some a.host.toList
  /-- If the path of a file starts with the letter for a disk, a colon is behind it, and no host is in
  front of it. -/
  disk : u.scheme = "file" → ∀ name ∈ u.path.list.head?, isDiskLetter name.toList →
    withDiskColon name = name ∧ ∀ a ∈ u.authority, a.host = ""

variable {scheme host : String} {authority : Option Authority} {names : List String}
  {query fragment : Option String} {cs rest tail : List Char} {c : Char} {u : Url}

/--
Nothing has to be taken for granted of a plain domain name.
-/
theorem followsStandard_of_isPlainDomain (hfile : u.scheme ≠ "file")
    (hplain : ∀ a ∈ u.authority, isPlainDomain a.host.toList) : u.FollowsStandard := by
  constructor
  case domain =>
    intro a ha _ hnot
    exact absurd (hplain a ha) hnot
  case disk =>
    intro h
    exact absurd h hfile

section Tails

/--
Query and fragment as they are written.
-/
def tailChars (query fragment : Option String) : List Char :=
  (partText "?" query).toList ++ (partText "#" fragment).toList

theorem endsPath_head_tailChars : ∀ c ∈ (tailChars query fragment).head?, endsPath c := by
  intro c hc
  cases query with
  | none =>
    cases fragment with
    | none => cases hc
    | some fragment =>
      simp [tailChars, partText] at hc
      rw [← hc]
      rfl
  | some query =>
    simp [tailChars, partText] at hc
    rw [← hc]
    rfl

theorem hash_not_mem_of_avoids {scheme query : String}
    (h : Avoids (querySet scheme) query.toList) : '#' ∉ query.toList := by
  intro hmem
  have hhash := h '#' hmem
  unfold querySet at hhash
  split at hhash
  . exact absurd hhash (by decide)
  . exact absurd hhash (by decide)

theorem readTail_tailChars (hquery : ∀ text ∈ query, Avoids (querySet scheme) text.toList)
    (hfragment : ∀ text ∈ fragment, Avoids inFragmentSet text.toList) :
    readTail scheme (tailChars query fragment) = (query, fragment) := by
  have hset : (if isSpecialScheme scheme then inSpecialQuerySet else inQuerySet) = querySet scheme :=
    rfl
  cases query with
  | none =>
    cases fragment with
    | none => rfl
    | some fragment =>
      have hsame := encode_of_avoids (hfragment fragment rfl)
      simp [tailChars, partText, readTail, hsame]
  | some query =>
    have hsame := encode_of_avoids (hquery query rfl)
    have hhash := hash_not_mem_of_avoids (hquery query rfl)
    cases fragment with
    | none =>
      simp [tailChars, partText, readTail, hset, Text.cutAt_of_not_mem hhash, hsame]
    | some fragment =>
      have hsame' := encode_of_avoids (hfragment fragment rfl)
      simp [tailChars, partText, readTail, hset, Text.cutAt_fst_append hhash, hsame, hsame']

end Tails

theorem finish_tailChars (h : u.IsWritten names) :
    finish u.scheme u.authority (.segments names, tailChars u.query u.fragment) = u := by
  unfold finish
  dsimp only
  rw [readTail_tailChars h.query h.fragment]
  rw [← h.path]

section Schemes

/--
A text of visible characters only counts as a whole.
-/
theorem significant_of_visible {text : String} (h : ∀ c ∈ text.toList, 0x20 < c.toNat) :
    significant text = text.toList := by
  have hidle : ∀ cs : List Char, (∀ c ∈ cs, 0x20 < c.toNat) →
      cs.dropWhile (fun c => decide (c.toNat ≤ 0x20)) = cs := by
    intro cs hcs
    cases cs with
    | nil => rfl
    | cons c rest =>
      have hc := hcs c List.mem_cons_self
      rw [List.dropWhile_cons_of_neg]
      simpa using hc
  have hreverse : ∀ c ∈ text.toList.reverse, 0x20 < c.toNat := by
    intro c hc
    exact h c (List.mem_reverse.1 hc)
  unfold significant
  dsimp only
  rw [hidle _ h, hidle _ hreverse]
  rw [List.reverse_reverse]
  rw [List.filter_eq_self]
  intro c hc
  have hvisible := h c hc
  have hne : c ≠ '\t' ∧ c ≠ '\n' ∧ c ≠ '\r' := by
    refine ⟨?_, ?_, ?_⟩
    all_goals
      intro heq
      rw [heq] at hvisible
      exact absurd hvisible (by decide)
  simp [hne]

theorem visible_of_isSchemeChar (h : isSchemeChar c) : 0x20 < c.toNat ∧ c ≠ ':' :=
  Text.forall_ascii (P := fun c => isSchemeChar c → 0x20 < c.toNat ∧ c ≠ ':') (by decide)
    (toNat_lt_of_isSchemeChar h) h

theorem IsScheme.visible (h : IsScheme scheme) (hc : c ∈ scheme.toList) :
    0x20 < c.toNat ∧ c ≠ ':' :=
  visible_of_isSchemeChar (List.all_eq_true.1 h.chars c hc)

theorem readScheme?_append (h : IsScheme scheme) (cs : List Char) :
    readScheme? (scheme.toList ++ ':' :: cs) = some (scheme, cs) := by
  have hcolon : ':' ∉ scheme.toList := fun hmem => (h.visible hmem).2 rfl
  have hcond : (scheme.toList.head?.any Char.isAlpha && scheme.toList.all isSchemeChar) = true := by
    rw [h.head, h.chars]
    rfl
  unfold readScheme?
  rw [Text.cutAt_fst_append hcolon]
  dsimp only
  rw [h.lower]
  rw [String.ofList_toList]
  exact if_pos hcond

/--
A URL whose text is visible is read behind its scheme.
-/
theorem parse_eq {text : String} (h : IsScheme scheme) (htext : text.toList = scheme.toList ++ ':' :: cs)
    (hcs : ∀ c ∈ cs, 0x20 < c.toNat) : parse text = readBehindScheme none scheme cs := by
  have hvisible : ∀ c ∈ text.toList, 0x20 < c.toNat := by
    intro c hc
    rw [htext] at hc
    rcases List.mem_append.1 hc with hc | hc
    . exact (h.visible hc).1
    . rcases List.mem_cons.1 hc with hc | hc
      . rw [hc]
        decide
      . exact hcs c hc
  unfold parse read
  rw [significant_of_visible hvisible]
  rw [htext]
  dsimp only
  rw [readScheme?_append h]

end Schemes

section Paths

theorem visible_of_mem_names {special : Bool} (h : ∀ name ∈ names, IsSegment special name)
    (hc : c ∈ Text.joinPieces '/' (names.map String.toList)) : 0x20 < c.toNat := by
  rcases Text.mem_joinPieces hc with hsep | ⟨segment, hsegment, hmem⟩
  . rw [hsep]
    decide
  . have ⟨name, hname, heq⟩ := List.mem_map.1 hsegment
    rw [← heq] at hmem
    exact (h name hname).visible hmem

theorem visible_of_mem_path {special : Bool} (h : ∀ name ∈ names, IsSegment special name)
    (hc : c ∈ (UrlPath.segments names).text.toList) : 0x20 < c.toNat := by
  by_cases hne : names = []
  . rw [hne] at hc
    cases hc
  . rw [toList_text_segments hne] at hc
    rcases List.mem_cons.1 hc with hslash | hc
    . rw [hslash]
      decide
    . exact visible_of_mem_names h hc

theorem visible_of_not_querySet (h : querySet scheme c = false) : 0x20 < c.toNat := by
  unfold querySet at h
  split at h
  . exact visible_of_not_inSpecialQuerySet h
  . exact visible_of_not_inQuerySet h

theorem visible_of_mem_tail (hquery : ∀ text ∈ query, Avoids (querySet scheme) text.toList)
    (hfragment : ∀ text ∈ fragment, Avoids inFragmentSet text.toList)
    (hc : c ∈ tailChars query fragment) : 0x20 < c.toNat := by
  have hpart : ∀ (lead : Char) (part : Option String), 0x20 < lead.toNat →
      (∀ text ∈ part, ∀ c ∈ text.toList, 0x20 < c.toNat) →
      ∀ c ∈ (partText (String.singleton lead) part).toList, 0x20 < c.toNat := by
    intro lead part hlead hpart c hc
    cases part with
    | none => cases hc
    | some text =>
      simp only [partText, String.toList_append, String.toList_singleton, List.mem_append,
        List.mem_singleton] at hc
      rcases hc with hc | hc
      . rw [hc]
        exact hlead
      . exact hpart text rfl c hc
  rcases List.mem_append.1 hc with hc | hc
  . refine hpart '?' query (by decide) ?_ c hc
    intro text htext c hc
    exact visible_of_not_querySet (hquery text htext c hc)
  . refine hpart '#' fragment (by decide) ?_ c hc
    intro text htext c hc
    exact visible_of_not_inFragmentSet (hfragment text htext c hc)

theorem readPath_segments (hfile : scheme ≠ "file")
    (hnames : ∀ name ∈ names, IsSegment (isSpecialScheme scheme) name)
    (hspecial : isSpecialScheme scheme → names ≠ []) (htail : ∀ c ∈ tail.head?, endsPath c) :
    readPath scheme ((UrlPath.segments names).text.toList ++ tail) = (.segments names, tail) := by
  by_cases hne : names = []
  . have hcond : (!isSpecialScheme scheme && tail.head?.all endsPath) = true := by
      rw [Bool.and_eq_true, Option.all_eq_true]
      refine ⟨?_, htail⟩
      rw [Bool.not_eq_true', Bool.eq_false_iff]
      intro h
      exact hspecial h hne
    rw [hne]
    exact if_pos hcond
  . rw [toList_text_segments hne]
    rw [List.cons_append]
    unfold readPath
    dsimp only
    rw [if_neg (by simp [endsPath])]
    rw [dropSlash_slash]
    rw [readSegments_joinPieces htail hne hnames]
    rw [if_neg hfile]
    rfl

theorem visible_of_mem_dotted {special : Bool} (hne : names ≠ [])
    (h : ∀ name ∈ names, IsSegment special name)
    (hc : c ∈ Text.joinPieces '/' (['.'] :: names.map String.toList)) : 0x20 < c.toNat := by
  rw [Text.joinPieces_cons (by simpa using hne)] at hc
  simp only [List.singleton_append, List.mem_cons] at hc
  rcases hc with hc | hc | hc
  . rw [hc]
    decide
  . rw [hc]
    decide
  . exact visible_of_mem_names h hc

/--
A path without an empty name in front does not start with two slashes.
-/
theorem ne_slash_of_names {special : Bool} (h : ∀ name ∈ names, IsSegment special name)
    (hne : names ≠ []) (hnames : ∀ second others, names ≠ "" :: second :: others)
    (htail : ∀ c ∈ tail.head?, endsPath c) (rest : List Char) :
    Text.joinPieces '/' (names.map String.toList) ++ tail ≠ '/' :: rest := by
  intro heq
  cases names with
  | nil => exact hne rfl
  | cons first others =>
    have hslash := (h first List.mem_cons_self).slash_not_mem
    cases hchars : first.toList with
    | nil =>
      have hfirst : first = "" := by simpa using hchars
      cases others with
      | nil =>
        rw [hfirst] at heq
        have hends := htail '/' (by rw [show tail = '/' :: rest from heq]; rfl)
        exact absurd hends (by decide)
      | cons second others =>
        rw [hfirst] at hnames
        exact hnames second others rfl
    | cons c chars =>
      have ⟨behind, hbehind, _⟩ :=
        Text.exists_joinPieces_eq '/' first.toList (others.map String.toList)
      have hhead : (Text.joinPieces '/' ((first :: others).map String.toList)).head? = some c := by
        rw [List.map_cons, hbehind, hchars]
        rfl
      have hsame := congrArg List.head? heq
      rw [List.head?_append, hhead] at hsame
      have hc : c = '/' := Option.some.inj hsame
      rw [hchars, hc] at hslash
      exact hslash List.mem_cons_self

end Paths

section Texts

theorem toList_text_of_authority {a : Authority} (ha : u.authority = some a)
    (hpath : u.path = .segments names) :
    u.text.toList = u.scheme.toList ++ ':' :: '/' :: '/' ::
      (a.userChars ++ (a.host.toList ++ portChars a.port) ++
        ((UrlPath.segments names).text.toList ++ tailChars u.query u.fragment)) := by
  unfold text tailChars
  rw [ha, hpath]
  simp [partText, a.toList_text]

/--
The text of a URL without an authority, if its path could not be taken for one.
-/
theorem toList_text_of_none (ha : u.authority = none) (hpath : u.path = .segments names)
    (hnames : ∀ second others, names ≠ "" :: second :: others) :
    u.text.toList = u.scheme.toList ++ ':' ::
      ((UrlPath.segments names).text.toList ++ tailChars u.query u.fragment) := by
  unfold text tailChars
  rw [ha, hpath]
  dsimp only
  split
  . next second others _ heq =>
    cases heq
    exact absurd rfl (hnames _ _)
  . simp [partText]

theorem toList_text_of_dot {second : String} {others : List String} (ha : u.authority = none)
    (hpath : u.path = .segments ("" :: second :: others)) :
    u.text.toList = u.scheme.toList ++ ':' :: '/' ::
      (Text.joinPieces '/' (['.'] :: ("" :: second :: others).map String.toList) ++
        tailChars u.query u.fragment) := by
  unfold text tailChars
  rw [ha, hpath]
  simp [partText, toList_text_segments, Text.joinPieces]

end Texts

section Schemes

theorem readBehindScheme_of_special (hfile : scheme ≠ "file") (hspecial : isSpecialScheme scheme)
    (hcs : ∀ c ∈ cs.head?, isSlash true c = false) :
    readBehindScheme none scheme ('/' :: '/' :: cs) = readBehindSlashes scheme cs := by
  have hfront : ∀ c ∈ ['/', '/'], isSlash true c = true := by simp [isSlash]
  have hslashes : ('/' :: '/' :: cs).takeWhile (isSlash true) = ['/', '/'] :=
    Text.takeWhile_append_of_stop hfront hcs
  unfold readBehindScheme
  rw [if_neg hfile, if_pos hspecial]
  rw [hslashes]
  rfl

theorem readBehindScheme_of_slashes (hspecial : isSpecialScheme scheme = false) (cs : List Char) :
    readBehindScheme none scheme ('/' :: '/' :: cs) = readBehindSlashes scheme cs := by
  unfold readBehindScheme
  rw [if_neg (ne_file_of_not_special hspecial), if_neg (Bool.eq_false_iff.1 hspecial)]
  rfl

theorem readBehindScheme_of_slash (hspecial : isSpecialScheme scheme = false)
    (hcs : ∀ rest, cs ≠ '/' :: rest) :
    readBehindScheme none scheme ('/' :: cs) =
      .ok (finish scheme none (readSegments scheme [] cs)) := by
  unfold readBehindScheme
  rw [if_neg (ne_file_of_not_special hspecial), if_neg (Bool.eq_false_iff.1 hspecial)]
  split
  . next rest heq =>
    cases heq
    exact absurd rfl (hcs rest)
  . next rest heq =>
    cases heq
    rfl
  . next hnot => exact absurd rfl (hnot cs)

end Schemes

section Files

theorem hasHostForm_of_isFileHost (h : IsFileHost host) : HasHostForm host.toList := by
  rcases h with h | ⟨_, cs, h⟩
  . rw [h]
    exact .inl (by simp [Avoids])
  . exact hasHostForm_of_isSpecialHost (isSpecialHost_of_specialHost h)

theorem not_isDiskLetter_of_hasHostForm (h : HasHostForm cs) : isDiskLetter cs = false := by
  rw [Bool.eq_false_iff]
  intro hdisk
  unfold isDiskLetter at hdisk
  split at hdisk
  . next letter mark =>
    simp only [Bool.and_eq_true, Bool.or_eq_true, decide_eq_true_eq] at hdisk
    have ⟨hletter, hmark⟩ := hdisk
    rcases h with havoids | ⟨inside, heq, _⟩
    . have hnot := havoids mark (by simp)
      rcases hmark with hmark | hmark
      all_goals
        rw [hmark] at hnot
        exact absurd hnot (by decide)
    . rw [(List.cons.inj heq).1] at hletter
      exact absurd hletter (by decide)
  . cases hdisk

/--
The path of a file is read as it is, unless it starts with the letter for a disk behind a host.
-/
theorem onDisk_eq_none (hne : names ≠ []) (hnames : ∀ name ∈ names, IsSegment true name)
    (htail : ∀ c ∈ tail.head?, endsPath c)
    (hdisk : ∀ name ∈ names.head?, isDiskLetter name.toList → host = "") :
    readFileUrl.onDisk host (Text.joinPieces '/' (names.map String.toList) ++ tail) = none := by
  have hsegments : ∀ name ∈ names, IsSegment (isSpecialScheme "file") name := hnames
  have hread : readNames "file" [] (Text.joinPieces '/' (names.map String.toList) ++ tail) = names :=
    readNames_joinPieces htail hne hsegments []
  unfold readFileUrl.onDisk
  rw [hread]
  split
  . next disk others =>
    rw [if_neg]
    rintro ⟨hhost, hletter⟩
    exact hhost (hdisk disk rfl hletter)
  . rfl

theorem readFileUrl_host (hhost : IsFileHost host)
    (hdomain : ¬isPlainDomain host.toList → asciiDomain? host.toList = some host.toList)
    (hnames : ∀ name ∈ names, IsSegment true name) (htrim : trimNames names = names)
    (htail : ∀ c ∈ tail.head?, endsPath c)
    (hdisk : ∀ name ∈ names.head?, isDiskLetter name.toList → host = "") :
    readFileUrl none ('/' :: '/' :: (host.toList ++
        ('/' :: (Text.joinPieces '/' (names.map String.toList) ++ tail)))) =
      .ok (finish "file" (some ⟨"", "", host, none⟩) (.segments names, tail)) := by
  have hform := hasHostForm_of_isFileHost hhost
  have hne : names ≠ [] := by
    rw [← htrim]
    exact trimNames_ne_nil names
  have hfront : ∀ c ∈ host.toList, (!endsAuthority true c) = true := by
    intro c hc
    rw [(isInside_of_mem_host hform hc true).1.notEnd]
    rfl
  have hback : ∀ c ∈ ('/' :: (Text.joinPieces '/' (names.map String.toList) ++ tail)).head?,
      (!endsAuthority true c) = false := by
    intro c hc
    cases hc
    rfl
  have hsegments : ∀ name ∈ names, IsSegment (isSpecialScheme "file") name := hnames
  have hread : readSegments "file" [] (Text.joinPieces '/' (names.map String.toList) ++ tail) =
      (.segments (trimNames names), tail) := readSegments_joinPieces htail hne hsegments []
  rw [htrim] at hread
  have hnone := onDisk_eq_none hne hnames htail hdisk
  unfold readFileUrl
  dsimp only
  rw [if_pos (show (isSlash true '/' && isSlash true '/') = true from rfl)]
  rw [Text.takeWhile_append_of_stop hfront hback, Text.dropWhile_append_of_stop hfront hback]
  rw [if_neg (Bool.eq_false_iff.1 (not_isDiskLetter_of_hasHostForm hform))]
  rw [dropSlash_slash]
  rw [hread]
  rcases hhost with hempty | ⟨hlocal, cs, hcs⟩
  . rw [hempty] at hnone ⊢
    rw [if_pos (show "".toList.isEmpty = true from rfl)]
    exact congrArg (fun found => Except.ok (Option.getD found _)) hnone
  . rw [if_neg (by simpa using ne_empty_of_specialHost hcs)]
    rw [specialHost_of_isSpecialHost (isSpecialHost_of_specialHost hcs) hdomain]
    change Except.ok (Option.getD (readFileUrl.onDisk (if host = "localhost" then "" else host) _)
      (finish "file" (some ⟨"", "", if host = "localhost" then "" else host, none⟩) _)) = _
    rw [if_neg hlocal]
    rw [hnone]
    rfl

end Files

section Placed

variable (h : u.IsWritten names) (hstandard : u.FollowsStandard)

/--
What is behind an authority ends it.
-/
theorem endsAuthority_of_head (names : List String) (query fragment : Option String)
    (special : Bool) :
    ∀ c ∈ ((UrlPath.segments names).text.toList ++ tailChars query fragment).head?,
      endsAuthority special c := by
  intro c hc
  by_cases hne : names = []
  . rw [hne] at hc
    have hends := endsPath_head_tailChars c hc
    simp [endsPath] at hends
    rcases hends with hends | hends
    all_goals simp [endsAuthority, hends]
  . rw [toList_text_segments hne] at hc
    cases hc
    simp [endsAuthority]

include h

theorem visible_of_mem_rest (hc : c ∈ (UrlPath.segments names).text.toList ++
    tailChars u.query u.fragment) : 0x20 < c.toNat := by
  rcases List.mem_append.1 hc with hc | hc
  . exact visible_of_mem_path h.segments hc
  . exact visible_of_mem_tail h.query h.fragment hc

include hstandard

theorem parse_text_of_remote {a : Authority} (hauthority : u.authority = some a)
    (hfile : u.scheme ≠ "file") (ha : a.IsWritten u.scheme)
    (hspecial : isSpecialScheme u.scheme → names ≠ []) : parse u.text = .ok u := by
  have ⟨cs, hcs⟩ := ha.host
  have hdomain := hstandard.domain a hauthority
  have hhost := readHost_of_readHost hcs hdomain
  have htext := toList_text_of_authority hauthority h.path
  have hread : readBehindSlashes u.scheme (a.userChars ++ (a.host.toList ++ portChars a.port) ++
      ((UrlPath.segments names).text.toList ++ tailChars u.query u.fragment)) = .ok u := by
    unfold readBehindSlashes
    rw [readAuthority_chars ha hhost (endsAuthority_of_head names _ _ _)]
    change Except.ok (finish u.scheme (some a) (readPath u.scheme _)) = _
    rw [readPath_segments hfile h.segments hspecial endsPath_head_tailChars]
    rw [← hauthority]
    rw [finish_tailChars h]
  have hvisible : ∀ c ∈ '/' :: '/' :: (a.userChars ++ (a.host.toList ++ portChars a.port) ++
      ((UrlPath.segments names).text.toList ++ tailChars u.query u.fragment)), 0x20 < c.toNat := by
    intro c hc
    simp only [List.mem_cons] at hc
    rcases hc with hc | hc | hc
    . rw [hc]
      decide
    . rw [hc]
      decide
    . rcases List.mem_append.1 hc with hc | hc
      . exact (ha.isInside hc true).visible
      . exact visible_of_mem_rest h hc
  rw [parse_eq h.scheme htext hvisible]
  cases hkind : isSpecialScheme u.scheme with
  | false =>
    rw [readBehindScheme_of_slashes hkind]
    exact hread
  | true =>
    rw [readBehindScheme_of_special hfile hkind]
    . exact hread
    . intro c hc
      have hne : a.userChars ++ (a.host.toList ++ portChars a.port) ≠ [] := by
        rw [hkind] at hcs
        have hhost := ne_empty_of_specialHost hcs
        simp [hhost]
      rw [List.head?_append_of_ne_nil _ hne] at hc
      have hends := (ha.isInside (List.mem_of_mem_head? hc) true).notEnd
      simp [endsAuthority] at hends
      simp [isSlash, hends]

theorem parse_text_of_file {host : String} (hauthority : u.authority = some ⟨"", "", host, none⟩)
    (hfile : u.scheme = "file") (hhost : IsFileHost host) (htrim : trimNames names = names) :
    parse u.text = .ok u := by
  have hspecial : isSpecialScheme u.scheme = true := by
    rw [hfile]
    decide
  have hne : names ≠ [] := by
    rw [← htrim]
    exact trimNames_ne_nil names
  have hnames : ∀ name ∈ names, IsSegment true name := by
    have hsegments := h.segments
    rwa [hspecial] at hsegments
  have hdisk : ∀ name ∈ names.head?, isDiskLetter name.toList → host = "" := by
    intro name hname hletter
    have hpath : name ∈ u.path.list.head? := by
      rw [h.path]
      exact hname
    exact (hstandard.disk hfile name hpath hletter).2 _ hauthority
  have htext : u.text.toList = u.scheme.toList ++ ':' :: '/' :: '/' ::
      (host.toList ++ ('/' :: (Text.joinPieces '/' (names.map String.toList) ++
        tailChars u.query u.fragment))) := by
    rw [toList_text_of_authority hauthority h.path]
    rw [toList_text_segments hne]
    simp [Authority.userChars, portChars]
  have hvisible : ∀ c ∈ '/' :: '/' :: (host.toList ++
      ('/' :: (Text.joinPieces '/' (names.map String.toList) ++ tailChars u.query u.fragment))),
      0x20 < c.toNat := by
    intro c hc
    simp only [List.mem_cons] at hc
    rcases hc with hc | hc | hc
    . rw [hc]
      decide
    . rw [hc]
      decide
    . rcases List.mem_append.1 hc with hc | hc
      . exact (isInside_of_mem_host (hasHostForm_of_isFileHost hhost) hc true).1.visible
      . apply visible_of_mem_rest h
        rw [toList_text_segments hne]
        exact hc
  rw [parse_eq h.scheme htext hvisible]
  unfold readBehindScheme
  rw [if_pos hfile]
  change readFileUrl none _ = _
  rw [readFileUrl_host hhost (hstandard.domain _ hauthority hspecial) hnames htrim
    endsPath_head_tailChars hdisk]
  rw [← hauthority, ← hfile]
  rw [finish_tailChars h]

omit hstandard in
theorem parse_text_of_bare (hauthority : u.authority = none)
    (hspecial : isSpecialScheme u.scheme = false) (hne : names ≠ []) : parse u.text = .ok u := by
  have hfile := ne_file_of_not_special hspecial
  by_cases hdot : ∃ second others, names = "" :: second :: others
  . have ⟨second, others, hnames⟩ := hdot
    have hpath := h.path
    rw [hnames] at hpath
    have htext := toList_text_of_dot hauthority hpath
    rw [← hnames] at htext
    rw [parse_eq h.scheme htext]
    . rw [readBehindScheme_of_slash hspecial]
      . rw [readSegments_dot endsPath_head_tailChars hne h.segments hfile]
        rw [← hauthority]
        rw [finish_tailChars h]
      . intro rest heq
        rw [hnames] at heq
        cases heq
    . intro c hc
      rw [← List.cons_append] at hc
      rcases List.mem_append.1 hc with hc | hc
      . rcases List.mem_cons.1 hc with hc | hc
        . rw [hc]
          decide
        . exact visible_of_mem_dotted hne h.segments hc
      . exact visible_of_mem_tail h.query h.fragment hc
  . have hnames : ∀ second others, names ≠ "" :: second :: others :=
      fun second others heq => hdot ⟨second, others, heq⟩
    have htext := toList_text_of_none hauthority h.path hnames
    rw [toList_text_segments hne] at htext
    rw [parse_eq h.scheme htext]
    . rw [List.cons_append]
      rw [readBehindScheme_of_slash hspecial]
      . rw [readSegments_joinPieces endsPath_head_tailChars hne h.segments]
        rw [if_neg hfile, List.nil_append, ← hauthority]
        rw [finish_tailChars h]
      . exact ne_slash_of_names h.segments hne hnames endsPath_head_tailChars
    . intro c hc
      apply visible_of_mem_rest h
      rw [toList_text_segments hne]
      exact hc

/--
A URL that has been read reads back as itself.
-/
theorem parse_text : parse u.text = .ok u := by
  have hplaced := h.placed
  cases hauthority : u.authority with
  | none =>
    rw [hauthority] at hplaced
    cases hplaced with
    | bare hspecial hne => exact parse_text_of_bare h hauthority hspecial hne
  | some a =>
    rw [hauthority] at hplaced
    cases hplaced with
    | file hfile hhost htrim => exact parse_text_of_file h hstandard hauthority hfile hhost htrim
    | remote hfile ha hspecial => exact parse_text_of_remote h hstandard hauthority hfile ha hspecial

end Placed

end ServerLauncher.Url
