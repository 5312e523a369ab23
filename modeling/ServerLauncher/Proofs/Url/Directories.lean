import ServerLauncher.Proofs.Url.Rereading

/-!
This module contains lemmas about URLs of directories: nothing of the path of a URL is lost when it is
taken for a directory, and what is in the directory has a URL behind that path.
-/

namespace ServerLauncher.Url

/--
The text of a path with a slash at the end.
-/
def directoryText (path : String) : String :=
  if path.toList.getLast? = some '/' then path else path ++ "/"

/--
The names of a path with an empty one at the end.
-/
def closed (names : List String) : List String :=
  if names.getLast? = some "" then names else names ++ [""]

variable {special : Bool} {names front parts : List String} {scheme reference : String} {c : Char}
  {base u : Url}

section Texts

theorem text_segments_append (front back : List String) :
    (UrlPath.segments (front ++ back)).text =
      (UrlPath.segments front).text ++ (UrlPath.segments back).text := by
  rw [← String.toList_inj]
  simp [UrlPath.text, String.toList_join]

theorem text_segments_singleton (name : String) : (UrlPath.segments [name]).text = "/" ++ name := by
  simp [UrlPath.text]

/--
The text of a path ends with a slash exactly if its last name is empty.
-/
theorem getLast?_text_iff (h : ∀ name ∈ names, IsSegment special name) :
    (UrlPath.segments names).text.toList.getLast? = some '/' ↔ names.getLast? = some "" := by
  rcases List.eq_nil_or_concat names with hnil | ⟨front, last, hnames⟩
  . rw [hnil]
    simp [UrlPath.text]
  . rw [hnames, List.concat_eq_append] at h ⊢
    rw [text_segments_append, text_segments_singleton]
    rw [List.getLast?_concat]
    have hslash := (h last (by simp)).slash_not_mem
    have htext : ((UrlPath.segments front).text ++ ("/" ++ last)).toList =
        (UrlPath.segments front).text.toList ++ ('/' :: last.toList) := by simp
    rw [htext]
    rw [List.getLast?_append_of_ne_nil _ (List.cons_ne_nil _ _)]
    rw [List.getLast?_cons]
    constructor
    . intro hlast
      cases hchars : last.toList.getLast? with
      | none => simpa using hchars
      | some c =>
        rw [hchars] at hlast
        cases hlast
        exact absurd (List.mem_of_getLast? hchars) hslash
    . intro hlast
      rw [Option.some.inj hlast]
      rfl

theorem text_closed (h : ∀ name ∈ names, IsSegment special name) :
    (UrlPath.segments (closed names)).text = directoryText (UrlPath.segments names).text := by
  unfold closed directoryText
  by_cases hlast : names.getLast? = some ""
  . rw [if_pos hlast, if_pos ((getLast?_text_iff h).2 hlast)]
  . rw [if_neg hlast, if_neg (fun hslash => hlast ((getLast?_text_iff h).1 hslash))]
    rw [text_segments_append, text_segments_singleton]
    rfl

end Texts

section Closing

theorem withDiskColon_of_not_isDiskLetter {name : String} (h : ¬isDiskLetter name.toList) :
    withDiskColon name = name := by
  unfold withDiskColon
  split
  . next letter mark heq =>
    rw [heq] at h
    exact if_neg h
  . rfl

theorem getLast?_closed (names : List String) : (closed names).getLast? = some "" := by
  unfold closed
  split
  . assumption
  . exact List.getLast?_concat

theorem closed_ne_nil (names : List String) : closed names ≠ [] := by
  intro hnil
  have hlast := getLast?_closed names
  rw [hnil] at hlast
  cases hlast

theorem mem_closed {name : String} (h : name ∈ closed names) : name ∈ names ∨ name = "" := by
  unfold closed at h
  split at h
  . exact .inl h
  . rcases List.mem_append.1 h with h | h
    . exact .inl h
    . exact .inr (List.mem_singleton.1 h)

theorem head?_closed {name : String} (h : name ∈ (closed names).head?) :
    name ∈ names.head? ∨ name = "" := by
  unfold closed at h
  split at h
  . exact .inl h
  . cases names with
    | nil =>
      cases h
      exact .inr rfl
    | cons first others =>
      cases h
      exact .inl rfl

theorem trimNames_closed (h : trimNames names = names) : trimNames (closed names) = closed names := by
  rw [trimNames_eq_self_iff] at h ⊢
  rcases h with h | ⟨first, others, h, hfirst⟩
  . rw [h]
    exact .inl rfl
  . rw [h]
    unfold closed
    split
    . exact .inr ⟨first, others, rfl, hfirst⟩
    . exact .inr ⟨first, others ++ [""], rfl, hfirst⟩

variable (h : u.IsWritten names) (hstandard : u.FollowsStandard)

include h

theorem IsWritten.trimNames_eq (hfile : u.scheme = "file") : trimNames names = names := by
  have hplaced := h.placed
  generalize u.authority = authority at hplaced
  cases hplaced with
  | file _ _ htrim => exact htrim
  | remote hnot _ _ => exact absurd hfile hnot
  | bare hspecial _ => exact absurd hfile (ne_file_of_not_special hspecial)

include hstandard

theorem asDirectory_eq :
    u.asDirectory = { u with path := .segments (closed names) } := by
  have hdisk : (if u.scheme = "file" then names.modifyHead withDiskColon else names) = names := by
    split
    . next hfile =>
      cases names with
      | nil => rfl
      | cons first others =>
        rw [List.modifyHead_cons]
        by_cases hletter : isDiskLetter first.toList
        . have hfirst : first ∈ u.path.list.head? := by
            rw [h.path]
            rfl
          rw [(hstandard.disk hfile first hfirst hletter).1]
        . rw [withDiskColon_of_not_isDiskLetter hletter]
    . rfl
  unfold asDirectory closed
  rw [h.path]
  dsimp only
  by_cases hlast : names.getLast? = some ""
  . rw [if_pos hlast, if_pos hlast]
    rw [← h.path]
  . rw [if_neg hlast, if_neg hlast]
    rw [hdisk]

theorem IsWritten.asDirectory : u.asDirectory.IsWritten (closed names) := by
  rw [asDirectory_eq h hstandard]
  constructor
  case path => rfl
  case scheme => exact h.scheme
  case segments =>
    intro name hname
    rcases mem_closed hname with hname | hempty
    . exact h.segments name hname
    . rw [hempty]
      exact isSegment_empty _
  case query => exact h.query
  case fragment => exact h.fragment
  case placed =>
    have hplaced := h.placed
    dsimp only
    generalize u.authority = authority at hplaced ⊢
    cases hplaced with
    | file hfile hhost htrim => exact .file hfile hhost (trimNames_closed htrim)
    | remote hfile ha _ => exact .remote hfile ha (fun _ => closed_ne_nil names)
    | bare hspecial _ => exact .bare hspecial (closed_ne_nil names)

theorem FollowsStandard.asDirectory : u.asDirectory.FollowsStandard := by
  rw [asDirectory_eq h hstandard]
  constructor
  case domain => exact hstandard.domain
  case disk =>
    intro hfile name hname hletter
    have hpath : name ∈ u.path.list.head? := by
      rw [h.path]
      rcases head?_closed hname with hname | hempty
      . exact hname
      . rw [hempty] at hletter
        exact absurd hletter (by decide)
    exact hstandard.disk hfile name hpath hletter

omit h hstandard in
theorem asDirectory_of_getLast? (hpath : u.path = .segments names) (h : names.getLast? = some "") :
    u.asDirectory = u := by
  unfold Url.asDirectory
  rw [hpath]
  exact if_pos h

/--
A directory stays the same when it is taken for one, and reads back as itself.
-/
theorem asDirectory_asDirectory : u.asDirectory.asDirectory = u.asDirectory :=
  asDirectory_of_getLast? (h.asDirectory hstandard).path (getLast?_closed names)

theorem parse_text_asDirectory : parse u.asDirectory.text = .ok u.asDirectory :=
  parse_text (h.asDirectory hstandard) (FollowsStandard.asDirectory h hstandard)

end Closing

section Joining

/--
A reference to something in a directory: segments with slashes between them, of which the first cannot
be taken for anything else.
-/
structure IsReference (reference : String) (parts : List String) : Prop where
  text : reference.toList = Text.joinPieces '/' (parts.map String.toList)
  segments : ∀ part ∈ parts, IsSegment true part
  first : ∃ first others, parts = first :: others ∧ first ≠ "" ∧ isDiskLetter first.toList = false
  noScheme : ':' ∉ reference.toList

variable (h : IsReference reference parts)

include h

theorem IsReference.isSegment (special : Bool) : ∀ part ∈ parts, IsSegment special part := by
  intro part hpart
  have hsegment := h.segments part hpart
  refine ⟨hsegment.encoded, ?_, hsegment.notDot, hsegment.notDoubleDot⟩
  intro c hc
  have hslash := hsegment.unbroken c hc
  simp [isSlash] at hslash
  simp [isSlash, hslash]

theorem IsReference.ne_nil : parts ≠ [] := by
  have ⟨first, others, hparts, _⟩ := h.first
  rw [hparts]
  exact List.cons_ne_nil _ _

/--
A reference starts with a character of its first segment.
-/
theorem IsReference.exists_head :
    ∃ c rest, reference.toList = c :: rest ∧ (c ≠ '?' ∧ c ≠ '#') ∧ isSlash true c = false := by
  have ⟨first, others, hparts, hne, _⟩ := h.first
  have hsegment := h.segments first (by rw [hparts]; exact List.mem_cons_self)
  cases hchars : first.toList with
  | nil => exact absurd (by simpa using hchars) hne
  | cons c rest =>
    have hmem : c ∈ first.toList := by
      rw [hchars]
      exact List.mem_cons_self
    have ⟨behind, hbehind, _⟩ :=
      Text.exists_joinPieces_eq '/' first.toList (others.map String.toList)
    have hreference : reference.toList = c :: (rest ++ behind) := by
      rw [h.text, hparts]
      rw [List.map_cons, hbehind, hchars]
      rfl
    have hencoded := hsegment.encoded c hmem
    simp [inPathSet] at hencoded
    exact ⟨c, rest ++ behind, hreference, by simp [hencoded], hsegment.unbroken c hmem⟩

theorem IsReference.visible (hc : c ∈ reference.toList) : 0x20 < c.toNat := by
  rw [h.text] at hc
  exact visible_of_mem_names h.segments hc

theorem IsReference.startsWithDisk : startsWithDisk reference.toList = false := by
  obtain ⟨first, others, hparts, _, hdisk⟩ := h.first
  have hsegment := h.segments first (by rw [hparts]; exact List.mem_cons_self)
  have hfront : ∀ c ∈ first.toList, (!endsAuthority true c) = true := by
    intro c hc
    have hslash := hsegment.unbroken c hc
    have hencoded := hsegment.encoded c hc
    simp [isSlash] at hslash
    simp [inPathSet] at hencoded
    simp [endsAuthority, hslash, hencoded]
  obtain ⟨behind, hbehind, hsep⟩ :=
    Text.exists_joinPieces_eq '/' first.toList (others.map String.toList)
  have hback : ∀ c ∈ behind.head?, (!endsAuthority true c) = false := by
    intro c hc
    rw [hsep c hc]
    rfl
  unfold Url.startsWithDisk
  rw [h.text, hparts]
  rw [List.map_cons, hbehind]
  rw [Text.takeWhile_append_of_stop hfront hback]
  exact hdisk

theorem IsReference.trimNames_append (hfront : trimNames (front ++ [""]) = front ++ [""]) :
    trimNames (front ++ parts) = front ++ parts := by
  rw [trimNames_eq_self_iff] at hfront ⊢
  cases front with
  | nil =>
    have ⟨first, others, hparts, hne, _⟩ := h.first
    exact .inr ⟨first, others, hparts, hne⟩
  | cons name names =>
    rcases hfront with hnil | ⟨first, others, heq, hfirst⟩
    . cases names <;> cases hnil
    . cases heq
      exact .inr ⟨name, names ++ parts, rfl, hfirst⟩

theorem IsReference.readSegments
    (hfile : scheme = "file" → trimNames (front ++ [""]) = front ++ [""]) :
    readSegments scheme front reference.toList = (.segments (front ++ parts), []) := by
  have htail : ∀ c ∈ ([] : List Char).head?, endsPath c := by simp
  have hread := readSegments_joinPieces htail h.ne_nil (h.isSegment (isSpecialScheme scheme)) front
  rw [List.append_nil, ← h.text] at hread
  rw [hread]
  split
  . next heq => rw [h.trimNames_append (hfile heq)]
  . rfl

/--
What is in a directory, without a query and a fragment.
-/
def inside (base : Url) (front parts : List String) : Url :=
  { base with path := .segments (front ++ parts), query := none, fragment := none }

theorem IsReference.readRelative (hpath : base.path = .segments (front ++ [""]))
    (hfile : base.scheme = "file" → trimNames (front ++ [""]) = front ++ [""]) :
    base.readRelative reference.toList = .ok (base.inside front parts) := by
  have hread := h.readSegments hfile
  have ⟨c, rest, hreference, hmark, hslash⟩ := h.exists_head
  rw [hreference] at hread ⊢
  unfold Url.readRelative
  dsimp only
  rw [if_neg hmark.1, if_neg hmark.2, if_neg (Bool.eq_false_iff.1 hslash)]
  rw [hpath]
  change Except.ok (finish base.scheme base.authority
    (Url.readSegments base.scheme (front ++ [""]).dropLast _)) = _
  rw [List.dropLast_concat]
  rw [hread]
  rfl

theorem IsReference.readFileUrl (hscheme : base.scheme = "file")
    (hpath : base.path = .segments (front ++ [""]))
    (hfile : base.scheme = "file" → trimNames (front ++ [""]) = front ++ [""]) :
    readFileUrl (some base) reference.toList = .ok (base.inside front parts) := by
  have hread := h.readSegments hfile
  rw [hscheme] at hread
  have hdisk := h.startsWithDisk
  have ⟨c, rest, hreference, hmark, hslash⟩ := h.exists_head
  rw [hreference] at hread hdisk ⊢
  have hsingle : readFileUrl.single (some base) c rest = base.inside front parts := by
    unfold readFileUrl.single
    dsimp only
    rw [if_neg (Bool.eq_false_iff.1 hslash), if_neg hmark.1, if_neg hmark.2]
    rw [if_neg (Bool.eq_false_iff.1 hdisk)]
    rw [hpath]
    change finish "file" base.authority (Url.readSegments "file" (front ++ [""]).dropLast _) = _
    rw [List.dropLast_concat]
    rw [hread]
    rw [← hscheme]
    rfl
  rw [← hsingle]
  unfold Url.readFileUrl
  cases rest with
  | nil => rfl
  | cons second others =>
    dsimp only
    rw [hslash]
    rfl

/--
A reference is no URL of its own.
-/
theorem IsReference.readScheme?_eq_none : readScheme? reference.toList = none := by
  unfold readScheme?
  rw [Text.cutAt_of_not_mem h.noScheme]

theorem IsReference.head?_ne_hash : reference.toList.head? ≠ some '#' := by
  have ⟨c, rest, hreference, hmark, _⟩ := h.exists_head
  intro hhead
  rw [hreference] at hhead
  exact hmark.2 (Option.some.inj hhead)

theorem IsReference.significant_eq : significant reference = reference.toList :=
  significant_of_visible (fun _ hc => h.visible hc)

theorem join_of_whole {text : String} (hpath : base.path = .whole text) :
    base.join reference = .error .relativeToWholePath := by
  unfold join read
  simp only [h.significant_eq, h.readScheme?_eq_none, h.head?_ne_hash, if_false, hpath]

/--
What is in a directory has a URL behind the path of the directory.
-/
theorem join_of_isReference (hpath : base.path = .segments (front ++ [""]))
    (hfile : base.scheme = "file" → trimNames (front ++ [""]) = front ++ [""]) :
    base.join reference = .ok (base.inside front parts) := by
  unfold join read
  simp only [h.significant_eq, h.readScheme?_eq_none, h.head?_ne_hash, if_false]
  rw [hpath]
  dsimp only
  split
  . next heq => exact h.readFileUrl heq hpath hfile
  . exact h.readRelative hpath hfile

theorem isWritten_inside (hbase : base.IsWritten (front ++ [""])) :
    (base.inside front parts).IsWritten (front ++ parts) := by
  have hne : front ++ parts ≠ [] := List.append_ne_nil_of_right_ne_nil front h.ne_nil
  constructor
  case path => rfl
  case scheme => exact hbase.scheme
  case segments =>
    intro name hname
    rcases List.mem_append.1 hname with hname | hname
    . exact hbase.segments name (List.mem_append_left _ hname)
    . exact h.isSegment _ name hname
  case query => simp [inside]
  case fragment => simp [inside]
  case placed =>
    have hplaced := hbase.placed
    unfold inside
    dsimp only
    generalize base.authority = authority at hplaced ⊢
    cases hplaced with
    | file hfile hhost htrim => exact .file hfile hhost (h.trimNames_append htrim)
    | remote hfile ha _ => exact .remote hfile ha (fun _ => hne)
    | bare hspecial _ => exact .bare hspecial hne

theorem followsStandard_inside (hpath : base.path = .segments (front ++ [""]))
    (hstandard : base.FollowsStandard) : (base.inside front parts).FollowsStandard := by
  constructor
  case domain => exact hstandard.domain
  case disk =>
    intro hfile name hname hletter
    cases front with
    | nil =>
      have ⟨first, others, hparts, _, hdisk⟩ := h.first
      rw [hparts] at hname
      cases hname
      rw [hdisk] at hletter
      cases hletter
    | cons first others =>
      apply hstandard.disk hfile name _ hletter
      rw [hpath]
      exact hname

theorem text_path_inside :
    (base.inside front parts).path.text = (UrlPath.segments (front ++ [""])).text ++ reference := by
  have hparts : (UrlPath.segments parts).text = "/" ++ reference := by
    rw [← String.toList_inj]
    rw [toList_text_segments h.ne_nil]
    rw [← h.text]
    simp
  have hslash : (UrlPath.segments [""]).text = "/" := rfl
  unfold inside
  dsimp only
  rw [text_segments_append, text_segments_append]
  rw [hparts, hslash]
  rw [String.append_assoc]

end Joining

section Behind

/--
A URL in the same place as another, with a text behind all of the path and nothing else. It can be given
to anyone in writing.
-/
structure IsBehind (base : Url) (file : String) (url : Url) : Prop where
  scheme : url.scheme = base.scheme
  /-- Host and port are part of the authority. -/
  authority : url.authority = base.authority
  path : url.path.text = directoryText base.path.text ++ file
  /-- Only an empty name at the end of the path makes way. -/
  names : ∃ front behind, closed base.path.list = front ++ [""] ∧
    url.path = .segments (front ++ behind)
  query : url.query = none
  fragment : url.fragment = none
  written : parse url.text = .ok url

theorem exists_closed_eq (names : List String) : ∃ front, closed names = front ++ [""] := by
  unfold closed
  split
  . next h => exact List.getLast?_eq_some_iff.1 h
  . exact ⟨names, rfl⟩

/--
The directory at a URL contains what references mean.
-/
theorem exists_isBehind_join (h : u.IsWritten names) (hstandard : u.FollowsStandard)
    (hreference : IsReference reference parts) :
    ∃ url, u.asDirectory.join reference = .ok url ∧ u.IsBehind reference url := by
  have ⟨front, hfront⟩ := exists_closed_eq names
  have hdirectory := h.asDirectory hstandard
  have hstandard' := FollowsStandard.asDirectory h hstandard
  have heq := asDirectory_eq h hstandard
  rw [hfront] at hdirectory heq
  have hwritten := isWritten_inside hreference hdirectory
  refine ⟨_, join_of_isReference hreference hdirectory.path hdirectory.trimNames_eq, ?_⟩
  constructor
  case scheme =>
    rw [heq]
    rfl
  case authority =>
    rw [heq]
    rfl
  case path =>
    rw [text_path_inside hreference]
    rw [← hfront]
    rw [text_closed h.segments]
    rw [h.path]
  case names =>
    refine ⟨front, parts, ?_, rfl⟩
    rw [h.path]
    exact hfront
  case query => rfl
  case fragment => rfl
  case written =>
    exact parse_text hwritten (followsStandard_inside hreference hdirectory.path hstandard')

end Behind

end ServerLauncher.Url
