import ServerLauncher.Proofs.Registry.Latest
import ServerLauncher.Proofs.Url.Directories
import ServerLauncher.Proofs.Version.Reading

/-!
This module contains where a client finds the files of a registry: behind the whole path of the URL that
it has been made for, whatever the version is. There is nothing behind a URL whose path is a single text.
-/

namespace ServerLauncher.Registry

section Names

/--
Whether a character means nothing but itself in a path.
-/
def isPlainChar (c : Char) : Bool :=
  Version.isIdentifierChar c || c = '.' || c = '+'

/--
A name of plain characters that is not hidden, and so leads nowhere but to itself.
-/
structure IsPlainName (name : String) : Prop where
  chars : name.toList.all isPlainChar
  head : name.toList.head? ≠ some '.'

variable {c : Char} {name back reference : String} {names : List String} {v : Version}

theorem IsPlainName.isPlainChar_of_mem (h : IsPlainName name) (hc : c ∈ name.toList) : isPlainChar c :=
  List.all_eq_true.1 h.chars c hc

theorem toNat_lt_of_isPlainChar (h : isPlainChar c) : c.toNat < 0x80 := by
  simp only [isPlainChar, Version.isIdentifierChar, Bool.or_eq_true, Bool.and_eq_true,
    decide_eq_true_eq] at h
  rcases h with ((((h | h) | h) | h) | h) | h
  . exact Text.toNat_lt_of_isDigit h
  . exact Nat.lt_of_le_of_lt h.2 (by decide)
  . exact Nat.lt_of_le_of_lt h.2 (by decide)
  all_goals
    rw [h]
    decide

theorem reserved_of_isPlainChar (h : isPlainChar c) :
    Url.inPathSet c = false ∧ Url.isSlash true c = false ∧ c ∉ [':', '|', '%'] :=
  Text.forall_ascii
    (P := fun c => isPlainChar c →
      Url.inPathSet c = false ∧ Url.isSlash true c = false ∧ c ∉ [':', '|', '%'])
    (by decide) (toNat_lt_of_isPlainChar h) h

theorem IsPlainName.not_isDot (h : IsPlainName name) {dot rest : List Char}
    (hname : name.toList = dot ++ rest) : Url.isDot dot = false := by
  rw [Bool.eq_false_iff]
  intro hdot
  have hpercent : ∀ chars, name.toList ≠ '%' :: chars := by
    intro chars heq
    have hplain := h.isPlainChar_of_mem (c := '%') (by rw [heq]; exact List.mem_cons_self)
    exact absurd hplain (by decide)
  rcases Url.eq_of_isDot hdot with heq | heq | heq
  . rw [heq] at hname
    have hhead := h.head
    rw [hname] at hhead
    exact hhead rfl
  . rw [heq] at hname
    exact hpercent _ hname
  . rw [heq] at hname
    exact hpercent _ hname

theorem IsPlainName.isSegment (h : IsPlainName name) : Url.IsSegment true name where
  encoded c hc := (reserved_of_isPlainChar (h.isPlainChar_of_mem hc)).1
  unbroken c hc := (reserved_of_isPlainChar (h.isPlainChar_of_mem hc)).2.1
  notDot := h.not_isDot (List.append_nil _).symm
  notDoubleDot := by
    rw [Bool.eq_false_iff]
    intro hdouble
    have ⟨a, b, hname, hdot, _⟩ := Url.isDoubleDot_iff.1 hdouble
    rw [h.not_isDot hname] at hdot
    cases hdot

theorem IsPlainName.not_isDiskLetter (h : IsPlainName name) :
    Url.isDiskLetter name.toList = false := by
  rw [Bool.eq_false_iff]
  intro hdisk
  unfold Url.isDiskLetter at hdisk
  split at hdisk
  . next letter mark heq =>
    simp only [Bool.and_eq_true, Bool.or_eq_true, decide_eq_true_eq] at hdisk
    have hmark := (reserved_of_isPlainChar (h.isPlainChar_of_mem (c := mark) (by simp [heq]))).2.2
    rcases hdisk.2 with heq | heq
    all_goals
      rw [heq] at hmark
      exact absurd hmark (by decide)
  . cases hdisk

theorem IsPlainName.append (h : IsPlainName name) (hne : name ≠ "")
    (hback : back.toList.all isPlainChar) : IsPlainName (name ++ back) where
  chars := by
    rw [String.toList_append, List.all_append]
    rw [h.chars, hback]
    rfl
  head := by
    rw [String.toList_append]
    rw [List.head?_append_of_ne_nil _ (by simpa using hne)]
    exact h.head

theorem isPlainName_text (h : v.WellFormed) : IsPlainName v.text where
  chars := by
    rw [Version.toList_text]
    rw [List.all_eq_true]
    intro c hc
    rcases Version.mem_chars h hc with hc | hc | hc
    all_goals simp [isPlainChar, hc]
  head := by
    have ⟨c, hhead, hdigit⟩ := Version.head?_text v
    intro hdot
    rw [hhead] at hdot
    rw [Option.some.inj hdot] at hdigit
    exact absurd hdigit (by decide)

/--
Plain names with slashes between them are a reference, if there is a first one.
-/
theorem isReference_of_isPlainName {first : String} (hfirst : first ≠ "")
    (hnames : ∀ name ∈ first :: names, IsPlainName name)
    (htext : reference.toList = Text.joinPieces '/' ((first :: names).map String.toList)) :
    Url.IsReference reference (first :: names) where
  text := htext
  segments name hname := (hnames name hname).isSegment
  first := ⟨first, names, rfl, hfirst, (hnames first List.mem_cons_self).not_isDiskLetter⟩
  noScheme := by
    intro hcolon
    rw [htext] at hcolon
    rcases Text.mem_joinPieces hcolon with hsep | ⟨piece, hpiece, hmem⟩
    . exact absurd hsep (by decide)
    . have ⟨name, hname, heq⟩ := List.mem_map.1 hpiece
      rw [← heq] at hmem
      have hplain := (hnames name hname).isPlainChar_of_mem hmem
      exact absurd hplain (by decide)

end Names

section Files

variable {v : Version}

theorem isPlainName_server : ∀ name ∈ ["org", "pkl-lang", "pkl-lsp", "maven-metadata.xml"],
    IsPlainName name := by
  simp only [List.forall_mem_cons]
  refine ⟨?_, ?_, ?_, ?_, by simp⟩
  all_goals constructor <;> decide

theorem isReference_metadataPath : Url.IsReference Coordinate.server.metadataPath
    ["org", "pkl-lang", "pkl-lsp", "maven-metadata.xml"] :=
  isReference_of_isPlainName (by decide) isPlainName_server (by decide)

theorem jarPath_server (v : Version) :
    Coordinate.server.jarPath v =
      "org/pkl-lang/pkl-lsp/" ++ v.text ++ "/pkl-lsp-" ++ v.text ++ ".jar" := by
  rw [← String.toList_inj]
  simp [Coordinate.jarPath, Coordinate.jarName, Coordinate.directory, Coordinate.server]

theorem checksumPath_server (v : Version) :
    Coordinate.server.checksumPath v =
      "org/pkl-lang/pkl-lsp/" ++ v.text ++ "/pkl-lsp-" ++ v.text ++ ".jar.sha256" := by
  unfold Coordinate.checksumPath
  rw [jarPath_server]
  rw [← String.toList_inj]
  simp

/--
What belongs to a version of the server is in the directory of that version.
-/
theorem isReference_version (h : v.WellFormed) {suffix : String}
    (hsuffix : suffix.toList.all isPlainChar) :
    Url.IsReference ("org/pkl-lang/pkl-lsp/" ++ v.text ++ "/pkl-lsp-" ++ v.text ++ suffix)
      ["org", "pkl-lang", "pkl-lsp", v.text, "pkl-lsp-" ++ v.text ++ suffix] := by
  have hserver := isPlainName_server
  simp only [List.forall_mem_cons] at hserver
  have ⟨horg, hgroup, hartifact, _⟩ := hserver
  have hlead : IsPlainName "pkl-lsp-" := by constructor <;> decide
  have hname : IsPlainName ("pkl-lsp-" ++ v.text ++ suffix) := by
    rw [String.append_assoc]
    refine hlead.append (by decide) ?_
    rw [String.toList_append, List.all_append]
    rw [(isPlainName_text h).chars, hsuffix]
    rfl
  apply isReference_of_isPlainName (by decide)
  . simp only [List.forall_mem_cons]
    exact ⟨horg, hgroup, hartifact, isPlainName_text h, hname, by simp⟩
  . simp [Text.joinPieces]

theorem isReference_jarPath (h : v.WellFormed) : Url.IsReference (Coordinate.server.jarPath v)
    ["org", "pkl-lang", "pkl-lsp", v.text, "pkl-lsp-" ++ v.text ++ ".jar"] := by
  rw [jarPath_server]
  exact isReference_version h (by decide)

theorem isReference_checksumPath (h : v.WellFormed) :
    Url.IsReference (Coordinate.server.checksumPath v)
      ["org", "pkl-lang", "pkl-lsp", v.text, "pkl-lsp-" ++ v.text ++ ".jar.sha256"] := by
  rw [checksumPath_server]
  exact isReference_version h (by decide)

end Files

namespace Client

/--
The file of a registry has a URL behind the one of the registry.
-/
def Finds (client : Client) (base : Url) (path file : String) : Prop :=
  ∃ url, client.urlOf path = .ok url ∧ base.IsBehind file url

/--
The files of the server are where the registry is, and its URL makes the same client.
-/
structure FindsFiles (client : Client) (base : Url) : Prop where
  metadata : client.Finds base Coordinate.server.metadataPath
    "org/pkl-lang/pkl-lsp/maven-metadata.xml"
  checksum : ∀ text v, Version.parse? text = some v →
    client.Finds base (Coordinate.server.checksumPath v)
      ("org/pkl-lang/pkl-lsp/" ++ v.text ++ "/pkl-lsp-" ++ v.text ++ ".jar.sha256")
  jar : ∀ text v, Version.parse? text = some v →
    client.Finds base (Coordinate.server.jarPath v)
      ("org/pkl-lang/pkl-lsp/" ++ v.text ++ "/pkl-lsp-" ++ v.text ++ ".jar")
  again : ∀ cache staging,
    Client.new client.base.text cache staging = .ok ⟨client.base, cache, staging⟩

/--
Nothing is asked for, since nothing has a URL. Only what is in the cache is known.
-/
structure FindsNothing (client : Client) : Prop where
  latest : ∀ (useCache : Bool) w, ¬(useCache ∧ ∃ v, client.Knows .server w v) →
    (client.latest .server useCache).run.run w =
      (.error (.invalidUrl .relativeToWholePath), w)
  recalled : ∀ (useCache : Bool) w v, useCache → client.Knows .server w v →
    (client.latest .server useCache).run.run w = (.ok v, w)
  download : ∀ text v destination w, Version.parse? text = some v →
    (client.downloadArtifact .server v destination).run.run w =
      (.error (.invalidUrl .relativeToWholePath), w)

variable {client : Client} {base : Url} {file text : String} {names parts : List String}
  {cache : Option MetadataCache} {staging : Option Path}

theorem base_of_new (hnew : Client.new text cache staging = .ok client)
    (hbase : Url.parse text = .ok base) : client.base = base.asDirectory := by
  unfold Client.new at hnew
  rw [hbase] at hnew
  cases hnew
  rfl

section Directories

variable (hclient : client.base = base.asDirectory) (h : base.IsWritten names)
  (hstandard : base.FollowsStandard)

include hclient h hstandard

theorem finds_of_isReference (hreference : Url.IsReference file parts) :
    client.Finds base file file := by
  have ⟨url, hjoin, hbehind⟩ := Url.exists_isBehind_join h hstandard hreference
  refine ⟨url, ?_, hbehind⟩
  unfold urlOf
  rw [hclient, hjoin]

theorem findsFiles_of_isWritten : client.FindsFiles base := by
  constructor
  case metadata => exact finds_of_isReference hclient h hstandard isReference_metadataPath
  case checksum =>
    intro text v hv
    have hwf := (Version.parse?_eq_some_iff.1 hv).1
    have hfinds := finds_of_isReference hclient h hstandard (isReference_checksumPath hwf)
    rw [checksumPath_server] at hfinds ⊢
    exact hfinds
  case jar =>
    intro text v hv
    have hwf := (Version.parse?_eq_some_iff.1 hv).1
    have hfinds := finds_of_isReference hclient h hstandard (isReference_jarPath hwf)
    rw [jarPath_server] at hfinds ⊢
    exact hfinds
  case again =>
    intro cache staging
    unfold Client.new
    rw [hclient]
    rw [Url.parse_text_asDirectory h hstandard]
    dsimp only
    rw [Url.asDirectory_asDirectory h hstandard]

end Directories

section Texts

theorem exists_whole_asDirectory (h : base.path = .whole text) :
    ∃ text', base.asDirectory.path = .whole text' := by
  unfold Url.asDirectory
  rw [h]
  dsimp only
  split
  . exact ⟨_, rfl⟩
  . split
    . exact ⟨text, h⟩
    . exact ⟨_, rfl⟩

variable (hwhole : client.base.path = .whole text)

include hwhole

theorem urlOf_of_whole (hreference : Url.IsReference file parts) :
    client.urlOf file = .error (.invalidUrl .relativeToWholePath) := by
  unfold urlOf
  rw [Url.join_of_whole hreference hwhole]

theorem findsNothing_of_whole : client.FindsNothing := by
  constructor
  case latest =>
    intro useCache w hmissed
    have hurl := urlOf_of_whole hwhole isReference_metadataPath
    exact run_latest_of_unnamed (misses_iff.2 hmissed) hurl
  case recalled =>
    intro useCache w v huse hknows
    exact run_latest_of_knows huse hknows
  case download =>
    intro text v destination w hv
    have hwf := (Version.parse?_eq_some_iff.1 hv).1
    unfold downloadArtifact
    rw [urlOf_of_whole hwhole (isReference_jarPath hwf)]
    rfl

end Texts

/--
Where the client of a registry finds the files of the server.
-/
structure FindsPlaces (client : Client) (base : Url) : Prop where
  directory : ∀ names, base.path = .segments names → client.FindsFiles base
  whole : ∀ text, base.path = .whole text → client.FindsNothing

theorem finds_places (hnew : Client.new text cache staging = .ok client)
    (hbase : Url.parse text = .ok base) (hstandard : base.FollowsStandard) :
    client.FindsPlaces base := by
  have hclient := base_of_new hnew hbase
  constructor
  case directory =>
    intro names hpath
    rcases Url.isWritten_of_parse hbase with ⟨names', h⟩ | ⟨whole, hwhole⟩
    . exact findsFiles_of_isWritten hclient h hstandard
    . rw [hpath] at hwhole
      cases hwhole
  case whole =>
    intro whole hpath
    have ⟨whole', hwhole⟩ := exists_whole_asDirectory hpath
    rw [← hclient] at hwhole
    exact findsNothing_of_whole hwhole

/--
The URL of a registry without a slash at the end of its path, but with something behind it.
-/
def mirrorBase : Url :=
  ⟨"https", some ⟨"", "", "repo1.maven.org", none⟩, .segments ["maven2"], some "a", some "b"⟩

theorem finds_files_of_mirror :
    Url.parse "https://repo1.maven.org/maven2?a#b" = .ok mirrorBase ∧
      mirrorBase.FollowsStandard ∧
      (⟨mirrorBase.asDirectory, none, none⟩ : Client).FindsFiles mirrorBase := by
  have hbase : Url.parse "https://repo1.maven.org/maven2?a#b" = .ok mirrorBase := by
    decide +kernel
  have hnew : Client.new "https://repo1.maven.org/maven2?a#b" none none =
      .ok ⟨mirrorBase.asDirectory, none, none⟩ := by
    decide +kernel
  have hstandard : mirrorBase.FollowsStandard := by
    apply Url.followsStandard_of_isPlainDomain (by decide)
    intro a ha
    cases ha
    decide
  exact ⟨hbase, hstandard, (finds_places hnew hbase hstandard).directory ["maven2"] rfl⟩

/--
An inquiry under `foo:a/`, for which the cache knows a version.
-/
def wholeInquiry : Inquiry :=
  { inquiryAt 1 none true (firstInquiry.after hourlyCache .server).files with
    base := ⟨"foo", none, .whole "a/", none, none⟩ }

/--
Not everything fails because nothing has a URL.
-/
theorem exists_result_of_whole :
    Client.new "foo:a" (some hourlyCache) none = .ok (wholeInquiry.client hourlyCache) ∧
      wholeInquiry.result hourlyCache .server = .ok (.ofNumbers 0 6 1) ∧
      (wholeInquiry.after hourlyCache .server).requests = [] := by
  decide +kernel

end Client

end ServerLauncher.Registry
