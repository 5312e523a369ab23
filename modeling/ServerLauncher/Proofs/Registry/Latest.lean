import ServerLauncher.Proofs.Registry.Remembering
import ServerLauncher.Proofs.World.Trip

/-!
This module contains what becomes of looking up the latest version: when the registry is asked, what the
answer comes to, and what is in the cache afterwards.
-/

namespace ServerLauncher.Registry

open FileSystem

theorem toOption_eq_some_iff {ε α : Type} {result : Except ε α} {a : α} :
    result.toOption = some a ↔ result = .ok a := by
  cases result <;> simp [Except.toOption]

theorem MetadataCache.read_eq_some_iff {cache : MetadataCache} {files : FileSystem} {now : Int}
    {c : Coordinate} {text : String} :
    cache.read files now c = some text ↔
      ∃ modified, files.modified? (cache.path c) = some modified ∧
        cache.isFresh modified now = true ∧ files.readText (cache.path c) = .ok text := by
  unfold read
  rw [Option.bind_eq_bind, Option.bind_eq_some_iff]
  apply exists_congr
  intro modified
  apply and_congr_right
  intro _
  cases hfresh : cache.isFresh modified now with
  | true =>
    change (files.readText (cache.path c)).toOption = some text ↔ _
    rw [toOption_eq_some_iff]
    exact (and_iff_right rfl).symm
  | false =>
    change none = some text ↔ _
    constructor
    . intro h
      cases h
    . intro h
      cases h.1

/--
A document that cannot be written may get directories made for it, but nothing else changes.
-/
theorem MetadataCache.exists_makesWay_of_write_failed {cache : MetadataCache} {files : FileSystem}
    {now : Int} {c : Coordinate} {document : String} {e : IoError}
    (h : (cache.write files now c document).1 = some e) :
    ∃ directory, MakesWay files (cache.write files now c document).2 directory := by
  unfold write at h ⊢
  cases hparent : (cache.path c).parent? with
  | none =>
    rw [hparent] at h
    dsimp only at h ⊢
    split at h
    . cases h
    . exact ⟨cache.path c, .refl files _⟩
  | some parent =>
    rw [hparent] at h
    dsimp only at h ⊢
    have hmade := makesWay_createDirectories files parent
    generalize files.createDirectories parent = made at h hmade ⊢
    rcases made with ⟨failed, files₁⟩
    cases failed with
    | some e => exact ⟨parent, hmade⟩
    | none =>
      dsimp only at h ⊢
      split at h
      . cases h
      . exact ⟨parent, hmade⟩

namespace Client

/--
The cache holds a document that names a version and is neither too old nor from the future.
-/
def Knows (client : Client) (c : Coordinate) (w : World) (v : Version) : Prop :=
  ∃ cache modified text, client.cache = some cache ∧
    w.files.modified? (cache.path c) = some modified ∧
    modified ≤ w.now ∧ w.now ≤ modified + cache.lifetime * 1000000000 ∧
    w.files.readText (cache.path c) = .ok text ∧ parseLatest text = .ok v

/--
The metadata of an artifact has a URL, and there is a way to ask for it.
-/
def CanAsk (client : Client) (c : Coordinate) (url : Url) : Prop :=
  client.urlOf c.metadataPath = .ok url ∧ Http.isUsable url = true

/--
What is in the files after metadata has come.
-/
structure Stores (client : Client) (c : Coordinate) (metadata : String) (w w' : World) : Prop where
  uncached : client.cache = none → w'.files = w.files
  written : ∀ cache, client.cache = some cache →
    (cache.write w.files w.now c metadata).1 = none →
      w'.files.read (cache.path c) = .ok metadata.toUTF8 ∧
        w'.files.modified? (cache.path c) = some w.now
  /-- If the document cannot be written, all files stay as they are. -/
  unwritten : ∀ cache e, client.cache = some cache →
    (cache.write w.files w.now c metadata).1 = some e →
      ∀ p content, w.files.read p = .ok content → w'.files.read p = .ok content

/--
How looking up the latest version ends.
-/
structure Inquires (client : Client) (c : Coordinate) (useCache : Bool) (w : World)
    (result : Except RegistryError Version) (w' : World) : Prop where
  /-- Nothing is asked exactly if the cache may be used and knows a version, or if there is no way to
  ask. Then nothing changes. -/
  silent_iff : w'.events = w.events ↔
    (useCache ∧ ∃ v, client.Knows c w v) ∨ ¬∃ url, client.CanAsk c url
  unchanged : w'.events = w.events → w' = w
  recalled : useCache → ∀ v, client.Knows c w v → result = .ok v
  /-- Otherwise the cache makes no difference, whatever is in it. -/
  regardless : ¬(useCache ∧ ∃ v, client.Knows c w v) →
    (client.latest c false).run.run w = (result, w')
  unnamed : ¬(useCache ∧ ∃ v, client.Knows c w v) → ∀ e, client.urlOf c.metadataPath = .error e →
    result = .error e ∧ ∃ cause, e = .invalidUrl cause
  unusable : ¬(useCache ∧ ∃ v, client.Knows c w v) → ∀ url, client.urlOf c.metadataPath = .ok url →
    Http.isUsable url = false → result = .error (.http url.text (.unusable (some url)))
  /-- The metadata is asked for once, and anything else only where an answer sends the request. What
  comes of it decides about the result, and a version is kept. -/
  asked : ¬(useCache ∧ ∃ v, client.Knows c w v) → ∀ url, client.CanAsk c url →
    ∃ urls outcome, Http.Trip w Http.redirectLimit url.withoutUser urls outcome ∧
      w' = (Http.asked w urls).withFiles w'.files ∧
      urls.head? = some (Http.sent url.withoutUser) ∧ urls.length ≤ Http.redirectLimit + 1 ∧
      (∀ v, result = .ok v ↔ ∃ text, Http.Delivers outcome text ∧ parseLatest text = .ok v) ∧
      (∀ e, result = .error e ↔ (∃ cause, Http.Fails outcome cause ∧ e = .http url.text cause) ∨
        ∃ text, Http.Delivers outcome text ∧ parseLatest text = .error e) ∧
      ∀ v, result = .ok v → ∀ text, Http.Delivers outcome text → client.Stores c text w w'
  /-- A failure leaves the files alone. -/
  failed : ∀ e, result = .error e → w'.files = w.files ∧ ∀ cause, e ≠ .fetch cause

variable {client : Client} {cache : MetadataCache} {c : Coordinate} {useCache : Bool} {w w' : World}
  {v : Version} {metadata : String} {url : Url} {result : Except RegistryError Version}

theorem cachedLatest_eq_some_iff : client.cachedLatest w c = some v ↔ client.Knows c w v := by
  unfold cachedLatest
  rw [Option.bind_eq_bind, Option.bind_eq_some_iff]
  apply exists_congr
  intro cache
  rw [Option.bind_eq_bind, Option.bind_eq_some_iff]
  constructor
  . intro h
    have ⟨hcache, text, hread, hparse⟩ := h
    have ⟨modified, hmodified, hfresh, htext⟩ := MetadataCache.read_eq_some_iff.1 hread
    rw [MetadataCache.isFresh_iff] at hfresh
    rw [toOption_eq_some_iff] at hparse
    exact ⟨modified, text, hcache, hmodified, hfresh.1, hfresh.2, htext, hparse⟩
  . intro h
    have ⟨modified, text, hcache, hmodified, hle, hage, htext, hparse⟩ := h
    refine ⟨hcache, text, ?_, toOption_eq_some_iff.2 hparse⟩
    exact MetadataCache.read_eq_some_iff.2
      ⟨modified, hmodified, MetadataCache.isFresh_iff.2 ⟨hle, hage⟩, htext⟩

theorem misses_iff :
    client.Misses c useCache w ↔ ¬(useCache ∧ ∃ v, client.Knows c w v) := by
  unfold Misses
  cases useCache with
  | false => simp
  | true =>
    rw [if_pos rfl]
    rw [Option.eq_none_iff_forall_ne_some]
    simp [cachedLatest_eq_some_iff]

theorem run_latest_of_knows (huse : useCache) (h : client.Knows c w v) :
    (client.latest c useCache).run.run w = (.ok v, w) := by
  unfold latest
  rw [Attempt.run_bind_of_ok (Attempt.run_get w)]
  rw [if_pos huse]
  rw [cachedLatest_eq_some_iff.2 h]
  rfl

theorem misses_false (client : Client) (c : Coordinate) (w : World) : client.Misses c false w := rfl

theorem run_latest_of_unnamed {e : RegistryError} (hmisses : client.Misses c useCache w)
    (hurl : client.urlOf c.metadataPath = .error e) :
    (client.latest c useCache).run.run w = (.error e, w) := by
  rw [latest_of_misses hmisses]
  unfold latest fetchLatest
  rw [Attempt.run_bind_of_ok (Attempt.run_get w)]
  rw [hurl]
  rfl

theorem run_fetchLatest_of_error {cause : Http.Error} (hurl : client.urlOf c.metadataPath = .ok url)
    (hget : (Http.getText url).run.run w = (.error cause, w')) :
    (client.fetchLatest c).run.run w = (.error (.http url.text cause), w') := by
  have hadapt := Attempt.run_adapt (Http.getText url) (RegistryError.http url.text) w
  rw [hget] at hadapt
  unfold fetchLatest getText
  rw [hurl]
  rw [Attempt.run_bind_of_ok (Attempt.run_ofExcept (.ok url) w)]
  exact Attempt.run_bind_of_error hadapt

theorem run_fetchLatest_of_ok (hurl : client.urlOf c.metadataPath = .ok url)
    (hget : (Http.getText url).run.run w = (.ok metadata, w')) :
    (client.fetchLatest c).run.run w =
      (parseLatest metadata, match parseLatest metadata with
        | .ok _ => ((client.keep c metadata).run w').2
        | .error _ => w') := by
  have hadapt := Attempt.run_adapt (Http.getText url) (RegistryError.http url.text) w
  rw [hget] at hadapt
  unfold fetchLatest getText
  rw [hurl]
  rw [Attempt.run_bind_of_ok (Attempt.run_ofExcept (.ok url) w)]
  rw [Attempt.run_bind_of_ok hadapt]
  cases parseLatest metadata <;> rfl

theorem run_latest_of_misses (h : client.Misses c useCache w) :
    (client.latest c useCache).run.run w = (client.fetchLatest c).run.run w := by
  rw [latest_of_misses h]
  unfold latest
  rw [Attempt.run_bind_of_ok (Attempt.run_get w)]
  rfl

theorem exists_invalidUrl_of_urlOf {file : String} {e : RegistryError}
    (h : client.urlOf file = .error e) : ∃ cause, e = .invalidUrl cause := by
  unfold urlOf at h
  split at h
  . cases h
  . next cause _ =>
    cases h
    exact ⟨cause, rfl⟩

theorem exists_invalidRemoteVersion_of_parseLatest {e : RegistryError}
    (h : parseLatest metadata = .error e) : ∃ text, e = .invalidRemoteVersion text := by
  unfold parseLatest at h
  split at h
  . cases h
    exact ⟨_, rfl⟩
  . split at h
    . cases h
    . cases h
      exact ⟨_, rfl⟩

theorem keep_asked (client : Client) (c : Coordinate) (metadata : String) (w : World)
    (urls : List Url) :
    ∃ files, ((client.keep c metadata).run (Http.asked w urls)).2 =
      (Http.asked w urls).withFiles files := by
  unfold keep
  cases client.cache with
  | none => exact ⟨w.files, rfl⟩
  | some cache => exact ⟨_, rfl⟩

theorem stores_keep (client : Client) (c : Coordinate) (metadata : String) (w : World)
    (urls : List Url) :
    client.Stores c metadata w ((client.keep c metadata).run (Http.asked w urls)).2 := by
  constructor
  case uncached =>
    intro hcache
    rw [keep_of_none hcache]
    rfl
  case written =>
    intro cache hcache hwrite
    rw [files_keep hcache]
    exact MetadataCache.read_of_written hwrite
  case unwritten =>
    intro cache e hcache hwrite p content hread
    rw [files_keep hcache]
    have ⟨directory, hway⟩ := MetadataCache.exists_makesWay_of_write_failed hwrite
    exact hway.read hread

/--
Asking the registry takes a trip, whose end decides about the result and about what is kept.
-/
theorem exists_trip_fetchLatest (hask : client.CanAsk c url) (w : World) :
    ∃ urls outcome result files, Http.Trip w Http.redirectLimit url.withoutUser urls outcome ∧
      (client.fetchLatest c).run.run w = (result, (Http.asked w urls).withFiles files) ∧
      result = (match Http.received outcome with
        | .error cause => .error (.http url.text cause)
        | .ok text => parseLatest text) ∧
      (∀ e, result = .error e → files = w.files) ∧
      ∀ v text, result = .ok v → Http.received outcome = .ok text →
        client.Stores c text w ((Http.asked w urls).withFiles files) := by
  have ⟨urls, outcome, htrip, hget⟩ := Http.exists_trip_getText hask.2 w
  refine ⟨urls, outcome, ?_⟩
  cases hreceived : Http.received outcome with
  | error cause =>
    rw [hreceived] at hget
    refine ⟨_, w.files, htrip, run_fetchLatest_of_error hask.1 hget, rfl, ?_, ?_⟩
    . intro e _
      rfl
    . intro v text hv
      cases hv
  | ok metadata =>
    rw [hreceived] at hget
    have hrun := run_fetchLatest_of_ok hask.1 hget
    cases hparse : parseLatest metadata with
    | error e =>
      rw [hparse] at hrun
      refine ⟨_, w.files, htrip, hrun, hparse.symm, ?_, ?_⟩
      . intro e _
        rfl
      . intro v text hv
        cases hv
    | ok v =>
      have hstores := stores_keep client c metadata w urls
      have ⟨files, hkeep⟩ := keep_asked client c metadata w urls
      rw [hparse] at hrun
      dsimp only at hrun
      rw [hkeep] at hrun hstores
      refine ⟨_, files, htrip, hrun, hparse.symm, ?_, ?_⟩
      . intro e he
        cases he
      . intro v' text _ htext
        cases htext
        exact hstores

section Inquiring

variable (hmissed : ¬(useCache ∧ ∃ v, client.Knows c w v))

theorem inquires_of_knows (huse : useCache) (h : client.Knows c w v) :
    client.Inquires c useCache w (.ok v) w := by
  have hknown : useCache ∧ ∃ v, client.Knows c w v := ⟨huse, v, h⟩
  constructor
  case silent_iff => exact iff_of_true rfl (.inl hknown)
  case unchanged =>
    intro _
    rfl
  case recalled =>
    intro _ v' h'
    have hsame := (run_latest_of_knows huse h).symm.trans (run_latest_of_knows huse h')
    exact congrArg Prod.fst hsame
  case regardless =>
    intro hmissed
    exact absurd hknown hmissed
  case unnamed =>
    intro hmissed
    exact absurd hknown hmissed
  case unusable =>
    intro hmissed
    exact absurd hknown hmissed
  case asked =>
    intro hmissed
    exact absurd hknown hmissed
  case failed =>
    intro e he
    cases he

include hmissed

theorem inquires_of_unnamed {e : RegistryError} (hurl : client.urlOf c.metadataPath = .error e) :
    client.Inquires c useCache w (.error e) w := by
  have ⟨cause, hcause⟩ := exists_invalidUrl_of_urlOf hurl
  have hcannot : ∀ url, client.urlOf c.metadataPath ≠ .ok url := by
    intro url hok
    rw [hurl] at hok
    cases hok
  constructor
  case silent_iff =>
    refine iff_of_true rfl (.inr ?_)
    rintro ⟨url, hok, _⟩
    exact hcannot url hok
  case unchanged =>
    intro _
    rfl
  case recalled =>
    intro huse v h
    exact absurd ⟨huse, v, h⟩ hmissed
  case regardless =>
    intro _
    exact run_latest_of_unnamed (misses_false client c w) hurl
  case unnamed =>
    intro _ e' he'
    rw [hurl] at he'
    cases he'
    exact ⟨rfl, cause, hcause⟩
  case unusable =>
    intro _ url hok
    exact absurd hok (hcannot url)
  case asked =>
    intro _ url hask
    exact absurd hask.1 (hcannot url)
  case failed =>
    intro e' he'
    cases he'
    refine ⟨rfl, ?_⟩
    intro fetch
    rw [hcause]
    simp

theorem inquires_of_unusable (hurl : client.urlOf c.metadataPath = .ok url)
    (husable : Http.isUsable url = false) :
    client.Inquires c useCache w (.error (.http url.text (.unusable (some url)))) w := by
  have hunique : ∀ url', client.urlOf c.metadataPath = .ok url' → url' = url := by
    intro url' hurl'
    rw [hurl] at hurl'
    exact (Except.ok.inj hurl').symm
  constructor
  case silent_iff =>
    refine iff_of_true rfl (.inr ?_)
    rintro ⟨url', hok, husable'⟩
    rw [hunique url' hok, husable] at husable'
    cases husable'
  case unchanged =>
    intro _
    rfl
  case recalled =>
    intro huse v h
    exact absurd ⟨huse, v, h⟩ hmissed
  case regardless =>
    intro _
    rw [run_latest_of_misses (misses_false client c w)]
    exact run_fetchLatest_of_error hurl (Http.run_getText_of_not_usable husable w)
  case unnamed =>
    intro _ e he
    rw [hurl] at he
    cases he
  case unusable =>
    intro _ url' hurl' _
    rw [hunique url' hurl']
  case asked =>
    intro _ url' hask
    have husable' := hask.2
    rw [hunique url' hask.1, husable] at husable'
    cases husable'
  case failed =>
    intro e he
    cases he
    exact ⟨rfl, by simp⟩

/--
If the registry is asked, everything is decided by what comes of the request.
-/
theorem inquires_of_received {urls : List Url} {outcome : Except Http.Error (Url × Http.Response)}
    {files : FileSystem} (hask : client.CanAsk c url)
    (htrip : Http.Trip w Http.redirectLimit url.withoutUser urls outcome)
    (hrun : (client.fetchLatest c).run.run w = (result, (Http.asked w urls).withFiles files))
    (hresult : result = match Http.received outcome with
      | .error cause => .error (.http url.text cause)
      | .ok text => parseLatest text)
    (hfailed : ∀ e, result = .error e → files = w.files)
    (hstores : ∀ v text, result = .ok v → Http.received outcome = .ok text →
      client.Stores c text w ((Http.asked w urls).withFiles files)) :
    client.Inquires c useCache w result ((Http.asked w urls).withFiles files) := by
  have hevents : ((Http.asked w urls).withFiles files).events ≠ w.events := by
    intro heq
    have hnil : urls.map Event.requested = [] := List.append_right_eq_self.1 heq
    exact htrip.ne_nil (List.map_eq_nil_iff.1 hnil)
  constructor
  case silent_iff =>
    refine iff_of_false hevents ?_
    rintro (hknown | hcannot)
    . exact hmissed hknown
    . exact hcannot ⟨url, hask⟩
  case unchanged =>
    intro heq
    exact absurd heq hevents
  case recalled =>
    intro huse v h
    exact absurd ⟨huse, v, h⟩ hmissed
  case regardless =>
    intro _
    rw [run_latest_of_misses (misses_false client c w)]
    exact hrun
  case unnamed =>
    intro _ e he
    rw [hask.1] at he
    cases he
  case unusable =>
    intro _ url' hurl' husable'
    rw [hask.1] at hurl'
    cases hurl'
    rw [hask.2] at husable'
    cases husable'
  case asked =>
    intro _ url' hask'
    have hurl := hask'.1
    rw [hask.1] at hurl
    cases hurl
    refine ⟨urls, outcome, htrip, rfl, htrip.head?, htrip.length_le, ?_, ?_, ?_⟩
    . intro v
      simp only [← Http.received_eq_ok_iff]
      rw [hresult]
      cases Http.received outcome with
      | error cause => simp
      | ok text => simp
    . intro e
      simp only [← Http.received_eq_ok_iff, ← Http.received_eq_error_iff]
      rw [hresult]
      cases Http.received outcome with
      | error cause => simp [eq_comm]
      | ok text => simp
    . intro v hv text htext
      exact hstores v text hv (Http.received_eq_ok_iff.2 htext)
  case failed =>
    intro e he
    refine ⟨hfailed e he, ?_⟩
    intro fetch heq
    rw [heq, hresult] at he
    split at he
    . cases he
    . have ⟨text, htext⟩ := exists_invalidRemoteVersion_of_parseLatest he
      cases htext

end Inquiring

end Client

/--
An inquiry under `ftp://r/`, for which there is no way to ask.
-/
def lostInquiry : Inquiry :=
  { inquiryAt 0 none false emptyFiles with
    base := ⟨"ftp", some ⟨"", "", "r", none⟩, .segments [""], none, none⟩ }

/--
An inquiry that is sent elsewhere.
-/
def movedInquiry : Inquiry :=
  { inquiryAt 0 none false emptyFiles with
    before := {
      (inquiryAt 0 none false emptyFiles).before with
      web := fun _ url =>
        if url.text = "http://r/moved" then some ⟨200, none, "<latest>0.6.1</latest>".toUTF8, true⟩
        else some ⟨301, some "/moved", .empty, true⟩ } }

/--
An inquiry whose answer cannot be kept, since a file is in the way.
-/
def blockedInquiry : Inquiry :=
  inquiryAt 0 (some "<latest>0.6.1</latest>") false
    { emptyFiles with entries := [(["data"], .file .empty 0 none)] }

end ServerLauncher.Registry
