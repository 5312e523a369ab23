import Mathlib.Data.List.Chain
import ServerLauncher.Proofs.FileSystem.Writing
import ServerLauncher.Proofs.Registry.Inquiry
import ServerLauncher.Proofs.Registry.Keeping

/-!
This module contains how long the answer of a registry is remembered. Inquiries follow each other while
time goes on, each with a registry and a web of its own. What one of them has fetched is what the later
ones get from the cache, until it is too old or something else has been fetched.
-/

namespace ServerLauncher.Registry

open FileSystem

namespace MetadataCache

/--
The document of an artifact names a version and was written at a time.
-/
structure Holds (cache : MetadataCache) (files : FileSystem) (c : Coordinate) (v : Version)
    (modified : Int) : Prop where
  modified : files.modified? (cache.path c) = some modified
  document : ∃ text, files.readText (cache.path c) = .ok text ∧ Client.parseLatest text = .ok v

/--
The document of an artifact can be written.
-/
def Writable (cache : MetadataCache) (files : FileSystem) (c : Coordinate) : Prop :=
  ∀ now document, (cache.write files now c document).1 = none

variable {cache : MetadataCache} {files : FileSystem} {now : Int} {c : Coordinate}
  {document : String} {v : Version} {modified : Int}

/--
The directories for a document are made first, whatever the document is. If that is possible, the
document is written.
-/
theorem write_eq (cache : MetadataCache) (files : FileSystem) (c : Coordinate) :
    ∃ (failed : Option IoError) (files₁ : FileSystem), ∀ now document,
      cache.write files now c document =
        match failed, files₁.writeFile (cache.path c) document.toUTF8 now with
        | some e, _ => (some e, files₁)
        | none, .ok files => (none, files)
        | none, .error e => (some e, files₁) := by
  cases hparent : (cache.path c).parent? with
  | none =>
    refine ⟨none, files, ?_⟩
    intro now document
    unfold write
    rw [hparent]
    dsimp only
    cases files.writeFile (cache.path c) document.toUTF8 now <;> rfl
  | some parent =>
    rcases hmade : files.createDirectories parent with ⟨failed, files₁⟩
    refine ⟨failed, files₁, ?_⟩
    intro now document
    unfold write
    rw [hparent]
    dsimp only
    rw [hmade]
    cases failed with
    | some e => rfl
    | none =>
      dsimp only
      cases files₁.writeFile (cache.path c) document.toUTF8 now <;> rfl

theorem writable_iff : cache.Writable files c ↔ (cache.write files 0 c "").1 = none := by
  constructor
  . intro h
    exact h 0 ""
  . intro h now document
    have ⟨failed, files₁, hwrite⟩ := cache.write_eq files c
    rw [hwrite] at *
    cases failed with
    | some e => cases h
    | none =>
      cases hempty : files₁.writeFile (cache.path c) "".toUTF8 0 with
      | error e =>
        rw [hempty] at h
        cases h
      | ok files' =>
        -- What is written, and when, has no part in whether it can be written.
        have ⟨place, hplace, hwritable, _⟩ := writeFile_eq_ok_iff.1 hempty
        rw [writeFile_eq_ok_iff.2 ⟨place, hplace, hwritable, rfl⟩]

theorem read_of_written (h : (cache.write files now c document).1 = none) :
    (cache.write files now c document).2.read (cache.path c) = .ok document.toUTF8 ∧
      (cache.write files now c document).2.modified? (cache.path c) = some now := by
  have ⟨failed, files₁, hwrite⟩ := cache.write_eq files c
  rw [hwrite] at *
  cases failed with
  | some e => cases h
  | none =>
    cases hdone : files₁.writeFile (cache.path c) document.toUTF8 now with
    | error e =>
      rw [hdone] at h
      cases h
    | ok files' =>
      have ⟨x, program, hplace⟩ := place_of_writeFile hdone
      exact ⟨read_eq_ok_iff.2 ⟨x, now, program, hplace⟩, modified?_of_writeFile hdone⟩

theorem holds_write (h : (cache.write files now c document).1 = none)
    (hparse : Client.parseLatest document = .ok v) :
    cache.Holds (cache.write files now c document).2 c v now := by
  have ⟨hread, hmodified⟩ := read_of_written h
  exact ⟨hmodified, document, readText_of_read hread, hparse⟩

theorem isFresh_iff :
    cache.isFresh modified now = true ↔
      modified ≤ now ∧ now ≤ modified + cache.lifetime * 1000000000 := by
  unfold isFresh
  rw [Bool.and_eq_true, decide_eq_true_iff, decide_eq_true_iff]
  omega

theorem read_eq_none (hmodified : files.modified? (cache.path c) = some modified)
    (hstale : cache.isFresh modified now = false) : cache.read files now c = none := by
  unfold read
  rw [hmodified]
  dsimp only [bind, Option.bind]
  rw [hstale]
  rfl

theorem Holds.read_eq (h : cache.Holds files c v modified) (now : Int) :
    (cache.isFresh modified now = true →
      ∃ text, cache.read files now c = some text ∧ Client.parseLatest text = .ok v) ∧
    (cache.isFresh modified now = false → cache.read files now c = none) := by
  have ⟨text, htext, hparse⟩ := h.document
  constructor
  . intro hfresh
    refine ⟨text, ?_, hparse⟩
    unfold read
    rw [h.modified]
    dsimp only [bind, Option.bind]
    rw [hfresh, htext]
    rfl
  . exact read_eq_none h.modified

end MetadataCache

/--
An inquiry about the latest version: the registry that may be asked, the directory for unfinished
downloads, whether the cache may be used, and the world in which the inquiry is made.
-/
structure Inquiry where
  base : Url
  staging : Option Path
  useCache : Bool
  before : World

variable (cache : MetadataCache) (c : Coordinate)

namespace Inquiry

def client (q : Inquiry) : Client :=
  ⟨q.base, some cache, q.staging⟩

def result (q : Inquiry) : Except RegistryError Version :=
  (((q.client cache).latest c q.useCache).run.run q.before).1

/--
The world behind an inquiry.
-/
def after (q : Inquiry) : World :=
  (((q.client cache).latest c q.useCache).run.run q.before).2

/--
The registry is asked and answers with a version.
-/
structure Fetches (q : Inquiry) (v : Version) : Prop where
  result : q.result cache c = .ok v
  asked : (q.after cache c).events ≠ q.before.events

/--
The version comes from the cache. Nothing is asked, and nothing changes.
-/
structure Recalls (q : Inquiry) (v : Version) : Prop where
  result : q.result cache c = .ok v
  silent : q.after cache c = q.before

/--
An inquiry comes after another one. Whatever may have happened in between, the clock has not gone back,
and nobody has touched the document.
-/
structure Precedes (q next : Inquiry) : Prop where
  now : (q.after cache c).now ≤ next.before.now
  modified : next.before.files.modified? (cache.path c) =
    (q.after cache c).files.modified? (cache.path c)
  document : next.before.files.readText (cache.path c) =
    (q.after cache c).files.readText (cache.path c)

end Inquiry

/--
Inquiries that come one after the other, whose answers can be kept.
-/
structure Session (qs : List Inquiry) : Prop where
  chain : qs.IsChain (Inquiry.Precedes cache c)
  writable : ∀ q ∈ qs, cache.Writable q.before.files c

variable {cache : MetadataCache} {c : Coordinate} {q next first last : Inquiry}
  {between qs : List Inquiry} {v : Version} {modified : Int}

theorem sameFiles_getText {url : Url} {w w' : World} {answer : Except Http.Error String}
    (h : (Http.getText url).run.run w = (answer, w')) : w.SameFiles w' := by
  have hsame : w.SameFiles ((Http.getText url).run.run w).2 :=
    Http.keeps_getText Action.sameFiles_request url w
  rw [h] at hsame
  exact hsame

namespace Inquiry

theorem looks (cache : MetadataCache) (c : Coordinate) (q : Inquiry) :
    (q.client cache).Looks c q.useCache q.before (q.result cache c) (q.after cache c) :=
  looks_latest (q.client cache) c q.useCache q.before

theorem now_after (cache : MetadataCache) (c : Coordinate) (q : Inquiry) :
    (q.after cache c).now = q.before.now := by
  have hlooks := q.looks cache c
  generalize q.result cache c = result at hlooks
  generalize q.after cache c = w' at hlooks
  cases hlooks with
  | known => rfl
  | unnamed => rfl
  | unanswered _ _ hget => exact (sameFiles_getText hget).now
  | versionless _ _ hget => exact (sameFiles_getText hget).now
  | answered _ _ hget =>
    rw [Client.now_keep]
    exact (sameFiles_getText hget).now

theorem precedes_of_files_eq (hnow : q.before.now ≤ next.before.now)
    (hfiles : next.before.files = (q.after cache c).files) : q.Precedes cache c next := by
  constructor
  . rw [now_after]
    exact hnow
  . rw [hfiles]
  . rw [hfiles]

/--
What an inquiry does: it fetches a version, which is in the document from then on, or it leaves all
files as they are.
-/
inductive Effect (cache : MetadataCache) (c : Coordinate) (q : Inquiry) : Prop where
  | fetches {v : Version} (hfetches : q.Fetches cache c v)
    (hholds : cache.Holds (q.after cache c).files c v q.before.now) : Effect cache c q
  | fails (hnot : ∀ v, ¬q.Fetches cache c v)
    (hfiles : (q.after cache c).files = q.before.files) : Effect cache c q

theorem not_fetches_of_after_eq (h : q.after cache c = q.before) (v : Version) :
    ¬q.Fetches cache c v := by
  intro hfetches
  exact hfetches.asked (congrArg World.events h)

theorem misses_of_fetches (h : q.Fetches cache c v) :
    (q.client cache).Misses c q.useCache q.before := by
  have hlooks := q.looks cache c
  generalize q.result cache c = result at hlooks
  generalize hafter : q.after cache c = w' at hlooks
  cases hlooks with
  | known => exact absurd h (not_fetches_of_after_eq hafter v)
  | unnamed hmisses => exact hmisses
  | unanswered hmisses => exact hmisses
  | versionless hmisses => exact hmisses
  | answered hmisses => exact hmisses

theorem effect (hwritable : cache.Writable q.before.files c) : q.Effect cache c := by
  have hlooks := q.looks cache c
  generalize hresult : q.result cache c = result at hlooks
  generalize hafter : q.after cache c = w' at hlooks
  have hfailed : ∀ e, result = .error e → ∀ v, ¬q.Fetches cache c v := by
    intro e he v hfetches
    rw [← hresult, hfetches.result] at he
    cases he
  cases hlooks with
  | known huse hknown =>
    apply Effect.fails (not_fetches_of_after_eq hafter)
    rw [hafter]
  | unnamed hmisses hurl =>
    apply Effect.fails (not_fetches_of_after_eq hafter)
    rw [hafter]
  | unanswered hmisses hurl hget =>
    apply Effect.fails (hfailed _ rfl)
    rw [hafter]
    exact (sameFiles_getText hget).files
  | versionless hmisses hurl hget hparse =>
    apply Effect.fails (hfailed _ rfl)
    rw [hafter]
    exact (sameFiles_getText hget).files
  | @answered url metadata v w₁ hmisses hurl hget hparse =>
    have hsame := sameFiles_getText hget
    refine .fetches (v := v) ⟨hresult, ?_⟩ ?_
    . rw [hafter]
      rw [Client.events_keep]
      have hlt := Http.length_lt_of_getText hget
      intro heq
      rw [heq] at hlt
      exact Nat.lt_irrefl _ hlt
    . rw [hafter, Client.files_keep rfl]
      have hwrite := hwritable q.before.now metadata
      rw [← hsame.files, ← hsame.now] at hwrite
      rw [← hsame.now]
      exact MetadataCache.holds_write hwrite hparse

theorem cachedLatest_of_holds (h : cache.Holds q.before.files c v modified) :
    (q.client cache).cachedLatest q.before c =
      if cache.isFresh modified q.before.now then some v else none := by
  have hread := h.read_eq q.before.now
  unfold Client.cachedLatest client
  cases hfresh : cache.isFresh modified q.before.now with
  | true =>
    obtain ⟨text, htext, hparse⟩ := hread.1 hfresh
    simp [htext, hparse, Except.toOption]
  | false => simp [hread.2 hfresh]

/--
What the document names is recalled as long as it is fresh.
-/
theorem recalls_of_holds (h : cache.Holds q.before.files c v modified) (huse : q.useCache)
    (hfresh : cache.isFresh modified q.before.now) : q.Recalls cache c v := by
  have hcached := cachedLatest_of_holds h
  rw [if_pos hfresh] at hcached
  have hrun : ((q.client cache).latest c q.useCache).run.run q.before = (.ok v, q.before) := by
    unfold Client.latest
    rw [Attempt.run_bind_of_ok (Attempt.run_get q.before)]
    rw [if_pos huse, hcached]
    rfl
  constructor
  . unfold result
    rw [hrun]
  . unfold after
    rw [hrun]

theorem Fetches.of_effect (hfetches : q.Fetches cache c v)
    (hwritable : cache.Writable q.before.files c) :
    cache.Holds (q.after cache c).files c v q.before.now := by
  cases effect hwritable with
  | @fetches v' hfetches' hholds =>
    have heq := hfetches.result.symm.trans hfetches'.result
    cases heq
    exact hholds
  | fails hnot hfiles => exact absurd hfetches (hnot v)

theorem Precedes.holds (h : q.Precedes cache c next)
    (hholds : cache.Holds (q.after cache c).files c v modified) :
    cache.Holds next.before.files c v modified := by
  have ⟨text, htext, hparse⟩ := hholds.document
  constructor
  . rw [h.modified]
    exact hholds.modified
  . refine ⟨text, ?_, hparse⟩
    rw [h.document]
    exact htext

end Inquiry

/--
What an inquiry leaves in the document is what it has fetched, or else what was there before.
-/
theorem holds_after (hwritable : cache.Writable q.before.files c)
    (hholds : cache.Holds q.before.files c v modified) (hle : modified ≤ q.before.now) :
    ∃ v' modified', cache.Holds (q.after cache c).files c v' modified' ∧
      modified ≤ modified' ∧ modified' ≤ q.before.now ∧
      ((∀ u, ¬q.Fetches cache c u) → v' = v ∧ modified' = modified) := by
  cases Inquiry.effect hwritable with
  | @fetches v' hfetches hkept =>
    refine ⟨v', q.before.now, hkept, hle, Int.le_refl _, ?_⟩
    intro hnone
    exact absurd hfetches (hnone v')
  | fails hnot hfiles =>
    refine ⟨v, modified, ?_, Int.le_refl _, hle, ?_⟩
    . rw [hfiles]
      exact hholds
    . intro _
      exact ⟨rfl, rfl⟩

/--
What the document holds behind an inquiry is still there before a later one, unless something has been
fetched in between. Then the document is the younger for it.
-/
theorem holds_of_between (hchain : (q :: (between ++ [last])).IsChain (Inquiry.Precedes cache c))
    (hwritable : ∀ r ∈ between, cache.Writable r.before.files c)
    (hholds : cache.Holds (q.after cache c).files c v modified) (hle : modified ≤ q.before.now) :
    ∃ v' modified', cache.Holds last.before.files c v' modified' ∧
      modified ≤ modified' ∧ modified' ≤ last.before.now ∧
      ((∀ r ∈ between, ∀ u, ¬r.Fetches cache c u) → v' = v ∧ modified' = modified) := by
  -- The inquiries in between are taken one by one, with what the document holds before each of them.
  induction between generalizing q v modified with
  | nil =>
    rw [List.nil_append, List.isChain_cons_cons] at hchain
    have hnow := hchain.1.now
    rw [Inquiry.now_after] at hnow
    refine ⟨v, modified, hchain.1.holds hholds, Int.le_refl _, Int.le_trans hle hnow, ?_⟩
    intro _
    exact ⟨rfl, rfl⟩
  | cons r rest ih =>
    rw [List.cons_append, List.isChain_cons_cons] at hchain
    have hnow := hchain.1.now
    rw [Inquiry.now_after] at hnow
    have ⟨v₁, modified₁, hholds₁, hle₁, hle₂, hkept⟩ :=
      holds_after (hwritable r List.mem_cons_self) (hchain.1.holds hholds) (Int.le_trans hle hnow)
    have hrest : ∀ r ∈ rest, cache.Writable r.before.files c := by
      intro s hs
      exact hwritable s (List.mem_cons_of_mem r hs)
    have ⟨v₂, modified₂, hholds₂, hle₃, hle₄, hkept'⟩ := ih hchain.2 hrest hholds₁ hle₂
    refine ⟨v₂, modified₂, hholds₂, Int.le_trans hle₁ hle₃, hle₄, ?_⟩
    intro hnone
    obtain ⟨rfl, rfl⟩ := hkept (hnone r List.mem_cons_self)
    apply hkept'
    intro s hs
    exact hnone s (List.mem_cons_of_mem r hs)

/--
What is known about inquiries that come one after the other.
-/
structure Remembers (cache : MetadataCache) (c : Coordinate) (qs : List Inquiry) : Prop where
  /-- What has been fetched is kept, with the time of the inquiry. -/
  stored : ∀ q ∈ qs, ∀ v, q.Fetches cache c v →
    cache.Holds (q.after cache c).files c v q.before.now
  /--
  What has been fetched is what later inquiries get, whatever has been tried in between, as long as
  nothing else has been fetched and the document is not too old.
  -/
  remembered : ∀ first between last, first :: (between ++ [last]) <:+: qs →
    ∀ v modified, first.Fetches cache c v →
      (first.after cache c).files.modified? (cache.path c) = some modified →
      (∀ r ∈ between, ∀ u, ¬r.Fetches cache c u) → last.useCache →
      modified ≤ last.before.now → last.before.now ≤ modified + cache.lifetime * 1000000000 →
      last.Recalls cache c v
  /-- An inquiry that may use the cache does not fetch anything soon after another one. -/
  apart : ∀ first between last, first :: (between ++ [last]) <:+: qs →
    ∀ v u, first.Fetches cache c v → last.Fetches cache c u → last.useCache →
      first.before.now + cache.lifetime * 1000000000 < last.before.now
  /-- A document from the future or one that is too old is as good as none. -/
  unused : ∀ q ∈ qs, ∀ modified, q.before.files.modified? (cache.path c) = some modified →
    q.before.now < modified ∨ modified + cache.lifetime * 1000000000 < q.before.now →
      ((q.client cache).latest c q.useCache).run.run q.before =
        ((q.client cache).latest c false).run.run q.before

theorem Session.of_infix {rs : List Inquiry} (h : Session cache c qs) (hbetween : rs <:+: qs) :
    Session cache c rs := by
  constructor
  . exact h.chain.infix hbetween
  . intro r hr
    exact h.writable r (hbetween.subset hr)

/--
What the document holds when an inquiry is made some time after a version has been fetched.
-/
theorem Session.holds (h : Session cache c (first :: (between ++ [last])))
    (hfetches : first.Fetches cache c v) :
    ∃ v' modified, cache.Holds last.before.files c v' modified ∧
      first.before.now ≤ modified ∧ modified ≤ last.before.now ∧
      ((∀ r ∈ between, ∀ u, ¬r.Fetches cache c u) → v' = v ∧ modified = first.before.now) := by
  have hholds := hfetches.of_effect (h.writable first List.mem_cons_self)
  apply holds_of_between h.chain ?_ hholds (Int.le_refl _)
  intro r hr
  exact h.writable r (List.mem_cons_of_mem first (List.mem_append_left _ hr))

/--
What a registry has answered is remembered for as long as the cache allows, and no longer.
-/
theorem remembers_of_session (h : Session cache c qs) : Remembers cache c qs := by
  constructor
  case stored =>
    intro q hq v hfetches
    exact hfetches.of_effect (h.writable q hq)
  case remembered =>
    intro first between last hbetween v modified hfetches hmodified hnone huse hle hage
    have hsession := h.of_infix hbetween
    have hstored := hfetches.of_effect (hsession.writable first List.mem_cons_self)
    have ⟨v', modified', hholds, _, _, hkept⟩ := hsession.holds hfetches
    obtain ⟨rfl, rfl⟩ := hkept hnone
    have heq : first.before.now = modified := by
      rw [hstored.modified] at hmodified
      exact Option.some.inj hmodified
    rw [← heq] at hle hage
    exact Inquiry.recalls_of_holds hholds huse (MetadataCache.isFresh_iff.2 ⟨hle, hage⟩)
  case apart =>
    intro first between last hbetween v u hfetches hlast huse
    have ⟨v', modified, hholds, hle, hle', _⟩ := (h.of_infix hbetween).holds hfetches
    by_contra hnear
    -- The document would be fresh, so that nothing would have been fetched.
    have hfresh : cache.isFresh modified last.before.now := by
      rw [MetadataCache.isFresh_iff]
      omega
    have hrecalls := Inquiry.recalls_of_holds hholds huse hfresh
    exact Inquiry.not_fetches_of_after_eq hrecalls.silent u hlast
  case unused =>
    intro q _ modified hmodified hunfit
    apply Client.latest_of_misses
    have hstale : cache.isFresh modified q.before.now = false := by
      rw [← Bool.not_eq_true, MetadataCache.isFresh_iff]
      omega
    have hread : cache.read q.before.files q.before.now c = none :=
      MetadataCache.read_eq_none hmodified hstale
    unfold Client.Misses Client.cachedLatest Inquiry.client
    simp [hread]

/--
An inquiry under `http://r/`, which answers with the metadata if there is some.
-/
def inquiryAt (now : Int) (metadata : Option String) (useCache : Bool) (files : FileSystem) :
    Inquiry where
  base := ⟨"http", some ⟨"", "", "r", none⟩, .segments [""], none, none⟩
  staging := none
  useCache := useCache
  before := {
    files
    environment := {}
    executable := "/launcher"
    now
    web := fun _ _ => metadata.map fun text => ⟨200, none, text.toUTF8, true⟩
    host := .steady false
    events := [] }

def hourlyCache : MetadataCache := .inDirectory "/data" MetadataCache.defaultLifetime

def emptyFiles : FileSystem where
  entries := []
  workingDirectory := []
  temporaryDirectory := "/tmp"
  device := fun _ => 0

/--
A version is fetched. Half an hour later the registry is down, and so it is when the hour is over.
-/
def firstInquiry : Inquiry := inquiryAt 0 (some "<latest>0.6.1</latest>") true emptyFiles

def failingInquiry : Inquiry :=
  inquiryAt 1800000000000 none false (firstInquiry.after hourlyCache .server).files

def lastInquiry : Inquiry :=
  inquiryAt 3600000000000 none true (failingInquiry.after hourlyCache .server).files

theorem remembers_for_an_hour :
    Session hourlyCache .server [firstInquiry, failingInquiry, lastInquiry] ∧
      firstInquiry.Fetches hourlyCache .server (.ofNumbers 0 6 1) ∧
      lastInquiry.Recalls hourlyCache .server (.ofNumbers 0 6 1) := by
  have hsession : Session hourlyCache .server [firstInquiry, failingInquiry, lastInquiry] := by
    constructor
    . refine .cons_cons ?_ (.cons_cons ?_ (.singleton _))
      . refine Inquiry.precedes_of_files_eq ?_ ?_
        . decide +kernel
        . simp only [failingInquiry, inquiryAt]
      . refine Inquiry.precedes_of_files_eq ?_ ?_
        . decide +kernel
        . simp only [lastInquiry, inquiryAt]
    . simp only [List.forall_mem_cons, MetadataCache.writable_iff]
      decide +kernel
  have hfetches : firstInquiry.Fetches hourlyCache .server (.ofNumbers 0 6 1) := by
    constructor
    . decide +kernel
    . decide +kernel
  refine ⟨hsession, hfetches, ?_⟩
  refine (remembers_of_session hsession).remembered firstInquiry [failingInquiry] lastInquiry
    (List.infix_refl _) _ 0 hfetches ?_ ?_ rfl ?_ ?_
  . decide +kernel
  . intro r hr u hu
    rw [List.mem_singleton] at hr
    have hresult := hu.result
    rw [hr] at hresult
    have hfailed : (failingInquiry.result hourlyCache .server).isOk = false := by
      decide +kernel
    rw [hresult] at hfailed
    cases hfailed
  . decide +kernel
  . decide +kernel

end ServerLauncher.Registry
