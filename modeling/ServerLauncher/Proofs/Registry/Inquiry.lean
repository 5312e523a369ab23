import ServerLauncher.Proofs.Registry.Transfer

/-!
This module contains the ways in which looking up the latest version goes: the cache knows it, or the
registry is asked, and what it answers is kept if it names a version.
-/

namespace ServerLauncher.Registry

/--
The cache is not to be used, or it knows no version.
-/
def Client.Misses (client : Client) (c : Coordinate) (useCache : Bool) (w : World) : Prop :=
  (if useCache then client.cachedLatest w c else none) = none

/--
How looking up the latest version goes: the cache knows it, or the registry is asked. Then there is no
URL to ask for, no answer, an answer that names no version, or one that is kept.
-/
inductive Client.Looks (client : Client) (c : Coordinate) (useCache : Bool) (w : World) :
    Except RegistryError Version → World → Prop where
  | known {v : Version} (huse : useCache) (hknown : client.cachedLatest w c = some v) :
    Looks client c useCache w (.ok v) w
  | unnamed {e : RegistryError} (hmisses : client.Misses c useCache w)
    (hurl : client.urlOf c.metadataPath = .error e) : Looks client c useCache w (.error e) w
  | unanswered {url : Url} {cause : Http.Error} {w₁ : World} (hmisses : client.Misses c useCache w)
    (hurl : client.urlOf c.metadataPath = .ok url)
    (hget : (Http.getText url).run.run w = (.error cause, w₁)) :
    Looks client c useCache w (.error (.http url.text cause)) w₁
  | versionless {url : Url} {metadata : String} {e : RegistryError} {w₁ : World}
    (hmisses : client.Misses c useCache w) (hurl : client.urlOf c.metadataPath = .ok url)
    (hget : (Http.getText url).run.run w = (.ok metadata, w₁))
    (hparse : Client.parseLatest metadata = .error e) : Looks client c useCache w (.error e) w₁
  | answered {url : Url} {metadata : String} {v : Version} {w₁ : World}
    (hmisses : client.Misses c useCache w) (hurl : client.urlOf c.metadataPath = .ok url)
    (hget : (Http.getText url).run.run w = (.ok metadata, w₁))
    (hparse : Client.parseLatest metadata = .ok v) :
    Looks client c useCache w (.ok v) ((client.keep c metadata).run w₁).2

theorem looks_latest (client : Client) (c : Coordinate) (useCache : Bool) (w : World) :
    client.Looks c useCache w ((client.latest c useCache).run.run w).1
      ((client.latest c useCache).run.run w).2 := by
  unfold Client.latest
  rw [Attempt.run_bind_of_ok (Attempt.run_get w)]
  cases hknown : if useCache then client.cachedLatest w c else none with
  | some v =>
    split at hknown
    . next huse => exact .known huse hknown
    . cases hknown
  | none =>
    unfold Client.fetchLatest Client.getText
    cases hurl : client.urlOf c.metadataPath with
    | error e => exact .unnamed hknown hurl
    | ok url =>
      rw [Attempt.run_bind_of_ok (Attempt.run_ofExcept (.ok url) w)]
      have hadapt := Attempt.run_adapt (Http.getText url) (RegistryError.http url.text) w
      rcases hget : (Http.getText url).run.run w with ⟨answer, w₁⟩
      rw [hget] at hadapt
      cases answer with
      | error cause =>
        rw [Attempt.run_bind_of_error hadapt]
        exact .unanswered hknown hurl hget
      | ok metadata =>
        rw [Attempt.run_bind_of_ok hadapt]
        cases hparse : Client.parseLatest metadata with
        | error e => exact .versionless hknown hurl hget hparse
        | ok v => exact .answered hknown hurl hget hparse

/--
The registry of a client answers with metadata that names a version.
-/
def Client.Advertises (client : Client) (c : Coordinate) (w : World) (v : Version) : Prop :=
  ∃ url metadata w₁, client.urlOf c.metadataPath = .ok url ∧
    (Http.getText url).run.run w = (.ok metadata, w₁) ∧ Client.parseLatest metadata = .ok v

variable {client : Client} {cache : MetadataCache} {c : Coordinate} {useCache : Bool} {w w' : World}
  {v : Version} {result : Except RegistryError Version} {metadata : String}

theorem Client.now_keep : ((client.keep c metadata).run w).2.now = w.now := by
  unfold Client.keep
  cases client.cache <;> rfl

theorem Client.events_keep : ((client.keep c metadata).run w).2.events = w.events := by
  unfold Client.keep
  cases client.cache <;> rfl

theorem Client.files_keep (h : client.cache = some cache) :
    ((client.keep c metadata).run w).2.files = (cache.write w.files w.now c metadata).2 := by
  unfold Client.keep
  rw [h]
  rfl

theorem Client.keep_of_none (h : client.cache = none) :
    ((client.keep c metadata).run w).2 = w := by
  unfold Client.keep
  rw [h]
  rfl

theorem Client.latest_of_misses (h : client.Misses c useCache w) :
    (client.latest c useCache).run.run w = (client.latest c false).run.run w := by
  unfold Client.latest
  rw [Attempt.run_bind_of_ok (Attempt.run_get w)]
  rw [Attempt.run_bind_of_ok (Attempt.run_get w)]
  rw [h]
  rfl

/--
If the cache does not know a version, the one that is found is the one that the registry names.
-/
theorem Client.Looks.advertises_iff (h : client.Looks c useCache w result w')
    (hmisses : client.Misses c useCache w) : result = .ok v ↔ client.Advertises c w v := by
  constructor
  . intro hresult
    rw [hresult] at h
    cases h with
    | known huse hknown =>
      unfold Client.Misses at hmisses
      rw [if_pos huse, hknown] at hmisses
      cases hmisses
    | answered _ hurl hget hparse => exact ⟨_, _, _, hurl, hget, hparse⟩
  . intro hadvertises
    have ⟨url, metadata, w₁, hurl, hget, hparse⟩ := hadvertises
    cases h with
    | known huse hknown =>
      unfold Client.Misses at hmisses
      rw [if_pos huse, hknown] at hmisses
      cases hmisses
    | unnamed _ hurl' =>
      rw [hurl] at hurl'
      cases hurl'
    | unanswered _ hurl' hget' =>
      cases hurl.symm.trans hurl'
      cases hget.symm.trans hget'
    | versionless _ hurl' hget' hparse' =>
      cases hurl.symm.trans hurl'
      cases hget.symm.trans hget'
      cases hparse.symm.trans hparse'
    | answered _ hurl' hget' hparse' =>
      cases hurl.symm.trans hurl'
      cases hget.symm.trans hget'
      rw [← hparse', hparse]

theorem Client.advertises_iff_latest :
    client.Advertises c w v ↔ ((client.latest c false).run.run w).1 = .ok v :=
  ((looks_latest client c false w).advertises_iff rfl).symm

theorem Client.Advertises.unique {v' : Version} (h : client.Advertises c w v)
    (h' : client.Advertises c w v') : v = v' := by
  rw [Client.advertises_iff_latest] at *
  rw [h] at h'
  exact Except.ok.inj h'

end ServerLauncher.Registry
