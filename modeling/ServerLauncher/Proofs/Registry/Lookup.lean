import ServerLauncher.Proofs.FileSystem.Elsewhere
import ServerLauncher.Proofs.Registry.Inquiry
import ServerLauncher.Proofs.Version.Reading
import ServerLauncher.Registry.Client

/-!
This module contains the effect of looking up versions on the file system: the answer of the registry
may be kept, and nothing else changes. The versions themselves are well-formed.
-/

namespace ServerLauncher.Registry

open FileSystem

/--
What has changed at a place by keeping a document under a path.
-/
inductive Kept (fs fs' : FileSystem) (p : Path) (x : Location) : Prop where
  | document (hleads : fs.LeadsTo true p x)
    (hcontent : ∃ content modified program, fs'.find? x = some (.file content modified program))
  | directory {parent : Path} (hparent : p.parent? = some parent) (hmade : Made fs fs' parent x)

/--
Nothing but that has changed.
-/
structure OnlyKeeps (fs fs' : FileSystem) (p : Path) : Prop where
  grows : Grows fs fs'
  kept : ∀ x, fs'.find? x ≠ fs.find? x → Kept fs fs' p x

variable {fs fs' fs₁ : FileSystem} {p parent : Path}

theorem Kept.of_find?_eq {fs'' : FileSystem} {x : Location} (h : Kept fs fs' p x)
    (heq : fs''.find? x = fs'.find? x) : Kept fs fs'' p x := by
  cases h with
  | document hleads hcontent =>
    apply Kept.document hleads
    rw [heq]
    exact hcontent
  | directory hparent hmade => exact .directory hparent (hmade.of_find?_eq heq)

theorem OnlyKeeps.refl (fs : FileSystem) (p : Path) : OnlyKeeps fs fs p where
  grows := .refl fs
  kept := by
    intro x hx
    exact absurd rfl hx

theorem OnlyKeeps.trans {fs'' : FileSystem} (h : OnlyKeeps fs fs' p) (h' : OnlyKeeps fs' fs'' p) :
    OnlyKeeps fs fs'' p where
  grows := h.grows.trans h'.grows
  kept := by
    intro x hx
    by_cases hsame : fs''.find? x = fs'.find? x
    . rw [hsame] at hx
      exact (h.kept x hx).of_find?_eq hsame
    . cases h'.kept x hsame with
      | document hleads hcontent => exact .document (h.grows.leadsTo_iff.1 hleads) hcontent
      | directory hparent hmade => exact .directory hparent (hmade.of_grows h.grows)

theorem onlyKeeps_of_makesWay (hparent : p.parent? = some parent) (hway : MakesWay fs fs' parent) :
    OnlyKeeps fs fs' p where
  grows := hway.grows
  kept := by
    intro x hx
    exact .directory hparent (hway.made x hx)

theorem onlyKeeps_of_writeFile {content : ByteArray} {now : Int} (hgrows : Grows fs fs₁)
    (hmade : ∀ x, fs₁.find? x ≠ fs.find? x → ∃ parent, p.parent? = some parent ∧
      Made fs fs₁ parent x)
    (hwrite : fs₁.writeFile p content now = .ok fs') : OnlyKeeps fs fs' p := by
  have ⟨y, program, hfs, hleads, hdirectory, hlink⟩ := writeFile_eq_ok hwrite
  rw [hfs]
  have hput : Grows fs₁ (fs₁.put y (.file content now program)) := by
    apply grows_put hdirectory hlink
    simp
  refine ⟨hgrows.trans hput, ?_⟩
  intro x hx
  by_cases heq : x = y
  . rw [heq]
    have hself := find?_put_self (ne_nil_of_find?_ne_directory hdirectory) fs₁
      (.file content now program)
    exact .document (hgrows.leadsTo_iff.1 hleads) ⟨_, _, _, hself⟩
  . have hother := find?_put_of_ne heq fs₁ (.file content now program)
    rw [hother] at hx
    have ⟨parent, hparent, hdone⟩ := hmade x hx
    exact .directory hparent (hdone.of_find?_eq hother)

theorem onlyKeeps_write (cache : MetadataCache) (files : FileSystem) (now : Int) (c : Coordinate)
    (document : String) :
    OnlyKeeps files (cache.write files now c document).2 (cache.path c) := by
  unfold MetadataCache.write
  generalize cache.path c = p
  cases hparent : p.parent? with
  | none =>
    dsimp only
    cases hwrite : files.writeFile p document.toUTF8 now with
    | error e => exact .refl files p
    | ok files' =>
      apply onlyKeeps_of_writeFile (.refl files) _ hwrite
      intro x hx
      exact absurd rfl hx
  | some parent =>
    dsimp only
    have hway := makesWay_createDirectories files parent
    rcases hcreate : files.createDirectories parent with ⟨failed, files₁⟩
    rw [hcreate] at hway
    cases failed with
    | some e => exact onlyKeeps_of_makesWay hparent hway
    | none =>
      dsimp only
      cases hwrite : files₁.writeFile p document.toUTF8 now with
      | error e => exact onlyKeeps_of_makesWay hparent hway
      | ok files' =>
        apply onlyKeeps_of_writeFile hway.grows _ hwrite
        intro x hx
        exact ⟨parent, hparent, hway.made x hx⟩

theorem sameBut_write (cache : MetadataCache) (files : FileSystem) (now : Int) (c : Coordinate)
    (document : String) :
    SameBut (files.MayWriteTo (cache.path c)) files (cache.write files now c document).2 := by
  unfold MetadataCache.write
  generalize cache.path c = p
  cases hparent : p.parent? with
  | none =>
    dsimp only
    cases hwrite : files.writeFile p document.toUTF8 now with
    | error e => exact .refl _ files
    | ok files' => exact sameBut_writeFile hwrite
  | some parent =>
    dsimp only
    have hgrows := (makesWay_createDirectories files parent).grows
    have hmade := sameBut_createDirectories hparent files
    rcases hcreate : files.createDirectories parent with ⟨failed, files₁⟩
    rw [hcreate] at hgrows hmade
    cases failed with
    | some e => exact hmade
    | none =>
      dsimp only
      cases hwrite : files₁.writeFile p document.toUTF8 now with
      | error e => exact hmade
      | ok files' => exact hmade.trans ((sameBut_writeFile hwrite).mono fun _ => .of_grows hgrows)

theorem files_latest (client : Client) (c : Coordinate) (useCache : Bool) (w : World) :
    ((client.latest c useCache).run.run w).2.files = w.files ∨
      ∃ cache now document, client.cache = some cache ∧
        ((client.latest c useCache).run.run w).2.files =
          (cache.write w.files now c document).2 := by
  have hlooks := looks_latest client c useCache w
  generalize (client.latest c useCache).run.run w = run at hlooks ⊢
  rcases run with ⟨result, w'⟩
  -- The files are still the same when the answer comes, and only a version in it gets it kept.
  cases hlooks with
  | known => exact .inl rfl
  | unnamed => exact .inl rfl
  | unanswered _ _ hget => exact .inl (files_getText hget)
  | versionless _ _ hget => exact .inl (files_getText hget)
  | @answered url metadata v w₁ _ _ hget =>
    have hfiles := files_getText hget
    rcases Option.eq_none_or_eq_some client.cache with hcache | ⟨cache, hcache⟩
    . have hkeep : ((client.keep c metadata).run w₁).2 = w₁ := Client.keep_of_none hcache
      rw [← hkeep] at hfiles
      exact .inl hfiles
    . have hkeep : ((client.keep c metadata).run w₁).2.files = _ := Client.files_keep hcache
      rw [hfiles] at hkeep
      exact .inr ⟨cache, w₁.now, metadata, hcache, hkeep⟩

theorem wellFormed_of_parseLatest {metadata : String} {v : Version}
    (h : Client.parseLatest metadata = .ok v) : v.WellFormed := by
  unfold Client.parseLatest at h
  split at h
  . cases h
  next text _ =>
  split at h
  . next hparse =>
    cases h
    exact (Version.parse?_eq_some_iff.1 hparse).1
  . cases h

theorem wellFormed_of_cachedLatest {client : Client} {w : World} {c : Coordinate} {v : Version}
    (h : client.cachedLatest w c = some v) : v.WellFormed := by
  unfold Client.cachedLatest at h
  simp only [Option.bind_eq_bind, Option.bind_eq_some_iff] at h
  have ⟨_, _, metadata, _, hparse⟩ := h
  cases hlatest : Client.parseLatest metadata with
  | ok latest =>
    rw [hlatest] at hparse
    cases hparse
    exact wellFormed_of_parseLatest hlatest
  | error e =>
    rw [hlatest] at hparse
    cases hparse

theorem wellFormed_of_latest {client : Client} {c : Coordinate} {useCache : Bool} {w : World}
    {v : Version} (h : ((client.latest c useCache).run.run w).1 = .ok v) : v.WellFormed := by
  have hlooks := looks_latest client c useCache w
  rw [h] at hlooks
  -- The version comes from a document in any case, be it in the cache or just sent.
  generalize ((client.latest c useCache).run.run w).2 = w' at hlooks
  cases hlooks with
  | known _ hknown => exact wellFormed_of_cachedLatest hknown
  | answered _ _ _ hparse => exact wellFormed_of_parseLatest hparse

end ServerLauncher.Registry
