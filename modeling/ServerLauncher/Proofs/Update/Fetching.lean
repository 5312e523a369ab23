import ServerLauncher.Proofs.Update.Footprint

/-!
This module contains what becomes of files by updates, whatever links there are. A jar that has been
fetched can be read under its path unless it has replaced a link on the way there, and without a
download only the document of the artifact is not safe.
-/

namespace ServerLauncher

open FileSystem Registry

namespace Update

/--
The jar of a version has come to a place with a content that the registry publishes the checksum of. It
can be read under its path unless the way to its directory goes through a link at that place.
-/
structure HasJar (u : Update) (w w' : World) (v : Version) (body : ByteArray) (x : Location) :
    Prop where
  verified : ∃ checksum, u.Publishes w v checksum ∧
    Sha256.hexDigest body = Checksum.normalize checksum
  leads : w.files.LeadsTo false (u.cache.jarPath v) x
  content : ∃ modified, w'.files.find? x = some (.file body modified none)
  read : ¬w.files.PassesThrough (u.cache.root / v.text) x →
    w'.files.read (u.cache.jarPath v) = .ok body

/--
A path leads to the place of the document of the artifact.
-/
def IsDocument (u : Update) (fs : FileSystem) (p : Path) : Prop :=
  ∃ cache x, u.registry.cache = some cache ∧ fs.LeadsTo true (cache.path u.coordinate) x ∧
    fs.LeadsTo true p x

/--
Nothing has changed but the document of the artifact and missing directories, so that every other file
can still be read.
-/
structure Untouched (u : Update) (w w' : World) (wanted : Version → Prop) : Prop where
  footprint : u.Footprint w w' wanted fun _ => False
  read : ∀ p body, w.files.read p = .ok body → ¬u.IsDocument w.files p →
    w'.files.read p = .ok body

variable {u : Update} {w w' w₁ looked : World} {v : Version} {wanted : Version → Prop}

theorem hasJar_of_fetch (hv : v.WellFormed) (h : (u.fetch v).run.run w = (.ok (), w')) :
    ∃ body x, u.HasJar w w' v body x := by
  rcases lands_fetch h with ⟨hfailed, _⟩ | ⟨checksum, hpublishes, hlands⟩
  . exact absurd rfl hfailed
  cases hlands with
  | @installed body x hdigest hinstalled =>
    refine ⟨body, x, ⟨checksum, hpublishes, hdigest⟩, hinstalled.leads, hinstalled.content, ?_⟩
    intro hpasses
    apply hinstalled.read_iff.2
    intro hcrosses
    have ⟨via, hroute, hx⟩ := hcrosses
    exact hpasses (passesThrough_of_route_div (Distribution.Cache.isName_jarName hv) hroute hx)

theorem makesWay_of_fetch {cause : LauncherError}
    (h : (u.fetch v).run.run w = (.error cause, w')) :
    MakesWay w.files w'.files (directoryOf (u.cache.jarPath v)) := by
  rcases lands_fetch h with ⟨_, hfiles⟩ | ⟨checksum, _, hlands⟩
  . rw [hfiles]
    exact .refl w.files _
  . cases hlands with
    | failed e hway => exact hway

theorem untouched_of_grows (hgrows : Grows w.files w'.files)
    (hfootprint : u.Footprint w w' wanted fun _ => False) : u.Untouched w w' wanted where
  footprint := hfootprint
  read := by
    intro p body hread hnot
    apply hgrows.read hread
    intro x hleads hx
    by_contra hne
    cases hfootprint.changed x hne with
    | metadata hcache hkept =>
      cases hkept with
      | document hdocument _ => exact hnot ⟨_, x, hcache, hdocument, hleads⟩
      | directory _ hmade => exact hx hmade.missing
    | jar hfetched _ => exact hfetched
    | jarDirectory _ _ hmade => exact hx hmade.missing

theorem HasLooked.untouched (h : u.HasLooked w w') : u.Untouched w w' wanted :=
  untouched_of_grows h.grows (footprint_of_hasLooked h fun _ => id)

theorem untouched_of_makesWay (hlooked : u.HasLooked w looked) (hv : v.WellFormed)
    (hwanted : wanted v)
    (hway : MakesWay looked.files w'.files (directoryOf (u.cache.jarPath v))) :
    u.Untouched w w' wanted := by
  have hgrows := hlooked.grows.trans hway.grows
  refine untouched_of_grows hgrows ⟨hgrows.ground, ?_, ?_⟩
  . intro x hx
    by_cases heq : w'.files.find? x = looked.files.find? x
    . rw [heq] at hx
      have ⟨cache, hcache, hkept⟩ := hlooked.kept x hx
      exact .metadata hcache (hkept.of_find?_eq heq)
    . have hmade := (hway.made x heq).of_grows hlooked.grows
      exact .jarDirectory (Version.isName_text hv) hwanted hmade
  . intro v hv
    exact absurd hv id

end Update

end ServerLauncher
