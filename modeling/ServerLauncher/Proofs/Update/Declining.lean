import ServerLauncher.Proofs.Registry.Lookup
import ServerLauncher.Proofs.Update.Checking

/-!
This module contains what a check for newer servers leaves behind if nobody is there to be asked. It
may keep the metadata that it got, and changes nothing else that a later search could look at.
-/

namespace ServerLauncher

structure World.SameHousehold (before after : World) : Prop where
  environment : after.environment = before.environment
  executable : after.executable = before.executable
  host : after.host = before.host

instance : IsPreorder World World.SameHousehold where
  refl _ := ⟨rfl, rfl, rfl⟩
  trans _ _ _ h₁ h₂ := ⟨h₂.environment.trans h₁.environment, h₂.executable.trans h₁.executable,
    h₂.host.trans h₁.host⟩

/--
Whatever happens in a world whose host is a journal leaves the household as it is.
-/
def World.KeepsHouse (assumeYes : Bool) (before after : World) : Prop :=
  before.host = .journal assumeYes → before.SameHousehold after

instance (assumeYes : Bool) : IsPreorder World (World.KeepsHouse assumeYes) where
  refl w _ := refl_of World.SameHousehold w
  trans _ _ _ h₁ h₂ hhost := by
    have hsame := h₁ hhost
    exact trans_of World.SameHousehold hsame (h₂ (hsame.host.trans hhost))

namespace Update

/--
The files have become others because a check has kept the metadata that it got, if it has.
-/
def MayKeep (u : Update) (files files' : FileSystem) : Prop :=
  files' = files ∨
    ∃ cache, u.registry.cache = some cache ∧
      Registry.OnlyKeeps files files' (cache.path u.coordinate)

/--
A check may leave something at a place, if it keeps metadata.
-/
def MayWriteTo (u : Update) (files : FileSystem) (x : Location) : Prop :=
  ∃ cache, u.registry.cache = some cache ∧ files.MayWriteTo (cache.path u.coordinate) x

variable {u : Update} {w w' looked : World} {found : Except LauncherError Version}
  {outcome : Outcome} {files files' files'' : FileSystem}

theorem MayKeep.trans (h : u.MayKeep files files') (h' : u.MayKeep files' files'') :
    u.MayKeep files files'' := by
  rcases h with rfl | ⟨cache, hcache, hkeeps⟩
  . exact h'
  . rcases h' with rfl | ⟨cache', hcache', hkeeps'⟩
    . exact .inr ⟨cache, hcache, hkeeps⟩
    . rw [hcache] at hcache'
      cases hcache'
      exact .inr ⟨cache, hcache, hkeeps.trans hkeeps'⟩

theorem mayKeep_latest (u : Update) (w : World) :
    u.MayKeep w.files (u.latest.run.run w).2.files := by
  have hfiles : (u.latest.run.run w).2.files = w.files ∨ _ :=
    Registry.files_latest u.registry u.coordinate u.useCache w
  rcases hfiles with hfiles | ⟨cache, now, document, hcache, hfiles⟩
  . exact .inl hfiles
  . have hkeeps := Registry.onlyKeeps_write cache w.files now u.coordinate document
    rw [← hfiles] at hkeeps
    exact .inr ⟨cache, hcache, hkeeps⟩

theorem sameBut_latest (u : Update) (w : World) :
    w.files.SameBut (u.MayWriteTo w.files) (u.latest.run.run w).2.files := by
  have hfiles : (u.latest.run.run w).2.files = w.files ∨ _ :=
    Registry.files_latest u.registry u.coordinate u.useCache w
  rcases hfiles with hfiles | ⟨cache, now, document, hcache, hfiles⟩
  . exact .of_eq _ hfiles
  . have hsame := Registry.sameBut_write cache w.files now u.coordinate document
    rw [← hfiles] at hsame
    exact hsame.mono fun x hx => ⟨cache, hcache, hx⟩

theorem sameHousehold_latest (u : Update) : u.latest.Keeps World.SameHousehold :=
  (Registry.keeps_latest (fun _ _ => ⟨rfl, rfl, rfl⟩) (fun _ _ => ⟨rfl, rfl, rfl⟩) _ _ _).adapt _

/--
A check may put files in their places, but it goes on under the same host, which gives the same answer
again.
-/
theorem sameHousehold_check (u : Update) {assumeYes : Bool} (hhost : w.host = .journal assumeYes) :
    w.SameHousehold (u.check.run w).2 := by
  have hkeeps : u.check.Keeps (World.KeepsHouse assumeYes) := by
    apply keeps_check
    . intro w files _
      exact ⟨rfl, rfl, rfl⟩
    . intro url w _
      exact ⟨rfl, rfl, rfl⟩
    . intro v w hhost
      refine ⟨rfl, rfl, ?_⟩
      show w.host.answer.2 = w.host
      rw [hhost]
      rfl
    . intro v w _
      exact ⟨rfl, rfl, rfl⟩
  exact hkeeps w hhost

theorem sameHousehold_prompted (hhost : w.host = .journal false) (v : Version) :
    w.SameHousehold (prompted w v) where
  environment := rfl
  executable := rfl
  host := by
    show w.host.answer.2 = w.host
    rw [hhost]
    rfl

theorem Exit.of_journal (h : u.Exit found looked outcome w') (hhost : looked.host = .journal false) :
    looked.SameHousehold w' ∧ w'.files = looked.files := by
  have hanswer : looked.host.answer.1 = false := by
    rw [hhost]
    rfl
  have hsame : looked.SameHousehold looked := refl_of World.SameHousehold looked
  cases h with
  | unknown => exact ⟨hsame, rfl⟩
  | incompatible => exact ⟨hsame, rfl⟩
  | alreadyDownloaded => exact ⟨hsame, rfl⟩
  | upToDate => exact ⟨hsame, rfl⟩
  | declined => exact ⟨sameHousehold_prompted hhost _, rfl⟩
  -- Nobody is there to accept, so that nothing is fetched.
  | failed haccepted =>
    rw [haccepted.answer] at hanswer
    cases hanswer
  | downloaded haccepted =>
    rw [haccepted.answer] at hanswer
    cases hanswer

/--
Nobody is there to accept, so that nothing is fetched: the check leaves the files as the look at the
metadata has left them.
-/
theorem files_check_of_journal (u : Update) (hhost : w.host = .journal false) :
    w.SameHousehold (u.check.run w).2 ∧ (u.check.run w).2.files = (u.latest.run.run w).2.files := by
  have hlatest := sameHousehold_latest u w
  rcases hrun : u.latest.run.run w with ⟨found, looked⟩
  have hlatest : w.SameHousehold looked := by
    rw [hrun] at hlatest
    exact hlatest
  rcases hcheck : u.check.run w with ⟨outcome, w'⟩
  have ⟨hsame, hfiles⟩ := ((exit_iff hrun).2 hcheck).of_journal (hlatest.host.trans hhost)
  exact ⟨trans_of World.SameHousehold hlatest hsame, hfiles⟩

theorem check_of_journal (u : Update) (hhost : w.host = .journal false) :
    w.SameHousehold (u.check.run w).2 ∧ u.MayKeep w.files (u.check.run w).2.files := by
  have ⟨hsame, hfiles⟩ := u.files_check_of_journal hhost
  rw [hfiles]
  exact ⟨hsame, mayKeep_latest u w⟩

theorem sameBut_check_of_journal (u : Update) (hhost : w.host = .journal false) :
    w.files.SameBut (u.MayWriteTo w.files) (u.check.run w).2.files := by
  rw [(u.files_check_of_journal hhost).2]
  exact sameBut_latest u w

end Update

end ServerLauncher
