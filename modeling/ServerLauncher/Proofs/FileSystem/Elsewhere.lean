import ServerLauncher.Proofs.FileSystem.Operations

/-!
This module contains file systems that are the same but for some places. Writing a file, with the
directories that are missing on the way to it, leaves everything as it is elsewhere.
-/

namespace ServerLauncher

namespace Keyed

variable {κ α : Type} [DecidableEq κ] {key : κ} {test : κ → Bool}

theorem removeIf_put (h : test key = true) (m : Keyed κ α) (value : α) :
    (m.put key value).removeIf test = m.removeIf test := by
  unfold removeIf
  induction m with
  | nil => simp [put, h]
  | cons entry rest ih =>
    unfold put
    split
    . next heq => simp [heq, h]
    . simp only [List.filter_cons, ih]

end Keyed

namespace FileSystem

/--
Two file systems are the same but for certain places: if these are left out, the same entries remain,
in the same order.
-/
structure SameBut (P : Location → Prop) (fs fs' : FileSystem) : Prop where
  ground : SameGround fs fs'
  entries : ∀ test : Location → Bool, (∀ x, P x → test x = true) →
    fs'.entries.removeIf test = fs.entries.removeIf test

/--
Writing a file under a path may leave something at a place: there is the file, or there a directory is
missing on the way to it.
-/
def MayWriteTo (fs : FileSystem) (p : Path) (x : Location) : Prop :=
  fs.LeadsTo true p x ∨
    fs.find? x = none ∧
      ∃ parent q : Path, p.parent? = some parent ∧ q.IsAbove parent ∧ fs.LeadsTo false q x

variable {P Q : Location → Prop} {fs fs' fs'' : FileSystem} {p : Path} {x : Location}

namespace SameBut

theorem refl (P : Location → Prop) (fs : FileSystem) : SameBut P fs fs :=
  ⟨.refl fs, fun _ _ => rfl⟩

theorem of_eq (P : Location → Prop) (h : fs' = fs) : SameBut P fs fs' := by
  rw [h]
  exact .refl P fs

theorem trans (h : SameBut P fs fs') (h' : SameBut P fs' fs'') : SameBut P fs fs'' where
  ground := h.ground.trans h'.ground
  entries test htest := (h'.entries test htest).trans (h.entries test htest)

theorem mono (h : SameBut P fs fs') (hle : ∀ x, P x → Q x) : SameBut Q fs fs' where
  ground := h.ground
  entries test htest := h.entries test fun x hx => htest x (hle x hx)

theorem find?_eq (h : SameBut P fs fs') (hx : ¬P x) : fs'.find? x = fs.find? x := by
  have hentries := h.entries (· ≠ x) fun y hy => decide_eq_true fun heq => hx (heq ▸ hy)
  have hself := @Keyed.get?_removeIf_of_false _ Entry _ (· ≠ x) x (decide_eq_false fun hne => hne rfl)
  unfold find?
  rw [← hself fs'.entries]
  rw [hentries]
  rw [hself fs.entries]

end SameBut

theorem sameBut_put (hx : P x) (fs : FileSystem) (entry : Entry) : SameBut P fs (fs.put x entry) where
  ground := ground_put fs x entry
  entries _ htest := Keyed.removeIf_put (htest x hx) fs.entries entry

theorem MayWriteTo.of_grows (hgrows : Grows fs fs') (h : fs'.MayWriteTo p x) :
    fs.MayWriteTo p x := by
  rcases h with hleads | ⟨hmissing, parent, q, hparent, hq, hleads⟩
  . exact .inl (hgrows.leadsTo_iff.1 hleads)
  . exact .inr ⟨hgrows.missing x hmissing, parent, q, hparent, hq, hgrows.leadsTo_iff.1 hleads⟩

theorem sameBut_createDirectories {parent : Path} (hparent : p.parent? = some parent)
    (fs : FileSystem) : SameBut (fs.MayWriteTo p) fs (fs.createDirectories parent).2 := by
  -- Also what is made on the way lies on the way that the path had from the start.
  have hmade : Grows fs fs → Grows fs (fs.createDirectories parent).2 ∧
      SameBut (fs.MayWriteTo p) fs (fs.createDirectories parent).2 := by
    apply createDirectories_induction (R := fun before after =>
      Grows fs before → Grows fs after ∧ SameBut (fs.MayWriteTo p) before after)
    . intro before hgrows
      exact ⟨hgrows, .refl _ _⟩
    . intro before between after h h' hgrows
      obtain ⟨hbetween, hsame⟩ := h hgrows
      obtain ⟨hafter, hsame'⟩ := h' hbetween
      exact ⟨hafter, hsame.trans hsame'⟩
    . intro before after q hq hcreate hgrows
      refine ⟨hgrows.trans (makesWay_createDirectory hcreate).grows, ?_⟩
      have ⟨y, hafter, hmissing, hleads⟩ := createDirectory_eq_ok hcreate
      rw [hafter]
      apply sameBut_put
      exact .of_grows hgrows (.inr ⟨hmissing, parent, q, hparent, hq, hleads⟩)
  exact (hmade (.refl fs)).2

theorem sameBut_writeFile {content : ByteArray} {now : Int}
    (h : fs.writeFile p content now = .ok fs') : SameBut (fs.MayWriteTo p) fs fs' := by
  have ⟨x, program, hfs, hleads, _, _⟩ := writeFile_eq_ok h
  rw [hfs]
  exact sameBut_put (.inl hleads) fs _

end FileSystem

end ServerLauncher
