import ServerLauncher.Proofs.Path.Sameness
import ServerLauncher.Proofs.Version.Reading
import ServerLauncher.Settings.Store

/-!
This module contains what a store of settings tells about changes: each call names the keys whose
values it replaces by others, and no change gets lost in a course of such calls.
-/

namespace ServerLauncher.Settings

/--
What settings say under a key, as far as two of them are told apart by it: a path by its components
and a version by its whole text.
-/
inductive Value where
  | path (components : Option (List Path.Component))
  | port (number : Option UInt16)
  | text (content : Option String)
  | flag (isOn : Bool)
deriving DecidableEq, Repr

def valueAt (s : Settings) : Key → Value
  | .javaPath => .path (s.javaPath.map Path.components)
  | .serverPath => .path (s.serverPath.map Path.components)
  | .socketPort => .port s.socketPort
  | .socketHost => .text s.socketHost
  | .debugPort => .port s.debugPort
  | .bundledPath => .path (s.bundledPath.map Path.components)
  | .bundledVersion => .text (s.bundledVersion.map Version.text)
  | .updateCheck => .flag s.updateCheck
  | .registryUrl => .text s.registryUrl
  | .cacheDirectory => .path (s.cacheDirectory.map Path.components)

variable {s t : Settings} {key : Key}

theorem sameAt_iff : s.sameAt t key = true ↔ s.valueAt key = t.valueAt key := by
  cases key <;> simp [sameAt, valueAt, sameOption_sameAs_iff]

/--
Whatever kind of value a key has, being the same there is having the same value, and so an
equivalence.
-/
theorem sameAt_equivalence (key : Key) :
    Equivalence fun s t : Settings => s.sameAt t key = true where
  refl _ := sameAt_iff.2 rfl
  symm h := sameAt_iff.2 (sameAt_iff.1 h).symm
  trans h h' := sameAt_iff.2 ((sameAt_iff.1 h).trans (sameAt_iff.1 h'))

theorem mem_changedKeys_iff : key ∈ s.changedKeys t ↔ s.valueAt key ≠ t.valueAt key := by
  rw [mem_changedKeys]
  rw [← Bool.not_eq_true]
  exact not_congr sameAt_iff

theorem changedKeys_eq_nil_iff : s.changedKeys t = [] ↔ s.valueAt = t.valueAt := by
  rw [List.eq_nil_iff_forall_not_mem]
  constructor
  . intro h
    funext key
    exact not_not.1 (mt mem_changedKeys_iff.2 (h key))
  . intro h key hkey
    exact mem_changedKeys_iff.1 hkey (congrFun h key)

theorem changedKeys_sublist (s t : Settings) : (s.changedKeys t).Sublist Key.all :=
  List.filter_sublist

theorem changedKeys_nodup (s t : Settings) : (s.changedKeys t).Nodup :=
  (changedKeys_sublist s t).nodup (by decide)

/--
One call of `Store.apply`: the store it finds, the settings it is given, the keys it tells, and the
store it leaves.
-/
structure Call where
  before : Store
  given : Settings
  changed : List Key
  after : Store
deriving DecidableEq, Repr

/--
The call replaces the settings and nothing else. It tells, in their order and once each, the keys
that have another value in the new settings than in the ones before.
-/
structure Call.TellsChanges (call : Call) : Prop where
  after : call.after = { call.before with settings := call.given }
  ordered : call.changed.Sublist Key.all
  nodup : call.changed.Nodup
  mem_changed : ∀ key,
    key ∈ call.changed ↔ call.before.settings.valueAt key ≠ call.given.valueAt key

def Store.call (store : Store) (settings : Settings) : Call :=
  let (changed, after) := store.apply settings
  { before := store, given := settings, changed, after }

/--
The calls that apply some settings one after the other.
-/
def Store.calls (store : Store) : List Settings → List Call
  | [] => []
  | settings :: rest => store.call settings :: (store.call settings).after.calls rest

/--
The store when they are over.
-/
def Store.applyAll (store : Store) (course : List Settings) : Store :=
  course.foldl (fun store settings => (store.apply settings).2) store

section Course

variable {store : Store} {course : List Settings}

theorem Store.tellsChanges_call (store : Store) (settings : Settings) :
    (store.call settings).TellsChanges where
  after := rfl
  ordered := changedKeys_sublist store.settings settings
  nodup := changedKeys_nodup store.settings settings
  mem_changed _ := mem_changedKeys_iff

theorem Store.tellsChanges_of_mem_calls {call : Call} (h : call ∈ store.calls course) :
    call.TellsChanges := by
  induction course generalizing store with
  | nil => cases h
  | cons settings rest ih =>
    cases h with
    | head => exact store.tellsChanges_call settings
    | tail _ h => exact ih h

theorem Store.map_given_calls (store : Store) (course : List Settings) :
    (store.calls course).map Call.given = course := by
  induction course generalizing store with
  | nil => rfl
  | cons settings rest ih => exact congrArg (settings :: ·) (ih _)

/--
The calls of a longer course are those of its beginning and those that the store makes afterwards.
-/
theorem Store.calls_append (store : Store) (front back : List Settings) :
    store.calls (front ++ back) = store.calls front ++ (store.applyAll front).calls back := by
  induction front generalizing store with
  | nil => rfl
  | cons settings rest ih => exact congrArg (store.call settings :: ·) (ih _)

/--
A value that no call tells about is handed on from each call to the next.
-/
theorem Store.valueAt_applyAll (h : ∀ call ∈ store.calls course, key ∉ call.changed) :
    (store.applyAll course).settings.valueAt key = store.settings.valueAt key := by
  induction course generalizing store with
  | nil => rfl
  | cons settings rest ih =>
    have hfirst : settings.valueAt key = store.settings.valueAt key := by
      have hkey : key ∉ store.settings.changedKeys settings := h _ List.mem_cons_self
      exact (not_not.1 (mt mem_changedKeys_iff.2 hkey)).symm
    have hrest := ih fun call hcall => h call (List.mem_cons_of_mem _ hcall)
    exact hrest.trans hfirst

/--
What it means for two settings to be the same under a key. It is decided by their values there. Two
paths have the same components if one can be rewritten into the other by slashes and dots that lead
nowhere, and two versions have the same text if they agree in their numbers, their pre-release and
their build.
-/
structure Sameness : Prop where
  sameAt_iff : ∀ (s t : Settings) key, s.sameAt t key = true ↔ s.valueAt key = t.valueAt key
  equivalence : ∀ key, Equivalence fun s t : Settings => s.sameAt t key = true
  paths : ∀ p q : Path, p.components = q.components ↔ p.Alike q
  versions : ∀ v w : Version, v.WellFormed → w.WellFormed → (v.text = w.text ↔ v = w)

/--
The calls that apply the settings of a course, each to the store that the earlier ones leave, tell
everything that changes: what none of them tells is at the end as it was at the start. Applying the
settings of the end once more tells nothing and changes nothing.
-/
structure Store.LosesNoChange (store : Store) (course : List Settings) : Prop where
  given : (store.calls course).map Call.given = course
  linked : ∀ front back, course = front ++ back →
    store.calls course = store.calls front ++ (store.applyAll front).calls back
  tells : ∀ call ∈ store.calls course, call.TellsChanges
  kept : ∀ key, (∀ call ∈ store.calls course, key ∉ call.changed) →
    store.settings.sameAt (store.applyAll course).settings key = true
  reported : ∀ key, store.settings.sameAt (store.applyAll course).settings key = false →
    ∃ call ∈ store.calls course, key ∈ call.changed
  again : (store.applyAll course).apply (store.applyAll course).settings =
    ([], store.applyAll course)

theorem sameness : Sameness where
  sameAt_iff _ _ _ := sameAt_iff
  equivalence := sameAt_equivalence
  paths _ _ := Path.components_eq_iff_alike
  versions _ _ hv hw := Version.text_eq_iff hv hw

theorem Store.sameAt_applyAll (h : ∀ call ∈ store.calls course, key ∉ call.changed) :
    store.settings.sameAt (store.applyAll course).settings key = true :=
  sameAt_iff.2 (Store.valueAt_applyAll h).symm

theorem Store.apply_settings (store : Store) : store.apply store.settings = ([], store) :=
  congrArg (·, store) (changedKeys_eq_nil_iff.2 rfl)

/--
Whatever settings are applied to a store, and however often, no change gets lost.
-/
theorem Store.loses_no_change (store : Store) (course : List Settings) :
    Sameness ∧ store.LosesNoChange course := by
  refine ⟨sameness, ?_⟩
  exact {
    given := store.map_given_calls course
    linked := by
      intro front back hcourse
      rw [hcourse]
      exact store.calls_append front back
    tells := fun _ => Store.tellsChanges_of_mem_calls
    kept := fun _ => Store.sameAt_applyAll
    reported := by
      intro key hkey
      by_contra hnone
      rw [← Bool.not_eq_true] at hkey
      apply hkey
      apply Store.sameAt_applyAll
      intro call hcall hchanged
      exact hnone ⟨call, hcall, hchanged⟩
    again := Store.apply_settings _
  }

end Course

end ServerLauncher.Settings
