import ServerLauncher.Proofs.Launch.Starting

/-!
This module contains what the steps of a launcher do to the world and to the watchers of the
configuration file. Most steps only record events, and only a look of a watcher brings other settings
into use.
-/

namespace ServerLauncher

theorem World.Records.sameHousehold {w w' : World} (h : w.Records w') : w.SameHousehold w' := by
  rw [h]
  exact ⟨rfl, rfl, rfl⟩

namespace Launcher

variable {l l' : Launcher} {move : Move}

/--
What a step does to the settings in use and to the watchers.
-/
inductive Watches (l : Launcher) : Move → Launcher → Prop where
  | aside {move : Move} {l' : Launcher} (hstore : l'.store = l.store)
    (hwatchers : l'.watchers = l.watchers) : Watches l move l'
  | look {index : Nat} {l' : Launcher} {watcher : Watcher}
    (hwatcher : l.watchers[index]? = some watcher) (hdue : watcher.next ≤ l.clock)
    (hsettings : l'.store.settings = (l.reloaded? watcher).getD l.store.settings)
    (hwatchers : l'.watchers = l.watchers.set index (l.lookAt watcher).1) :
    Watches l (.look index) l'

theorem lookAt_fst (l : Launcher) (watcher : Watcher) :
    (l.lookAt watcher).1 =
      { watcher with
        lastSeen := l.world.files.modified? watcher.path
        next := watcher.next + Watcher.interval } := by
  unfold lookAt
  dsimp only
  split
  . rfl
  . split <;> rfl

theorem settings_lookAt (l : Launcher) (watcher : Watcher) :
    (l.lookAt watcher).2.store.settings = (l.reloaded? watcher).getD l.store.settings := by
  cases hreloaded : l.reloaded? watcher with
  | none => rw [(sameWork_lookAt hreloaded).1.store, Option.getD_none]
  | some settings =>
    rw [lookAt_of_reloaded hreloaded, Option.getD_some]
    exact (adopts_applySettings l settings).inUse

theorem world_applySettings (l : Launcher) (settings : Settings) :
    (l.applySettings settings).2.world = l.world :=
  (reacts_onSettingsChanged { l with store := (l.store.apply settings).2 } _).world

theorem records_lookAt (l : Launcher) (watcher : Watcher) :
    l.world.Records (l.lookAt watcher).2.world := by
  cases hreloaded : l.reloaded? watcher with
  | none => exact (sameWork_lookAt hreloaded).2.2
  | some settings =>
    rw [lookAt_of_reloaded hreloaded, world_applySettings]
    rfl

/--
A watcher looks only when it is time to.
-/
theorem exists_lookAt {index : Nat} (h : l.step? (.look index) = some l') :
    ∃ watcher, l.watchers[index]? = some watcher ∧ watcher.next ≤ l.clock ∧
      l' = { (l.lookAt watcher).2 with watchers := l.watchers.set index (l.lookAt watcher).1 } := by
  simp only [step?] at h
  split at h
  . next watcher hwatcher =>
    split at h <;> cases h
    next hdue =>
    refine ⟨watcher, hwatcher, hdue.1, ?_⟩
    rw [(surroundings_lookAt l watcher).watchers]
  . cases h

theorem exists_advanceTask {index : Nat} (h : l.step? (.advance index) = some l') :
    ∃ origin task left l₁, l.tasks[index]? = some (origin, task) ∧
      l.advanceTask task = some (left, l₁) ∧
      l' = { l₁ with tasks := l.tasks.eraseIdx index ++ (left.map (origin, ·)).toList } := by
  cases hentry : l.tasks[index]? with
  | none => simp [step?, hentry] at h
  | some entry =>
    obtain ⟨origin, task⟩ := entry
    cases hadvance : l.advanceTask task with
    | none => simp [step?, hentry, hadvance] at h
    | some result =>
      obtain ⟨left, l₁⟩ := result
      have hturn := turn_advance_of_some hentry hadvance
      rw [turn_of_step?_eq_some h] at hturn
      exact ⟨origin, task, left, l₁, rfl, hadvance, hturn⟩

/--
Only a look of a watcher brings other settings into use.
-/
theorem watches_step (h : l.step? move = some l') : Watches l move l' := by
  cases move with
  | fire key =>
    obtain ⟨_, _, _, rfl⟩ := step_fire h
    exact .aside rfl rfl
  | advance index =>
    obtain ⟨_, _, _, l₁, _, hadvance, rfl⟩ := exists_advanceTask h
    exact .aside (store_advanceTask hadvance).1 (surroundings_advanceTask hadvance).watchers
  | look index =>
    obtain ⟨watcher, hwatcher, hdue, rfl⟩ := exists_lookAt h
    exact .look hwatcher hdue (settings_lookAt l watcher) rfl
  | _ =>
    obtain ⟨hsame, _, hwatchers, _⟩ := sameWork_of_isAside (by trivial) h
    exact .aside hsame.store hwatchers

/--
No step takes time.
-/
theorem clock_step (h : l.step? move = some l') : l'.clock = l.clock := by
  cases move with
  | fire key =>
    obtain ⟨_, _, _, rfl⟩ := step_fire h
    rfl
  | advance index =>
    obtain ⟨_, _, _, l₁, _, hadvance, rfl⟩ := exists_advanceTask h
    exact (surroundings_advanceTask hadvance).clock
  | look index =>
    obtain ⟨watcher, _, _, rfl⟩ := exists_lookAt h
    exact (surroundings_lookAt l watcher).clock
  | _ => exact (sameWork_of_isAside (by trivial) h).2.1

/--
A step only records events, or it is that of an update check.
-/
theorem world_step (h : l.step? move = some l') :
    l.world.Records l'.world ∨ ∃ update : Update, l'.world = (update.check.run l.world).2 := by
  cases move with
  | fire key =>
    obtain ⟨_, _, _, rfl⟩ := step_fire h
    exact .inl rfl
  | advance index =>
    obtain ⟨_, _, _, l₁, _, hadvance, rfl⟩ := exists_advanceTask h
    rcases world_advanceTask hadvance with hworld | ⟨update, _, hworld⟩
    . exact .inl hworld
    . exact .inr ⟨update, hworld⟩
  | look index =>
    obtain ⟨watcher, _, _, rfl⟩ := exists_lookAt h
    exact .inl (records_lookAt l watcher)
  | _ => exact .inl (sameWork_of_isAside (by trivial) h).2.2.2

theorem sameHousehold_step {assumeYes : Bool} (hhost : l.world.host = .journal assumeYes)
    (h : l.step? move = some l') : l.world.SameHousehold l'.world := by
  rcases world_step h with hworld | ⟨update, hworld⟩
  . exact hworld.sameHousehold
  . rw [hworld]
    exact update.sameHousehold_check hhost

end Launcher

end ServerLauncher
