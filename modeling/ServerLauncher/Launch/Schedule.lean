import ServerLauncher.Launch.Moves

/-!
This module contains one order for the steps of a launcher: whatever can be done is done before time
goes on, and the server comes before the tasks.
-/

namespace ServerLauncher.Launcher

/--
The steps that may be possible now, in the order in which they are tried.
-/
def candidates (l : Launcher) : List Move :=
  [.observeRuntime, .observeDistribution, .startServer, .killServer, .noticeRuntime,
      .noticeDistribution] ++
    l.debouncer.timers.map (fun (key, _) => .fire key) ++
    (List.range l.tasks.length).map .advance ++ [.endServer] ++
    -- Watchers wait until everything else has been done.
    (List.range l.watchers.length).map .look

def stepFirst? (l : Launcher) : Option Launcher :=
  l.candidates.findSome? l.step?

/--
Take steps until none is possible, but at most `fuel`.
-/
def settle (fuel : Nat) (l : Launcher) : Launcher :=
  match fuel with
  | 0 => l
  | fuel + 1 =>
    match l.stepFirst? with
    | some l => settle fuel l
    | none => l

/--
A number of steps that is enough until nothing can be done without time going on.
-/
def enough (l : Launcher) : Nat :=
  8 * (l.tasks.length + l.debouncer.timers.length + 4 * l.watchers.length + 4)

/--
Do everything that can be done without time going on.
-/
def calm (l : Launcher) : Launcher :=
  l.settle l.enough

def nextTime? (l : Launcher) : Option Nat :=
  let ticks := if l.cancelled then [] else l.watchers.map (·.next)
  (l.debouncer.nextDue?.toList ++ ticks).min?

/--
Let time go on up to `target`, and do what comes up on the way, at most `fuel` times.
-/
def passTime (fuel : Nat) (target : Nat) (l : Launcher) : Launcher :=
  match fuel with
  | 0 => { l with clock := target }
  | fuel + 1 =>
    match l.nextTime? with
    | some time =>
      if time ≤ target then passTime fuel target { l with clock := max l.clock time }.calm
      else { l with clock := target }
    | none => { l with clock := target }

/--
Let some milliseconds pass.
-/
def elapse (l : Launcher) (milliseconds : Nat) : Launcher :=
  -- Each watcher looks once in an interval, and each time it may put off two settings.
  let looks := l.watchers.length * (milliseconds / Watcher.interval + 1)
  l.passTime (l.debouncer.timers.length + 3 * looks + 1) (l.clock + milliseconds)

end ServerLauncher.Launcher
