import Steward.Schedule.Runner

/-!
The runner's service loop against a clock that is moved from outside. The loop sleeps, ticks when the
sleep is over, and sleeps again; a change of the tasks that it is told of only makes it work out its
sleep anew. A launched run ends on its own after some time, before a tick at the same instant.
-/
namespace Steward.Schedule

open Steward.Calendar

/-- How a run of a task goes: how long it takes, and how it ends. -/
abbrev Behaviour := Task → Nat × RunEnd

structure Service where
  runner : Runner
  /-- Nanoseconds since 1970. -/
  clock : Int
  /-- When the sleep is over. -/
  wake : Int
  /-- When the runs in flight end, in the order of their launch. -/
  endings : List (Int × Run × RunEnd)

namespace Service

/-- The instant of the clock. -/
def now (s : Service) : Except Abort Instant :=
  match Instant.ofNanos? s.clock with
  | some t => .ok t
  | none => .error .offCalendar

/-- Works out the sleep from now on. -/
def settle (s : Service) : Except Abort Service := do
  let ms ← s.runner.sleepMs (← s.now)
  return { s with wake := s.clock + ms * nanosPerMilli }

def start (runner : Runner) (now : Instant) : Except Abort Service :=
  settle { runner, clock := now.toNanos, wake := now.toNanos, endings := [] }

/-- The runs that a tick has added, with their endings. -/
def endingsOf (behave : Behaviour) (clock : Int) (runs : List Run) : List (Int × Run × RunEnd) :=
  runs.map fun run =>
    let (secs, outcome) := behave run.task
    (clock + secs * nanosPerSecond, run, outcome)

def tick (s : Service) (behave : Behaviour) : Except Abort (Service × List Run) := do
  let (runner, _) ← s.runner.tick (← s.now)
  let launched := runner.inFlight.drop s.runner.inFlight.length
  let s := { s with runner, endings := s.endings ++ endingsOf behave s.clock launched }
  return (← s.settle, launched)

/-- The first ending at or before `time` that no other one precedes. -/
def nextEnding (endings : List (Int × Run × RunEnd)) (time : Int) : Option (Int × Run × RunEnd) :=
  endings.foldl (fun best e =>
    if time < e.1 then best
    else match best with
      | some b => if e.1 < b.1 then some e else best
      | none => some e) none

def finish (s : Service) (e : Int × Run × RunEnd) : Service :=
  { s with
    clock := max s.clock e.1
    runner := s.runner.finish e.2.1 e.2.2 0
    endings := s.endings.erase e }

/-- Lets everything happen up to `time`, and lists the launched runs. `fuel` bounds the number of
events. -/
def advance (behave : Behaviour) (time : Int) : Nat → Service → List Run →
    Except Abort (Service × List Run)
  | 0, s, launched => .ok ({ s with clock := time }, launched)
  | fuel + 1, s, launched =>
    match nextEnding s.endings (min time s.wake) with
    | some e => advance behave time fuel (s.finish e) launched
    | none =>
      if time < s.wake then .ok ({ s with clock := time }, launched)
      else do
        let (s, runs) ← { s with clock := s.wake }.tick behave
        advance behave time fuel s (launched ++ runs)

/-- Moves the clock on by whole seconds. At most one thing happens in a millisecond of sleep, and each
launched run ends once. -/
def advanceSecs (s : Service) (behave : Behaviour) (secs : Nat) : Except Abort (Service × List Run) :=
  advance behave (s.clock + secs * nanosPerSecond) (secs * 1000 + s.endings.length + 100000) s []

end Service
end Steward.Schedule
