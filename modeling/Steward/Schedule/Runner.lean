import Steward.Schedule.Store
import Steward.Schedule.Invocation
import Steward.Supervision.Launch

/-!
The task runner. A `tick` judges every registered task at one instant, in the order of their names:
expired tasks are reclaimed, due tasks are launched, skipped or noted as missed, and each firing
advances the task's schedule first. `sleepMs` says how long nothing can happen.

`running` counts the launched runs of each name that have not ended; the runs themselves are in
`inFlight`. Advancing the end of the calendar aborts a tick.
-/
namespace Steward.Schedule

open Steward.Calendar Steward.Supervision Steward.Text

/-- Seconds after which a scheduled run is stopped. -/
def executionCeilingSecs : Nat := 72 * 60 * 60

/-- The longest sleep between two ticks. -/
def maxSleepMs : Nat := 60000

/-- How a launched run ended. -/
inductive RunEnd where
  | ok (code : Int32)
  | failed (code : Option Int32) (error : String)
deriving DecidableEq

namespace RunEnd

def status : RunEnd → RunStatus
  | ok _ => .ok
  | failed _ _ => .error

def exitCode : RunEnd → Option Int32
  | ok code => some code
  | failed code _ => code

def error : RunEnd → Option String
  | ok _ => none
  | failed _ error => some error

/-- The end of a run that was a program. -/
def ofProgram : Except ProcessError Outcome → RunEnd
  | .error e => failed none e.message
  | .ok o =>
    if o.success then ok o.exitCode
    else if o.timedOut then failed (some o.exitCode) o.stderr
    else failed (some o.exitCode) ("exited with code " ++ signed o.exitCode.toInt)

end RunEnd

/-- The program that a scheduled run starts. -/
def Task.launch (t : Task) (agent : AgentBinary) : Launch :=
  let i := t.action.invocation agent
  { Launch.plain i.program i.args (executionCeilingSecs * 1000) with workdir := i.workdir }

/-- Numbers of runs by name; a name with none is not listed. -/
abbrev Tally := List (String × Nat)

namespace Tally

def count (t : Tally) (name : String) : Nat := (t.lookup name).getD 0

def add (name : String) : Tally → Tally
  | [] => [(name, 1)]
  | (n, k) :: rest => if n = name then (n, k + 1) :: rest else (n, k) :: add name rest

def drop (name : String) : Tally → Tally
  | [] => []
  | (n, k) :: rest =>
    if n = name then (if k ≤ 1 then rest else (n, k - 1) :: rest) else (n, k) :: drop name rest

end Tally

/-- A launched run. -/
structure Run where
  task : Task
  startedAt : Instant
deriving DecidableEq

def Run.name (r : Run) : String := r.task.name

/-- The names that a tick has dealt with, in ascending order in each list. -/
structure TickReport where
  launched : List String
  skipped : List String
  missed : List String
  reclaimed : List String
deriving DecidableEq

def TickReport.empty : TickReport := ⟨[], [], [], []⟩

structure Runner where
  store : Store
  running : Tally
  /-- In the order of their launch. -/
  inFlight : List Run

namespace Runner

def ofStore (store : Store) : Runner := ⟨store, [], []⟩

def start (r : Runner) (run : Run) : Runner :=
  { r with running := r.running.add run.name, inFlight := r.inFlight ++ [run] }

def skippedRecord (name : String) (now : Instant) : RunRecord :=
  { taskName := name, startedAt := now, durationMs := 0, status := .skipped, exitCode := none,
    error := some "previous instance still running" }

/-- Keeps the store as it was when the call on it failed. -/
def orKeep (s : Store) : Except TaskError Store → Store
  | .ok s => s
  | .error _ => s

/-- Removes an expired task. -/
def reclaim (r : Runner) (report : TickReport) (name : String) : Runner × TickReport :=
  let (s, result) := r.store.delete name
  ({ r with store := s },
   if result.isOk then { report with reclaimed := report.reclaimed ++ [name] } else report)

/-- Acts on a judgement other than `notDue`; nothing happens when the schedule cannot be advanced. -/
def handle (r : Runner) (report : TickReport) (task : Task) (firing : Firing) (now : Instant) :
    Runner × TickReport :=
  let firedAt := if firing = .run then some now else none
  match r.store.setSchedule task.name firedAt (nextFireAfter task.trigger now) with
  | .error _ => (r, report)
  | .ok s =>
    match firing with
    | .run =>
      ({ r with store := s }.start ⟨task, now⟩, { report with launched := report.launched ++ [task.name] })
    | .skipRunning =>
      ({ r with store := orKeep s (s.recordResult (skippedRecord task.name now)) },
       { report with skipped := report.skipped ++ [task.name] })
    | .missed => ({ r with store := s }, { report with missed := report.missed ++ [task.name] })
    | .notDue => ({ r with store := s }, report)

def visit (r : Runner) (report : TickReport) (e : Entry) (now : Instant) :
    Except Abort (Runner × TickReport) := do
  let reclaimAt ← e.task.reclaimAt
  if reclaimAt.any (fun t => t ≤ now) then return r.reclaim report e.name
  else
    let firing := evaluate e.task e.state.nextRunAt (r.running.count e.name) now
    if firing = .notDue then return (r, report)
    else return r.handle report e.task firing now

def visitAll (r : Runner) (report : TickReport) (now : Instant) :
    List Entry → Except Abort (Runner × TickReport)
  | [] => .ok (r, report)
  | e :: es => do
    let (r, report) ← r.visit report e now
    r.visitAll report now es

/-- Judges all tasks as they were registered when the tick began. -/
def tick (r : Runner) (now : Instant) : Except Abort (Runner × TickReport) :=
  match r.store.entries with
  | .error _ => .ok (r, .empty)
  | .ok es => r.visitAll .empty now es

/-- Ends a run: it is in flight no more, and its result is recorded as far as the store takes it. -/
def finish (r : Runner) (run : Run) (outcome : RunEnd) (durationMs : UInt64) : Runner :=
  let record : RunRecord :=
    { taskName := run.name, startedAt := run.startedAt, durationMs, status := outcome.status,
      exitCode := outcome.exitCode, error := outcome.error }
  { store := orKeep r.store (r.store.recordResult record)
    running := r.running.drop run.name
    inFlight := r.inFlight.erase run }

/-- The instants at which something may have to be done for a task. -/
def wakeTimes (e : Entry) : Except Abort (List Instant) := do
  let reclaimAt ← e.task.reclaimAt
  let next := if e.task.enabled then e.state.nextRunAt else none
  return next.toList ++ reclaimAt.toList

def soonest : List Instant → Option Instant
  | [] => none
  | t :: ts => some (ts.foldl Instant.earlier t)

/-- Whole milliseconds from `now` to `t`, none when it has passed. -/
def millisUntil (t now : Instant) : Nat := (t.since now).toNat / nanosPerMilli

/-- How long to sleep at `now`: until the soonest instant of any task, and a minute at most. -/
def sleepMs (r : Runner) (now : Instant) : Except Abort Nat :=
  match r.store.entries with
  | .error _ => .ok maxSleepMs
  | .ok es => do
    let times ← es.mapM wakeTimes
    match soonest times.flatten with
    | none => return maxSleepMs
    | some t => return min (millisUntil t now) maxSleepMs

end Runner
end Steward.Schedule
