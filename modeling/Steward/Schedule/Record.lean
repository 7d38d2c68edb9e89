import Steward.Schedule.Task

/-!
What is kept of runs: the state of a registered task (`RunState`, `Entry`) and one line of its history
(`RunRecord`). Stored instants lose the fraction of their second. Durations are stored as signed
words, so one that does not fit reads back as zero.
-/
namespace Steward.Schedule

open Steward.Calendar

inductive RunStatus where
  | ok
  | error
  /-- Passed over because an earlier run was still active. -/
  | skipped
deriving DecidableEq, Repr

def RunStatus.name : RunStatus → String
  | ok => "ok"
  | error => "error"
  | skipped => "skipped"

/-- The status of that name; any other name is that of a run passed over. -/
def RunStatus.ofName : String → RunStatus
  | "ok" => ok
  | "error" => error
  | _ => skipped

structure RunState where
  nextRunAt : Option Instant
  lastRunAt : Option Instant
  lastStatus : Option RunStatus
  lastDurationMs : Option UInt64
  lastError : Option String
deriving DecidableEq

/-- The state of a task that was just registered. -/
def RunState.fresh (next : Option Instant) : RunState :=
  { nextRunAt := next.map Instant.wholeSeconds, lastRunAt := none, lastStatus := none,
    lastDurationMs := none, lastError := none }

structure Entry where
  task : Task
  state : RunState
deriving DecidableEq

def Entry.name (e : Entry) : String := e.task.name

structure RunRecord where
  taskName : String
  startedAt : Instant
  durationMs : UInt64
  status : RunStatus
  exitCode : Option Int32
  error : Option String
deriving DecidableEq

/-- What a stored duration reads back as. -/
def storedDuration (ms : UInt64) : UInt64 := if ms.toNat < 0x8000000000000000 then ms else 0

/-- The record as it reads back. -/
def RunRecord.stored (r : RunRecord) : RunRecord :=
  { r with startedAt := r.startedAt.wholeSeconds, durationMs := storedDuration r.durationMs }

namespace Entry

def withEnabled (e : Entry) (enabled : Bool) (next : Option Instant) : Entry :=
  { task := { e.task with enabled := enabled }
    state := { e.state with nextRunAt := next.map Instant.wholeSeconds } }

/-- Without a new last run the old one stays. -/
def withSchedule (e : Entry) (last next : Option Instant) : Entry :=
  { e with
    state := { e.state with
      lastRunAt := (last.map Instant.wholeSeconds).or e.state.lastRunAt
      nextRunAt := next.map Instant.wholeSeconds } }

def withResult (e : Entry) (r : RunRecord) : Entry :=
  { e with
    state := { e.state with
      lastStatus := some r.status
      lastDurationMs := some (storedDuration r.durationMs)
      lastError := r.error } }

@[simp] theorem name_withEnabled (e : Entry) (enabled : Bool) (next : Option Instant) :
    (e.withEnabled enabled next).name = e.name := rfl

@[simp] theorem name_withSchedule (e : Entry) (last next : Option Instant) :
    (e.withSchedule last next).name = e.name := rfl

@[simp] theorem name_withResult (e : Entry) (r : RunRecord) : (e.withResult r).name = e.name := rfl

end Entry
end Steward.Schedule
