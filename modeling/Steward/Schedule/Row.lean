import Steward.Json.Printer
import Steward.Json.Reader
import Steward.Schedule.Document

/-!
Tasks and runs as rows of a database. Trigger and action stand as JSON texts, flags as 0 and 1, run
times as stamps, statuses by their names and durations as signed words. Reading a row is strict: a
trigger, an action or a time that is not written as it should be makes the whole row unreadable, and a
negative duration reads as zero.
-/
namespace Steward.Schedule

open Steward.Calendar Steward.Json

def Trigger.ofStored? (j : Value) : Option Trigger := do
  match ← (j.get? "kind").bind Value.asText? with
  | "once" =>
    let start ← (j.get? "start").bind Instant.ofDocument?
    let expiry ← match j.at_ "end" with
      | .null => some none
      | other => (Instant.ofDocument? other).map some
    some (.once start expiry)
  | "weekly" =>
    let days ← (j.get? "days").bind Value.asInt?
    let start ← (j.get? "start").bind Instant.ofDocument?
    if 0 ≤ days ∧ days < 0x100 then some (.weekly ⟨UInt8.ofNat days.toNat⟩ start) else none
  | "manual" => some .manual
  | _ => none

def Action.ofStored? (j : Value) : Option Action := do
  match ← (j.get? "kind").bind Value.asText? with
  | "agent_internal" =>
    let pk ← (j.get? "pk").bind Value.asInt?
    if -0x8000000000000000 ≤ pk ∧ pk < 0x8000000000000000 then some (.agentInternal (Int64.ofInt pk))
    else none
  | "reboot" => some .reboot
  | "custom" =>
    let path ← (j.get? "path").bind Value.asText?
    let workdir ← (j.get? "workdir").bind Value.asText?
    let args ← (j.get? "args").bind Value.asText?
    some (.custom path workdir args)
  | _ => none

def flag (b : Bool) : Int64 := if b then 1 else 0

/-- A time, which need not be there; one that is there has to be a stamp. -/
def instantOfStored? : Option String → Option (Option Instant)
  | none => some none
  | some s => (Instant.ofStamp? s).map some

def durationOfStored (ms : Int64) : UInt64 := if ms < 0 then 0 else ms.toUInt64

/-- An exit code, which need not be there; one that is there has to fit 32 bits. -/
def codeOfStored? : Option Int64 → Option (Option Int32)
  | none => some none
  | some n => if n.toInt32.toInt64 = n then some (some n.toInt32) else none

structure TaskRow where
  name : String
  action : String
  trigger : String
  enabled : Int64
  deleteAfter : Int64
  parallel : Int64
  runAsap : Int64
  nextRunAt : Option String
  lastRunAt : Option String
  lastStatus : Option String
  lastDurationMs : Option Int64
  lastError : Option String

namespace TaskRow

/-- The row of a task that was just registered. -/
def ofTask (t : Task) (next : Option Instant) : TaskRow :=
  { name := t.name, action := t.action.document.write, trigger := t.trigger.document.write
    enabled := flag t.enabled, deleteAfter := flag t.deleteAfter, parallel := flag t.parallel
    runAsap := flag t.runAsapAfterMissed, nextRunAt := next.map Instant.stamp, lastRunAt := none
    lastStatus := none, lastDurationMs := none, lastError := none }

def withEnabled (row : TaskRow) (enabled : Bool) (next : Option Instant) : TaskRow :=
  { row with enabled := flag enabled, nextRunAt := next.map Instant.stamp }

def withSchedule (row : TaskRow) (last next : Option Instant) : TaskRow :=
  { row with
    lastRunAt := (last.map Instant.stamp).or row.lastRunAt, nextRunAt := next.map Instant.stamp }

def withResult (row : TaskRow) (r : RunRecord) : TaskRow :=
  { row with
    lastStatus := some r.status.name, lastDurationMs := some r.durationMs.toInt64, lastError := r.error }

def task? (row : TaskRow) : Option Task := do
  let action ← (Value.read? row.action).bind Action.ofStored?
  let trigger ← (Value.read? row.trigger).bind Trigger.ofStored?
  some { name := row.name, action := action, trigger := trigger, enabled := row.enabled != 0
         deleteAfter := row.deleteAfter != 0, parallel := row.parallel != 0
         runAsapAfterMissed := row.runAsap != 0 }

def state? (row : TaskRow) : Option RunState := do
  let next ← instantOfStored? row.nextRunAt
  let last ← instantOfStored? row.lastRunAt
  some { nextRunAt := next, lastRunAt := last, lastStatus := row.lastStatus.map RunStatus.ofName
         lastDurationMs := row.lastDurationMs.map durationOfStored, lastError := row.lastError }

def read? (row : TaskRow) : Option Entry := do
  let task ← row.task?
  let state ← row.state?
  some ⟨task, state⟩

end TaskRow

structure RunRow where
  id : Nat
  taskName : String
  startedAt : String
  durationMs : Int64
  status : String
  exitCode : Option Int64
  error : Option String

namespace RunRow

def ofRecord (id : Nat) (r : RunRecord) : RunRow :=
  { id := id, taskName := r.taskName, startedAt := r.startedAt.stamp
    durationMs := r.durationMs.toInt64, status := r.status.name
    exitCode := r.exitCode.map Int32.toInt64, error := r.error }

def record? (row : RunRow) : Option RunRecord := do
  let started ← Instant.ofStamp? row.startedAt
  let code ← codeOfStored? row.exitCode
  some { taskName := row.taskName, startedAt := started, durationMs := durationOfStored row.durationMs
         status := RunStatus.ofName row.status, exitCode := code, error := row.error }

end RunRow
end Steward.Schedule
