import Steward.Calendar.Written
import Steward.Json.Access
import Steward.Schedule.Runner

/-!
Tasks, their state and their runs as JSON documents. Reading is lenient: what is missing reads as
nothing, zero or false, and a trigger of no known kind as a manual one.
-/
namespace Steward

def Calendar.Instant.ofDocument? (j : Json.Value) : Option Calendar.Instant :=
  j.asText?.bind Calendar.Instant.read?

def Calendar.Instant.document (t : Calendar.Instant) : Json.Value := .text t.written

end Steward

namespace Steward.Schedule

open Steward.Calendar Steward.Json

def instantAt? (j : Value) (name : String) : Option Instant := Instant.ofDocument? (j.at_ name)

def instantAt (j : Value) (name : String) : Instant := (instantAt? j name).getD Instant.longAgo

def codeAt? (j : Value) (name : String) : Option Int32 := (j.at_ name).asInt?.map Int32.ofInt

def instantOrNull : Option Instant → Value := Value.ofOption Instant.document

def codeOrNull : Option Int32 → Value := Value.ofOption fun c => .int c.toInt

def Payload.ofDocument (j : Value) : Payload :=
  { pk := Int64.ofInt (j.intAt "pk" 0), kind := j.textAt "type", name := j.textAt "name"
    trigger := j.textAt "trigger", enabled := j.boolAt "enabled"
    deleteAfter := j.boolAt "deleteafter", weekdays := UInt16.ofNat (j.natAt "weekdays" 0)
    year := Int32.ofInt (j.intAt "year" 0), month := j.textAt "month"
    day := UInt32.ofNat (j.natAt "day" 0), hour := UInt32.ofNat (j.natAt "hour" 0)
    minute := UInt32.ofNat (j.natAt "min" 0), path := j.textAt "path"
    workdir := j.textAt "workdir", args := j.textAt "args", parallel := j.boolAt "parallel"
    runAsapAfterMissed := j.boolAt "run_asap_after_missed" }

namespace Trigger

def ofDocument (j : Value) : Trigger :=
  match j.textAt "kind" with
  | "once" => .once (instantAt j "start") (instantAt? j "end")
  | "weekly" => .weekly ⟨UInt8.ofNat (j.natAt "days" 0)⟩ (instantAt j "start")
  | _ => .manual

def document : Trigger → Value
  | once start expiry =>
    .object [("kind", .text "once"), ("start", start.document), ("end", instantOrNull expiry)]
  | weekly days start =>
    .object [("kind", .text "weekly"), ("days", .nat days.mask.toNat), ("start", start.document)]
  | manual => .object [("kind", .text "manual")]

end Trigger

namespace Action

def ofDocument (j : Value) : Action :=
  match j.textAt "kind" with
  | "agent_internal" => .agentInternal (Int64.ofInt (j.intAt "pk" 0))
  | "reboot" => .reboot
  | _ => .custom (j.textAt "path") (j.textAt "workdir") (j.textAt "args")

def document : Action → Value
  | agentInternal pk => .object [("kind", .text "agent_internal"), ("pk", .int pk.toInt)]
  | reboot => .object [("kind", .text "reboot")]
  | custom path workdir args =>
    .object [("kind", .text "custom"), ("path", .text path), ("workdir", .text workdir),
      ("args", .text args)]

end Action

namespace Task

def ofDocument (j : Value) : Task :=
  { name := j.textAt "name", action := .ofDocument (j.at_ "action")
    trigger := .ofDocument (j.at_ "trigger"), enabled := j.boolAt "enabled"
    deleteAfter := j.boolAt "delete_after", parallel := j.boolAt "parallel"
    runAsapAfterMissed := j.boolAt "run_asap_after_missed" }

def document (t : Task) : Value :=
  .object [("name", .text t.name), ("action", t.action.document), ("trigger", t.trigger.document),
    ("enabled", .bool t.enabled), ("delete_after", .bool t.deleteAfter),
    ("parallel", .bool t.parallel), ("run_asap_after_missed", .bool t.runAsapAfterMissed)]

end Task

def Invocation.document (i : Invocation) : Value :=
  .object [("program", .text i.program), ("args", .texts i.args),
    ("workdir", .ofOption .text i.workdir)]

/-- The entry, with its last duration written as `duration` says. -/
def Entry.document (duration : Option UInt64 → Value) (e : Entry) : Value :=
  .object [("task", e.task.document), ("next_run_at", instantOrNull e.state.nextRunAt),
    ("last_run_at", instantOrNull e.state.lastRunAt),
    ("last_status", .ofOption .text (e.state.lastStatus.map RunStatus.name)),
    ("last_duration_ms", duration e.state.lastDurationMs),
    ("last_error", .ofOption .text e.state.lastError)]

namespace RunRecord

/-- The record without its duration. -/
def untimedMembers (r : RunRecord) : List (String × Value) :=
  [("task_name", .text r.taskName), ("started_at", r.startedAt.document),
    ("status", .text r.status.name), ("exit_code", codeOrNull r.exitCode),
    ("error", .ofOption .text r.error)]

def document (r : RunRecord) : Value :=
  .object (("duration_ms", .nat r.durationMs.toNat) :: r.untimedMembers)

def ofDocument (j : Value) : RunRecord :=
  { taskName := j.textAt "task_name", startedAt := instantAt j "started_at"
    durationMs := UInt64.ofNat (j.natAt "duration_ms" 0)
    status := .ofName (j.textAt "status")
    exitCode := codeAt? j "exit_code", error := j.textAt? "error" }

end RunRecord

def TickReport.document (r : TickReport) : Value :=
  .object [("launched", .texts r.launched), ("skipped", .texts r.skipped), ("missed", .texts r.missed),
    ("reclaimed", .texts r.reclaimed)]

/-- The end of a run: with an error text it has failed. -/
def RunEnd.ofDocument (j : Value) : RunEnd :=
  let code := codeAt? j "exit_code"
  match j.textAt? "error" with
  | some error => .failed code error
  | none => .ok (code.getD 0)

def Call.name : Call → String
  | insert => "insert"
  | get => "get"
  | all => "all"
  | setEnabled => "set_enabled"
  | setSchedule => "set_schedule"
  | recordResult => "record_result"
  | history => "history"
  | remove => "remove"

/-- Whether a list of calls, each with a task's name or an asterisk, names this one. -/
def Call.isListed (calls : Value) (c : Call) (name : String) : Bool :=
  calls.items.any fun p => match p.items with
    | [.text call, .text other] => call == c.name && (other == "*" || other == name)
    | _ => false

end Steward.Schedule
