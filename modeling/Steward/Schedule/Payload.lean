import Steward.Schedule.Task
import Steward.Text.Line
import Steward.Text.Quoted

/-!
Task definitions as the controller sends them, and their validation. Of several faults the first of
name, trigger and type is reported. A month name that is not an English month means January.
-/
namespace Steward.Schedule

open Steward.Calendar Steward.Text

structure Payload where
  pk : Int64
  kind : String
  name : String
  trigger : String
  enabled : Bool
  deleteAfter : Bool
  weekdays : UInt16
  year : Int32
  month : String
  day : UInt32
  hour : UInt32
  minute : UInt32
  path : String
  workdir : String
  args : String
  parallel : Bool
  runAsapAfterMissed : Bool
deriving DecidableEq

/-- Every field but the name at its default. -/
def Payload.named (name : String) : Payload :=
  { pk := 0, kind := "", name := name, trigger := "", enabled := false, deleteAfter := false,
    weekdays := 0, year := 0, month := "", day := 0, hour := 0, minute := 0, path := "",
    workdir := "", args := "", parallel := false, runAsapAfterMissed := false }

inductive TriggerFault where
  | missing
  | unknownKind (kind : String)
  | noWeekday
  | badTime (hour minute : Nat)
  | badDate (year : Int) (month day : Nat)
deriving DecidableEq

inductive ActionFault where
  | emptyName
  | noPath
  | unknownType (kind : String)
deriving DecidableEq

inductive TaskError where
  | notFound (name : String)
  | alreadyExists (name : String)
  | invalidTrigger (fault : TriggerFault)
  | invalidAction (fault : ActionFault)
  | facility (reason : String)
deriving DecidableEq

def TriggerFault.message : TriggerFault → String
  | missing => "trigger is missing"
  | unknownKind kind => "unknown trigger kind: " ++ kind
  | noWeekday => "weekly trigger needs at least one weekday"
  | badTime hour minute => "invalid time of day " ++ padded 2 hour ++ ":" ++ padded 2 minute
  | badDate year month day =>
    "invalid date " ++ signed year ++ "-" ++ padded 2 month ++ "-" ++ padded 2 day

def ActionFault.message : ActionFault → String
  | emptyName => "task name is empty"
  | noPath => "custom task needs a path"
  | unknownType kind => "unknown task type: " ++ quoted kind

def TaskError.message : TaskError → String
  | notFound name => "scheduled task " ++ name ++ " not found"
  | alreadyExists name => "scheduled task " ++ name ++ " already exists"
  | invalidTrigger fault => "invalid trigger: " ++ fault.message
  | invalidAction fault => "invalid action: " ++ fault.message
  | facility reason => "task facility error: " ++ reason

def monthNames : List String :=
  ["january", "february", "march", "april", "may", "june", "july", "august", "september", "october",
    "november", "december"]

/-- Month 1 to 12 by its English name in any case, blanks around it ignored; otherwise 1. -/
def monthNumber (name : String) : Nat :=
  match monthNames.findIdx? (· == lower (trim name)) with
  | some i => i + 1
  | none => 1

namespace Payload

def timeOfDay (p : Payload) : Except TaskError TimeOfDay :=
  match TimeOfDay.ofHourMinute? p.hour.toNat p.minute.toNat with
  | some t => .ok t
  | none => .error (.invalidTrigger (.badTime p.hour.toNat p.minute.toNat))

def date (p : Payload) : Except TaskError Date :=
  match Date.ofYearMonthDay? p.year.toInt (monthNumber p.month) p.day.toNat with
  | some d => .ok d
  | none => .error (.invalidTrigger (.badDate p.year.toInt (monthNumber p.month) p.day.toNat))

def startInstant (p : Payload) : Except TaskError Instant := do
  let date ← p.date
  let time ← p.timeOfDay
  return ⟨date, time⟩

/-- The end boundary of a once trigger; only tasks to be deleted after their run have one. -/
def expiry (p : Payload) (start : Instant) : Except Abort (Option Instant) :=
  if p.deleteAfter then
    match start.plusMinutes? onceExpiryMinutes with
    | some t => .ok (some t)
    | none => .error .offCalendar
  else .ok none

def readTrigger (p : Payload) (now : Instant) : Except Abort (Except TaskError Trigger) :=
  match p.trigger with
  | "once" =>
    match p.startInstant with
    | .error e => .ok (.error e)
    | .ok start => (p.expiry start).map fun expiry => .ok (.once start expiry)
  | "weekly" =>
    let days := Weekdays.ofBits p.weekdays
    if days.isEmpty then .ok (.error (.invalidTrigger .noWeekday))
    else .ok (p.timeOfDay.map fun time => .weekly days ⟨now.date, time⟩)
  | "manual" => .ok (.ok .manual)
  | "" => .ok (.error (.invalidTrigger .missing))
  | other => .ok (.error (.invalidTrigger (.unknownKind other)))

def readAction (p : Payload) : Except TaskError Action :=
  match p.kind with
  | "rmm" => .ok (.agentInternal p.pk)
  | "agent-internal" => .ok (.agentInternal p.pk)
  | "schedreboot" => .ok .reboot
  | "reboot" => .ok .reboot
  | "custom" =>
    if isBlankText p.path then .error (.invalidAction .noPath)
    else .ok (.custom p.path p.workdir p.args)
  | other => .error (.invalidAction (.unknownType other))

end Payload

/-- Validates a payload; a weekly trigger starts on the date of `now`. -/
def Task.ofPayload (p : Payload) (now : Instant) : Except Abort (Except TaskError Task) :=
  if isBlankText p.name then .ok (.error (.invalidAction .emptyName))
  else (p.readTrigger now).map fun trigger => do
    let trigger ← trigger
    let action ← p.readAction
    return { name := p.name, action := action, trigger := trigger, enabled := p.enabled,
             deleteAfter := p.deleteAfter, parallel := p.parallel,
             runAsapAfterMissed := p.runAsapAfterMissed }

end Steward.Schedule
