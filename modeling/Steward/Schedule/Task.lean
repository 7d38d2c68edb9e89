import Steward.Abort
import Steward.Calendar.Instant
import Steward.Schedule.Weekdays

/-!
Scheduled tasks: when one fires (`Trigger`), what it starts (`Action`) and how it may run. A task that
is to be deleted after its one run becomes reclaimable a quarter of an hour after its end boundary;
that instant need not exist in the calendar.
-/
namespace Steward.Schedule

open Steward.Calendar

/-- Minutes from the start of a delete-after-run task to its end boundary. -/
def onceExpiryMinutes : Nat := 10

/-- Minutes from the end boundary to the instant at which the task is reclaimed. -/
def deleteExpiredAfterMinutes : Nat := 15

inductive Trigger where
  | once (start : Instant) (expiry : Option Instant)
  | weekly (days : Weekdays) (start : Instant)
  | manual
deriving DecidableEq

namespace Trigger

def kind : Trigger → String
  | once _ _ => "once"
  | weekly _ _ => "weekly"
  | manual => "manual"

/-- A manual task shows a start so far back that it never fires on its own. -/
def startBoundary : Trigger → Instant
  | once start _ => start
  | weekly _ start => start
  | manual => Instant.longAgo

end Trigger

inductive Action where
  | agentInternal (pk : Int64)
  | reboot
  | custom (path workdir args : String)
deriving DecidableEq

structure Task where
  name : String
  action : Action
  trigger : Trigger
  enabled : Bool
  deleteAfter : Bool
  parallel : Bool
  runAsapAfterMissed : Bool
deriving DecidableEq

/-- When the task may be removed without further instruction; `none` for "never". -/
def Task.reclaimAt (t : Task) : Except Abort (Option Instant) :=
  match t.trigger, t.deleteAfter with
  | .once _ (some expiry), true =>
    match expiry.plusMinutes? deleteExpiredAfterMinutes with
    | some at_ => .ok (some at_)
    | none => .error .offCalendar
  | _, _ => .ok none

end Steward.Schedule
