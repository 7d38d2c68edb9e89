import Steward.Schedule.Task

/-!
Firing times. A weekly trigger fires at the time of day of its start on every selected weekday, never
before its start. The search looks at eight consecutive dates, which covers each weekday and, when
the time of day has passed on the first date, the same weekday a week later.

`evaluate` judges one task at one instant: lateness is measured against the pending firing, a firing
more than two minutes old is missed unless the task may catch up, and a firing exactly two minutes
old is still run.
-/
namespace Steward.Schedule

open Steward.Calendar

def missedToleranceSecs : Nat := 120

def missedTolerance : Int := missedToleranceSecs * nanosPerSecond

/-- The first of `n` dates from `date` on whose candidate at `time` is admitted and whose weekday is
selected. -/
def searchDates (days : Weekdays) (time : TimeOfDay) (admits : Instant → Bool) :
    Nat → Date → Option Instant
  | 0, _ => none
  | n + 1, date =>
    if admits ⟨date, time⟩ && days.contains date.weekday then some ⟨date, time⟩
    else date.next?.bind (searchDates days time admits n)

/-- The first occurrence at or after `from_` (after it when `inclusive` is false), and never before
`start`, which itself counts. -/
def weeklyOccurrence (days : Weekdays) (start from_ : Instant) (inclusive : Bool) : Option Instant :=
  if days.isEmpty then none
  else
    let (from_, inclusive) := if from_ < start then (start, true) else (from_, inclusive)
    let admits (t : Instant) : Bool := if inclusive then from_ ≤ t else from_ < t
    searchDates days start.time admits 8 from_.date

/-- The first firing of a trigger that is registered or enabled at `now`. A once trigger answers its
start even when that has passed. -/
def initialFire (trigger : Trigger) (now : Instant) : Option Instant :=
  match trigger with
  | .once start _ => some start
  | .weekly days start => weeklyOccurrence days start now true
  | .manual => none

/-- The firing that follows one handled at `after`. -/
def nextFireAfter (trigger : Trigger) (after : Instant) : Option Instant :=
  match trigger with
  | .weekly days start => weeklyOccurrence days start after false
  | .once _ _ => none
  | .manual => none

inductive Firing where
  | notDue
  | run
  /-- Due, but an earlier run is still active and the task may not run twice at a time. -/
  | skipRunning
  /-- Due too long ago, or past its end boundary. -/
  | missed
deriving DecidableEq, Repr

def Trigger.pastExpiry (trigger : Trigger) (now : Instant) : Bool :=
  match trigger with
  | .once _ (some expiry) => expiry < now
  | _ => false

def evaluate (task : Task) (next : Option Instant) (running : Nat) (now : Instant) : Firing :=
  if !task.enabled then .notDue
  else match next with
    | none => .notDue
    | some next =>
      if now < next then .notDue
      else if task.trigger.pastExpiry now then .missed
      else if missedTolerance < now.since next && !task.runAsapAfterMissed then .missed
      else if 0 < running && !task.parallel then .skipRunning
      else .run

/-- Repeated firings after `first`, at most `count` of them. -/
def firingChain (trigger : Trigger) : Nat → Instant → List Instant
  | 0, _ => []
  | n + 1, last =>
    match nextFireAfter trigger last with
    | none => []
    | some t => t :: firingChain trigger n t

end Steward.Schedule
