import Steward.Schedule.Row
import Steward.Schedule.Session
import Steward.Text.Utf8

/-!
The tables behind the task facility: a row for each task, in no order that matters, and a row for each
kept run, numbered as they come. An answer is missing when a row it is read from is unreadable.
-/
namespace Steward.Schedule

open Steward.Calendar Steward.Text

structure Tables where
  tasks : List TaskRow
  runs : List RunRow
  /-- The number of the next run; numbers are not used again. -/
  nextId : Nat

namespace Tables

def empty : Tables := ⟨[], [], 1⟩

def has (t : Tables) (name : String) : Bool := t.tasks.any (·.name == name)

def found (t : Tables) (name : String) : Except TaskError Unit :=
  if t.has name then .ok () else .error (.notFound name)

/-- Changes the rows of that name. -/
def update (t : Tables) (name : String) (change : TaskRow → TaskRow) : Tables :=
  { t with tasks := t.tasks.map fun row => if row.name = name then change row else row }

/-- The name is the key of the table. -/
def insert (t : Tables) (task : Task) (next : Option Instant) : Except TaskError Unit × Tables :=
  if t.has task.name then (.error (.alreadyExists task.name), t)
  else (.ok (), { t with tasks := t.tasks ++ [TaskRow.ofTask task next] })

def get? (t : Tables) (name : String) : Option (Option Entry) :=
  match t.tasks.find? (·.name == name) with
  | some row => row.read?.map some
  | none => some none

/-- All tasks in the order of the bytes of their names. -/
def all? (t : Tables) : Option (List Entry) :=
  (t.tasks.mergeSort fun a b => decide (utf8 a.name ≤ utf8 b.name)).mapM TaskRow.read?

/-- The rows of the runs of a name, newest first. -/
def newest (t : Tables) (name : String) : List RunRow :=
  (t.runs.filter (·.taskName == name)).mergeSort fun a b => decide (b.id ≤ a.id)

/-- Drops the runs of a name but the newest ones. -/
def trim (t : Tables) (name : String) : Tables :=
  let kept := ((t.newest name).take historyLimit).map (·.id)
  { t with runs := t.runs.filter fun row => !(row.taskName == name && !kept.contains row.id) }

def recordResult (t : Tables) (r : RunRecord) : Tables :=
  let noted := t.update r.taskName (·.withResult r)
  trim { noted with runs := t.runs ++ [RunRow.ofRecord t.nextId r], nextId := t.nextId + 1 } r.taskName

/-- The limit is a signed word; a negative one is none. -/
def history? (t : Tables) (name : String) (limit : Int64) : Option (List RunRecord) :=
  let rows := t.newest name
  (if limit < 0 then rows else rows.take limit.toNatClampNeg).mapM RunRow.record?

def remove (t : Tables) (name : String) : Tables :=
  { t with
    tasks := t.tasks.filter (·.name != name), runs := t.runs.filter (·.taskName != name) }

def serve (t : Tables) : Request → Option Answer × Tables
  | .insert task next => (some (.ofResult (t.insert task next).1), (t.insert task next).2)
  | .get name => ((t.get? name).map .entry, t)
  | .all => (t.all?.map .entries, t)
  | .setEnabled name enabled next =>
    (some (.ofResult (t.found name)), t.update name (·.withEnabled enabled next))
  | .setSchedule name last next =>
    (some (.ofResult (t.found name)), t.update name (·.withSchedule last next))
  | .recordResult r => (some .done, t.recordResult r)
  | .history name limit => ((t.history? name limit.toInt64).map .records, t)
  | .remove name => (some (.ofResult (t.found name)), t.remove name)

def answers (t : Tables) : List Request → List (Option Answer)
  | [] => []
  | q :: rest => (t.serve q).1 :: (t.serve q).2.answers rest

end Tables
end Steward.Schedule
