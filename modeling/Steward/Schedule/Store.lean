import Steward.Schedule.Facility
import Steward.Schedule.Firing

/-!
The task store: the facility behind a connection that can be refused and calls that can fail, and the
name with which the agent's own tasks start. A call that fails leaves the facility as it was.
-/
namespace Steward.Schedule

open Steward.Calendar

/-- The calls of a facility session. -/
inductive Call where
  | insert
  | get
  | all
  | setEnabled
  | setSchedule
  | recordResult
  | history
  | remove
deriving DecidableEq

/-- Which connections and calls fail, each with its reason. `refuses` also sees the task's name,
which is empty for `all`. -/
structure Faults where
  offline : Option String
  refuses : Call → String → Option String

def Faults.none : Faults := ⟨.none, fun _ _ => .none⟩

structure Store where
  facility : Facility
  /-- With this the names of the agent's own tasks start. -/
  ownedStart : String
  faults : Faults

namespace Store

def empty (ownedStart : String) : Store := ⟨.empty, ownedStart, .none⟩

def connect (s : Store) : Except TaskError Unit :=
  match s.faults.offline with
  | some reason => .error (.facility reason)
  | none => .ok ()

def call (s : Store) (c : Call) (name : String) : Except TaskError Unit :=
  match s.faults.refuses c name with
  | some reason => .error (.facility reason)
  | none => .ok ()

def create (s : Store) (task : Task) (now : Instant) : Except TaskError Store := do
  s.connect
  s.call .insert task.name
  let f ← s.facility.insert task (initialFire task.trigger now)
  return { s with facility := f }

def createFromPayload (s : Store) (p : Payload) (now : Instant) :
    Except Abort (Except TaskError Store) :=
  (Task.ofPayload p now).map fun task => do s.create (← task) now

/-- Removes the task and its history; the history goes even when there is no such task. -/
def delete (s : Store) (name : String) : Store × Except TaskError Unit :=
  match do s.connect; s.call .remove name with
  | .error e => (s, .error e)
  | .ok () =>
    let (f, result) := s.facility.remove name
    ({ s with facility := f }, result)

/-- When a task fires next after its flag was set: a once task that has run never fires again. -/
def nextAfterEnable (e : Entry) (enabled : Bool) (now : Instant) : Option Instant :=
  if !enabled then e.state.nextRunAt
  else match e.task.trigger with
    | .once start expiry =>
      if e.state.lastRunAt.isSome then none else initialFire (.once start expiry) now
    | trigger => initialFire trigger now

def enable (s : Store) (name : String) (enabled : Bool) (now : Instant) : Except TaskError Store := do
  s.connect
  s.call .get name
  match s.facility.get? name with
  | none => .error (.notFound name)
  | some e =>
    s.call .setEnabled name
    let f ← s.facility.setEnabled name enabled (nextAfterEnable e enabled now)
    return { s with facility := f }

def get (s : Store) (name : String) : Except TaskError (Option Entry) := do
  s.connect
  s.call .get name
  return s.facility.get? name

/-- All entries in ascending order of their names. -/
def entries (s : Store) : Except TaskError (List Entry) := do
  s.connect
  s.call .all ""
  return s.facility.entries

/-- The names of all tasks, none when they cannot be read. -/
def list (s : Store) : List String :=
  match s.entries with
  | .ok es => es.map Entry.name
  | .error _ => []

def owns (s : Store) (name : String) : Bool := s.ownedStart.toList.isPrefixOf name.toList

/-- Removes the tasks with these names as far as the removals succeed, and counts them. -/
def removeEach (s : Store) : List String → Store × Nat
  | [] => (s, 0)
  | name :: rest =>
    match s.call .remove name with
    | .error _ => s.removeEach rest
    | .ok () =>
      let (f, result) := s.facility.remove name
      let (s, n) := { s with facility := f }.removeEach rest
      (s, if result.isOk then n + 1 else n)

/-- Removes the agent's own tasks; removals that fail are passed over. -/
def cleanup (s : Store) : Store × Nat :=
  match s.entries with
  | .error _ => (s, 0)
  | .ok es => s.removeEach ((es.map Entry.name).filter s.owns)

def history (s : Store) (name : String) (limit : Nat) : Except TaskError (List RunRecord) := do
  s.connect
  s.call .history name
  return s.facility.history name limit

def setSchedule (s : Store) (name : String) (last next : Option Instant) : Except TaskError Store := do
  s.connect
  s.call .setSchedule name
  let f ← s.facility.setSchedule name last next
  return { s with facility := f }

def recordResult (s : Store) (r : RunRecord) : Except TaskError Store := do
  s.connect
  s.call .recordResult r.taskName
  return { s with facility := s.facility.recordResult r }

end Store
end Steward.Schedule
