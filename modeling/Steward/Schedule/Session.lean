import Steward.Schedule.Facility

/-!
Sessions of the task facility: requests one after another and the answer to each.
-/
namespace Steward.Schedule

open Steward.Calendar

inductive Request where
  | insert (task : Task) (next : Option Instant)
  | get (name : String)
  | all
  | setEnabled (name : String) (enabled : Bool) (next : Option Instant)
  | setSchedule (name : String) (last next : Option Instant)
  | recordResult (record : RunRecord)
  | history (name : String) (limit : UInt64)
  | remove (name : String)

inductive Answer where
  | done
  | failed (error : TaskError)
  | entry (found : Option Entry)
  | entries (found : List Entry)
  | records (found : List RunRecord)

def Answer.ofResult : Except TaskError Unit → Answer
  | .ok () => .done
  | .error e => .failed e

namespace Facility

/-- A change that fails leaves the facility as it was. -/
def settle (f : Facility) : Except TaskError Facility → Answer × Facility
  | .ok after => (.done, after)
  | .error e => (.failed e, f)

def serve (f : Facility) : Request → Answer × Facility
  | .insert task next => f.settle (f.insert task next)
  | .get name => (.entry (f.get? name), f)
  | .all => (.entries f.entries, f)
  | .setEnabled name enabled next => f.settle (f.setEnabled name enabled next)
  | .setSchedule name last next => f.settle (f.setSchedule name last next)
  | .recordResult r => (.done, f.recordResult r)
  | .history name limit => (.records (f.history name limit.toNat), f)
  | .remove name => ((.ofResult (f.remove name).2), (f.remove name).1)

def answers (f : Facility) : List Request → List Answer
  | [] => []
  | q :: rest => (f.serve q).1 :: (f.serve q).2.answers rest

end Facility
end Steward.Schedule
