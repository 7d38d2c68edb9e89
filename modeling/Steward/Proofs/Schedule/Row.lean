import Steward.Proofs.Calendar.Written
import Steward.Proofs.Json.ReadBack
import Steward.Schedule.Row

/-!
Rows read back. The row of a new task holds it as it was given, each change to a row is the change to
the entry that is read from it, and the row of a run holds the record as it is kept.
-/
namespace Steward.Schedule
open Steward.Calendar Steward.Json

theorem ofDocument?_written (t : Instant) : Instant.ofDocument? (.text t.written) = some t := by
  rw [Instant.ofDocument?, Value.asText?, Option.bind_some]
  exact t.read?_written

section Documents

theorem reads_instantOrNull (depth : Nat) (t : Option Instant) : Reads depth (instantOrNull t) := by
  cases t with
  | none => exact reads_null depth
  | some t => exact reads_text depth t.written

theorem Trigger.reads_document (trigger : Trigger) : Reads nestingLimit trigger.document := by
  cases trigger with
  | once start expiry =>
    apply reads_object
    simp only [List.forall_mem_cons]
    exact ⟨reads_text _ "once", reads_text _ start.written, reads_instantOrNull _ expiry, nofun⟩
  | weekly days start =>
    have small : days.mask.toNat < 256 := days.mask.toNat_lt
    apply reads_object
    simp only [List.forall_mem_cons]
    refine ⟨reads_text _ "weekly", reads_int _ ?_ ?_, reads_text _ start.written, nofun⟩
    · omega
    · omega
  | manual =>
    apply reads_object
    simp only [List.forall_mem_cons]
    exact ⟨reads_text _ "manual", nofun⟩

theorem Action.reads_document (action : Action) : Reads nestingLimit action.document := by
  cases action with
  | agentInternal pk =>
    have low := pk.le_toInt
    have high := pk.toInt_lt
    apply reads_object
    simp only [List.forall_mem_cons]
    refine ⟨reads_text _ "agent_internal", reads_int _ ?_ ?_, nofun⟩
    · omega
    · omega
  | reboot =>
    apply reads_object
    simp only [List.forall_mem_cons]
    exact ⟨reads_text _ "reboot", nofun⟩
  | custom path workdir args =>
    apply reads_object
    simp only [List.forall_mem_cons]
    exact ⟨reads_text _ "custom", reads_text _ path, reads_text _ workdir, reads_text _ args, nofun⟩

example : (Trigger.weekly ⟨2⟩ .longAgo).document.write =
    "\x7b\"kind\":\"weekly\",\"days\":2,\"start\":\"1975-01-01T01:00:00\"\x7d" := by cbv

theorem Trigger.ofStored?_document (trigger : Trigger) : ofStored? trigger.document = some trigger := by
  cases trigger with
  | once start expiry =>
    cases expiry with
    | none =>
      simp [ofStored?, document, Value.get?, Value.at_, List.lookup_cons, Value.asText?, Instant.document,
        instantOrNull, Value.ofOption, ofDocument?_written]
    | some expiry =>
      simp [ofStored?, document, Value.get?, Value.at_, List.lookup_cons, Value.asText?, Instant.document,
        instantOrNull, Value.ofOption, ofDocument?_written]
  | weekly days start =>
    have range : (days.mask.toNat : Int) < 0x100 := Int.ofNat_lt.2 days.mask.toNat_lt
    simp [ofStored?, document, Value.get?, List.lookup_cons, Value.asText?, Value.asInt?, Value.nat,
      Instant.document, ofDocument?_written, range]
  | manual => simp [ofStored?, document, Value.get?, List.lookup_cons, Value.asText?]

theorem Action.ofStored?_document (action : Action) : ofStored? action.document = some action := by
  cases action with
  | agentInternal pk =>
    have low : -0x8000000000000000 ≤ pk.toInt := pk.le_toInt
    have high : pk.toInt < 0x8000000000000000 := pk.toInt_lt
    simp [ofStored?, document, Value.get?, List.lookup_cons, Value.asText?, Value.asInt?, low, high]
  | reboot => simp [ofStored?, document, Value.get?, List.lookup_cons, Value.asText?]
  | custom path workdir args => simp [ofStored?, document, Value.get?, List.lookup_cons, Value.asText?]

end Documents

section Columns

theorem flag_ne_zero (b : Bool) : (flag b != 0) = b := by cases b <;> rfl

theorem instantOfStored?_stamp (t : Option Instant) :
    instantOfStored? (t.map Instant.stamp) = some (t.map Instant.wholeSeconds) := by
  cases t with
  | none => rfl
  | some t =>
    rw [Option.map_some, instantOfStored?, t.ofStamp?_stamp]
    rfl

theorem codeOfStored?_toInt64 (code : Option Int32) :
    codeOfStored? (code.map Int32.toInt64) = some code := by
  cases code with
  | none => rfl
  | some n => rw [Option.map_some, codeOfStored?, Int32.toInt32_toInt64, if_pos rfl]

theorem ofName_name (status : RunStatus) : RunStatus.ofName status.name = status := by
  cases status <;> rfl

theorem toInt64_eq (n : UInt64) : n.toInt64.toInt =
    if n.toNat < 0x8000000000000000 then (n.toNat : Int) else n.toNat - 0x10000000000000000 := by
  have word : n.toInt64.toInt = n.toBitVec.toInt := rfl
  have bound := n.toNat_lt
  rw [word, BitVec.toInt_eq_toNat_cond, UInt64.toNat_toBitVec]
  split <;> split <;> omega

theorem toInt64_lt_zero_iff (n : UInt64) : n.toInt64 < 0 ↔ ¬n.toNat < 0x8000000000000000 := by
  have bound := n.toNat_lt
  rw [Int64.lt_iff_toInt_lt, toInt64_eq, Int64.toInt_zero]
  split <;> omega

theorem durationOfStored_toInt64 (ms : UInt64) : durationOfStored ms.toInt64 = storedDuration ms := by
  rw [durationOfStored, storedDuration]
  by_cases fits : ms.toNat < 0x8000000000000000
  · rw [if_pos fits, if_neg fun less => (toInt64_lt_zero_iff ms).1 less fits]
    rfl
  · rw [if_neg fits, if_pos ((toInt64_lt_zero_iff ms).2 fits)]

end Columns

namespace TaskRow

theorem task?_ofTask (t : Task) (next : Option Instant) : (ofTask t next).task? = some t := by
  have action : (Value.read? t.action.document.write).bind Action.ofStored? = some t.action := by
    rw [read?_write t.action.reads_document]
    exact t.action.ofStored?_document
  have trigger : (Value.read? t.trigger.document.write).bind Trigger.ofStored? = some t.trigger := by
    rw [read?_write t.trigger.reads_document]
    exact t.trigger.ofStored?_document
  refine Option.bind_eq_some_iff.2 ⟨_, action, Option.bind_eq_some_iff.2 ⟨_, trigger, ?_⟩⟩
  simp only [ofTask, flag_ne_zero]

theorem read?_eq_some_iff (row : TaskRow) (e : Entry) :
    row.read? = some e ↔ row.task? = some e.task ∧ row.state? = some e.state := by
  constructor
  · intro read
    obtain ⟨task, readTask, rest⟩ := Option.bind_eq_some_iff.1 read
    obtain ⟨state, readState, made⟩ := Option.bind_eq_some_iff.1 rest
    cases made
    exact ⟨readTask, readState⟩
  · rintro ⟨task, state⟩
    exact Option.bind_eq_some_iff.2 ⟨_, task, Option.bind_eq_some_iff.2 ⟨_, state, rfl⟩⟩

theorem name_of_read? {row : TaskRow} {e : Entry} (read : row.read? = some e) : e.name = row.name := by
  obtain ⟨action, -, rest⟩ := Option.bind_eq_some_iff.1 ((row.read?_eq_some_iff e).1 read).1
  obtain ⟨trigger, -, made⟩ := Option.bind_eq_some_iff.1 rest
  exact (congrArg Task.name (Option.some.inj made)).symm

theorem state?_eq_some_iff (row : TaskRow) (s : RunState) : row.state? = some s ↔
    instantOfStored? row.nextRunAt = some s.nextRunAt ∧
      instantOfStored? row.lastRunAt = some s.lastRunAt ∧
      row.lastStatus.map RunStatus.ofName = s.lastStatus ∧
      row.lastDurationMs.map durationOfStored = s.lastDurationMs ∧ row.lastError = s.lastError := by
  constructor
  · intro read
    obtain ⟨next, readNext, rest⟩ := Option.bind_eq_some_iff.1 read
    obtain ⟨last, readLast, made⟩ := Option.bind_eq_some_iff.1 rest
    cases made
    exact ⟨readNext, readLast, rfl, rfl, rfl⟩
  · rintro ⟨next, last, status, duration, error⟩
    refine Option.bind_eq_some_iff.2 ⟨_, next, Option.bind_eq_some_iff.2 ⟨_, last, ?_⟩⟩
    rw [status, duration, error]

theorem read?_ofTask (t : Task) (next : Option Instant) :
    (ofTask t next).read? = some ⟨t, .fresh next⟩ := by
  refine (read?_eq_some_iff _ _).2 ⟨task?_ofTask t next, (state?_eq_some_iff _ _).2 ?_⟩
  exact ⟨instantOfStored?_stamp next, rfl, rfl, rfl, rfl⟩

section Change
variable {row : TaskRow} {e : Entry} (read : row.read? = some e)
include read

theorem read?_withEnabled (enabled : Bool) (next : Option Instant) :
    (row.withEnabled enabled next).read? = some (e.withEnabled enabled next) := by
  obtain ⟨task, state⟩ := (row.read?_eq_some_iff e).1 read
  obtain ⟨-, last, status, duration, error⟩ := (row.state?_eq_some_iff e.state).1 state
  refine (read?_eq_some_iff _ _).2 ⟨?_, (state?_eq_some_iff _ _).2
    ⟨instantOfStored?_stamp next, last, status, duration, error⟩⟩
  obtain ⟨action, readAction, rest⟩ := Option.bind_eq_some_iff.1 task
  obtain ⟨trigger, readTrigger, made⟩ := Option.bind_eq_some_iff.1 rest
  refine Option.bind_eq_some_iff.2 ⟨_, readAction, Option.bind_eq_some_iff.2 ⟨_, readTrigger, ?_⟩⟩
  simp only [withEnabled, flag_ne_zero, Entry.withEnabled, ← Option.some.inj made]

theorem read?_withSchedule (last next : Option Instant) :
    (row.withSchedule last next).read? = some (e.withSchedule last next) := by
  obtain ⟨task, state⟩ := (row.read?_eq_some_iff e).1 read
  obtain ⟨-, before, status, duration, error⟩ := (row.state?_eq_some_iff e.state).1 state
  refine (read?_eq_some_iff _ _).2 ⟨task, (state?_eq_some_iff _ _).2
    ⟨instantOfStored?_stamp next, ?_, status, duration, error⟩⟩
  cases last with
  | none => exact before
  | some last => exact instantOfStored?_stamp (some last)

theorem read?_withResult (r : RunRecord) : (row.withResult r).read? = some (e.withResult r) := by
  obtain ⟨task, state⟩ := (row.read?_eq_some_iff e).1 read
  obtain ⟨next, last, -⟩ := (row.state?_eq_some_iff e.state).1 state
  refine (read?_eq_some_iff _ _).2 ⟨task, (state?_eq_some_iff _ _).2
    ⟨next, last, congrArg some (ofName_name r.status), ?_, rfl⟩⟩
  exact congrArg some (durationOfStored_toInt64 r.durationMs)

end Change
end TaskRow

theorem RunRow.record?_ofRecord (id : Nat) (r : RunRecord) :
    (ofRecord id r).record? = some r.stored := by
  refine Option.bind_eq_some_iff.2 ⟨_, r.startedAt.ofStamp?_stamp, Option.bind_eq_some_iff.2
    ⟨_, codeOfStored?_toInt64 r.exitCode, ?_⟩⟩
  simp only [ofRecord, durationOfStored_toInt64, ofName_name, RunRecord.stored]

end Steward.Schedule
