import Steward.Schedule.Payload
import Steward.Wire.Record

/-!
The message form of a task definition. Every field but the name may be left out.
-/
namespace Steward.Message

open Steward.Schedule Steward.Wire

def payloadFields : List Field :=
  [field "pk", field "type", field "name", field "trigger", field "enabled", field "deleteafter",
    field "weekdays", field "year", field "month", field "day", field "hour", field "min",
    field "path", field "workdir", field "args", field "parallel", field "run_asap_after_missed"]

def payloadValue (p : Payload) : Value :=
  .ofFields payloadFields
    [.ofInt p.pk, .ofText p.kind, .ofText p.name, .ofText p.trigger, .bool p.enabled,
      .bool p.deleteAfter, .uint p.weekdays.toUInt64, .ofInt32 p.year, .ofText p.month,
      .ofUInt32 p.day, .ofUInt32 p.hour, .ofUInt32 p.minute, .ofText p.path, .ofText p.workdir,
      .ofText p.args, .bool p.parallel, .bool p.runAsapAfterMissed]

def payloadOfSlots? (s : Slots) : Option Payload := do
  let pk ← s.orElse 0 0 Value.asInt64?
  let kind ← s.orElse 1 "" Value.asText?
  let name ← s.required 2 Value.asText?
  let trigger ← s.orElse 3 "" Value.asText?
  let enabled ← s.orElse 4 false Value.asBool?
  let deleteAfter ← s.orElse 5 false Value.asBool?
  let weekdays ← s.orElse 6 0 Value.asUInt16?
  let year ← s.orElse 7 0 Value.asInt32?
  let month ← s.orElse 8 "" Value.asText?
  let day ← s.orElse 9 0 Value.asUInt32?
  let hour ← s.orElse 10 0 Value.asUInt32?
  let minute ← s.orElse 11 0 Value.asUInt32?
  let path ← s.orElse 12 "" Value.asText?
  let workdir ← s.orElse 13 "" Value.asText?
  let args ← s.orElse 14 "" Value.asText?
  let parallel ← s.orElse 15 false Value.asBool?
  let runAsapAfterMissed ← s.orElse 16 false Value.asBool?
  return { pk, kind, name, trigger, enabled, deleteAfter, weekdays, year, month, day, hour, minute,
           path, workdir, args, parallel, runAsapAfterMissed }

instance : Sendable Payload :=
  ⟨payloadValue, fun v => (slotsOf? payloadFields v).bind payloadOfSlots?⟩

end Steward.Message
