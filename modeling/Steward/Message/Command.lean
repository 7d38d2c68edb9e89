import Steward.Message.Arguments
import Steward.Message.TaskPayload

/-!
Commands: one inbound unit of work. Only the name has to be there. A timeout of zero stands for the
default of whatever the command runs.
-/
namespace Steward.Message

open Steward.Schedule Steward.Wire

structure Command where
  name : String
  timeout : UInt64
  arguments : Arguments
  scriptArgs : List String
  pid : Option Int32
  taskId : Option Int64
  scheduledTask : Option Payload
  recoveryCommand : Option String
  updateIds : List String
  packageName : Option String
  pendingAction : Option Int64

namespace Command

/-- A command with nothing but a name. -/
def named (name : String) : Command :=
  { name := name, timeout := 0, arguments := .empty, scriptArgs := [], pid := none, taskId := none,
    scheduledTask := none, recoveryCommand := none, updateIds := [], packageName := none,
    pendingAction := none }

def withArg (c : Command) (name text : String) : Command :=
  { c with arguments := c.arguments.put name text }

def arg? (c : Command) (name : String) : Option String := c.arguments.get? name

def timeoutOr (c : Command) (seconds : UInt64) : UInt64 :=
  if c.timeout = 0 then seconds else c.timeout

def fields : List Field :=
  [fieldOr "func" ["name"], field "timeout", field "payload", field "script_args",
    fieldOr "proc_pid" ["pid"], field "task_id", fieldOr "schedtaskpayload" ["task"],
    field "recoverycommand", field "guids", field "package_name", field "pending_action_pk"]

def toValue (c : Command) : Value :=
  .ofFields fields
    [.ofText c.name, .uint c.timeout, Wire.toValue c.arguments, Wire.toValue c.scriptArgs,
      .ofOptional .ofInt32 c.pid, .ofOptional .ofInt c.taskId,
      .ofOptional Wire.toValue c.scheduledTask, .ofOptional .ofText c.recoveryCommand,
      Wire.toValue c.updateIds, .ofOptional .ofText c.packageName, .ofOptional .ofInt c.pendingAction]

def ofSlots? (s : Slots) : Option Command := do
  let name ← s.required 0 Value.asText?
  let timeout ← s.orElse 1 0 Value.asUInt64?
  let arguments ← s.orElse 2 .empty Wire.ofValue?
  let scriptArgs ← s.orElse 3 [] Wire.ofValue?
  let pid ← s.orElse 4 none (Value.asOptional? Value.asInt32?)
  let taskId ← s.orElse 5 none (Value.asOptional? Value.asInt64?)
  let scheduledTask ← s.orElse 6 none (Value.asOptional? Wire.ofValue?)
  let recoveryCommand ← s.orElse 7 none (Value.asOptional? Value.asText?)
  let updateIds ← s.orElse 8 [] Wire.ofValue?
  let packageName ← s.orElse 9 none (Value.asOptional? Value.asText?)
  let pendingAction ← s.orElse 10 none (Value.asOptional? Value.asInt64?)
  return { name, timeout, arguments, scriptArgs, pid, taskId, scheduledTask, recoveryCommand,
           updateIds, packageName, pendingAction }

instance : Sendable Command := ⟨toValue, fun v => (slotsOf? fields v).bind ofSlots?⟩

end Command
end Steward.Message
