import Steward.Wire.Record

/-!
What the controller answers when the agent asks for work: one script to run as a task, or the list of
script checks. A script without a timeout of its own runs for at most two minutes.
-/
namespace Steward.Message

open Steward.Wire

def defaultScriptTimeout : UInt64 := 120

structure TaskScript where
  code : String
  shell : String
deriving DecidableEq

namespace TaskScript

def fields : List Field := [field "code", fieldOr "shell" ["interpreter"]]

instance : Sendable TaskScript where
  toValue r := .ofFields fields [.ofText r.code, .ofText r.shell]
  ofValue? v := do
    let s ← slotsOf? fields v
    let code ← s.required 0 Value.asText?
    let shell ← s.required 1 Value.asText?
    return { code, shell }

end TaskScript

structure AutomatedTask where
  script : TaskScript
  args : List String
  timeout : UInt64
deriving DecidableEq

namespace AutomatedTask

def fields : List Field := [field "script", field "args", field "timeout"]

instance : Sendable AutomatedTask where
  toValue r := .ofFields fields [toValue r.script, toValue r.args, .uint r.timeout]
  ofValue? v := do
    let s ← slotsOf? fields v
    let script ← s.required 0 ofValue?
    let args ← s.orElse 1 [] ofValue?
    let timeout ← s.orElse 2 defaultScriptTimeout Value.asUInt64?
    return { script, args, timeout }

end AutomatedTask

structure ScriptCheck where
  id : Int64
  script : TaskScript
  scriptArgs : List String
  timeout : UInt64
deriving DecidableEq

namespace ScriptCheck

def fields : List Field := [field "id", field "script", field "script_args", field "timeout"]

instance : Sendable ScriptCheck where
  toValue r := .ofFields fields
    [.ofInt r.id, toValue r.script, toValue r.scriptArgs, .uint r.timeout]
  ofValue? v := do
    let s ← slotsOf? fields v
    let id ← s.required 0 Value.asInt64?
    let script ← s.required 1 ofValue?
    let scriptArgs ← s.orElse 2 [] ofValue?
    let timeout ← s.orElse 3 defaultScriptTimeout Value.asUInt64?
    return { id, script, scriptArgs, timeout }

end ScriptCheck

structure CheckList where
  checks : List ScriptCheck
deriving DecidableEq

namespace CheckList

def fields : List Field := [field "checks"]

instance : Sendable CheckList where
  toValue r := .ofFields fields [toValue r.checks]
  ofValue? v := do
    let s ← slotsOf? fields v
    let checks ← s.orElse 0 [] ofValue?
    return { checks }

end CheckList
end Steward.Message
