import Steward.Wire.Record

/-!
The records that replies are made of, and the texts that only acknowledge. Times and durations in
seconds are 64-bit floats, kept by their bits.
-/
namespace Steward.Message

open Steward.Wire

def replyOk : String := "ok"

/-- A guarded operation is in flight already. -/
def replyBusy : String := "busy"

/-- A self-update is in flight already. -/
def replyUpdateRunning : String := "updaterunning"

structure ScriptResult where
  stdout : String
  stderr : String
  retcode : Int32
  /-- Wall-clock seconds, as the bits of a float. -/
  executionTime : UInt64
deriving DecidableEq

namespace ScriptResult

def fields : List Field := [field "stdout", field "stderr", field "retcode", field "execution_time"]

instance : Sendable ScriptResult where
  toValue r := .ofFields fields
    [.ofText r.stdout, .ofText r.stderr, .ofInt32 r.retcode, .float64 r.executionTime]
  ofValue? v := do
    let s ← slotsOf? fields v
    let stdout ← s.required 0 Value.asText?
    let stderr ← s.required 1 Value.asText?
    let retcode ← s.required 2 Value.asInt32?
    let executionTime ← s.required 3 Value.asFloatBits?
    return { stdout, stderr, retcode, executionTime }

end ScriptResult

structure ProcessRecord where
  pid : Int32
  ppid : Int32
  name : String
  cmdline : String
  username : String
  membytes : UInt64
deriving DecidableEq

namespace ProcessRecord

def fields : List Field :=
  [field "pid", field "ppid", field "name", field "cmdline", field "username", field "membytes"]

instance : Sendable ProcessRecord where
  toValue r := .ofFields fields
    [.ofInt32 r.pid, .ofInt32 r.ppid, .ofText r.name, .ofText r.cmdline, .ofText r.username,
      .uint r.membytes]
  ofValue? v := do
    let s ← slotsOf? fields v
    let pid ← s.required 0 Value.asInt32?
    let ppid ← s.required 1 Value.asInt32?
    let name ← s.required 2 Value.asText?
    let cmdline ← s.orElse 3 "" Value.asText?
    let username ← s.orElse 4 "" Value.asText?
    let membytes ← s.required 5 Value.asUInt64?
    return { pid, ppid, name, cmdline, username, membytes }

end ProcessRecord

structure ServiceRecord where
  name : String
  displayName : String
  status : String
  startType : String
deriving DecidableEq

namespace ServiceRecord

def fields : List Field := [field "name", field "display_name", field "status", field "start_type"]

instance : Sendable ServiceRecord where
  toValue r := .ofFields fields
    [.ofText r.name, .ofText r.displayName, .ofText r.status, .ofText r.startType]
  ofValue? v := do
    let s ← slotsOf? fields v
    let name ← s.required 0 Value.asText?
    let displayName ← s.required 1 Value.asText?
    let status ← s.required 2 Value.asText?
    let startType ← s.required 3 Value.asText?
    return { name, displayName, status, startType }

end ServiceRecord

structure ServiceDetail where
  name : String
  displayName : String
  description : String
  status : String
  startType : String
  binpath : String
  pid : UInt32
deriving DecidableEq

namespace ServiceDetail

def fields : List Field :=
  [field "name", field "display_name", field "description", field "status", field "start_type",
    field "binpath", field "pid"]

instance : Sendable ServiceDetail where
  toValue r := .ofFields fields
    [.ofText r.name, .ofText r.displayName, .ofText r.description, .ofText r.status,
      .ofText r.startType, .ofText r.binpath, .ofUInt32 r.pid]
  ofValue? v := do
    let s ← slotsOf? fields v
    let name ← s.required 0 Value.asText?
    let displayName ← s.required 1 Value.asText?
    let description ← s.required 2 Value.asText?
    let status ← s.required 3 Value.asText?
    let startType ← s.required 4 Value.asText?
    let binpath ← s.required 5 Value.asText?
    let pid ← s.required 6 Value.asUInt32?
    return { name, displayName, description, status, startType, binpath, pid }

end ServiceDetail

structure ServiceActionResult where
  success : Bool
  errormsg : String
deriving DecidableEq

namespace ServiceActionResult

def ok : ServiceActionResult := ⟨true, ""⟩

def failed (message : String) : ServiceActionResult := ⟨false, message⟩

def fields : List Field := [field "success", field "errormsg"]

instance : Sendable ServiceActionResult where
  toValue r := .ofFields fields [.bool r.success, .ofText r.errormsg]
  ofValue? v := do
    let s ← slotsOf? fields v
    let success ← s.required 0 Value.asBool?
    let errormsg ← s.required 1 Value.asText?
    return { success, errormsg }

end ServiceActionResult

structure EventLogRecord where
  time : String
  level : String
  source : String
  message : String
deriving DecidableEq

namespace EventLogRecord

def fields : List Field := [field "time", field "level", field "source", field "message"]

instance : Sendable EventLogRecord where
  toValue r := .ofFields fields
    [.ofText r.time, .ofText r.level, .ofText r.source, .ofText r.message]
  ofValue? v := do
    let s ← slotsOf? fields v
    let time ← s.required 0 Value.asText?
    let level ← s.required 1 Value.asText?
    let source ← s.required 2 Value.asText?
    let message ← s.required 3 Value.asText?
    return { time, level, source, message }

end EventLogRecord

structure SoftwareRecord where
  name : String
  version : String
  publisher : String
  size : UInt64
deriving DecidableEq

namespace SoftwareRecord

def fields : List Field := [field "name", field "version", field "publisher", field "size"]

instance : Sendable SoftwareRecord where
  toValue r := .ofFields fields
    [.ofText r.name, .ofText r.version, .ofText r.publisher, .uint r.size]
  ofValue? v := do
    let s ← slotsOf? fields v
    let name ← s.required 0 Value.asText?
    let version ← s.required 1 Value.asText?
    let publisher ← s.orElse 2 "" Value.asText?
    let size ← s.orElse 3 0 Value.asUInt64?
    return { name, version, publisher, size }

end SoftwareRecord

structure OsUpdateRecord where
  id : String
  title : String
  version : String
deriving DecidableEq

namespace OsUpdateRecord

def fields : List Field := [field "id", field "title", field "version"]

instance : Sendable OsUpdateRecord where
  toValue r := .ofFields fields [.ofText r.id, .ofText r.title, .ofText r.version]
  ofValue? v := do
    let s ← slotsOf? fields v
    let id ← s.required 0 Value.asText?
    let title ← s.required 1 Value.asText?
    let version ← s.required 2 Value.asText?
    return { id, title, version }

end OsUpdateRecord
end Steward.Message
