import Steward.Supervision.Launch
import Steward.Text.Line

/-!
The process table. Killing a process first kills its direct children, but not theirs; it refuses the
processes 0 and 1 and every negative number, and a process that has ended but was not yet waited for
counts as absent.
-/
namespace Steward.Supervision

open Steward.Text

structure Entry where
  pid : Int
  ppid : Int
  name : String
  cmdline : String
  /-- Ended, and waiting for its parent to take notice. -/
  defunct : Bool
deriving DecidableEq

abbrev Table := List Entry

namespace Table

def isAlive (t : Table) (pid : Int) : Bool := t.any fun e => e.pid == pid && !e.defunct

def childrenOf (t : Table) (pid : Int) : List Entry := t.filter (·.ppid == pid)

def isProtected (pid : Int) : Bool := pid < 0 || pid == 0 || pid == 1

/-- The table without the process and its direct children. -/
def without (t : Table) (pid : Int) : Table := t.filter fun e => e.pid != pid && e.ppid != pid

def kill (t : Table) (pid : Int) : Except ProcessError Table :=
  if isProtected pid then .error (.isProtected pid)
  else if !t.isAlive pid then .error (.notFound pid)
  else .ok (t.without pid)

end Table

/-- The fields that are read of a process's status text. -/
structure Status where
  name : String
  state : Option Char
  ppid : Int
  uid : Option Nat
  rssKb : Nat
deriving DecidableEq

namespace Status

def empty : Status := ⟨"", none, 0, none, 0⟩

def firstWord? (s : String) : Option String := (words s).head?

def noteLine (s : Status) (line : String) : Status :=
  match cutAt ':' line.toList with
  | none => s
  | some (key, value) =>
    let value := trim (String.ofList value)
    match String.ofList key with
    | "Name" => { s with name := value }
    | "State" => { s with state := some (value.toList.head?.getD '?') }
    | "PPid" => { s with ppid := (integer? 0x80000000 value).getD 0 }
    | "Uid" => { s with uid := (firstWord? value).bind (natural? 0x100000000) }
    | "VmRSS" => { s with rssKb := ((firstWord? value).bind (natural? 0x10000000000000000)).getD 0 }
    | _ => s

/-- Of a field that stands in several lines the last counts. -/
def ofText (text : String) : Status := (lines text).foldl noteLine empty

end Status
end Steward.Supervision
