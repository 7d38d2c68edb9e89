import Steward.Bus.Responder
import Steward.Guard
import Steward.Host.Call
import Steward.Message.Command
import Steward.Message.Job
import Steward.Schedule.Invocation
import Steward.Schedule.Payload
import Steward.Supervision.Table
import Steward.Update.Version
import Steward.Web.Controller

/-!
What the agent does to its surroundings while it works on a command: replies, guards, calls to the
host, the controller and the task store, programs it starts, and its own end.
-/
namespace Steward.Agent

open Steward.Message Steward.Schedule Steward.Supervision

inductive TaskCall where
  | create (p : Payload)
  | delete (name : String)
  | enable (name : String) (enabled : Bool)
  | list
  | cleanup

abbrev TaskCall.Answer : TaskCall → Type
  | create _ => Except TaskError Unit
  | delete _ => Except TaskError Unit
  | enable _ _ => Except TaskError Unit
  | list => List String
  | cleanup => Nat

inductive Call where
  /-- Answers the command, unless it was answered before. -/
  | reply (payload : Wire.Bytes)
  | hasReplied
  | flush
  | host (c : Host.Call)
  | request (r : Web.Request)
  | tasks (c : TaskCall)
  | launch (l : Launch)
  | processes
  | kill (pid : Int)
  /-- Answers whether the guard was free. -/
  | hold (g : Guard)
  | release (g : Guard)
  /-- Puts these bytes in the place of the agent's own binary. -/
  | install (binary : List UInt8)
  /-- From now on no more commands are taken. -/
  | beginStop
  | exit (code : Int)

abbrev Call.Answer : Call → Type
  | reply _ => Except Bus.TransportError Bool
  | hasReplied => Bool
  | flush => Except Bus.TransportError Unit
  | host c => c.Answer
  | request _ => Web.Exchange
  | tasks c => c.Answer
  | launch _ => Except ProcessError Outcome
  | processes => Except Chain (List ProcessRecord)
  | kill _ => Except ProcessError Unit
  | hold _ => Bool
  | release _ => Unit
  | install _ => Except Chain Unit
  | beginStop => Unit
  | exit _ => Unit

def Surroundings : Interface := ⟨Call, Call.Answer⟩

/-- Work that may fail. -/
abbrev Job := Action Surroundings

/-- A call on its own. -/
def ask (c : Call) : Plan Surroundings c.Answer := Plan.perform c Plan.done

/-- A call in a job. -/
def call (c : Call) : Job c.Answer := ExceptT.lift (ask c)

/-- The result of a call that may fail; a failure fails the job. -/
def orFail : Except Chain α → Job α := Action.ofExcept id

/-- As `orFail`, for a failure that is one message. -/
def orSay (message : ε → String) : Except ε α → Job α := Action.ofExcept fun e => [message e]

/-- Answers the command. A reply that cannot be published fails the job. -/
def reply [Wire.Sendable α] (a : α) : Job Unit := do
  let _ ← orSay Bus.TransportError.message (← call (.reply (Wire.encode a)))

/-- Starts a program, or fails with what keeps it from being started. -/
def launch (l : Except ProcessError Launch) : Job Outcome := do
  let l ← Action.ofExcept ProcessError.chain l
  Action.ofExcept ProcessError.chain (← call (.launch l))

/-- Works while holding the guard, which is freed however the work ends. Without the guard nothing is
done. -/
def guarded (g : Guard) (work : Job α) : Job (Option α) := do
  if ← call (.hold g) then
    let outcome ← Action.attempt work
    let _ ← call (.release g)
    some <$> orFail outcome
  else return none

end Steward.Agent

namespace Steward

/-- An agent: its identity, its connection to the controller, its binary and that binary's version. -/
structure Agent where
  id : String
  client : Web.Client
  binary : Schedule.AgentBinary
  version : Update.Version

end Steward
