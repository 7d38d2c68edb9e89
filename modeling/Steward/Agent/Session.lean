import Steward.Agent.Handler
import Steward.Schedule.Store

/-!
A running agent: what all its commands share, and how their calls act on it. The rest of the world is
a parameter. A job that is aborted leaves everything as it was when it stopped.
-/
namespace Steward.Agent

open Steward.Bus Steward.Calendar Steward.Message Steward.Schedule Steward.Supervision

/-- The world outside the agent, with what it keeps of what was done to it. -/
structure World (m : Type → Type) where
  now : Instant
  host : (c : Host.Call) → m c.Answer
  exchange : Web.Request → m Web.Exchange
  launch : Launch → m (Except ProcessError Outcome)
  processes : m (Except Chain (List ProcessRecord))
  kill : Int → m (Except ProcessError Unit)
  install : List UInt8 → m (Except Chain Unit)
  exit : Int → m Unit

structure Session where
  store : Store
  guards : GuardSet
  transport : Transport
  stopping : Bool

/-- A session with the responder of the command that is worked on. -/
structure Working where
  session : Session
  responder : Responder

/-- What a call on the task store answers, and the store afterwards. -/
def TaskCall.perform (s : Store) (now : Instant) : (c : TaskCall) → Except Abort (Store × c.Answer)
  | .create p => do
    match ← s.createFromPayload p now with
    | .ok s => return (s, .ok ())
    | .error e => return (s, .error e)
  | .delete name => .ok (s.delete name)
  | .enable name enabled =>
    match s.enable name enabled now with
    | .ok s => .ok (s, .ok ())
    | .error e => .ok (s, .error e)
  | .list => .ok (s, s.list)
  | .cleanup => .ok s.cleanup

/-- Work that may be aborted. -/
abbrev Performing (m : Type → Type) := ExceptT Abort (StateT Working m)

section

variable {m : Type → Type} [Monad m]

def outside (x : m α) : Performing m α := ExceptT.lift (StateT.lift x)

def modifySession (f : Session → Session) : Performing m Unit :=
  modify fun w => { w with session := f w.session }

/-- Carries out one call. -/
def World.perform (world : World m) : (c : Call) → Performing m c.Answer
  | .reply payload => do
    let w ← get
    let (responder, transport, result) := w.responder.send w.session.transport payload
    set { w with responder, session := { w.session with transport } }
    return result
  | .hasReplied => return (← get).responder.sent
  | .flush => return (← get).session.transport.flush
  | .host c => outside (world.host c)
  | .request r => outside (world.exchange r)
  | .tasks c => do
    let (store, result) ← (liftExcept (c.perform (← get).session.store world.now))
    modifySession fun s => { s with store }
    return result
  | .launch l => outside (world.launch l)
  | .processes => outside world.processes
  | .kill pid => outside (world.kill pid)
  | .hold g => do
    let (free, guards) := (← get).session.guards.acquire g
    modifySession fun s => { s with guards }
    return free
  | .release g => modifySession fun s => { s with guards := s.guards.release g }
  | .install binary => outside (world.install binary)
  | .beginStop => modifySession fun s => { s with stopping := true }
  | .exit code => outside (world.exit code)
where
  liftExcept {α : Type} : Except Abort α → Performing m α
    | .ok a => return a
    | .error e => throw e

end

end Steward.Agent
