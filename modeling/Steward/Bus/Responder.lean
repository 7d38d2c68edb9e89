import Steward.Bus.Memory

/-!
Replies to one message. A responder sends at most once, whichever of its holders does so first; a
later send, and any send without a reply subject, does nothing. A send whose publishing fails counts
as the one.
-/
namespace Steward.Bus

open Steward.Wire

inductive TransportError where
  | publish (subject reason : String)
  | flush (reason : String)
  | timeout (inbox : String)
deriving DecidableEq

def TransportError.message : TransportError → String
  | publish subject reason => "failed to publish to " ++ subject ++ ": " ++ reason
  | flush reason => "flush failed: " ++ reason
  | timeout inbox => "no reply on " ++ inbox ++ " before the deadline"

/-- The bus behind a link that may be down for publishing or for flushing, each with the reason. -/
structure Transport where
  bus : Memory
  publishFault : Option String
  flushFault : Option String
deriving DecidableEq

namespace Transport

def publish (t : Transport) (subject : String) (payload : Bytes) : Except TransportError Transport :=
  match t.publishFault with
  | some reason => .error (.publish subject reason)
  | none => .ok { t with bus := t.bus.publish ⟨subject, none, payload⟩ }

def flush (t : Transport) : Except TransportError Unit :=
  match t.flushFault with
  | some reason => .error (.flush reason)
  | none => .ok ()

end Transport

structure Responder where
  replyTo : Option String
  sent : Bool
deriving DecidableEq

namespace Responder

def new (replyTo : Option String) : Responder := ⟨replyTo, false⟩

/-- The subject to which a send now would go. -/
def target? (r : Responder) : Option String := if r.sent then none else r.replyTo

/-- The responder and the transport after the send, and whether something was sent. -/
def send (r : Responder) (t : Transport) (payload : Bytes) :
    Responder × Transport × Except TransportError Bool :=
  match r.target? with
  | none => (r, t, .ok false)
  | some subject =>
    let r := { r with sent := true }
    match t.publish subject payload with
    | .ok t => (r, t, .ok true)
    | .error e => (r, t, .error e)

/-- As `send`, and flushes the transport after a send that did not fail. -/
def sendAndFlush (r : Responder) (t : Transport) (payload : Bytes) :
    Responder × Transport × Except TransportError Bool :=
  match r.send t payload with
  | (r, t, .error e) => (r, t, .error e)
  | (r, t, .ok sent) => (r, t, t.flush.map fun () => sent)

end Responder
end Steward.Bus
