import Steward.Bus.Responder

/-!
A board with names for the subscriptions and responders of a bus. Taking a name again frees it of what
it stood for, after the new one is there. A responder that is shared has two names and still sends
once.
-/
namespace Steward.Bus

open Steward.Wire

structure Board where
  transport : Transport
  /-- The numbers of the subscriptions by name. -/
  held : List (String × Nat)
  responders : List Responder
  /-- Places in `responders`. -/
  names : List (String × Nat)

namespace Board

def ofTransport (t : Transport) : Board := ⟨t, [], [], []⟩

def bus (b : Board) : Memory := b.transport.bus

def withBus (b : Board) (bus : Memory) : Board := { b with transport := { b.transport with bus } }

/-- Does something to the subscription of a name, if there is one. -/
def onHeld (b : Board) (name : String) (change : Memory → Nat → Memory) : Board :=
  match b.held.lookup name with
  | some n => b.withBus (change b.bus n)
  | none => b

def subscribe (b : Board) (name subject : String) : Except Abort Board := do
  let (bus, n) ← b.bus.subscribe subject
  let b := (b.withBus bus).onHeld name Memory.drop
  return { b with held := (name, n) :: b.held.filter (·.1 != name) }

def receive (b : Board) (name : String) : Board × Received :=
  match b.held.lookup name with
  | none => (b, .noSubscription)
  | some n =>
    let (bus, received) := b.bus.receive n
    (b.withBus bus, received)

def close (b : Board) (name : String) : Board := b.onHeld name Memory.close

/-- Whether there was a subscription to drop. -/
def drop (b : Board) (name : String) : Board × Bool :=
  let dropped := b.onHeld name Memory.drop
  ({ dropped with held := b.held.filter (·.1 != name) }, (b.held.lookup name).isSome)

def named (b : Board) (name : String) (place : Nat) : Board :=
  { b with names := (name, place) :: b.names.filter (·.1 != name) }

def respond (b : Board) (name : String) (replyTo : Option String) : Board :=
  { b with responders := b.responders ++ [Responder.new replyTo] }.named name b.responders.length

/-- Gives the responder of a name another name as well. -/
def share (b : Board) (name other : String) : Board :=
  match b.names.lookup name with
  | some place => b.named other place
  | none => b

def responder? (b : Board) (name : String) : Option Responder :=
  (b.names.lookup name).bind fun place => b.responders[place]?

/-- Sends through the responder of a name, if there is one. -/
def send (b : Board) (name : String) (flush : Bool) (payload : Bytes) :
    Board × Option (Except TransportError Bool) :=
  match b.names.lookup name, b.responder? name with
  | some place, some r =>
    let (r, transport, result) :=
      if flush then r.sendAndFlush b.transport payload else r.send b.transport payload
    ({ b with transport, responders := b.responders.set place r }, some result)
  | _, _ => (b, none)

end Board
end Steward.Bus
