import Steward.Bus.Traffic

/-!
The message bus as it is kept: the queues, and for each subject its lines, the numbers of the queues to
which its messages are sent. A line to a receiver that is gone or takes no more messages stays until
the next message on the subject; taking all lines of a subject off the board ends its subscriptions.
-/
namespace Steward.Bus

structure Channel where
  /-- Undelivered messages, oldest first. -/
  waiting : List Delivery
  closed : Bool
  dropped : Bool
deriving DecidableEq

inductive SendError where
  | full
  | closed

namespace Channel

def fresh : Channel := ⟨[], false, false⟩

def isClosed (c : Channel) : Bool := c.closed || c.dropped

def trySend (c : Channel) (capacity : Nat) (d : Delivery) : Except SendError Channel :=
  if c.isClosed then .error .closed
  else if c.waiting.length < capacity then .ok { c with waiting := c.waiting ++ [d] }
  else .error .full

/-- A send of which nobody asks how it went. -/
def send (c : Channel) (capacity : Nat) (d : Delivery) : Channel :=
  match c.trySend capacity d with
  | .ok c => c
  | .error _ => c

end Channel

structure Switchboard where
  capacity : Nat
  /-- A queue has its place here as its number. -/
  channels : List Channel
  lines : List (String × List Nat)
deriving DecidableEq

namespace Switchboard

def new (capacity : Nat) : Switchboard := ⟨capacity, [], []⟩

/-- There is no queue of that number, or none that takes messages. -/
def isClosed (b : Switchboard) (n : Nat) : Bool := (b.channels[n]?).all Channel.isClosed

def linesOf (b : Switchboard) (subject : String) : List Nat := (b.lines.lookup subject).getD []

def withLines (b : Switchboard) (subject : String) (ns : List Nat) : Switchboard :=
  { b with lines := (subject, ns) :: b.lines.filter (·.1 != subject) }

def modify (b : Switchboard) (n : Nat) (change : Channel → Channel) : Switchboard :=
  { b with channels := b.channels.modify n change }

def subscribe (b : Switchboard) (subject : String) : Switchboard × Answer :=
  if b.capacity = 0 || Memory.maxCapacity < b.capacity then (b, .aborted .noCapacity)
  else
    ({ b.withLines subject (b.linesOf subject ++ [b.channels.length]) with
       channels := b.channels ++ [.fresh] }, .subscribed b.channels.length)

/-- Drops the lines that lead nowhere, and sends along the others, whether or not there is room. -/
def publish (b : Switchboard) (d : Delivery) : Switchboard × Except TransportError Unit :=
  match b.lines.lookup d.subject with
  | none => (b, .ok ())
  | some ns =>
    let open_ := ns.filter (!b.isClosed ·)
    (open_.foldl (fun b n => b.modify n (·.send b.capacity d)) (b.withLines d.subject open_), .ok ())

def receive (b : Switchboard) (n : Nat) : Switchboard × Received :=
  match b.channels[n]? with
  | none => (b, .noSubscription)
  | some c =>
    if c.dropped then (b, .noSubscription)
    else match c.waiting with
      | d :: rest => (b.modify n ({ · with waiting := rest }), .message d)
      | [] => (b, if c.closed || b.lines.all (!·.2.contains n) then .closed else .empty)

def close (b : Switchboard) (n : Nat) : Switchboard := b.modify n ({ · with closed := true })

def drop (b : Switchboard) (n : Nat) : Switchboard :=
  b.modify n ({ · with waiting := [], dropped := true })

def hangUp (b : Switchboard) (subject : String) : Switchboard :=
  { b with lines := b.lines.filter (·.1 != subject) }

def subscriberCount (b : Switchboard) (subject : String) : Nat :=
  (b.linesOf subject).countP (!b.isClosed ·)

def serve (b : Switchboard) : Step → Switchboard × Answer
  | .subscribe subject => b.subscribe subject
  | .publish d => ((b.publish d).1, .published (b.publish d).2)
  | .receive n => ((b.receive n).1, .received (b.receive n).2)
  | .close n => (b.close n, .done)
  | .drop n => (b.drop n, .done)
  | .retire inbox n => ((b.hangUp inbox).drop n, .done)
  | .count subject => (b, .counted (b.subscriberCount subject))

def after (b : Switchboard) (steps : List Step) : Switchboard := stateAfter serve b steps

def answers (b : Switchboard) (steps : List Step) : List Answer := answersOf serve b steps

end Switchboard
end Steward.Bus
