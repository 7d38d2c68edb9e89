import Steward.Abort
import Steward.Wire.Value

/-!
The message bus inside a process. Each subscription has a queue of its own; a message goes to every
open subscription of exactly its subject and is dropped by those whose queue is full. Publishing
always succeeds. A closed subscription gets no more messages, but keeps those in its queue.
-/
namespace Steward.Bus

open Steward.Wire

structure Delivery where
  subject : String
  /-- Where an answer is expected. -/
  reply : Option String
  payload : Bytes
deriving DecidableEq

structure Subscription where
  id : Nat
  subject : String
  /-- Undelivered messages, oldest first. -/
  pending : List Delivery
  closed : Bool
deriving DecidableEq

/-- Whether a message on this subject is put to the subscription. -/
def Subscription.hears (s : Subscription) (subject : String) : Bool := s.subject == subject && !s.closed

def Subscription.offer (s : Subscription) (capacity : Nat) (d : Delivery) : Subscription :=
  if s.hears d.subject && s.pending.length < capacity then { s with pending := s.pending ++ [d] } else s

structure Memory where
  /-- Undelivered messages that a subscription holds at most. -/
  capacity : Nat
  subscriptions : List Subscription
  /-- The number of the next subscription. -/
  next : Nat
deriving DecidableEq

/-- What a receiver finds. -/
inductive Received where
  | message (d : Delivery)
  | empty
  | closed
  | noSubscription
deriving DecidableEq

namespace Memory

def new (capacity : Nat) : Memory := ⟨capacity, [], 0⟩

def find? (b : Memory) (id : Nat) : Option Subscription := b.subscriptions.find? (·.id == id)

/-- The largest queue that there can be. -/
def maxCapacity : Nat := 0x1FFFFFFFFFFFFFFF

/-- Adds a subscription and answers its number. There is none on a bus whose queues have no room for
messages or more than a queue can have. -/
def subscribe (b : Memory) (subject : String) : Except Abort (Memory × Nat) :=
  if b.capacity = 0 || maxCapacity < b.capacity then .error .noCapacity
  else .ok ({ b with subscriptions := b.subscriptions ++ [⟨b.next, subject, [], false⟩], next := b.next + 1 },
    b.next)

def publish (b : Memory) (d : Delivery) : Memory :=
  { b with subscriptions := b.subscriptions.map (·.offer b.capacity d) }

def update (b : Memory) (id : Nat) (change : Subscription → Subscription) : Memory :=
  { b with subscriptions := b.subscriptions.map fun s => if s.id = id then change s else s }

/-- Takes the oldest message out of a queue. -/
def receive (b : Memory) (id : Nat) : Memory × Received :=
  match b.find? id with
  | none => (b, .noSubscription)
  | some s =>
    match s.pending with
    | d :: rest => (b.update id fun s => { s with pending := rest }, .message d)
    | [] => (b, if s.closed then .closed else .empty)

def close (b : Memory) (id : Nat) : Memory := b.update id fun s => { s with closed := true }

def drop (b : Memory) (id : Nat) : Memory :=
  { b with subscriptions := b.subscriptions.filter (·.id != id) }

/-- Closes all subscriptions of a subject. -/
def closeSubject (b : Memory) (subject : String) : Memory :=
  { b with subscriptions := b.subscriptions.map fun s =>
      if s.subject = subject then { s with closed := true } else s }

def subscriberCount (b : Memory) (subject : String) : Nat := b.subscriptions.countP (·.hears subject)

/-- Sends a request and waits for the first answer in a fresh inbox. Of the surroundings it is given
when the first answer comes, if one does; an answer at the deadline is too late. Afterwards nobody
hears the inbox. -/
def request (b : Memory) (subject inbox : String) (payload : Bytes) (waitMs : Nat)
    (answer : Option (Nat × Bytes)) : Except Abort (Memory × Option Bytes) := do
  let (b, id) ← b.subscribe inbox
  let b := b.publish ⟨subject, some inbox, payload⟩
  let b := match answer with
    | some (afterMs, bytes) => if afterMs < waitMs then b.publish ⟨inbox, none, bytes⟩ else b
    | none => b
  let (b, received) := b.receive id
  let b := (b.closeSubject inbox).drop id
  match received with
  | .message d => return (b, some d.payload)
  | _ => return (b, none)

end Memory
end Steward.Bus
