import Steward.Bus.Responder

/-!
What is done with a message bus, step by step, and what it answers. A request is a course of such
steps: it subscribes to its inbox, publishes, receives or gives up, and retires; others may do theirs
between them.
-/
namespace Steward.Bus

/-- A subscription goes by its number. -/
inductive Step where
  | subscribe (subject : String)
  | publish (d : Delivery)
  | receive (id : Nat)
  /-- The receiver takes no more messages. -/
  | close (id : Nat)
  /-- The receiver is dropped. -/
  | drop (id : Nat)
  /-- The inbox of a request is taken off the bus, and then its receiver is dropped. -/
  | retire (inbox : String) (id : Nat)
  | count (subject : String)
deriving DecidableEq

inductive Answer where
  | subscribed (id : Nat)
  | aborted (reason : Abort)
  | published (result : Except TransportError Unit)
  | received (r : Received)
  | done
  | counted (n : Nat)

section
variable {β : Type} (serve : β → Step → β × Answer)

/-- A bus after some steps. -/
def stateAfter (b : β) (steps : List Step) : β := steps.foldl (fun b step => (serve b step).1) b

def answersOf (b : β) : List Step → List Answer
  | [] => []
  | step :: rest => (serve b step).2 :: answersOf (serve b step).1 rest

end

namespace Memory

def serve (b : Memory) : Step → Memory × Answer
  | .subscribe subject =>
    match b.subscribe subject with
    | .ok (after, id) => (after, .subscribed id)
    | .error reason => (b, .aborted reason)
  | .publish d => (b.publish d, .published (.ok ()))
  | .receive id => ((b.receive id).1, .received (b.receive id).2)
  | .close id => (b.close id, .done)
  | .drop id => (b.drop id, .done)
  | .retire inbox id => ((b.closeSubject inbox).drop id, .done)
  | .count subject => (b, .counted (b.subscriberCount subject))

def after (b : Memory) (steps : List Step) : Memory := stateAfter serve b steps

def answers (b : Memory) (steps : List Step) : List Answer := answersOf serve b steps

end Memory
end Steward.Bus
