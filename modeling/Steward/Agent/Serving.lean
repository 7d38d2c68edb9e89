import Steward.Agent.Rehearsal

/-!
Serving commands until the end. Messages are taken off the subscription in the order in which they
came, and each is worked on beside the others. When the subscription is closed, or the agent begins to
stop, no more messages are taken; what is still in flight has a grace to end in, and is aborted after
it.

The clock is moved from outside, by seconds, and each command takes as long as it is said to.
-/
namespace Steward.Agent

open Steward.Bus Steward.Message

def shutdownGraceSecs : Nat := 30

/-- The commands that are served: how long each takes, and what it does at the end of that time. -/
structure Repertoire where
  table : List (String × Handler)
  secs : Command → Nat

/-- A command that is worked on. -/
structure Flight where
  message : Nat
  command : Command
  due : Nat
  work : Plan Surroundings Bool
  responder : Responder

inductive Phase where
  | taking
  /-- Waits for what is in flight, until this second at most. -/
  | draining (limit : Nat)
  | ended (second : Nat)
deriving DecidableEq

/-- A command that has ended without a failure. -/
structure Finish where
  message : Nat
  command : Command
  second : Nat

structure Serving where
  stage : Stage
  second : Nat
  phase : Phase
  /-- Whether the subscription has been closed by its other end. -/
  closed : Bool
  /-- Messages that have not been taken, each with its number. -/
  pending : List (Nat × Delivery)
  inFlight : List Flight
  finished : List Finish

namespace Serving

def start (stage : Stage) : Serving := ⟨stage, 0, .taking, false, [], [], []⟩

/-- Whether nothing listens to the subscription any more. -/
def isGone (s : Serving) : Bool :=
  match s.phase with
  | .ended second => second < s.second
  | _ => false

def send (s : Serving) (number : Nat) (d : Delivery) : Serving :=
  { s with pending := s.pending ++ [(number, d)] }

def beginStop (s : Serving) : Serving :=
  { s with stage := { s.stage with session := { s.stage.session with stopping := true } } }

def close (s : Serving) : Serving := { s with closed := true }

def flight? (r : Repertoire) (a : Agent) (second number : Nat) (d : Delivery) : Option Flight := do
  let work ← workOn? r.table a d.payload
  let command : Command ← Wire.decode? d.payload
  return ⟨number, command, second + r.secs command, work, .new d.reply⟩

/-- Takes the messages that have come. -/
def take (s : Serving) (r : Repertoire) (a : Agent) : Serving :=
  { s with
    pending := []
    inFlight := s.inFlight ++ s.pending.filterMap fun (number, d) => flight? r a s.second number d }

/-- Lets a command end. -/
def land (scene : Scene) (s : Serving) (f : Flight) : Serving :=
  let (stage, _, result) := s.stage.perform f.responder (f.work.run scene.world.perform)
  let finished := match result with
    | .ok true => s.finished ++ [⟨f.message, f.command, s.second⟩]
    | _ => s.finished
  { s with stage, finished }

/-- Lets the commands end whose time has come. -/
def landDue (s : Serving) (scene : Scene) : Serving :=
  let (due, rest) := s.inFlight.partition (·.due ≤ s.second)
  due.foldl (land scene) { s with inFlight := rest }

def shift (s : Serving) : Phase :=
  let draining (limit : Nat) : Phase :=
    if s.inFlight.isEmpty || limit ≤ s.second then .ended s.second else .draining limit
  match s.phase with
  | .taking =>
    if s.closed || s.stage.session.stopping then draining (s.second + shutdownGraceSecs) else .taking
  | .draining limit => draining limit
  | .ended second => .ended second

/-- Everything that happens in the present second. -/
def settle (s : Serving) (r : Repertoire) (scene : Scene) : Serving :=
  let s := if s.phase = .taking then s.take r scene.agent else s
  let s := s.landDue scene
  let phase := s.shift
  match phase with
  | .ended _ => { s with phase, inFlight := [] }
  | _ => { s with phase }

/-- Lets some seconds pass. -/
def pass (r : Repertoire) (scene : Scene) : Nat → Serving → Serving
  | 0, s => s
  | secs + 1, s =>
    let s := s.settle r scene
    pass r scene secs ({ s with second := s.second + 1 }.settle r scene)

/-- Waits for the end of a serving that stops or is closed. -/
def conclude (s : Serving) (r : Repertoire) (scene : Scene) : Serving :=
  pass r scene shutdownGraceSecs (s.settle r scene)

/-- When the serving ended. -/
def endedAt? (s : Serving) : Option Nat :=
  match s.phase with
  | .ended second => some second
  | _ => none

end Serving
end Steward.Agent
