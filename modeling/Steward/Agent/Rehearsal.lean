import Steward.Agent.Session
import Steward.Shell.Starting

/-!
Rehearsals of an agent in a described world: a host that answers as stated, programs that answer as
stated, no process but the agent, and a network in which nothing can be reached. What is done to the
world is noted.

A command can be held in front of a host call and be let go later.
-/
namespace Steward.Agent

open Steward.Bus Steward.Calendar Steward.Message Steward.Supervision

/-- What was done to the world. -/
structure Deeds where
  calls : List Host.Call
  started : List Shell.Started
  exits : List Int

def Deeds.none : Deeds := ⟨[], [], []⟩

structure Scene where
  agent : Agent
  now : Instant
  host : (c : Host.Call) → c.Answer
  programs : Shell.Programs

def ownRecord : ProcessRecord :=
  { pid := 2, ppid := 1, name := "steward", cmdline := "steward run", username := "root", membytes := 4096 }

def Scene.world (scene : Scene) : World (StateM Deeds) where
  now := scene.now
  host c := do
    modify fun d => { d with calls := d.calls ++ [c] }
    return scene.host c
  exchange _ := return .unreachable
  launch l := do
    let (result, started) := scene.programs.launch l
    modify fun d => { d with started := d.started ++ started }
    return result
  processes := return .ok [ownRecord]
  kill pid := return (Table.kill [] pid).map fun _ => ()
  install _ := return .error ["failed to create /dev/null/staging"]
  exit code := modify fun d => { d with exits := d.exits ++ [code] }

/-- A command that is held, with its responder and the subscription to its replies. -/
structure Held where
  rest : Plan Surroundings Bool
  responder : Responder
  inbox : Nat

structure Stage where
  session : Session
  held : List Held
  deeds : Deeds

/-- What is seen of a command: its replies, and whether it was aborted. -/
structure Seen where
  replies : List Wire.Bytes
  aborted : Bool

namespace Stage

def ofSession (s : Session) : Stage := ⟨s, [], .none⟩

def withBus (s : Stage) (bus : Memory) : Stage :=
  { s with session := { s.session with transport := { s.session.transport with bus } } }

def subscribe (s : Stage) (subject : String) : Stage × Nat :=
  match s.session.transport.bus.subscribe subject with
  | .ok (bus, n) => (s.withBus bus, n)
  | .error _ => (s, 0)

/-- Takes all that has come in. -/
def receiveAll (s : Stage) (inbox : Nat) : Stage × List Wire.Bytes :=
  let bus := s.session.transport.bus
  let pending := ((bus.find? inbox).map Subscription.pending).getD []
  (s.withBus (bus.update inbox fun q => { q with pending := [] }), pending.map Delivery.payload)

/-- Performs a part of a plan. -/
def perform (s : Stage) (responder : Responder) (part : Performing (StateM Deeds) α) :
    Stage × Responder × Except Abort α :=
  let ((result, w), deeds) := (part.run.run ⟨s.session, responder⟩).run s.deeds
  ({ s with session := w.session, deeds }, w.responder, result)

def replySubject : String := "replies"

/-- Delivers a message. Nothing is seen of one that is dropped. -/
def deliver (s : Stage) (scene : Scene) (payload : Wire.Bytes) (answered : Bool)
    (holdsAt : Host.Call → Bool) : Stage × Option Seen :=
  match workOn? Handler.table scene.agent payload with
  | none => (s, none)
  | some plan =>
    let subject := replySubject ++ "." ++ Text.padded 1 s.session.transport.bus.next
    let (s, inbox) := s.subscribe subject
    let stopsAt : Surroundings.Call → Bool := fun c =>
      match (c : Agent.Call) with
      | .host c => holdsAt c
      | _ => false
    let (s, responder, result) := s.perform (.new (if answered then some subject else none))
      (plan.runTo stopsAt scene.world.perform)
    let (s, replies) := s.receiveAll inbox
    match result with
    | .error _ => (s, some ⟨replies, true⟩)
    | .ok (.done _) => (s, some ⟨replies, false⟩)
    | .ok rest => ({ s with held := s.held ++ [⟨rest, responder, inbox⟩] }, some ⟨replies, false⟩)

/-- Lets all held commands end; their replies. -/
def releaseAll (s : Stage) (scene : Scene) : Stage × List Wire.Bytes :=
  s.held.foldl (fun (s, late) h =>
    let (s, _, _) := s.perform h.responder (h.rest.run scene.world.perform)
    let (s, replies) := s.receiveAll h.inbox
    (s, late ++ replies)) ({ s with held := [] }, [])

/-- Runs a job that answers no command. -/
def work (s : Stage) (scene : Scene) (job : Job α) : Stage × Except Abort (Except Chain α) :=
  let (s, _, result) := s.perform (.new none) (Plan.run scene.world.perform (ExceptT.run job))
  (s, result)

end Stage
end Steward.Agent
