import Steward.Schedule.Service

/-!
Rehearsals of the runner against a clock that is set. How a run ends is known beforehand; it ends at
once, unless its task is gated: then it ends when it is let pass.
-/
namespace Steward.Schedule

open Steward.Calendar

structure Rehearsal where
  service : Service
  now : Instant
  /-- Tasks whose runs end only when they are let pass. -/
  gated : List String
  /-- Runs that may end although their task is gated. -/
  passes : Tally
  launched : List (String × Instant)

namespace Rehearsal

def start (store : Store) (gated : List String) (now : Instant) : Except Abort Rehearsal := do
  return { service := ← Service.start (.ofStore store) now, now, gated, passes := [], launched := [] }

def runner (h : Rehearsal) : Runner := h.service.runner

def store (h : Rehearsal) : Store := h.runner.store

def withRunner (h : Rehearsal) (r : Runner) : Rehearsal :=
  { h with service := { h.service with runner := r } }

def withStore (h : Rehearsal) (s : Store) : Rehearsal := h.withRunner { h.runner with store := s }

/-- Ends the runs that nothing holds back; how each ended may add to what is noted. -/
def endRuns (h : Rehearsal) (ending : Run → StateM σ RunEnd) : StateM σ Rehearsal :=
  h.runner.inFlight.foldlM (fun h run => do
    let held := h.gated.contains run.name
    if held && h.passes.count run.name = 0 then return h
    else
      let outcome ← ending run
      return { h.withRunner (h.runner.finish run outcome 0) with
               passes := if held then h.passes.drop run.name else h.passes }) h

/-- A tick with the clock at `now`. Its runs are launched, and none has ended yet. -/
def tick (h : Rehearsal) (now : Instant) : Except Abort (Rehearsal × TickReport) := do
  let (r, report) ← h.runner.tick now
  let runs := r.inFlight.drop h.runner.inFlight.length
  return ({ h.withRunner r with now, launched := h.launched ++ runs.map fun run => (run.name, now) }, report)

def letPass (h : Rehearsal) (name : String) : Rehearsal := { h with passes := h.passes.add name }

/-- Lets the service loop go on for some seconds. -/
def advance (h : Rehearsal) (behave : Behaviour) (secs : Nat) : Except Abort (Rehearsal × List Run) := do
  let (service, runs) ← h.service.advanceSecs behave secs
  return ({ h with service, now := ← service.now }, runs)

/-- Tells the service loop that tasks were changed. -/
def tell (h : Rehearsal) : Except Abort Rehearsal := do
  return { h with service := ← h.service.settle }

end Rehearsal
end Steward.Schedule
