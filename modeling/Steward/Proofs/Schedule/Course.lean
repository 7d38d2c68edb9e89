import Steward.Proofs.Schedule.CalendarEnd
import Steward.Proofs.Schedule.Calls
import Steward.Proofs.Schedule.Ledger

/-!
The course of a runner under all that can happen to it: the steps of a session, calls of the store that
fail, results that come from an earlier runner, and a restart over the same store. Each event leads to a
state, also a tick that aborts: what its visits had done by then stays done.
-/
namespace Steward.Schedule
open Steward.Calendar

inductive Event where
  | step (step : Step)
  /-- Other connections and calls fail from now on. -/
  | fail (faults : Faults)
  /-- A run that an earlier runner launched reports its result. -/
  | late (record : RunRecord)
  /-- A new runner takes over the store. -/
  | restart

namespace Runner

def visitUntilAbort (r : Runner) (report : TickReport) (now : Instant) :
    List Entry → Runner × TickReport
  | [] => (r, report)
  | e :: es =>
    match r.visit report e now with
    | .error _ => (r, report)
    | .ok (mid, report) => mid.visitUntilAbort report now es

/-- A tick as far as it gets. -/
def tickUntilAbort (r : Runner) (now : Instant) : Runner × TickReport :=
  match r.store.entries with
  | .error _ => (r, .empty)
  | .ok es => r.visitUntilAbort .empty now es

theorem visitUntilAbort_of_visitAll {r : Runner} {report : TickReport} {now : Instant}
    {es : List Entry} {x : Runner × TickReport} (done : r.visitAll report now es = .ok x) :
    r.visitUntilAbort report now es = x := by
  induction es generalizing r report with
  | nil => exact Except.ok.inj done
  | cons e es ih =>
    simp only [visitUntilAbort]
    cases visited : r.visit report e now with
    | error abort => simp [visitAll, visited, bind, Except.bind] at done
    | ok y =>
      simp only [visitAll, visited, bind, Except.bind] at done
      exact ih done

theorem tickUntilAbort_of_tick {r : Runner} {now : Instant} {x : Runner × TickReport}
    (done : r.tick now = .ok x) : r.tickUntilAbort now = x := by
  cases read : r.store.entries with
  | error e =>
    simp only [tick, tickUntilAbort, read] at done ⊢
    exact Except.ok.inj done
  | ok es =>
    simp only [tick, tickUntilAbort, read] at done ⊢
    exact visitUntilAbort_of_visitAll done

section
variable {now : Instant} {p : Runner → Prop}
  (visit : ∀ r report e x, p r → Runner.visit r report e now = .ok x → p x.1)
include visit

theorem visitUntilAbort_invariant {r : Runner} (holds : p r) (report : TickReport) (es : List Entry) :
    p (r.visitUntilAbort report now es).1 := by
  induction es generalizing r report with
  | nil => exact holds
  | cons e es ih =>
    simp only [visitUntilAbort]
    split
    · exact holds
    · rename_i mid left done
      exact ih (visit r report e _ holds done) left

theorem tickUntilAbort_invariant {r : Runner} (holds : p r) : p (r.tickUntilAbort now).1 := by
  simp only [tickUntilAbort]
  split
  · exact holds
  · exact visitUntilAbort_invariant visit holds .empty _

end

def withStore (r : Runner) (s : Store) : Runner := { r with store := s }

def perform (r : Runner) : Event → Runner
  | .step (.create task now) => r.withStore (orKeep r.store (r.store.create task now))
  | .step (.delete name) => r.withStore (r.store.delete name).1
  | .step .cleanup => r.withStore r.store.cleanup.1
  | .step (.enable name flag now) => r.withStore (orKeep r.store (r.store.enable name flag now))
  | .step (.tick now) => (r.tickUntilAbort now).1
  | .step (.complete place outcome durationMs) =>
    match r.inFlight[place]? with
    | none => r
    | some run => r.finish run outcome durationMs
  | .fail faults => r.withStore { r.store with faults }
  | .late record => r.withStore (orKeep r.store (r.store.recordResult record))
  | .restart => .ofStore r.store

def after (r : Runner) (events : List Event) : Runner := events.foldl perform r

/-- The events of a course, each with the state in which it comes. -/
def moments (r : Runner) : List Event → List (Runner × Event)
  | [] => []
  | event :: rest => (r, event) :: (r.perform event).moments rest

def launches (r : Runner) : Event → List String
  | .step (.tick now) => (r.tickUntilAbort now).2.launched
  | _ => []

def launchesOf (r : Runner) (n : String) (events : List Event) : List (Runner × Event) :=
  (r.moments events).filter fun m => n ∈ m.1.launches m.2

theorem after_append (r : Runner) (early late : List Event) :
    r.after (early ++ late) = (r.after early).after late := List.foldl_append

/-- What every event keeps, under a condition on the event, a course keeps. -/
theorem after_of_perform {p : Runner → Prop} {allowed : Event → Prop}
    (step : ∀ r event, p r → allowed event → p (r.perform event)) {r : Runner} {events : List Event}
    (holds : p r) (all : ∀ event ∈ events, allowed event) : p (r.after events) := by
  induction events generalizing r with
  | nil => exact holds
  | cons event rest ih =>
    obtain ⟨first, later⟩ := List.forall_mem_cons.1 all
    exact ih (step r event holds first) later

theorem launchesOf_cons_of_mem {r : Runner} {n : String} {event : Event} (listed : n ∈ r.launches event)
    (rest : List Event) :
    r.launchesOf n (event :: rest) = (r, event) :: (r.perform event).launchesOf n rest :=
  List.filter_cons_of_pos (by simpa using listed)

theorem launchesOf_cons_of_not_mem {r : Runner} {n : String} {event : Event}
    (idle : n ∉ r.launches event) (rest : List Event) :
    r.launchesOf n (event :: rest) = (r.perform event).launchesOf n rest :=
  List.filter_cons_of_neg (by simpa using idle)

theorem mem_of_mem_moments {r : Runner} {events : List Event} {m : Runner × Event}
    (mem : m ∈ r.moments events) : m.2 ∈ events := by
  induction events generalizing r with
  | nil => cases mem
  | cons event rest ih =>
    rcases List.mem_cons.1 mem with rfl | later
    · exact List.mem_cons_self
    · exact List.mem_cons_of_mem event (ih later)

end Runner
end Steward.Schedule
