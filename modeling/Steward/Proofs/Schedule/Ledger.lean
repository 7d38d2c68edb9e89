import Mathlib.Data.List.Perm.Basic
import Steward.Proofs.Schedule.CalendarEnd
import Steward.Proofs.Schedule.TickEffect

/-!
Sessions of the runner, with a ledger of what stems from which registration. A run in flight and a
result carry the era of their name, the number of its registrations at the time when the run was
launched or skipped. The steps act on the runner as the agent does and the ledger only looks on: that it
tells the truth about the table and the history is `Faithful`, for every session.
-/
namespace Steward.Schedule
open Steward.Calendar

inductive Step where
  | create (task : Task) (now : Instant)
  | delete (name : String)
  | cleanup
  | enable (name : String) (flag : Bool) (now : Instant)
  | tick (now : Instant)
  /-- The end of a launched run, given by its place among those in flight. -/
  | complete (place : Nat) (outcome : RunEnd) (durationMs : UInt64)

structure Dated (α : Type) where
  value : α
  era : Nat

structure Ledger where
  runner : Runner
  /-- How often each name has been registered. -/
  eras : String → Nat
  flights : List (Dated Run)
  /-- The records of each name, newest first. -/
  results : String → List (Dated RunRecord)
  /-- The result that came last since the name was registered. -/
  latest : String → Option (Dated RunRecord)

def Run.record (run : Run) (outcome : RunEnd) (durationMs : UInt64) : RunRecord :=
  { taskName := run.name, startedAt := run.startedAt, durationMs, status := outcome.status,
    exitCode := outcome.exitCode, error := outcome.error }

namespace Ledger

def start (ownedStart : String) : Ledger :=
  { runner := .ofStore (.empty ownedStart), eras := fun _ => 0, flights := []
    results := fun _ => [], latest := fun _ => none }

def withStore (l : Ledger) (s : Store) : Ledger := { l with runner := { l.runner with store := s } }

def forget (l : Ledger) (names : List String) : Ledger :=
  { l with
    results := fun n => if n ∈ names then [] else l.results n
    latest := fun n => if n ∈ names then none else l.latest n }

def note (l : Ledger) (name : String) (result : Dated RunRecord) : Ledger :=
  { l with
    results := fun n =>
      if n = name then (result :: l.results n).take historyLimit else l.results n
    latest := fun n => if n = name then some result else l.latest n }

def register (l : Ledger) (name : String) : Ledger :=
  { l with
    eras := fun n => if n = name then l.eras n + 1 else l.eras n
    latest := fun n => if n = name then none else l.latest n }

def look (l : Ledger) (now : Instant) (after : Runner) (report : TickReport) : Ledger :=
  let skipped (n : String) : Dated RunRecord := ⟨(Runner.skippedRecord n now).stored, l.eras n⟩
  let started := after.inFlight.drop l.runner.inFlight.length
  { runner := after
    eras := l.eras
    flights := l.flights ++ started.map fun run => ⟨run, l.eras run.name⟩
    results := fun n =>
      if n ∈ report.reclaimed then []
      else if n ∈ report.skipped then (skipped n :: l.results n).take historyLimit
      else l.results n
    latest := fun n =>
      if n ∈ report.reclaimed then none
      else if n ∈ report.skipped then some (skipped n)
      else l.latest n }

def perform (l : Ledger) : Step → Except Abort Ledger
  | .create task now =>
    match l.runner.store.create task now with
    | .error _ => .ok l
    | .ok s => .ok ((l.register task.name).withStore s)
  | .delete name => .ok ((l.forget [name]).withStore (l.runner.store.delete name).1)
  | .cleanup =>
    .ok ((l.forget (l.runner.store.list.filter l.runner.store.owns)).withStore l.runner.store.cleanup.1)
  | .enable name flag now =>
    match l.runner.store.enable name flag now with
    | .error _ => .ok l
    | .ok s => .ok (l.withStore s)
  | .tick now =>
    match l.runner.tick now with
    | .error abort => .error abort
    | .ok (after, report) => .ok (l.look now after report)
  | .complete place outcome durationMs =>
    match l.flights[place]? with
    | none => .ok l
    | some flight =>
      let run := flight.value
      .ok
        { l.note run.name ⟨(run.record outcome durationMs).stored, flight.era⟩ with
          runner := l.runner.finish run outcome durationMs
          flights := l.flights.eraseIdx place }

def states (l : Ledger) : List Step → List Ledger
  | [] => [l]
  | step :: rest =>
    match l.perform step with
    | .error _ => [l]
    | .ok next => l :: next.states rest

def moments (l : Ledger) : List Step → List (Ledger × Step)
  | [] => []
  | step :: rest =>
    match l.perform step with
    | .error _ => [(l, step)]
    | .ok next => (l, step) :: next.moments rest

end Ledger

def RunState.Shows (s : RunState) : Option RunRecord → Prop
  | none => s.lastStatus = none ∧ s.lastDurationMs = none ∧ s.lastError = none
  | some r => s.lastStatus = some r.status ∧ s.lastDurationMs = some r.durationMs ∧ s.lastError = r.error

theorem settledEntry_shows {e left : Entry} {now : Instant} {next : Option Instant} {verdict : Fate}
    {shown : Option RunRecord} (entry : settledEntry e now next verdict = some left)
    (before : e.state.Shows shown) : left.state.Shows
      (if verdict = .skipped then some (Runner.skippedRecord e.name now).stored else shown) := by
  cases verdict with
  | reclaimed => cases entry
  | skipped =>
    cases entry
    exact ⟨rfl, rfl, rfl⟩
  | untouched =>
    cases entry
    exact before
  | missed =>
    cases entry
    cases shown <;> exact before
  | launched =>
    cases entry
    cases shown <;> exact before

namespace Ledger

structure Faithful (l : Ledger) : Prop where
  healthy : l.runner.store.Healthy
  flights : (l.flights.map Dated.value).Perm l.runner.inFlight
  results : ∀ n, (l.results n).map Dated.value = l.runner.store.facility.runsOf n
  latest : ∀ n e, l.runner.store.facility.get? n = some e →
    e.state.Shows ((l.latest n).map Dated.value)

theorem start_faithful (ownedStart : String) : (start ownedStart).Faithful := by
  refine ⟨rfl, List.Perm.nil, fun n => rfl, fun n e found => ?_⟩
  cases found

section
variable {l next : Ledger} (faithful : l.Faithful)
include faithful

theorem create_faithful {task : Task} {now : Instant} (done : l.perform (.create task now) = .ok next) :
    next.Faithful := by
  simp only [perform] at done
  split at done
  · cases done
    exact faithful
  · rename_i s created
    cases done
    obtain ⟨-, healthy, views⟩ := Store.create_spec faithful.healthy created
    refine ⟨healthy, faithful.flights, fun n => ?_, fun n e found => ?_⟩
    · exact (faithful.results n).trans (views n).2.symm
    · have view := (views n).1.symm.trans found
      by_cases here : n = task.name
      · simp only [here, if_true, Option.some.injEq] at view
        subst view
        simp [withStore, register, here, RunState.Shows, RunState.fresh]
      · simp only [here, if_false] at view
        simpa [withStore, register, here] using faithful.latest n e view

theorem forget_faithful {names : List String} {s : Store} (healthy : s.Healthy)
    (views : ∀ n, s.facility.get? n = (if n ∈ names then none else l.runner.store.facility.get? n) ∧
      s.facility.runsOf n = if n ∈ names then [] else l.runner.store.facility.runsOf n) :
    ((l.forget names).withStore s).Faithful := by
  refine ⟨healthy, faithful.flights, fun n => ?_, fun n e found => ?_⟩
  · refine Eq.trans ?_ (views n).2.symm
    by_cases gone : n ∈ names <;> simp [withStore, forget, gone, faithful.results]
  · have view := (views n).1.symm.trans found
    by_cases gone : n ∈ names
    · simp [gone] at view
    · simp only [gone, if_false] at view
      simpa [withStore, forget, gone] using faithful.latest n e view

theorem delete_faithful {name : String} (done : l.perform (.delete name) = .ok next) :
    next.Faithful := by
  cases done
  obtain ⟨healthy, views⟩ := Store.delete_spec faithful.healthy name
  exact forget_faithful faithful healthy fun n => by simpa using views n

theorem cleanup_faithful (done : l.perform .cleanup = .ok next) : next.Faithful := by
  cases done
  obtain ⟨healthy, views⟩ := Store.removeEach_spec faithful.healthy
    (l.runner.store.list.filter l.runner.store.owns)
  rw [← Store.cleanup_eq faithful.healthy] at healthy views
  exact forget_faithful faithful healthy views

theorem enable_faithful {name : String} {flag : Bool} {now : Instant}
    (done : l.perform (.enable name flag now) = .ok next) : next.Faithful := by
  simp only [perform] at done
  split at done
  · cases done
    exact faithful
  · rename_i s changed
    cases done
    obtain ⟨healthy, fires, views⟩ := Store.enable_spec faithful.healthy changed
    refine ⟨healthy, faithful.flights, fun n => ?_, fun n e found => ?_⟩
    · exact (faithful.results n).trans (views n).2.symm
    · have view := (views n).1.symm.trans found
      by_cases here : n = name
      · simp only [here, if_true, Option.map_eq_some_iff] at view
        obtain ⟨x, before, rfl⟩ := view
        exact faithful.latest n x (here ▸ before)
      · simp only [here, if_false] at view
        exact faithful.latest n e view

theorem look_of_tick {now : Instant} (done : l.perform (.tick now) = .ok next) :
    ∃ after, l.runner.Settled now l.runner.store.facility.entries after ∧
      next = l.look now after (l.runner.reportOf now) := by
  simp only [perform] at done
  split at done
  · cases done
  · rename_i after report run
    have inside := (tick_completes_iff now (Store.entries_eq faithful.healthy)).1 ⟨_, run⟩
    obtain ⟨after, again, settled⟩ := @Runner.tick_settled l.runner now faithful.healthy inside
    cases run.symm.trans again
    cases done
    exact ⟨after, settled, rfl⟩

theorem tick_faithful {now : Instant} (done : l.perform (.tick now) = .ok next) : next.Faithful := by
  obtain ⟨after, settled, rfl⟩ := look_of_tick faithful done
  refine ⟨settled.faults.trans faithful.healthy, ?_, fun n => ?_, fun n e found => ?_⟩
  · simp only [look, settled.inFlight, List.drop_left, List.map_append, List.map_map]
    refine List.Perm.append faithful.flights (List.Perm.of_eq ?_)
    rfl
  · refine Eq.trans ?_ (Runner.runsOf_of_settled settled n).symm
    rw [← faithful.results n]
    simp only [look, apply_ite (List.map Dated.value), List.map_take, List.map_cons, List.map_nil]
  · have view := (Runner.get?_of_settled settled n).symm.trans found
    obtain ⟨x, before, entry⟩ := Option.bind_eq_some_iff.1 view
    have reclaimed := @Runner.mem_names_reportOf l.runner now .reclaimed n
    have skipped := @Runner.mem_names_reportOf l.runner now .skipped n
    simp only [TickReport.names, before, Option.some.injEq, exists_eq_left', ne_eq, reduceCtorEq,
      not_false_eq_true, true_and] at reclaimed skipped
    have shows := settledEntry_shows entry (faithful.latest n x before)
    have named : x.name = n := ((Facility.get?_eq_some_iff _ n x).1 before).2
    rw [named] at shows
    have kept : fate (l.runner.running.count n) now x ≠ .reclaimed := fun doomed => by
      rw [doomed] at entry
      cases entry
    simp only [look, reclaimed, skipped, kept, if_false]
    split
    · rename_i passed
      rwa [if_pos passed] at shows
    · rename_i passed
      rwa [if_neg passed] at shows

omit faithful in
theorem finish_store (healthy : l.runner.store.Healthy) (run : Run) (outcome : RunEnd)
    (durationMs : UInt64) : (l.runner.finish run outcome durationMs).store =
      { l.runner.store with
        facility := l.runner.store.facility.recordResult (run.record outcome durationMs) } :=
  congrArg (Runner.orKeep l.runner.store)
    (Store.recordResult_eq healthy (run.record outcome durationMs))

theorem complete_faithful {place : Nat} {outcome : RunEnd} {durationMs : UInt64}
    (done : l.perform (.complete place outcome durationMs) = .ok next) : next.Faithful := by
  simp only [perform] at done
  split at done
  · cases done
    exact faithful
  · rename_i flight here
    cases done
    have store := finish_store faithful.healthy flight.value outcome durationMs
    refine ⟨?_, ?_, fun n => ?_, fun n e found => ?_⟩
    · rw [Store.Healthy, store]
      exact faithful.healthy
    · obtain ⟨inside, rfl⟩ := List.getElem?_eq_some_iff.1 here
      have out := (List.getElem_cons_eraseIdx_perm inside).map Dated.value
      have less := (out.trans faithful.flights).erase l.flights[place].value
      simpa [note, Runner.finish] using less
    · simp only [store]
      rw [Facility.runsOf_recordResult, ← faithful.results]
      by_cases owned : n = flight.value.name
      · simp [note, owned, Run.record, List.map_take]
      · simp [note, owned, Run.record]
    · simp only [store, Facility.get?_recordResult] at found
      by_cases owned : n = flight.value.name
      · simp only [Run.record, owned, if_true, Option.map_eq_some_iff] at found
        obtain ⟨x, before, rfl⟩ := found
        simp [note, owned, RunState.Shows, Entry.withResult, Run.record, RunRecord.stored]
      · simp only [Run.record, owned, if_false] at found
        simpa [note, owned] using faithful.latest n e found

end

theorem perform_faithful {l next : Ledger} (faithful : l.Faithful) {step : Step}
    (done : l.perform step = .ok next) : next.Faithful := by
  cases step with
  | create task now => exact create_faithful faithful done
  | delete name => exact delete_faithful faithful done
  | cleanup => exact cleanup_faithful faithful done
  | enable name flag now => exact enable_faithful faithful done
  | tick now => exact tick_faithful faithful done
  | complete place outcome durationMs => exact complete_faithful faithful done

theorem mem_states_self (l : Ledger) (steps : List Step) : l ∈ l.states steps := by
  cases steps with
  | nil => simp [states]
  | cons step rest =>
    simp only [states]
    split <;> simp

theorem mem_states_of_mem_moments {l : Ledger} {steps : List Step} {m : Ledger × Step}
    (mem : m ∈ l.moments steps) : m.1 ∈ l.states steps := by
  induction steps generalizing l with
  | nil => cases mem
  | cons step rest ih =>
    simp only [moments, states] at mem ⊢
    split at mem
    · rw [List.mem_singleton.1 mem]
      exact List.mem_singleton_self l
    · rcases List.mem_cons.1 mem with rfl | later
      · exact List.mem_cons_self
      · exact List.mem_cons_of_mem l (ih later)

/-- The ledger is right in every state of every session. -/
theorem states_faithful {l : Ledger} (faithful : l.Faithful) (steps : List Step) :
    ∀ x ∈ l.states steps, x.Faithful := by
  induction steps generalizing l with
  | nil => simpa [states] using faithful
  | cons step rest ih =>
    simp only [states]
    split
    · simpa using faithful
    · rename_i next done
      rw [List.forall_mem_cons]
      exact ⟨faithful, ih (perform_faithful faithful done)⟩

end Ledger
end Steward.Schedule
