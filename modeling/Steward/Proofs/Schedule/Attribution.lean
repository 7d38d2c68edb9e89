import Steward.Proofs.Schedule.Lateness
import Steward.Proofs.Schedule.Ledger

/-!
To which registration the results of a name belong. A removal does not end the runs of its task, and a
run that ends later reports under its name whatever is registered there by then. The results belong to
the registered tasks exactly in those sessions in which every run that ends is one of the registered
task itself; a single late end is enough to spoil that.
-/
namespace Steward.Schedule
open Steward.Calendar

namespace Ledger

/-- Everything that is told of a name stems from its latest registration. -/
structure Attributed (l : Ledger) : Prop where
  forgotten : ∀ n, l.runner.store.facility.get? n = none →
    ∀ limit, l.runner.store.facility.history n limit = []
  history : ∀ n, ∀ result ∈ l.results n, result.era = l.eras n
  latest : ∀ n e, l.runner.store.facility.get? n = some e →
    ∀ result ∈ l.latest n, result.era = l.eras n

/-- A run ends while its own task is registered; nothing is asked of the other steps. -/
def Timely (l : Ledger) : Step → Prop
  | .complete place _ _ => ∀ flight ∈ l.flights[place]?,
    (∃ e, l.runner.store.facility.get? flight.value.name = some e) ∧
      flight.era = l.eras flight.value.name
  | _ => True

def StartsFresh (l : Ledger) : Step → Prop
  | .create task now => ∀ s, l.runner.store.create task now = .ok s →
    (∀ limit, s.facility.history task.name limit = []) ∧
      ∃ e, s.facility.get? task.name = some e ∧ e.state.Shows none
  | _ => True

section
variable {l next : Ledger} (faithful : l.Faithful)
include faithful

theorem history_eq_nil_iff (n : String) :
    (∀ limit, l.runner.store.facility.history n limit = []) ↔ l.results n = [] := by
  rw [← Facility.runsOf_eq_nil_iff, ← faithful.results, List.map_eq_nil_iff]

theorem attributed_iff : l.Attributed ↔
    (∀ n, l.runner.store.facility.get? n = none → l.results n = []) ∧
    (∀ n, ∀ result ∈ l.results n, result.era = l.eras n) ∧
    ∀ n e, l.runner.store.facility.get? n = some e → ∀ result ∈ l.latest n, result.era = l.eras n := by
  constructor
  · rintro ⟨forgotten, history, latest⟩
    exact ⟨fun n absent => (history_eq_nil_iff faithful n).1 (forgotten n absent), history, latest⟩
  · rintro ⟨forgotten, history, latest⟩
    exact ⟨fun n absent => (history_eq_nil_iff faithful n).2 (forgotten n absent), history, latest⟩

variable (attributed : l.Attributed)
include attributed

theorem startsFresh (step : Step) : l.StartsFresh step := by
  cases step with
  | create task now =>
    intro s created
    obtain ⟨absent, -, views⟩ := Store.create_spec faithful.healthy created
    have fresh := (views task.name).1
    rw [if_pos rfl] at fresh
    refine ⟨(Facility.runsOf_eq_nil_iff _ _).1 ?_, _, fresh, rfl, rfl, rfl⟩
    rw [(views task.name).2, Facility.runsOf_eq_nil_iff]
    exact attributed.forgotten task.name absent
  | _ => trivial

theorem create_attributed {task : Task} {now : Instant}
    (done : l.perform (.create task now) = .ok next) : next.Attributed := by
  rw [attributed_iff (perform_faithful faithful done)]
  obtain ⟨forgotten, history, latest⟩ := (attributed_iff faithful).1 attributed
  simp only [perform] at done
  split at done
  · cases done
    exact ⟨forgotten, history, latest⟩
  · rename_i s created
    cases done
    obtain ⟨absent, -, views⟩ := Store.create_spec faithful.healthy created
    have empty := forgotten task.name absent
    refine ⟨fun n missing => ?_, fun n => ?_, fun n e found => ?_⟩
    · have view := (views n).1.symm.trans missing
      by_cases here : n = task.name
      · exact here ▸ empty
      · rw [if_neg here] at view
        exact forgotten n view
    · by_cases here : n = task.name
      · simp [withStore, register, here, empty]
      · simpa [withStore, register, here] using history n
    · have view := (views n).1.symm.trans found
      by_cases here : n = task.name
      · simp [withStore, register, here]
      · rw [if_neg here] at view
        simpa [withStore, register, here] using latest n e view

theorem forget_attributed {names : List String} {s : Store}
    (kept : ((l.forget names).withStore s).Faithful)
    (views : ∀ n, s.facility.get? n = if n ∈ names then none else l.runner.store.facility.get? n) :
    ((l.forget names).withStore s).Attributed := by
  rw [attributed_iff kept]
  obtain ⟨forgotten, history, latest⟩ := (attributed_iff faithful).1 attributed
  refine ⟨fun n missing => ?_, fun n => ?_, fun n e found => ?_⟩
  · have view := (views n).symm.trans missing
    by_cases gone : n ∈ names
    · simp [withStore, forget, gone]
    · rw [if_neg gone] at view
      simpa [withStore, forget, gone] using forgotten n view
  · by_cases gone : n ∈ names
    · simp [withStore, forget, gone]
    · simpa [withStore, forget, gone] using history n
  · have view := (views n).symm.trans found
    by_cases gone : n ∈ names
    · simp [gone] at view
    · rw [if_neg gone] at view
      simpa [withStore, forget, gone] using latest n e view

theorem delete_attributed {name : String} (done : l.perform (.delete name) = .ok next) :
    next.Attributed := by
  have kept := perform_faithful faithful done
  cases done
  obtain ⟨-, views⟩ := Store.delete_spec faithful.healthy name
  exact forget_attributed faithful attributed kept fun n => by simpa using (views n).1

theorem cleanup_attributed (done : l.perform .cleanup = .ok next) : next.Attributed := by
  have kept := perform_faithful faithful done
  cases done
  obtain ⟨-, views⟩ := Store.removeEach_spec faithful.healthy
    (l.runner.store.list.filter l.runner.store.owns)
  rw [← Store.cleanup_eq faithful.healthy] at views
  exact forget_attributed faithful attributed kept fun n => (views n).1

theorem enable_attributed {name : String} {flag : Bool} {now : Instant}
    (done : l.perform (.enable name flag now) = .ok next) : next.Attributed := by
  rw [attributed_iff (perform_faithful faithful done)]
  obtain ⟨forgotten, history, latest⟩ := (attributed_iff faithful).1 attributed
  simp only [perform] at done
  split at done
  · cases done
    exact ⟨forgotten, history, latest⟩
  · rename_i s changed
    cases done
    obtain ⟨-, fires, views⟩ := Store.enable_spec faithful.healthy changed
    refine ⟨fun n missing => ?_, history, fun n e found => ?_⟩
    · have view := (views n).1.symm.trans missing
      refine forgotten n ?_
      split at view
      · exact Option.map_eq_none_iff.1 view
      · exact view
    · have view := (views n).1.symm.trans found
      split at view
      · obtain ⟨x, before, -⟩ := Option.map_eq_some_iff.1 view
        exact latest n x before
      · exact latest n e view

theorem tick_attributed {now : Instant} (done : l.perform (.tick now) = .ok next) :
    next.Attributed := by
  rw [attributed_iff (perform_faithful faithful done)]
  obtain ⟨forgotten, history, latest⟩ := (attributed_iff faithful).1 attributed
  obtain ⟨after, settled, rfl⟩ := look_of_tick faithful done
  refine ⟨fun n missing => ?_, fun n => ?_, fun n e found => ?_⟩
  · have view := (Runner.get?_of_settled settled n).symm.trans missing
    have reclaimed := @Runner.mem_names_reportOf l.runner now .reclaimed n
    have skipped := @Runner.mem_names_reportOf l.runner now .skipped n
    simp only [TickReport.names] at reclaimed skipped
    cases before : l.runner.store.facility.get? n with
    | none => simp [look, reclaimed, skipped, before, forgotten n before]
    | some x =>
      rw [before] at view
      have doomed := (settledEntry_eq_none_iff x now _ _).1 view
      simp [look, reclaimed, before, doomed]
  · simp only [look]
    split
    · simp
    · split
      · intro result mem
        rcases List.mem_cons.1 (List.mem_of_mem_take mem) with rfl | old
        · rfl
        · exact history n result old
      · exact history n
  · have view := (Runner.get?_of_settled settled n).symm.trans found
    obtain ⟨x, before, -⟩ := Option.bind_eq_some_iff.1 view
    simp only [look]
    split
    · simp
    · split
      · simp
      · exact latest n x before

theorem complete_attributed_iff {place : Nat} {outcome : RunEnd} {durationMs : UInt64}
    (done : l.perform (.complete place outcome durationMs) = .ok next) :
    next.Attributed ↔ l.Timely (.complete place outcome durationMs) := by
  have kept := perform_faithful faithful done
  simp only [perform] at done
  split at done
  · rename_i missing
    cases done
    exact iff_of_true attributed fun flight here => by simp [missing] at here
  · rename_i flight here
    cases done
    have single : l.Timely (.complete place outcome durationMs) ↔
        (∃ e, l.runner.store.facility.get? flight.value.name = some e) ∧
          flight.era = l.eras flight.value.name := by
      simp only [Timely, here, Option.mem_some, forall_eq']
    rw [attributed_iff kept, single]
    simp only [finish_store faithful.healthy, Facility.get?_recordResult, note, Run.record]
    obtain ⟨forgotten, history, latest⟩ := (attributed_iff faithful).1 attributed
    constructor
    -- The new record stands first, so it is kept and shows the era of its run.
    · rintro ⟨forgotten', history', -⟩
      have told := forgotten' flight.value.name
      have era := history' flight.value.name
      simp only [if_true, historyLimit, List.take_succ_cons, reduceCtorEq, imp_false,
        Option.map_eq_none_iff, List.forall_mem_cons] at told era
      exact ⟨Option.ne_none_iff_exists'.1 told, era.1⟩
    · rintro ⟨⟨x, registered⟩, era⟩
      refine ⟨fun n missing => ?_, fun n => ?_, fun n e found => ?_⟩
      · by_cases owned : n = flight.value.name
        · simp [owned, registered] at missing
        · rw [if_neg owned] at missing ⊢
          exact forgotten n missing
      · split
        · rename_i owned
          intro result mem
          rcases List.mem_cons.1 (List.mem_of_mem_take mem) with rfl | old
          · rw [owned]
            exact era
          · exact history n result old
        · exact history n
      · split
        · rename_i owned
          rintro result ⟨⟩
          rw [owned]
          exact era
        · rename_i other
          rw [if_neg other] at found
          exact latest n e found

theorem perform_attributed_iff {step : Step} (done : l.perform step = .ok next) :
    next.Attributed ↔ l.Timely step := by
  cases step with
  | create task now => exact iff_of_true (create_attributed faithful attributed done) trivial
  | delete name => exact iff_of_true (delete_attributed faithful attributed done) trivial
  | cleanup => exact iff_of_true (cleanup_attributed faithful attributed done) trivial
  | enable name flag now => exact iff_of_true (enable_attributed faithful attributed done) trivial
  | tick now => exact iff_of_true (tick_attributed faithful attributed done) trivial
  | complete place outcome durationMs => exact complete_attributed_iff faithful attributed done

end

theorem timely_of_error {l : Ledger} {step : Step} {abort : Abort}
    (ended : l.perform step = .error abort) : l.Timely step := by
  cases step with
  | complete place outcome durationMs =>
    simp only [perform] at ended
    split at ended <;> cases ended
  | _ => trivial

theorem states_attributed_iff {l : Ledger} (faithful : l.Faithful) (attributed : l.Attributed)
    (steps : List Step) :
    (∀ x ∈ l.states steps, x.Attributed) ↔ ∀ m ∈ l.moments steps, m.1.Timely m.2 := by
  induction steps generalizing l with
  | nil => simpa [states, moments] using attributed
  | cons step rest ih =>
    cases done : l.perform step with
    | error abort =>
      simp only [states, moments, done, List.mem_singleton, forall_eq]
      exact iff_of_true attributed (timely_of_error done)
    | ok next =>
      have one := perform_attributed_iff faithful attributed done
      have kept := perform_faithful faithful done
      simp only [states, moments, done, List.forall_mem_cons]
      constructor
      -- An end that comes too late shows in the very next state.
      · rintro ⟨-, later⟩
        have timely := one.1 (later next (mem_states_self next rest))
        exact ⟨timely, (ih kept (one.2 timely)).1 later⟩
      · rintro ⟨timely, later⟩
        exact ⟨attributed, (ih kept (one.2 timely)).2 later⟩

theorem start_attributed (ownedStart : String) : (start ownedStart).Attributed := by
  rw [attributed_iff (start_faithful ownedStart)]
  refine ⟨fun n _ => rfl, fun n result mem => ?_, fun n e found => ?_⟩
  · cases mem
  · cases found

/-- In every session the ledger is right, and by it the results belong to the registered tasks exactly
if no run ends too late. Then a task that is registered anew starts without results. -/
theorem attributed_iff_timely (ownedStart : String) (steps : List Step) :
    (∀ l ∈ (start ownedStart).states steps, l.Faithful) ∧
    ((∀ l ∈ (start ownedStart).states steps, l.Attributed) ↔
      ∀ m ∈ (start ownedStart).moments steps, m.1.Timely m.2) ∧
    ((∀ m ∈ (start ownedStart).moments steps, m.1.Timely m.2) →
      ∀ m ∈ (start ownedStart).moments steps, m.1.StartsFresh m.2) := by
  have right := states_faithful (start_faithful ownedStart) steps
  have belongs := states_attributed_iff (start_faithful ownedStart) (start_attributed ownedStart) steps
  refine ⟨right, belongs, fun timely m mem => ?_⟩
  have reached := mem_states_of_mem_moments mem
  exact startsFresh (right m.1 reached) (belongs.2 timely m.1 reached) m.2

def lateEnd : List Step :=
  [.create dailyReboot Runner.noon, .tick Runner.noon, .delete "FleetAgent_b",
    .complete 0 (.ok 0) 5000, .create dailyReboot Runner.noon]

theorem lateEnd_history :
    ((start "FleetAgent_").states lateEnd).map (fun l =>
      ((l.runner.store.facility.get? "FleetAgent_b").isSome,
        (l.runner.store.facility.history "FleetAgent_b" 50).length)) =
      [(false, 0), (true, 0), (true, 0), (false, 0), (false, 1), (true, 1)] := by
  decide

end Ledger
end Steward.Schedule
