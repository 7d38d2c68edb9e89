import Steward.Proofs.Schedule.Lateness
import Steward.Proofs.Schedule.Shift

/-!
The counts of runs. The runner keeps a number for each name and the runs that are in flight; both are
changed by launches and by ends, which come in any order and know nothing of the table. They agree in
every state of a course, and with what was launched and has ended. A task that may run once at a time is
launched only while no run of its name is in flight, whatever was registered under the name before.
-/
namespace Steward.Schedule
open Steward.Calendar

namespace Tally

def Tidy (t : Tally) : Prop := (t.map Prod.fst).Nodup

theorem count_eq_zero {t : Tally} {n : String} (absent : n ∉ t.map Prod.fst) : t.count n = 0 := by
  induction t with
  | nil => rfl
  | cons pair rest ih =>
    obtain ⟨m, k⟩ := pair
    rw [List.map_cons, List.mem_cons, not_or] at absent
    rw [count_cons, if_neg absent.1, ih absent.2]

theorem mem_names_add (t : Tally) (name n : String) :
    n ∈ (t.add name).map Prod.fst ↔ n = name ∨ n ∈ t.map Prod.fst := by
  induction t with
  | nil => simp [add]
  | cons pair rest ih =>
    obtain ⟨m, k⟩ := pair
    by_cases here : m = name
    · simp [add, here]
    · simp only [add, here, if_false, List.map_cons, List.mem_cons, ih]
      exact or_left_comm

theorem tidy_add {t : Tally} (tidy : t.Tidy) (name : String) : (t.add name).Tidy := by
  induction t with
  | nil => simp [add, Tidy]
  | cons pair rest ih =>
    obtain ⟨m, k⟩ := pair
    obtain ⟨first, others⟩ := List.nodup_cons.1 tidy
    by_cases here : m = name
    · simpa [add, here, Tidy] using tidy
    · simp only [add, here, if_false, Tidy, List.map_cons, List.nodup_cons]
      refine ⟨fun again => ?_, ih others⟩
      exact ((mem_names_add rest name m).1 again).elim here first

theorem drop_names_sublist (t : Tally) (name : String) :
    List.Sublist ((t.drop name).map Prod.fst) (t.map Prod.fst) := by
  induction t with
  | nil => exact List.Sublist.refl _
  | cons pair rest ih =>
    obtain ⟨m, k⟩ := pair
    by_cases here : m = name
    · simp only [drop, here, if_true]
      split
      · exact List.sublist_cons_self _ _
      · exact List.Sublist.refl _
    · simp only [drop, here, if_false, List.map_cons]
      exact ih.cons_cons m

theorem tidy_drop {t : Tally} (tidy : t.Tidy) (name : String) : (t.drop name).Tidy :=
  (t.drop_names_sublist name).nodup tidy

theorem count_drop {t : Tally} (tidy : t.Tidy) (name n : String) :
    (t.drop name).count n = t.count n - if n = name then 1 else 0 := by
  induction t with
  | nil => simp [drop, count]
  | cons pair rest ih =>
    obtain ⟨m, k⟩ := pair
    obtain ⟨first, others⟩ := List.nodup_cons.1 tidy
    by_cases here : m = name
    · have absent := count_eq_zero first
      simp only [drop, here, if_true, count_cons]
      by_cases own : n = name
      · split
        · rw [own, ← here, absent]
          omega
        · simp [own, count_cons]
      · split <;> simp [own, count_cons]
    · simp only [drop, here, if_false, count_cons, ih others]
      by_cases own : n = m
      · simp [own, here]
      · simp [own]

end Tally

namespace Runner

def ends (r : Runner) : Event → List String
  | .step (.complete place _ _) => (r.inFlight[place]?).toList.map Run.name
  | _ => []

def endsOf (r : Runner) (n : String) (events : List Event) : List (Runner × Event) :=
  (r.moments events).filter fun m => n ∈ m.1.ends m.2

structure Balanced (r : Runner) : Prop where
  tidy : r.running.Tidy
  count : ∀ n, r.running.count n = r.flightsOf n

theorem ofStore_balanced (s : Store) : (ofStore s).Balanced := ⟨List.Pairwise.nil, fun _ => rfl⟩

theorem visit_tidy {now : Instant} (r : Runner) (report : TickReport) (e : Entry)
    (x : Runner × TickReport) (tidy : r.running.Tidy) (done : r.visit report e now = .ok x) :
    x.1.running.Tidy := by
  rcases visit_cases done with ⟨-, rfl⟩ | ⟨-, rfl⟩ | ⟨firing, -, -, rfl⟩
  · exact tidy
  · exact tidy
  · simp only [handle]
    split
    · exact tidy
    · cases firing with
      | run => exact Tally.tidy_add tidy e.task.name
      | notDue => exact tidy
      | skipRunning => exact tidy
      | missed => exact tidy

theorem tick_counts (r : Runner) (now : Instant) (n : String) :
    let started := if n ∈ r.launches (.step (.tick now)) then 1 else 0
    (r.tickUntilAbort now).1.running.count n = r.running.count n + started ∧
      (r.tickUntilAbort now).1.flightsOf n = r.flightsOf n + started := by
  cases found : r.store.facility.get? n with
  | none =>
    have agree := @tickUntilAbort_agree r now n found
    have idle := not_mem_launches_of_agree agree
    exact ⟨by simp [idle, agree.count], by simp [idle, agree.flights]⟩
  | some e =>
    obtain ⟨-, rfl⟩ := (Facility.get?_eq_some_iff _ n e).1 found
    obtain ⟨verdict, met⟩ := @tickUntilAbort_met r now e found
    simp only [mem_launches_of_met met]
    exact ⟨met.count, met.flights⟩

theorem perform_flights (r : Runner) {event : Event} (goesOn : event ≠ .restart) (n : String) :
    (r.perform event).flightsOf n + (if n ∈ r.ends event then 1 else 0) =
      r.flightsOf n + if n ∈ r.launches event then 1 else 0 := by
  cases event with
  | step step =>
    cases step with
    | tick now => simpa [perform, ends] using (tick_counts r now n).2
    | complete place outcome durationMs =>
      cases flying : r.inFlight[place]? with
      | none => simp [perform, ends, launches, flying]
      | some run =>
        have inside : run ∈ r.inFlight := List.mem_of_getElem? flying
        -- erasing takes one run of the name away, wherever it stands
        have out := ((List.perm_cons_erase inside).map Run.name).count_eq n
        simp only [List.map_cons, List.count_cons, beq_iff_eq, @eq_comm _ run.name] at out
        simpa [perform, ends, launches, flying, flightsOf, finish] using out.symm
    | _ => simp [perform, ends, launches, withStore, flightsOf]
  | restart => exact absurd rfl goesOn
  | _ => simp [perform, ends, launches, withStore, flightsOf]

theorem perform_balanced {r : Runner} (balanced : r.Balanced) (event : Event) :
    (r.perform event).Balanced := by
  cases event with
  | step step =>
    cases step with
    | tick now =>
      refine ⟨tickUntilAbort_invariant visit_tidy balanced.tidy, fun n => ?_⟩
      have counts := tick_counts r now n
      exact counts.1.trans (balanced.count n ▸ counts.2.symm)
    | complete place outcome durationMs =>
      have goesOn : Event.step (.complete place outcome durationMs) ≠ .restart := nofun
      have flights := r.perform_flights goesOn
      cases flying : r.inFlight[place]? with
      | none => simpa [perform, flying] using balanced
      | some run =>
        simp only [perform, ends, launches, flying, Option.toList_some, List.map_cons, List.map_nil,
          List.mem_singleton, List.not_mem_nil, if_false] at flights ⊢
        refine ⟨Tally.tidy_drop balanced.tidy run.name, fun n => ?_⟩
        have less := Tally.count_drop balanced.tidy run.name n
        have flying := flights n
        rw [← balanced.count n] at flying
        exact less.trans (by omega)
    | _ => exact ⟨balanced.tidy, balanced.count⟩
  | restart => exact ofStore_balanced r.store
  | _ => exact ⟨balanced.tidy, balanced.count⟩

theorem after_balanced {r : Runner} (balanced : r.Balanced) (events : List Event) :
    (r.after events).Balanced := by
  induction events generalizing r with
  | nil => exact balanced
  | cons event rest ih => exact ih (perform_balanced balanced event)

/-- What was launched has ended or is still counted. -/
theorem launches_eq_ends_add_count {r : Runner} (balanced : r.Balanced) {events : List Event}
    (goesOn : .restart ∉ events) (n : String) :
    (r.launchesOf n events).length + r.running.count n =
      (r.endsOf n events).length + (r.after events).running.count n := by
  induction events generalizing r with
  | nil => rfl
  | cons event rest ih =>
    obtain ⟨first, others⟩ := List.ne_and_not_mem_of_not_mem_cons goesOn
    have kept := perform_balanced balanced event
    have step := r.perform_flights (Ne.symm first) n
    have later := ih kept others
    rw [← balanced.count n, ← kept.count n] at step
    have launched : (r.launchesOf n (event :: rest)).length =
        (if n ∈ r.launches event then 1 else 0) + ((r.perform event).launchesOf n rest).length := by
      by_cases here : n ∈ r.launches event <;> simp [launchesOf, moments, here, Nat.add_comm]
    have ended : (r.endsOf n (event :: rest)).length =
        (if n ∈ r.ends event then 1 else 0) + ((r.perform event).endsOf n rest).length := by
      by_cases here : n ∈ r.ends event <;> simp [endsOf, moments, here, Nat.add_comm]
    rw [launched, ended, show r.after (event :: rest) = (r.perform event).after rest from rfl]
    omega

/-- Without leave to run twice at a time, a task is launched only while no run is counted. -/
theorem count_eq_zero_of_launched {r : Runner} {n : String} {event : Event} {e : Entry}
    (listed : n ∈ r.launches event) (found : r.store.facility.get? n = some e)
    (serial : e.task.parallel = false) : r.running.count n = 0 := by
  obtain ⟨x, now, -, again, launched⟩ := fate_of_mem_launches listed
  cases found.symm.trans again
  obtain ⟨-, -, -, free⟩ := (fate_eq_launched_iff _ now e).1 launched
  by_contra some
  exact free ⟨Nat.pos_of_ne_zero some, serial⟩

theorem perform_flights_le_one {r : Runner} (balanced : r.Balanced) {n : String}
    (serial : r.Carries n (·.parallel = false)) (single : r.flightsOf n ≤ 1) (event : Event) :
    (r.perform event).flightsOf n ≤ 1 := by
  rcases Classical.em (event = .restart) with rfl | goesOn
  · exact Nat.zero_le 1
  · have step := r.perform_flights goesOn n
    by_cases listed : n ∈ r.launches event
    · obtain ⟨e, now, -, found, -⟩ := fate_of_mem_launches listed
      have idle := count_eq_zero_of_launched listed found
        (serial e.timing (timing_of_found found))
      rw [← balanced.count n, idle, if_pos listed] at step
      omega
    · rw [if_neg listed] at step
      omega

theorem after_flights_le_one {r : Runner} (balanced : r.Balanced) {n : String}
    (serial : r.Carries n (·.parallel = false)) (single : r.flightsOf n ≤ 1) {events : List Event}
    (registers : ∀ m ∈ r.moments events, ∀ task now, m.1.Registers m.2 task now → task.name = n →
      task.parallel = false) : (r.after events).flightsOf n ≤ 1 := by
  induction events generalizing r with
  | nil => exact single
  | cons event rest ih =>
    obtain ⟨first, later⟩ := List.forall_mem_cons.1 registers
    exact ih (perform_balanced balanced event)
      (perform_carries (fun _ _ forbidden => forbidden) serial first)
      (perform_flights_le_one balanced serial single event) later

structure Counted (r : Runner) (events : List Event) : Prop where
  running : ∀ n, (r.after events).running.count n = (r.after events).flightsOf n
  balance : ∀ n, (r.launchesOf n events).length =
    (r.endsOf n events).length + (r.after events).running.count n
  idle : ∀ n now e, (r.after events).store.facility.get? n = some e → e.task.parallel = false →
    n ∈ (r.after events).launches (.step (.tick now)) → (r.after events).running.count n = 0
  single : ∀ n, (∀ m ∈ r.moments events, ∀ task now, m.1.Registers m.2 task now → task.name = n →
    task.parallel = false) → (r.after events).flightsOf n ≤ 1

/-- The counts are right after every course of one runner that begins with an empty store, and no two
runs overlap of a name under which only tasks were registered that forbid it. -/
theorem course_counted (ownedStart : String) {events : List Event} (goesOn : .restart ∉ events) :
    Counted (ofStore (.empty ownedStart)) events := by
  have balanced := ofStore_balanced (.empty ownedStart)
  refine ⟨(after_balanced balanced events).count, ?_, ?_, ?_⟩
  · exact launches_eq_ends_add_count balanced goesOn
  · intro n now e found serial listed
    exact count_eq_zero_of_launched listed found serial
  · intro n registers
    refine after_flights_le_one balanced (fun x none => ?_) (Nat.zero_le 1) registers
    cases none

/-- The name is registered again while a run of the first task is in flight, and fires once in vain. -/
def registeredAgain : List Event :=
  [.step (.create dailyReboot noon), .step (.tick noon), .step (.delete "FleetAgent_b"),
    .step (.create dailyReboot noon), .step (.tick noon),
    .step (.complete 0 (.ok 0) 5000), .step (.tick nextNoon)]

theorem course_counted_registeredAgain :
    let r := ofStore (.empty "FleetAgent_")
    .restart ∉ registeredAgain ∧ Counted r registeredAgain ∧
      (r.after registeredAgain).flightsOf "FleetAgent_b" ≤ 1 ∧
      ((r.launchesOf "FleetAgent_b" registeredAgain).length,
        (r.endsOf "FleetAgent_b" registeredAgain).length,
        (r.after registeredAgain).running.count "FleetAgent_b") = (2, 1, 1) := by
  have goesOn : .restart ∉ registeredAgain := by simp [registeredAgain]
  have counted := course_counted "FleetAgent_" goesOn
  refine ⟨goesOn, counted, counted.single "FleetAgent_b" ?_, by decide⟩
  intro m mem task now registers _
  have here := create_mem_of_registers mem registers
  have only : task = dailyReboot := by simp_all [registeredAgain]
  rw [only]
  rfl

end Runner
end Steward.Schedule
