import Steward.Proofs.Schedule.Lateness
import Steward.Proofs.Schedule.Shift

/-!
The firings of a weekly task in the order in which they are run. Enabling a task and a tick that acts on
it leave no firing stored before the instant that they read, a tick not even one at it. While the clock
goes forward, whatever is launched later was therefore stored for later, also across gaps, disabled
times, failures and restarts.
-/
namespace Steward.Schedule
open Steward.Calendar

instance : Trans (α := Instant) (· < ·) (· < ·) (· < ·) := ⟨Int.lt_trans⟩

def Event.reading (n : String) : Event → Option Instant
  | .step (.tick now) => some now
  | .step (.enable name true now) => if name = n then some now else none
  | _ => none

namespace Runner

/-- The firings of a name that a course runs, each as it was stored when it came up. -/
def firings (r : Runner) (n : String) (events : List Event) : List Instant :=
  (r.launchesOf n events).filterMap fun m => m.1.pending n

theorem firings_cons (r : Runner) (n : String) (event : Event) (rest : List Event) :
    r.firings n (event :: rest) = (if n ∈ r.launches event then (r.pending n).toList else []) ++
      (r.perform event).firings n rest := by
  by_cases listed : n ∈ r.launches event
  · rw [firings, launchesOf_cons_of_mem listed, if_pos listed]
    cases stored : r.pending n <;> simp [firings, stored]
  · rw [firings, launchesOf_cons_of_not_mem listed, if_neg listed]
    rfl

structure WeeklyOn (r : Runner) (n : String) (days : Weekdays) (start : Instant) : Prop where
  trigger : r.Carries n fun t => t.trigger = .weekly days start
  occurs : ∀ p ∈ r.pending n, Occurrence days start p

inductive Rescheduled (r : Runner) (n : String) (days : Weekdays) (start : Instant) (event : Event) :
    Prop
  | kept (same : (r.perform event).pending n = r.pending n) (idle : n ∉ r.launches event)
  | gone (empty : (r.perform event).pending n = none) (idle : n ∉ r.launches event)
  | enabled (now : Instant) (read : event.reading n = some now)
      (next : (r.perform event).pending n = weeklyOccurrence days start now true)
      (idle : n ∉ r.launches event)
  | fired (now p : Instant) (cause : event = .step (.tick now)) (stored : r.pending n = some p)
      (passed : p ≤ now) (next : (r.perform event).pending n = weeklyOccurrence days start now false)

section
variable {r : Runner} {n : String} {days : Weekdays} {start : Instant} {event : Event}
  (weekly : r.WeeklyOn n days start) (whole : start.wholeSeconds = start)
  (unrepeated : ∀ other now, r.Registers event other now → other.name ≠ n)
include weekly whole unrepeated

theorem perform_rescheduled : r.Rescheduled n days start event := by
  cases perform_shift r n event with
  | kept same idle => exact .kept (congrArg (·.bind Timing.next) same) idle
  | registered task now here named _ _ => exact absurd named (unrepeated task now here)
  | removed _ gone idle => exact .gone (congrArg (·.bind Timing.next) gone) idle
  | switched e flag now cause found moved idle =>
    have trigger : e.task.trigger = .weekly days start := weekly.trigger e.timing (timing_of_found found)
    have next : (r.perform event).pending n = (Store.nextAfterEnable e flag now).map .wholeSeconds :=
      congrArg (·.bind Timing.next) moved
    cases flag with
    | false =>
      -- a disabled task keeps its firing, which has no fraction to lose
      refine .kept (next.trans ?_) idle
      rw [pending_of_found found]
      cases stored : e.state.nextRunAt with
      | none => simp [Store.nextAfterEnable, stored]
      | some p =>
        have occurs := weekly.occurs p (by rw [pending_of_found found, stored]; rfl)
        simp [Store.nextAfterEnable, stored, occurs.wholeSeconds_eq whole]
    | true =>
      refine .enabled now (by rw [cause, Event.reading, if_pos rfl]) (next.trans ?_) idle
      simp only [Store.nextAfterEnable, trigger]
      exact weeklyOccurrence_wholeSeconds days whole now true
  | fated e now cause found moved started =>
    have trigger : e.task.trigger = .weekly days start := weekly.trigger e.timing (timing_of_found found)
    have lasting := not_expired_of_weekly trigger now
    by_cases due : Due e now
    · obtain ⟨kept, acted⟩ := fate_of_due lasting due (r.running.count n)
      obtain ⟨left, entry, advanced⟩ := settledEntry_advances e now
        (nextFireAfter e.task.trigger now) kept acted
      obtain ⟨-, p, stored, passed⟩ := due
      refine .fired now p cause ((pending_of_found found).trans stored) passed ?_
      rw [pending, moved, entry]
      refine advanced.trans ?_
      rw [trigger]
      exact weeklyOccurrence_wholeSeconds days whole now false
    · have idle : fate (r.running.count n) now e = .untouched := by
        rw [fate, if_neg lasting, if_pos due]
      rw [idle] at moved started
      refine .kept ?_ (mt started.1 (by decide))
      rw [pending, moved, pending_of_found found]
      rfl

theorem perform_weeklyOn : (r.perform event).WeeklyOn n days start := by
  refine ⟨carries_of_unrepeated (fun _ _ fires => fires) weekly.trigger unrepeated, ?_⟩
  intro p stored
  cases perform_rescheduled weekly whole unrepeated with
  | kept same _ => exact weekly.occurs p (same ▸ stored)
  | gone empty _ => cases empty.symm.trans stored
  | enabled now _ next _ => exact (occurrence_of_weeklyOccurrence (next.symm.trans stored)).1
  | fired now q _ _ _ next => exact (occurrence_of_weeklyOccurrence (next.symm.trans stored)).1

/-- An instant that the clock has passed stays behind the stored firing. -/
theorem perform_pending_gt {c : Instant} (ahead : ∀ p ∈ r.pending n, c < p)
    (forward : ∀ now ∈ event.reading n, c < now) : ∀ p ∈ (r.perform event).pending n, c < p := by
  intro p stored
  cases perform_rescheduled weekly whole unrepeated with
  | kept same _ => exact ahead p (same ▸ stored)
  | gone empty _ => cases empty.symm.trans stored
  | enabled now read next _ =>
    have reached := (occurrence_of_weeklyOccurrence (next.symm.trans stored)).2
    exact Int.lt_of_lt_of_le (forward now read) reached
  | fired now q cause _ _ next =>
    have reached := (occurrence_of_weeklyOccurrence (next.symm.trans stored)).2
    exact Int.lt_trans (forward now (by rw [cause]; rfl)) reached

theorem pending_of_launched (listed : n ∈ r.launches event) :
    ∃ now p, event = .step (.tick now) ∧ r.pending n = some p ∧ p ≤ now ∧
      ∀ q ∈ (r.perform event).pending n, now < q := by
  cases perform_rescheduled weekly whole unrepeated with
  | kept _ idle => exact absurd listed idle
  | gone _ idle => exact absurd listed idle
  | enabled _ _ _ idle => exact absurd listed idle
  | fired now p cause stored passed next =>
    refine ⟨now, p, cause, stored, passed, fun q left => ?_⟩
    exact (occurrence_of_weeklyOccurrence (next.symm.trans left)).2

end

section
variable {r : Runner} {n : String} {days : Weekdays} {start : Instant} {events : List Event}
  (whole : start.wholeSeconds = start) (weekly : r.WeeklyOn n days start)
  (unrepeated : ∀ m ∈ r.moments events, ∀ other now, m.1.Registers m.2 other now → other.name ≠ n)
include whole weekly unrepeated

theorem firings_gt {c : Instant} (ahead : ∀ p ∈ r.pending n, c < p)
    (forward : ∀ event ∈ events, ∀ now, event.reading n = some now → c < now) :
    ∀ p ∈ r.firings n events, c < p := by
  induction events generalizing r with
  | nil =>
    intro p fired
    cases fired
  | cons event rest ih =>
    obtain ⟨first, later⟩ := List.forall_mem_cons.1 unrepeated
    obtain ⟨here, behind⟩ := List.forall_mem_cons.1 forward
    have still := perform_pending_gt weekly whole first ahead here
    intro p fired
    rw [firings_cons, List.mem_append] at fired
    rcases fired with now | further
    · split at now
      · exact ahead p (Option.mem_toList.1 now)
      · cases now
    · exact ih (perform_weeklyOn weekly whole first) later still behind p further

theorem firings_of_weekly (forward : events.Pairwise fun a b =>
      ∀ t, a.reading n = some t → ∀ u, b.reading n = some u → t < u) :
    (∀ m ∈ r.launchesOf n events, ∃ now p, m.2 = .step (.tick now) ∧ m.1.pending n = some p ∧
      Occurrence days start p ∧ p ≤ now) ∧ (r.firings n events).Pairwise (· < ·) := by
  induction events generalizing r with
  | nil => exact ⟨fun m mem => absurd mem List.not_mem_nil, List.Pairwise.nil⟩
  | cons event rest ih =>
    obtain ⟨first, later⟩ := List.forall_mem_cons.1 unrepeated
    obtain ⟨before, behind⟩ := List.pairwise_cons.1 forward
    have kept := perform_weeklyOn weekly whole first
    obtain ⟨fired, ascending⟩ := ih kept later behind
    by_cases listed : n ∈ r.launches event
    · obtain ⟨now, p, (cause : event = _), stored, passed, left⟩ :=
        pending_of_launched weekly whole first listed
      have beyond := firings_gt whole kept later left
        fun x mem u read => before x mem now (by rw [cause]; rfl) u read
      rw [launchesOf_cons_of_mem listed, firings_cons, if_pos listed, stored]
      have own : ∃ now p, event = .step (.tick now) ∧ r.pending n = some p ∧ Occurrence days start p ∧
          p ≤ now := ⟨now, p, cause, stored, weekly.occurs p stored, passed⟩
      have ahead : ∀ q ∈ (r.perform event).firings n rest, p < q := fun q further =>
        Int.lt_of_le_of_lt passed (beyond q further)
      exact ⟨List.forall_mem_cons.2 ⟨own, fired⟩, List.pairwise_cons.2 ⟨ahead, ascending⟩⟩
    · rw [launchesOf_cons_of_not_mem listed, firings_cons, if_neg listed]
      exact ⟨fired, ascending⟩

end

/-- While the clock goes forward, the firings that are run after a registration are ever later
occurrences of the trigger, and none is run before it is due. -/
theorem firings_ascend {r : Runner} {event : Event} {task : Task} {now start : Instant}
    {days : Weekdays} (registers : r.Registers event task now)
    (weekly : task.trigger = .weekly days start) (whole : start.wholeSeconds = start)
    {events : List Event}
    (unrepeated : ∀ m ∈ (r.perform event).moments events,
      ∀ other at_, m.1.Registers m.2 other at_ → other.name ≠ task.name)
    (forward : (events.filterMap (Event.reading task.name)).IsChain (· < ·)) :
    (∀ m ∈ (r.perform event).launchesOf task.name events, ∃ at_ p, m.2 = .step (.tick at_) ∧
      m.1.pending task.name = some p ∧ Occurrence days start p ∧ p ≤ at_) ∧
    ((r.perform event).firings task.name events).Pairwise (· < ·) := by
  have found := found_of_registers registers
  have fresh : (r.perform event).WeeklyOn task.name days start := by
    refine ⟨fun x left => ?_, fun p stored => ?_⟩
    · cases (timing_of_found found).symm.trans left
      exact weekly
    · rw [pending_of_found found, weekly] at stored
      have unchanged := weeklyOccurrence_wholeSeconds days whole now true
      exact (occurrence_of_weeklyOccurrence (unchanged.symm.trans stored)).1
  refine firings_of_weekly whole fresh unrepeated ?_
  exact List.pairwise_filterMap.1 (List.isChain_iff_pairwise.1 forward)

def enabledAtFiring : List Event :=
  [.step (.tick noon), .step (.complete 0 (.ok 0) 5000),
    .step (.enable "FleetAgent_b" false noon), .step (.enable "FleetAgent_b" true nextNoon),
    .step (.tick pastNextNoon)]

theorem firings_ascend_enabledAtFiring :
    let r := ofStore (.empty "FleetAgent_")
    let event := Event.step (.create dailyReboot noon)
    r.Registers event dailyReboot noon ∧ dailyReboot.trigger = .weekly .all noon ∧
      noon.wholeSeconds = noon ∧
      (enabledAtFiring.filterMap (Event.reading dailyReboot.name)).IsChain (· < ·) ∧
      ((r.perform event).firings dailyReboot.name enabledAtFiring).Pairwise (· < ·) ∧
      (r.perform event).firings dailyReboot.name enabledAtFiring = [noon, nextNoon] := by
  have registers : (ofStore (.empty "FleetAgent_")).Registers
      (.step (.create dailyReboot noon)) dailyReboot noon := ⟨rfl, _, rfl⟩
  have forward : (enabledAtFiring.filterMap (Event.reading dailyReboot.name)).IsChain (· < ·) := by
    decide
  refine ⟨registers, rfl, rfl, forward, (firings_ascend registers rfl rfl ?_ forward).2, by rfl⟩
  intro m mem other at_ again
  have here := create_mem_of_registers mem again
  simp [enabledAtFiring] at here

end Runner
end Steward.Schedule
