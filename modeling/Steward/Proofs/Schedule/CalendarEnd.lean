import Mathlib.Order.Bounds.Basic
import Steward.Proofs.Schedule.Fate

/-!
The end of the calendar. A payload is validated with the end boundary in mind, and the removal lies a
quarter of an hour behind that boundary: between the two, a task is accepted whose removal has no
instant. As long as such a task is registered no tick completes and no sleep is computed, at no time.
-/
namespace Steward.Schedule
open Steward.Calendar Steward.Text

/-- The calendar ends before `minutes` after the start of a task that is deleted after its one run. -/
def Payload.RunsOff (p : Payload) (minutes : Nat) : Prop :=
  p.trigger = "once" ∧ p.deleteAfter = true ∧
    ∃ start, p.startInstant = .ok start ∧
      calendarEnd ≤ start.toNanos + (minutes * 60 * nanosPerSecond : Nat)

theorem reclaimAt_completes_iff (t : Task) : (∃ time, t.reclaimAt = .ok time) ↔ Reclaimable t := by
  constructor
  · rintro ⟨time, done⟩
    by_contra outside
    rw [reclaimAt_eq_error t outside] at done
    cases done
  · intro inside
    obtain ⟨time, done, -⟩ := reclaimAt_eq t inside
    exact ⟨time, done⟩

section Validation
variable (p : Payload) (now : Instant)

theorem expiry_eq (start : Instant) (owned : p.deleteAfter = true) :
    p.expiry start = match start.plusMinutes? onceExpiryMinutes with
      | some boundary => .ok (some boundary)
      | none => .error .offCalendar := by
  unfold Payload.expiry
  exact if_pos owned

theorem readTrigger_of_ne_once (other : p.trigger ≠ "once") :
    ∃ answer, p.readTrigger now = .ok answer ∧ ∀ trigger, answer = .ok trigger →
      trigger.boundary? = none := by
  unfold Payload.readTrigger
  split
  · exact absurd ‹_› other
  · dsimp only
    split
    · exact ⟨_, rfl, by rintro trigger ⟨⟩⟩
    · refine ⟨_, rfl, fun trigger read => ?_⟩
      cases time : p.timeOfDay with
      | error e => simp [time, Except.map] at read
      | ok clock =>
        simp only [time, Except.map, Except.ok.injEq] at read
        rw [← read]
        rfl
  · exact ⟨_, rfl, by rintro trigger ⟨⟩; rfl⟩
  · exact ⟨_, rfl, by rintro trigger ⟨⟩⟩
  · exact ⟨_, rfl, by rintro trigger ⟨⟩⟩

theorem readTrigger_completes_iff :
    (∃ answer, p.readTrigger now = .ok answer) ↔ ¬ p.RunsOff onceExpiryMinutes := by
  by_cases once : p.trigger = "once"
  · cases dated : p.startInstant with
    | error e => simp [Payload.readTrigger, Payload.RunsOff, once, dated]
    | ok start =>
      have limit := start.plusMinutes?_eq_none_iff onceExpiryMinutes
      cases owned : p.deleteAfter with
      | false =>
        simp [Payload.readTrigger, Payload.RunsOff, Payload.expiry, once, dated, owned, Except.map]
      | true =>
        simp only [Payload.readTrigger, Payload.RunsOff, once, dated, owned, expiry_eq,
          Except.ok.injEq, exists_eq_left', true_and, ← limit]
        cases start.plusMinutes? onceExpiryMinutes <;> simp [Except.map]
  · obtain ⟨answer, read, -⟩ := readTrigger_of_ne_once p now once
    exact iff_of_true ⟨answer, read⟩ fun off => once off.1

theorem ofPayload_completes_iff : (∃ answer, Task.ofPayload p now = .ok answer) ↔
    isBlankText p.name = true ∨ ¬ p.RunsOff onceExpiryMinutes := by
  rw [← readTrigger_completes_iff p now]
  unfold Task.ofPayload
  cases blank : isBlankText p.name with
  | true => simp
  | false => cases p.readTrigger now <;> simp [Except.map]

theorem ofPayload_accepts {p : Payload} {now : Instant} {t : Task}
    (accepted : Task.ofPayload p now = .ok (.ok t)) :
    p.readTrigger now = .ok (.ok t.trigger) ∧ t.deleteAfter = p.deleteAfter := by
  unfold Task.ofPayload at accepted
  split at accepted
  · cases accepted
  · cases read : p.readTrigger now with
    | error e => simp [read, Except.map] at accepted
    | ok answer =>
      cases answer with
      | error e => simp [read, Except.map, bind, Except.bind] at accepted
      | ok trigger =>
        cases action : p.readAction with
        | error e => simp [read, action, Except.map, bind, Except.bind] at accepted
        | ok action =>
          simp only [read, action, Except.map, bind, Except.bind, pure, Except.pure,
            Except.ok.injEq] at accepted
          subst accepted
          exact ⟨rfl, rfl⟩

theorem boundary?_of_readTrigger {trigger : Trigger} (read : p.readTrigger now = .ok (.ok trigger)) :
    if p.trigger = "once" ∧ p.deleteAfter = true then
      ∃ start boundary, p.startInstant = .ok start ∧ trigger.boundary? = some boundary ∧
        boundary.toNanos = start.toNanos + (onceExpiryMinutes * 60 * nanosPerSecond : Nat)
    else trigger.boundary? = none := by
  by_cases once : p.trigger = "once"
  · cases dated : p.startInstant with
    | error e => simp [Payload.readTrigger, once, dated] at read
    | ok start =>
      cases owned : p.deleteAfter with
      | false =>
        simp [Payload.readTrigger, Payload.expiry, once, dated, owned, Except.map] at read
        simp [← read, Trigger.boundary?]
      | true =>
        simp only [Payload.readTrigger, once, dated, expiry_eq p start owned] at read
        cases moved : start.plusMinutes? onceExpiryMinutes with
        | none => simp [moved, Except.map] at read
        | some boundary =>
          simp only [moved, Except.map, Except.ok.injEq] at read
          have distance := (start.plusMinutes?_eq_some_iff boundary onceExpiryMinutes).1 moved
          rw [if_pos ⟨once, rfl⟩]
          exact ⟨start, boundary, rfl, by rw [← read]; rfl, distance⟩
  · obtain ⟨answer, again, none⟩ := readTrigger_of_ne_once p now once
    rw [if_neg fun both => once both.1]
    exact none trigger (Except.ok.inj (again.symm.trans read))

end Validation

/-- The removal of an accepted task lies 25 minutes behind its start. -/
theorem reclaimable_iff_of_ofPayload {p : Payload} {since : Instant} {t : Task}
    (accepted : Task.ofPayload p since = .ok (.ok t)) :
    Reclaimable t ↔ ¬ p.RunsOff (onceExpiryMinutes + deleteExpiredAfterMinutes) := by
  obtain ⟨read, owned⟩ := ofPayload_accepts accepted
  have boundary := boundary?_of_readTrigger p since read
  split at boundary
  · rename_i asked
    obtain ⟨start, boundary, dated, some, distance⟩ := boundary
    have removal : boundary.toNanos + reclaimDelay = start.toNanos +
        ((onceExpiryMinutes + deleteExpiredAfterMinutes) * 60 * nanosPerSecond : Nat) := by
      rw [distance, reclaimDelay]
      simp only [onceExpiryMinutes, deleteExpiredAfterMinutes, nanosPerSecond_eq]
      omega
    simp only [Reclaimable, owned, asked, some, Option.mem_some, forall_eq', forall_const, removal,
      Payload.RunsOff, dated, Except.ok.injEq, exists_eq_left', true_and, Int.not_le]
  · rename_i notAsked
    refine iff_of_true (fun _ time mem => ?_) fun off => notAsked ⟨off.1, off.2.1⟩
    rw [boundary] at mem
    cases mem

section Runs
variable (r : Runner) (now : Instant)

theorem visit_completes_iff (report : TickReport) (e : Entry) :
    (∃ x, r.visit report e now = .ok x) ↔ Reclaimable e.task := by
  rw [← reclaimAt_completes_iff]
  cases reclaim : e.task.reclaimAt with
  | error a => simp [Runner.visit, reclaim, bind, Except.bind]
  | ok time =>
    simp only [Runner.visit, reclaim, bind, Except.bind, pure, Except.pure]
    refine iff_of_true ?_ ⟨time, rfl⟩
    split
    · exact ⟨_, rfl⟩
    · split <;> exact ⟨_, rfl⟩

theorem visitAll_completes_iff (report : TickReport) (es : List Entry) :
    (∃ x, r.visitAll report now es = .ok x) ↔ ∀ e ∈ es, Reclaimable e.task := by
  induction es generalizing r report with
  | nil => simp [Runner.visitAll]
  | cons e es ih =>
    have first := visit_completes_iff r now report e
    rw [List.forall_mem_cons, ← first]
    cases visited : r.visit report e now with
    | error a => simp [Runner.visitAll, visited, bind, Except.bind]
    | ok x => simp [Runner.visitAll, visited, bind, Except.bind, ih]

theorem wakeTimes_completes_iff (e : Entry) :
    (∃ times, Runner.wakeTimes e = .ok times) ↔ Reclaimable e.task := by
  rw [← reclaimAt_completes_iff]
  cases reclaim : e.task.reclaimAt <;>
    simp [Runner.wakeTimes, reclaim, bind, Except.bind, pure, Except.pure]

theorem allWakeTimes_completes_iff (es : List Entry) :
    (∃ times, es.mapM Runner.wakeTimes = .ok times) ↔ ∀ e ∈ es, Reclaimable e.task := by
  induction es with
  | nil => simp [pure, Except.pure]
  | cons e es ih =>
    rw [List.forall_mem_cons, ← ih, ← wakeTimes_completes_iff e, List.mapM_cons]
    cases Runner.wakeTimes e with
    | error a => simp [bind, Except.bind]
    | ok times => cases es.mapM Runner.wakeTimes <;> simp [bind, Except.bind, pure, Except.pure]

variable {r} {es : List Entry} (read : r.store.entries = .ok es)
include read

theorem tick_completes_iff :
    (∃ x, r.tick now = .ok x) ↔ ∀ e ∈ es, Reclaimable e.task := by
  simp only [Runner.tick, read]
  exact visitAll_completes_iff r now .empty es

theorem sleepMs_completes_iff :
    (∃ ms, r.sleepMs now = .ok ms) ↔ ∀ e ∈ es, Reclaimable e.task := by
  rw [← allWakeTimes_completes_iff]
  simp only [Runner.sleepMs, read]
  cases es.mapM Runner.wakeTimes with
  | error a => simp [bind, Except.bind]
  | ok times =>
    simp only [bind, Except.bind, pure, Except.pure, Except.ok.injEq, exists_eq', iff_true]
    split <;> exact ⟨_, rfl⟩

/-- Validation comes to an answer but for boundaries off the calendar, and the scheduler goes on as long
as no removal of an accepted task is off the calendar. -/
theorem completes_iff_of_accepted (p : Payload) (origin : Entry → Payload)
    (accepted : ∀ e ∈ es, ∃ since, Task.ofPayload (origin e) since = .ok (.ok e.task)) :
    ((∃ answer, Task.ofPayload p now = .ok answer) ↔
      isBlankText p.name = true ∨ ¬ p.RunsOff onceExpiryMinutes) ∧
    (∀ e ∈ es, (∃ time, e.task.reclaimAt = .ok time) ↔
      ¬ (origin e).RunsOff (onceExpiryMinutes + deleteExpiredAfterMinutes)) ∧
    ((∃ x, r.tick now = .ok x) ↔
      ∀ e ∈ es, ¬ (origin e).RunsOff (onceExpiryMinutes + deleteExpiredAfterMinutes)) ∧
    ((∃ ms, r.sleepMs now = .ok ms) ↔
      ∀ e ∈ es, ¬ (origin e).RunsOff (onceExpiryMinutes + deleteExpiredAfterMinutes)) := by
  have inside : ∀ e ∈ es, (Reclaimable e.task ↔
      ¬ (origin e).RunsOff (onceExpiryMinutes + deleteExpiredAfterMinutes)) := fun e mem => by
    obtain ⟨since, done⟩ := accepted e mem
    exact reclaimable_iff_of_ofPayload done
  refine ⟨ofPayload_completes_iff p now, fun e mem => ?_, ?_, ?_⟩
  · rw [reclaimAt_completes_iff, inside e mem]
  · rw [tick_completes_iff now read]
    exact forall₂_congr inside
  · rw [sleepMs_completes_iff now read]
    exact forall₂_congr inside

end Runs

def lastEvening (minute : UInt32) : Payload :=
  { Payload.named "FleetAgent_a" with
    kind := "reboot", trigger := "once", enabled := true, deleteAfter := true
    year := 262142, month := "December", day := 31, hour := 23, minute := minute }

def lastDate : Date := ⟨lastDay, firstDay_le_lastDay, Int.le_refl lastDay⟩

def lastReboot : Task :=
  { name := "FleetAgent_a", action := .reboot, enabled := true, deleteAfter := true, parallel := false
    runAsapAfterMissed := false
    trigger := .once ⟨lastDate, ⟨85200000000000, by decide⟩⟩
      (some ⟨lastDate, ⟨85800000000000, by decide⟩⟩) }

theorem lastReboot_accepted : Task.ofPayload (lastEvening 40) .longAgo = .ok (.ok lastReboot) := by
  decide

def lastStore : Store where
  facility := ⟨[⟨lastReboot, .fresh (some lastReboot.trigger.startBoundary)⟩], [], by simp [Ascending]⟩
  ownedStart := "FleetAgent_"
  faults := .none

theorem lastStore_created : (Store.empty "FleetAgent_").create lastReboot .longAgo = .ok lastStore := rfl

theorem completes_iff_lastStore :
    let origin := fun _ : Entry => lastEvening 40
    lastStore.entries = .ok lastStore.facility.entries ∧
    (∀ e ∈ lastStore.facility.entries, ∃ since, Task.ofPayload (origin e) since = .ok (.ok e.task)) ∧
    ((∃ x, (Runner.ofStore lastStore).tick .longAgo = .ok x) ↔ ∀ e ∈ lastStore.facility.entries,
      ¬ (origin e).RunsOff (onceExpiryMinutes + deleteExpiredAfterMinutes)) := by
  have accepted : ∀ e ∈ lastStore.facility.entries,
      ∃ since, Task.ofPayload (lastEvening 40) since = .ok (.ok e.task) := fun e mem => by
    rw [List.mem_singleton.1 mem]
    exact ⟨.longAgo, lastReboot_accepted⟩
  have completes := @completes_iff_of_accepted (.ofStore lastStore) .longAgo
    lastStore.facility.entries rfl (lastEvening 40) (fun _ => lastEvening 40) accepted
  exact ⟨rfl, accepted, completes.2.2.1⟩

/-- Validation itself can abort, and what it accepts can abort every later tick and sleep. -/
theorem lastEvening_aborts :
    Task.ofPayload (lastEvening 55) .longAgo = .error .offCalendar ∧
    Task.ofPayload (lastEvening 40) .longAgo = .ok (.ok lastReboot) ∧
    (Store.empty "FleetAgent_").create lastReboot .longAgo = .ok lastStore ∧
    ∀ now, (Runner.ofStore lastStore).tick now = .error .offCalendar ∧
      (Runner.ofStore lastStore).sleepMs now = .error .offCalendar :=
  ⟨by decide, lastReboot_accepted, lastStore_created, fun _ => ⟨rfl, rfl⟩⟩

end Steward.Schedule
