import Mathlib.Logic.Basic
import Steward.Proofs.Calendar.Instant
import Steward.Schedule.Runner

/-!
What the rules make of one registered task at one instant: `Expired`, `Due`, `TooLate` and `Blocked` say
it in terms of the entry alone, and `fate` puts them in their order. The runner's own judgement, made
of `Task.reclaimAt` and `evaluate`, comes to the same.
-/
namespace Steward.Schedule
open Steward.Calendar

def Trigger.boundary? : Trigger → Option Instant
  | once _ expiry => expiry
  | weekly _ _ => none
  | manual => none

/-- Nanoseconds from an end boundary to the removal of a task that is deleted after its run. -/
def reclaimDelay : Int := (deleteExpiredAfterMinutes * 60 * nanosPerSecond : Nat)

/-- The instant at which the task is to be removed, if there is to be one, lies on the calendar. -/
def Reclaimable (t : Task) : Prop :=
  t.deleteAfter = true → ∀ boundary ∈ t.trigger.boundary?,
    boundary.toNanos + reclaimDelay < calendarEnd

def Expired (e : Entry) (now : Instant) : Prop :=
  e.task.deleteAfter = true ∧
    ∃ boundary ∈ e.task.trigger.boundary?, boundary.toNanos + reclaimDelay ≤ now.toNanos

def Due (e : Entry) (now : Instant) : Prop :=
  e.task.enabled = true ∧ ∃ next ∈ e.state.nextRunAt, next ≤ now

def TooLate (e : Entry) (now : Instant) : Prop :=
  (∃ boundary ∈ e.task.trigger.boundary?, boundary < now) ∨
    (e.task.runAsapAfterMissed = false ∧
      ∃ next ∈ e.state.nextRunAt, next.toNanos + missedTolerance < now.toNanos)

def Blocked (e : Entry) (running : Nat) : Prop := 0 < running ∧ e.task.parallel = false

instance (e : Entry) (now : Instant) : Decidable (Expired e now) :=
  inferInstanceAs (Decidable (_ ∧ _))

instance (e : Entry) (now : Instant) : Decidable (Due e now) := inferInstanceAs (Decidable (_ ∧ _))

instance (e : Entry) (now : Instant) : Decidable (TooLate e now) :=
  inferInstanceAs (Decidable (_ ∨ _))

instance (e : Entry) (running : Nat) : Decidable (Blocked e running) :=
  inferInstanceAs (Decidable (_ ∧ _))

inductive Fate where
  | reclaimed
  | untouched
  | missed
  | skipped
  | launched
deriving DecidableEq, Repr

def fate (running : Nat) (now : Instant) (e : Entry) : Fate :=
  if Expired e now then .reclaimed
  else if ¬ Due e now then .untouched
  else if TooLate e now then .missed
  else if Blocked e running then .skipped
  else .launched

def Firing.fate : Firing → Fate
  | notDue => .untouched
  | run => .launched
  | skipRunning => .skipped
  | missed => .missed

theorem reclaimAt_eq (t : Task) (inside : Reclaimable t) :
    ∃ reclaim, t.reclaimAt = .ok reclaim ∧ reclaim.map Instant.toNanos =
      if t.deleteAfter then t.trigger.boundary?.map fun b => b.toNanos + reclaimDelay else none := by
  unfold Task.reclaimAt
  split
  · rename_i start boundary trigger owned
    have room := inside owned boundary (by rw [trigger]; rfl)
    cases later : boundary.plusMinutes? deleteExpiredAfterMinutes with
    | none =>
      have behind := (boundary.plusMinutes?_eq_none_iff deleteExpiredAfterMinutes).1 later
      exact absurd room (Int.not_lt.2 behind)
    | some at_ =>
      have distance := (boundary.plusMinutes?_eq_some_iff at_ deleteExpiredAfterMinutes).1 later
      refine ⟨some at_, rfl, ?_⟩
      simp [owned, trigger, Trigger.boundary?, reclaimDelay, distance]
  · rename_i other
    refine ⟨none, rfl, ?_⟩
    cases owned : t.deleteAfter with
    | false => simp
    | true =>
      cases trigger : t.trigger with
      | once start expiry =>
        cases expiry with
        | none => simp [Trigger.boundary?]
        | some boundary => exact (other start boundary trigger owned).elim
      | weekly days start => simp [Trigger.boundary?]
      | manual => simp [Trigger.boundary?]

theorem reclaimAt_eq_error (t : Task) (outside : ¬ Reclaimable t) :
    t.reclaimAt = .error .offCalendar := by
  simp only [Reclaimable, Classical.not_forall] at outside
  obtain ⟨owned, boundary, member, behind⟩ := outside
  cases trigger : t.trigger with
  | once start expiry =>
    rw [trigger] at member
    have none := (boundary.plusMinutes?_eq_none_iff deleteExpiredAfterMinutes).2 (Int.not_lt.1 behind)
    have some : expiry = some boundary := member
    simp only [Task.reclaimAt, trigger, some, owned, none]
  | weekly days start => simp [trigger, Trigger.boundary?] at member
  | manual => simp [trigger, Trigger.boundary?] at member

theorem any_reclaim_iff {e : Entry} {reclaim : Option Instant}
    (points : reclaim.map Instant.toNanos = if e.task.deleteAfter then
      e.task.trigger.boundary?.map fun b => b.toNanos + reclaimDelay else none) (now : Instant) :
    reclaim.any (fun t => t ≤ now) = true ↔ Expired e now := by
  have passed : reclaim.any (fun t => t ≤ now) =
      (reclaim.map Instant.toNanos).any (fun n => n ≤ now.toNanos) := by
    cases reclaim <;> rfl
  rw [passed, points, Expired]
  cases e.task.deleteAfter with
  | false => simp
  | true => cases e.task.trigger.boundary? <;> simp

theorem pastExpiry_iff (trigger : Trigger) (now : Instant) :
    trigger.pastExpiry now = true ↔ ∃ boundary ∈ trigger.boundary?, boundary < now := by
  cases trigger with
  | once start expiry => cases expiry <;> simp [Trigger.pastExpiry, Trigger.boundary?]
  | weekly days start => simp [Trigger.pastExpiry, Trigger.boundary?]
  | manual => simp [Trigger.pastExpiry, Trigger.boundary?]

theorem due_iff {e : Entry} {next : Instant} (enabled : e.task.enabled = true)
    (pending : e.state.nextRunAt = some next) (now : Instant) : Due e now ↔ ¬ now < next := by
  simp only [Due, enabled, pending, Option.mem_some, exists_eq_left', true_and, Instant.le_def,
    Instant.lt_def]
  omega

theorem tooLate_iff {e : Entry} {next : Instant} (pending : e.state.nextRunAt = some next)
    (now : Instant) :
    TooLate e now ↔ e.task.trigger.pastExpiry now = true ∨
      (missedTolerance < now.since next ∧ e.task.runAsapAfterMissed = false) := by
  have late : missedTolerance < now.since next ↔ next.toNanos + missedTolerance < now.toNanos := by
    simp only [Instant.since]
    omega
  rw [TooLate, pastExpiry_iff, late]
  simp only [pending, Option.mem_some, exists_eq_left', and_comm]

/-- The runner's judgement follows the rules for tasks that have not expired. -/
theorem fate_evaluate (e : Entry) (running : Nat) (now : Instant) :
    (evaluate e.task e.state.nextRunAt running now).fate =
      if ¬ Due e now then .untouched
      else if TooLate e now then .missed
      else if Blocked e running then .skipped
      else .launched := by
  cases enabled : e.task.enabled with
  | false => simp [evaluate, enabled, Due, Firing.fate]
  | true =>
    cases pending : e.state.nextRunAt with
    | none => simp [evaluate, enabled, pending, Due, Firing.fate]
    | some next =>
      simp only [evaluate, enabled, due_iff enabled pending, tooLate_iff pending, Blocked,
        apply_ite Firing.fate, Bool.not_true, Bool.false_eq_true, if_false, Bool.and_eq_true,
        Bool.not_eq_true', decide_eq_true_eq, Classical.not_not]
      by_cases ahead : now < next
      · simp only [ahead, if_true, Firing.fate]
      · cases past : e.task.trigger.pastExpiry now with
        | false =>
          simp only [ahead, Bool.false_eq_true, if_false, false_or, Firing.fate]
          exact if_congr Iff.rfl rfl (if_congr Iff.rfl rfl rfl)
        | true => simp only [ahead, if_true, if_false, true_or, Firing.fate]

end Steward.Schedule
