import Mathlib.Order.Bounds.Basic
import Steward.Proofs.Calendar.Instant
import Steward.Schedule.Firing

/-!
Weekly firings. An occurrence of a weekly trigger is an instant on a selected weekday, at the time of
day of the start and not before it. The search over eight dates answers the least occurrence that it is
asked for, and answers none only if the calendar holds none: one that lies further ahead could be moved
back by whole weeks into the eight dates.
-/
namespace Steward.Schedule
open Steward.Calendar

structure Occurrence (days : Weekdays) (start t : Instant) : Prop where
  started : start ≤ t
  time : t.time = start.time
  selected : days.contains t.date.weekday = true

def Reaches (inclusive : Bool) (from_ t : Instant) : Prop :=
  if inclusive then from_ ≤ t else from_ < t

/-- The least instant with the property, or none when no instant has it. -/
def IsFirst (p : Instant → Prop) : Option Instant → Prop
  | some t => IsLeast {u | p u} t
  | none => ∀ u, ¬ p u

/-- What may fire next behind `now`: the first weekly occurrence after it. Nothing else repeats. -/
def FiresNext (trigger : Trigger) (now : Instant) (next : Option Instant) : Prop :=
  match trigger with
  | .weekly days start => IsFirst (fun t => Occurrence days start t ∧ now < t) next
  | .once _ _ => next = none
  | .manual => next = none

theorem reaches_of_later_date (inclusive : Bool) {from_ t : Instant}
    (later : from_.date.number < t.date.number) : Reaches inclusive from_ t := by
  have below := from_.toNanos_bounds
  have above := t.toNanos_bounds
  simp only [Reaches, Instant.le_def, Instant.lt_def]
  split <;> omega

theorem date_le_of_reaches (inclusive : Bool) {from_ t : Instant}
    (reached : Reaches inclusive from_ t) : from_.date.number ≤ t.date.number := by
  have below := from_.toNanos_bounds
  have above := t.toNanos_bounds
  simp only [Reaches, Instant.le_def, Instant.lt_def] at reached
  split at reached <;> omega

theorem le_of_date_le {t u : Instant} (time : t.time = u.time) (dates : t.date.number ≤ u.date.number) :
    t ≤ u := by
  simp only [Instant.le_def, Instant.toNanos, time, nanosPerDay_eq]
  omega

section Search
variable {days : Weekdays} {time : TimeOfDay} {admits : Instant → Bool}

/-- What the search passes over: the candidate of a date was not admitted, or its day not selected. -/
def PassedOver (days : Weekdays) (admits : Instant → Bool) (u : Instant) : Prop :=
  ¬ (admits u = true ∧ days.contains u.date.weekday = true)

theorem instant_eq {u : Instant} {date : Date} (same : u.time = time)
    (number : u.date.number = date.number) : u = ⟨date, time⟩ := by
  obtain ⟨day, clock⟩ := u
  have days := Date.ext number
  subst days same
  rfl

theorem searchDates_some {n : Nat} {date : Date} {t : Instant}
    (found : searchDates days time admits n date = some t) :
    t.time = time ∧ date.number ≤ t.date.number ∧ ¬ PassedOver days admits t ∧
      ∀ u : Instant, u.time = time → date.number ≤ u.date.number →
        u.date.number < t.date.number → PassedOver days admits u := by
  induction n generalizing date with
  | zero => simp [searchDates] at found
  | succ n ih =>
    simp only [searchDates, Bool.and_eq_true] at found
    split at found
    · rename_i here
      cases found
      exact ⟨rfl, Int.le_refl _, not_not_intro here, fun u _ low high => absurd high (Int.not_lt.2 low)⟩
    · rename_i passed
      obtain ⟨next, step, rest⟩ := Option.bind_eq_some_iff.1 found
      have number := (next?_eq_some_iff date next).1 step
      obtain ⟨same, low, hit, before⟩ := ih rest
      refine ⟨same, by omega, hit, fun u clock lower upper => ?_⟩
      by_cases first : u.date.number = date.number
      · rw [instant_eq clock first]
        exact passed
      · exact before u clock (by omega) upper

theorem searchDates_none {n : Nat} {date : Date}
    (missing : searchDates days time admits n date = none) (u : Instant) (clock : u.time = time)
    (low : date.number ≤ u.date.number) (high : u.date.number < date.number + n) :
    PassedOver days admits u := by
  induction n generalizing date with
  | zero => omega
  | succ n ih =>
    simp only [searchDates, Bool.and_eq_true] at missing
    split at missing
    · cases missing
    · rename_i passed
      by_cases first : u.date.number = date.number
      · rw [instant_eq clock first]
        exact passed
      · cases step : date.next? with
        | none =>
          have last := (next?_eq_none_iff date).1 step
          have bound := u.date.le_last
          omega
        | some next =>
          have number := (next?_eq_some_iff date next).1 step
          rw [step] at missing
          exact ih missing (by omega) (by omega)

end Search

/-- An occurrence behind the first date can be moved back by weeks into the seven dates that follow. -/
theorem exists_within_week {days : Weekdays} {start u : Instant} {date : Date}
    (occurs : Occurrence days start u) (later : date.number < u.date.number) :
    ∃ v : Instant, v.time = start.time ∧ date.number < v.date.number ∧
      v.date.number < date.number + 8 ∧ days.contains v.date.weekday = true := by
  have low := date.first_le
  have high := u.date.le_last
  let number := date.number + 1 + (u.date.number - date.number - 1) % 7
  have inside : number ≤ u.date.number := by omega
  let back : Date := ⟨number, by omega, by omega⟩
  have week : back.weekday = u.date.weekday := (weekday_eq_iff _ _).2 (by simp only [back]; omega)
  refine ⟨⟨back, start.time⟩, rfl, ?_, ?_, ?_⟩
  · simp only [back]
    omega
  · simp only [back]
    omega
  · rw [week]
    exact occurs.selected

theorem not_contains_of_isEmpty {days : Weekdays} (empty : days.isEmpty = true) (day : Nat) :
    days.contains day = false := by
  have zero : days.mask = 0 := eq_of_beq empty
  simp [Weekdays.contains, zero]

/-- What the search admits, and where it begins: on the first date on which anything can be admitted. -/
structure Window (start from_ : Instant) (inclusive : Bool) (date : Date) (admits : Instant → Bool) :
    Prop where
  admits_iff : ∀ t, admits t = true ↔ start ≤ t ∧ Reaches inclusive from_ t
  date_le : ∀ t, admits t = true → date.number ≤ t.date.number
  of_later : ∀ t : Instant, date.number < t.date.number → admits t = true

theorem weeklyOccurrence_eq {days : Weekdays} (selected : days.isEmpty = false)
    (start from_ : Instant) (inclusive : Bool) :
    ∃ date admits, weeklyOccurrence days start from_ inclusive =
        searchDates days start.time admits 8 date ∧ Window start from_ inclusive date admits := by
  simp only [weeklyOccurrence, selected, Bool.false_eq_true, if_false]
  refine ⟨_, _, rfl, ?_⟩
  by_cases ahead : from_ < start
  · simp only [ahead, if_true]
    constructor
    · intro t
      simp only [Reaches, decide_eq_true_iff, Instant.le_def, Instant.lt_def] at ahead ⊢
      split <;> omega
    · intro t admitted
      have reached : start ≤ t := of_decide_eq_true admitted
      exact date_le_of_reaches true reached
    · intro t later
      have reached : start ≤ t := reaches_of_later_date true later
      exact decide_eq_true reached
  · simp only [ahead, if_false]
    constructor
    · intro t
      simp only [Reaches, Instant.le_def, Instant.lt_def] at ahead ⊢
      cases inclusive <;> simp <;> omega
    · intro t admitted
      refine date_le_of_reaches inclusive ?_
      cases inclusive <;> simpa [Reaches] using admitted
    · intro t later
      have reached := reaches_of_later_date inclusive later
      cases inclusive <;> simpa [Reaches] using reached

theorem weeklyOccurrence_isFirst (days : Weekdays) (start from_ : Instant) (inclusive : Bool) :
    IsFirst (fun t => Occurrence days start t ∧ Reaches inclusive from_ t)
      (weeklyOccurrence days start from_ inclusive) := by
  cases empty : days.isEmpty with
  | true =>
    simp only [weeklyOccurrence, empty, if_true, IsFirst]
    rintro u ⟨occurs, _⟩
    have none := not_contains_of_isEmpty empty u.date.weekday
    exact absurd occurs.selected (by simp [none])
  | false =>
    obtain ⟨date, admits, search, window⟩ := weeklyOccurrence_eq empty start from_ inclusive
    rw [search]
    cases found : searchDates days start.time admits 8 date with
    | some t =>
      obtain ⟨time, low, hit, before⟩ := searchDates_some found
      obtain ⟨admitted, selected⟩ := not_not.1 hit
      obtain ⟨started, reached⟩ := (window.admits_iff t).1 admitted
      refine ⟨⟨⟨started, time, selected⟩, reached⟩, ?_⟩
      rintro u ⟨occurs, reachedU⟩
      have admittedU := (window.admits_iff u).2 ⟨occurs.started, reachedU⟩
      by_contra notLe
      have dates : u.date.number < t.date.number := by
        by_contra notLt
        exact notLe (le_of_date_le (time.trans occurs.time.symm) (Int.not_lt.1 notLt))
      exact before u occurs.time (window.date_le u admittedU) dates ⟨admittedU, occurs.selected⟩
    | none =>
      rintro u ⟨occurs, reached⟩
      have admitted := (window.admits_iff u).2 ⟨occurs.started, reached⟩
      have low := window.date_le u admitted
      by_cases today : u.date.number = date.number
      · exact searchDates_none found u occurs.time low (by omega) ⟨admitted, occurs.selected⟩
      · have later : date.number < u.date.number := by omega
        obtain ⟨v, time, lower, upper, selected⟩ := exists_within_week occurs later
        exact searchDates_none found v time (by omega) (by omega)
          ⟨window.of_later v lower, selected⟩

theorem Occurrence.wholeSeconds_eq {days : Weekdays} {start t : Instant}
    (occurs : Occurrence days start t) (whole : start.wholeSeconds = start) : t.wholeSeconds = t := by
  have rest := start.toNanos_wholeSeconds
  have same := t.toNanos_wholeSeconds
  rw [whole] at rest
  rw [occurs.time] at same
  exact Instant.eq_of_toNanos_eq (by omega)

theorem occurrence_of_weeklyOccurrence {days : Weekdays} {start from_ t : Instant} {inclusive : Bool}
    (found : weeklyOccurrence days start from_ inclusive = some t) :
    Occurrence days start t ∧ Reaches inclusive from_ t := by
  have first := weeklyOccurrence_isFirst days start from_ inclusive
  rw [found] at first
  exact first.1

theorem weeklyOccurrence_wholeSeconds (days : Weekdays) {start : Instant}
    (whole : start.wholeSeconds = start) (from_ : Instant) (inclusive : Bool) :
    (weeklyOccurrence days start from_ inclusive).map .wholeSeconds =
      weeklyOccurrence days start from_ inclusive := by
  cases found : weeklyOccurrence days start from_ inclusive with
  | none => rfl
  | some t => exact congrArg some ((occurrence_of_weeklyOccurrence found).1.wholeSeconds_eq whole)

theorem nextFireAfter_firesNext (trigger : Trigger) (now : Instant) :
    FiresNext trigger now (nextFireAfter trigger now) := by
  cases trigger with
  | weekly days start => exact weeklyOccurrence_isFirst days start now false
  | once start expiry => rfl
  | manual => rfl

end Steward.Schedule
