import Mathlib.Data.Int.LeastGreatest
import Steward.Proofs.Schedule.Occurrence

/-!
The first firing of a weekly trigger as a least instant, and when there is none. The days are numbered
without end here, so that the day on which a trigger would fire first can lie behind the calendar:
a trigger has no firing exactly if its mask holds no day or if that day does.
-/
namespace Steward.Schedule
open Steward.Calendar

def weekdayOf (number : Int) : Nat := ((number + 4) % 7).toNat

theorem weekdayOf_lt (number : Int) : weekdayOf number < 7 := by
  simp only [weekdayOf]
  omega

def momentOn (start : Instant) (number : Int) : Int := number * nanosPerDay + start.time.nanos

/-- The trigger would fire on that day, whether or not the calendar has it. -/
structure FallsOn (days : Weekdays) (start from_ : Instant) (inclusive : Bool) (number : Int) : Prop where
  selected : days.contains (weekdayOf number) = true
  started : start.toNanos ≤ momentOn start number
  reached : if inclusive then from_.toNanos ≤ momentOn start number
    else from_.toNanos < momentOn start number

def NoDay (days : Weekdays) : Prop := ∀ day < 7, days.contains day = false

/-- The first day on which the trigger would fire lies behind the last one of the calendar. -/
def CalendarEndsFirst (days : Weekdays) (start from_ : Instant) (inclusive : Bool) : Prop :=
  ∃ number, IsLeast {n | FallsOn days start from_ inclusive n} number ∧ lastDay < number

section
variable {days : Weekdays} {start from_ : Instant} {inclusive : Bool}

theorem fallsOn_of_occurrence {t : Instant} (occurs : Occurrence days start t)
    (reached : Reaches inclusive from_ t) : FallsOn days start from_ inclusive t.date.number := by
  have moment : momentOn start t.date.number = t.toNanos := by
    rw [momentOn, ← occurs.time]
    rfl
  refine ⟨occurs.selected, ?_, ?_⟩
  · rw [moment]
    exact occurs.started
  · rw [moment]
    exact reached

theorem occurrence_of_fallsOn {date : Date} (falls : FallsOn days start from_ inclusive date.number) :
    Occurrence days start ⟨date, start.time⟩ ∧ Reaches inclusive from_ ⟨date, start.time⟩ :=
  ⟨⟨falls.started, rfl, falls.selected⟩, falls.reached⟩

theorem start_date_le (number : Int) (falls : FallsOn days start from_ inclusive number) :
    start.date.number ≤ number := by
  have started := falls.started
  have bounds := start.toNanos_bounds
  have clock := start.time.nanos_lt
  simp only [momentOn, nanosPerDay_eq] at started clock
  omega

theorem exists_fallsOn {day : Nat} (inWeek : day < 7) (selected : days.contains day = true) :
    ∃ number, FallsOn days start from_ inclusive number := by
  let base := lastDay + 1
  let number := base + (day - base - 4) % 7
  have week : weekdayOf number = day := by
    simp only [weekdayOf, number]
    omega
  have behind (t : Instant) : t.toNanos < momentOn start number := by
    have bounds := t.toNanos_bounds
    have last := t.date.le_last
    simp only [momentOn, nanosPerDay_eq, number, base]
    omega
  refine ⟨number, ?_, Int.le_of_lt (behind start), ?_⟩
  · rw [week]
    exact selected
  · split
    · exact Int.le_of_lt (behind from_)
    · exact behind from_

theorem weeklyOccurrence_eq_none_iff (days : Weekdays) (start from_ : Instant) (inclusive : Bool) :
    weeklyOccurrence days start from_ inclusive = none ↔
      NoDay days ∨ CalendarEndsFirst days start from_ inclusive := by
  have first := weeklyOccurrence_isFirst days start from_ inclusive
  constructor
  · intro missing
    rw [missing] at first
    by_cases some : ∃ day < 7, days.contains day = true
    · right
      obtain ⟨day, inWeek, selected⟩ := some
      obtain ⟨number, falls, least⟩ := Int.exists_least_of_bdd
        (P := FallsOn days start from_ inclusive) ⟨start.date.number, start_date_le⟩
        (exists_fallsOn inWeek selected)
      refine ⟨number, ⟨falls, least⟩, ?_⟩
      by_contra inside
      have low := start.date.first_le
      have later := start_date_le number falls
      -- a day inside the calendar would be an occurrence
      let date : Date := ⟨number, by omega, by omega⟩
      exact first ⟨date, start.time⟩ (@occurrence_of_fallsOn _ _ _ _ date falls)
    · left
      intro day inWeek
      cases held : days.contains day with
      | false => rfl
      | true => exact absurd ⟨day, inWeek, held⟩ some
  · intro reason
    cases found : weeklyOccurrence days start from_ inclusive with
    | none => rfl
    | some t =>
      rw [found] at first
      obtain ⟨occurs, reached⟩ := first.1
      have falls := fallsOn_of_occurrence occurs reached
      rcases reason with noDay | ⟨number, least, behind⟩
      · have unselected := noDay _ (weekdayOf_lt t.date.number)
        rw [falls.selected] at unselected
        cases unselected
      · have le := least.2 falls
        have last := t.date.le_last
        omega

end

theorem isFirst_congr {p q : Instant → Prop} {first : Option Instant} (same : ∀ t, p t ↔ q t)
    (isFirst : IsFirst p first) : IsFirst q first := by
  have equal : p = q := funext fun t => propext (same t)
  rw [← equal]
  exact isFirst

/-- Registered or enabled at `from_`, a weekly trigger fires first at its first occurrence from then on,
and a firing handled at `from_` is followed by the first one after that. -/
theorem weekly_fires_earliest (days : Weekdays) (start from_ : Instant) :
    IsFirst (fun t => Occurrence days start t ∧ from_ ≤ t) (initialFire (.weekly days start) from_) ∧
    IsFirst (fun t => Occurrence days start t ∧ from_ < t) (nextFireAfter (.weekly days start) from_) ∧
    (from_ < start → IsFirst (Occurrence days start) (initialFire (.weekly days start) from_) ∧
      IsFirst (Occurrence days start) (nextFireAfter (.weekly days start) from_)) ∧
    (initialFire (.weekly days start) from_ = none ↔
      NoDay days ∨ CalendarEndsFirst days start from_ true) ∧
    (nextFireAfter (.weekly days start) from_ = none ↔
      NoDay days ∨ CalendarEndsFirst days start from_ false) := by
  have initial := weeklyOccurrence_isFirst days start from_ true
  have next := weeklyOccurrence_isFirst days start from_ false
  refine ⟨initial, next, fun ahead => ?_, weeklyOccurrence_eq_none_iff days start from_ true,
    weeklyOccurrence_eq_none_iff days start from_ false⟩
  have passed (t : Instant) (occurs : Occurrence days start t) : from_ < t :=
    Int.lt_of_lt_of_le ahead occurs.started
  constructor
  · refine isFirst_congr (fun t => ⟨And.left, fun occurs => ⟨occurs, ?_⟩⟩) initial
    exact Int.le_of_lt (passed t occurs)
  · exact isFirst_congr (fun t => ⟨And.left, fun occurs => ⟨occurs, passed t occurs⟩⟩) next

theorem first_le_day (day : Fin 365) : firstDay ≤ day.val := by
  simp only [firstDay]
  omega

theorem day_le_last (day : Fin 365) : day.val ≤ lastDay := by
  simp only [lastDay]
  omega

theorem halfPastSix_lt : 23400 * nanosPerSecond < nanosPerDay := by decide

def halfPastSix (day : Fin 365) : Instant :=
  ⟨⟨day.val, first_le_day day, day_le_last day⟩, ⟨23400 * nanosPerSecond, halfPastSix_lt⟩⟩

theorem weekly_fires_earliest_sunday :
    halfPastSix 0 < halfPastSix 1 ∧
    initialFire (.weekly ⟨0x81⟩ (halfPastSix 1)) (halfPastSix 0) = some (halfPastSix 3) ∧
    IsLeast {t | Occurrence ⟨0x81⟩ (halfPastSix 1) t} (halfPastSix 3) := by
  have ahead : halfPastSix 0 < halfPastSix 1 := by decide
  have fires : initialFire (.weekly ⟨0x81⟩ (halfPastSix 1)) (halfPastSix 0) = some (halfPastSix 3) := by
    decide
  obtain ⟨-, -, early, -⟩ := weekly_fires_earliest ⟨0x81⟩ (halfPastSix 1) (halfPastSix 0)
  have first := (early ahead).1
  rw [fires] at first
  exact ⟨ahead, fires, first⟩

end Steward.Schedule
