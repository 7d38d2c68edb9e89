import Steward.Calendar.Instant

/-!
Instants as points on the line of nanoseconds. Two instants at one distance from 1970 are the same, and
a point of the line is an instant exactly when it lies between the two ends of the calendar. Moving
forward can therefore fail at the later end only.
-/
namespace Steward.Calendar

/-- The first nanosecond behind the last day. -/
def calendarEnd : Int := (lastDay + 1) * nanosPerDay

theorem firstDay_le_lastDay : firstDay ≤ lastDay := by decide

theorem nanosPerDay_eq : nanosPerDay = 86400000000000 := rfl

theorem nanosPerSecond_eq : nanosPerSecond = 1000000000 := rfl

theorem weekday_eq_iff (d e : Date) :
    d.weekday = e.weekday ↔ (d.number - e.number) % 7 = 0 := by
  simp only [Date.weekday]
  omega

theorem ofNumber?_eq_some_iff (n : Int) (d : Date) : Date.ofNumber? n = some d ↔ d.number = n := by
  simp only [Date.ofNumber?, Option.dite_none_right_eq_some, Option.some.injEq]
  constructor
  · rintro ⟨_, rfl⟩
    rfl
  · rintro rfl
    exact ⟨⟨d.first_le, d.le_last⟩, rfl⟩

theorem ofNumber?_eq_none_iff (n : Int) : Date.ofNumber? n = none ↔ n < firstDay ∨ lastDay < n := by
  simp only [Date.ofNumber?, dite_eq_right_iff, reduceCtorEq, imp_false, not_and]
  omega

theorem next?_eq_some_iff (d e : Date) : d.next? = some e ↔ e.number = d.number + 1 :=
  ofNumber?_eq_some_iff _ e

theorem next?_eq_none_iff (d : Date) : d.next? = none ↔ d.number = lastDay := by
  rw [Date.next?, ofNumber?_eq_none_iff]
  have low := d.first_le
  have high := d.le_last
  omega

namespace Instant

theorem le_def (a b : Instant) : a ≤ b ↔ a.toNanos ≤ b.toNanos := Iff.rfl

theorem lt_def (a b : Instant) : a < b ↔ a.toNanos < b.toNanos := Iff.rfl

theorem eq_of_toNanos_eq {a b : Instant} (same : a.toNanos = b.toNanos) : a = b := by
  obtain ⟨⟨day, dayLow, dayHigh⟩, ⟨time, timeBound⟩⟩ := a
  obtain ⟨⟨day', dayLow', dayHigh'⟩, ⟨time', timeBound'⟩⟩ := b
  simp only [toNanos] at same
  rw [nanosPerDay_eq] at same timeBound timeBound'
  have days : day = day' := by omega
  have times : time = time' := by omega
  subst days times
  rfl

theorem toNanos_bounds (t : Instant) :
    t.date.number * 86400000000000 ≤ t.toNanos ∧
      t.toNanos < (t.date.number + 1) * 86400000000000 := by
  have bound := t.time.nanos_lt
  rw [nanosPerDay_eq] at bound
  simp only [toNanos, nanosPerDay_eq]
  omega

theorem ofNanos?_eq_some_iff (n : Int) (t : Instant) : ofNanos? n = some t ↔ t.toNanos = n := by
  have pos : (0 : Int) < nanosPerDay := by decide
  have parts := Int.mul_ediv_add_emod n nanosPerDay
  have rest := Int.emod_nonneg n (Int.ne_of_gt pos)
  simp only [ofNanos?, Option.map_eq_some_iff, ofNumber?_eq_some_iff]
  constructor
  · rintro ⟨day, number, rfl⟩
    simp only [toNanos, number]
    rw [Int.toNat_of_nonneg rest, Int.mul_comm]
    exact parts
  · rintro rfl
    have bound := t.time.nanos_lt
    have days : t.toNanos / nanosPerDay = t.date.number := by
      rw [toNanos, Int.add_comm, Int.add_mul_ediv_right _ _ (Int.ne_of_gt pos),
        Int.ediv_eq_zero_of_lt (Int.natCast_nonneg _) (Int.ofNat_lt.2 bound), Int.zero_add]
    refine ⟨t.date, days.symm, eq_of_toNanos_eq ?_⟩
    rw [days, Int.mul_comm] at parts
    simp only [toNanos] at parts rest ⊢
    rw [Int.toNat_of_nonneg rest]
    exact parts

theorem ofNanos?_eq_none_iff (n : Int) :
    ofNanos? n = none ↔ n < firstDay * nanosPerDay ∨ calendarEnd ≤ n := by
  simp only [ofNanos?, Option.map_eq_none_iff, ofNumber?_eq_none_iff, calendarEnd, firstDay, lastDay,
    nanosPerDay_eq]
  omega

theorem firstDay_le (t : Instant) : firstDay * nanosPerDay ≤ t.toNanos := by
  have low := t.date.first_le
  have bounds := t.toNanos_bounds
  simp only [nanosPerDay_eq]
  omega

theorem plusMinutes?_eq_some_iff (t u : Instant) (minutes : Nat) :
    t.plusMinutes? minutes = some u ↔
      u.toNanos = t.toNanos + (minutes * 60 * nanosPerSecond : Nat) := by
  simp only [plusMinutes?, plus?, ofNanos?_eq_some_iff, Int.natCast_mul]
  rfl

theorem plusMinutes?_eq_none_iff (t : Instant) (minutes : Nat) :
    t.plusMinutes? minutes = none ↔
      calendarEnd ≤ t.toNanos + (minutes * 60 * nanosPerSecond : Nat) := by
  have low := t.firstDay_le
  simp only [plusMinutes?, plus?, ofNanos?_eq_none_iff, Int.natCast_mul]
  constructor
  · rintro (before | behind)
    · simp only [nanosPerSecond_eq] at before
      omega
    · exact behind
  · exact Or.inr

theorem toNanos_wholeSeconds (t : Instant) :
    t.wholeSeconds.toNanos = t.toNanos - (t.time.nanos % nanosPerSecond : Nat) := by
  have le := Nat.mod_le t.time.nanos nanosPerSecond
  simp only [wholeSeconds, toNanos]
  omega

theorem wholeSeconds_le (t : Instant) : t.wholeSeconds ≤ t := by
  have dropped := t.toNanos_wholeSeconds
  rw [le_def]
  omega

theorem wholeSeconds_eq_self_iff (t : Instant) : t.wholeSeconds = t ↔ t.toNanos % 1000000000 = 0 := by
  have dropped := t.toNanos_wholeSeconds
  have parts : t.toNanos % 1000000000 = (t.time.nanos % nanosPerSecond : Nat) := by
    simp only [toNanos, nanosPerDay_eq, nanosPerSecond_eq]
    omega
  constructor
  · intro same
    rw [same] at dropped
    omega
  · intro whole
    apply eq_of_toNanos_eq
    omega

theorem wholeSeconds_wholeSeconds (t : Instant) : t.wholeSeconds.wholeSeconds = t.wholeSeconds := by
  rw [wholeSeconds_eq_self_iff, toNanos_wholeSeconds]
  simp only [toNanos, nanosPerDay_eq, nanosPerSecond_eq]
  omega

end Instant
end Steward.Calendar
