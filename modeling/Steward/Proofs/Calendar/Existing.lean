import Steward.Proofs.Calendar.Date
import Steward.Proofs.Calendar.Instant

/-!
Which dates and times of day exist. A year, month and day make a date exactly if the month has that day and
the year is one of the calendar's, and the date is then the one with that year, month and day; an hour and a
minute make a time of day if the day has them.
-/
namespace Steward.Calendar

def firstYear : Int := -262143

def lastYear : Int := 262142

/-- A later year begins later, since no leap rule makes up for the days of a year. -/
theorem daysBeforeYear_lt_iff (a b : Int) : daysBeforeYear a < daysBeforeYear b ↔ a < b := by
  simp only [daysBeforeYear]
  omega

theorem monthDay_take (lengths : List Nat) (month i : Nat) (inside : i < lengths.length) {day : Nat}
    (positive : 1 ≤ day) (fits : day ≤ lengths[i]) :
    Date.monthDay lengths month (daysOfMonths (lengths.take i) + day - 1) = (month + i, day) := by
  induction lengths generalizing month i with
  | nil => exact absurd inside (Nat.not_lt_zero i)
  | cons length rest ih =>
    cases i with
    | zero =>
      have here : daysOfMonths [] + day - 1 = day - 1 := by
        rw [daysOfMonths, List.foldl_nil, Nat.zero_add]
      have short : day - 1 < length := by
        rw [List.getElem_cons_zero] at fits
        omega
      rw [List.take_zero, here, Date.monthDay, if_pos short, Nat.sub_add_cancel positive]
      rfl
    | succ i =>
      rw [List.getElem_cons_succ] at fits
      have behind : ¬ length + daysOfMonths (rest.take i) + day - 1 < length := by omega
      have moved : length + daysOfMonths (rest.take i) + day - 1 - length =
          daysOfMonths (rest.take i) + day - 1 := by omega
      rw [List.take_succ_cons, daysOfMonths_cons, Date.monthDay, if_neg behind, moved,
        ih (month + 1) i (Nat.lt_of_succ_lt_succ inside) fits, Nat.add_assoc, Nat.add_comm 1 i]

theorem daysOfMonths_take_le (lengths : List Nat) (i : Nat) (inside : i < lengths.length) :
    daysOfMonths (lengths.take i) + lengths[i] ≤ daysOfMonths lengths := by
  induction lengths generalizing i with
  | nil => exact absurd inside (Nat.not_lt_zero i)
  | cons length rest ih =>
    rw [daysOfMonths_cons]
    cases i with
    | zero =>
      rw [List.take_zero, List.getElem_cons_zero, daysOfMonths, List.foldl_nil]
      omega
    | succ i =>
      have later := ih i (Nat.lt_of_succ_lt_succ inside)
      rw [List.take_succ_cons, daysOfMonths_cons, List.getElem_cons_succ]
      omega

namespace Date

section Existing
variable {year : Int} {month day : Nat}

theorem exists_iff : Exists year month day ↔ ∃ i, ∃ h : i < (monthLengths year).length,
    month = i + 1 ∧ 1 ≤ day ∧ day ≤ (monthLengths year)[i] := by
  unfold Exists daysInMonth
  cases month with
  | zero =>
    rw [if_pos rfl]
    constructor
    · rintro ⟨positive, fits⟩
      exact absurd (Nat.le_trans positive fits) (by decide)
    · rintro ⟨i, -, same, -⟩
      cases same
  | succ i =>
    rw [if_neg (Nat.succ_ne_zero i), Nat.add_sub_cancel, List.getD_eq_getElem?_getD]
    constructor
    · rintro ⟨positive, fits⟩
      by_cases inside : i < (monthLengths year).length
      · rw [List.getElem?_eq_getElem inside, Option.getD_some] at fits
        exact ⟨i, inside, rfl, positive, fits⟩
      · rw [List.getElem?_eq_none (Nat.le_of_not_lt inside), Option.getD_none] at fits
        omega
    · rintro ⟨j, inside, same, positive, fits⟩
      cases Nat.succ.inj same
      rw [List.getElem?_eq_getElem inside, Option.getD_some]
      exact ⟨positive, fits⟩

theorem dayNumber_bounds (existing : Exists year month day) :
    daysBeforeYear year - 719162 ≤ dayNumber year month day ∧
      dayNumber year month day < daysBeforeYear (year + 1) - 719162 := by
  obtain ⟨i, inside, rfl, positive, fits⟩ := exists_iff.1 existing
  have before : daysBeforeMonth year (i + 1) = daysOfMonths ((monthLengths year).take i) := rfl
  have bound := daysOfMonths_take_le (monthLengths year) i inside
  have total := daysOfMonths_monthLengths year
  rw [dayNumber, before]
  omega

theorem yearOf_dayNumber (existing : Exists year month day) : yearOf (dayNumber year month day) = year := by
  obtain ⟨low, high⟩ := dayNumber_bounds existing
  obtain ⟨least, most⟩ := yearOf_spec (dayNumber year month day)
  have notEarlier : yearOf (dayNumber year month day) < year + 1 :=
    (daysBeforeYear_lt_iff _ _).1 (by omega)
  have notLater : year < yearOf (dayNumber year month day) + 1 :=
    (daysBeforeYear_lt_iff _ _).1 (by omega)
  omega

theorem dayNumber_inside_iff (existing : Exists year month day) :
    firstDay ≤ dayNumber year month day ∧ dayNumber year month day ≤ lastDay ↔
      firstYear ≤ year ∧ year ≤ lastYear := by
  obtain ⟨low, high⟩ := dayNumber_bounds existing
  have first : daysBeforeYear firstYear = firstDay + 719162 := by decide
  have last : daysBeforeYear (lastYear + 1) = lastDay + 719163 := by decide
  have begins := daysBeforeYear_lt_iff year firstYear
  have ends := daysBeforeYear_lt_iff (lastYear + 1) (year + 1)
  have starts := daysBeforeYear_lt_iff firstYear (year + 1)
  have stops := daysBeforeYear_lt_iff year (lastYear + 1)
  omega

theorem month_day_of_number {date : Date} (existing : Exists year month day)
    (number : date.number = dayNumber year month day) :
    date.year = year ∧ date.month = month ∧ date.day = day := by
  have same : date.year = year := by
    rw [Date.year, number]
    exact yearOf_dayNumber existing
  obtain ⟨i, inside, rfl, positive, fits⟩ := exists_iff.1 existing
  have place : date.place = daysOfMonths ((monthLengths year).take i) + day - 1 := by
    have before : daysBeforeMonth year (i + 1) = daysOfMonths ((monthLengths year).take i) := rfl
    have placed := date.place_eq
    rw [same, number, dayNumber, before] at placed
    omega
  have found : monthDay (monthLengths date.year) 1 date.place = (1 + i, day) := by
    rw [same, place]
    exact monthDay_take (monthLengths year) 1 i inside positive fits
  exact ⟨same, (congrArg Prod.fst found).trans (Nat.add_comm 1 i), congrArg Prod.snd found⟩

theorem ofYearMonthDay?_eq_some_iff (date : Date) : ofYearMonthDay? year month day = some date ↔
    date.year = year ∧ date.month = month ∧ date.day = day := by
  constructor
  · intro made
    unfold ofYearMonthDay? at made
    split at made
    · rename_i existing
      exact month_day_of_number existing ((ofNumber?_eq_some_iff _ date).1 made)
    · cases made
  · rintro ⟨rfl, rfl, rfl⟩
    exact date.ofYearMonthDay?_self

theorem exists_ofYearMonthDay?_iff : (∃ date, ofYearMonthDay? year month day = some date) ↔
    firstYear ≤ year ∧ year ≤ lastYear ∧ Exists year month day := by
  unfold ofYearMonthDay?
  by_cases existing : Exists year month day
  · have inside := dayNumber_inside_iff existing
    rw [if_pos existing]
    constructor
    · rintro ⟨date, made⟩
      have number := (ofNumber?_eq_some_iff _ date).1 made
      obtain ⟨low, high⟩ := inside.1 ⟨number ▸ date.first_le, number ▸ date.le_last⟩
      exact ⟨low, high, existing⟩
    · rintro ⟨low, high, -⟩
      obtain ⟨begun, ended⟩ := inside.2 ⟨low, high⟩
      exact ⟨⟨_, begun, ended⟩, (ofNumber?_eq_some_iff _ _).2 rfl⟩
  · rw [if_neg existing]
    constructor
    · rintro ⟨date, made⟩
      cases made
    · rintro ⟨-, -, held⟩
      exact absurd held existing

end Existing

end Date

theorem TimeOfDay.ofHourMinute?_eq_some_iff (hour minute : Nat) (time : TimeOfDay) :
    TimeOfDay.ofHourMinute? hour minute = some time ↔
      hour < 24 ∧ minute < 60 ∧ time.nanos = (hour * 60 + minute) * 60 * nanosPerSecond := by
  have bound := time.nanos_lt
  unfold TimeOfDay.ofHourMinute? TimeOfDay.ofNanos?
  constructor
  · intro made
    split at made
    · rename_i inside
      split at made
      · cases made
        exact ⟨inside.1, inside.2, rfl⟩
      · cases made
    · cases made
  · rintro ⟨hours, minutes, nanos⟩
    rw [if_pos ⟨hours, minutes⟩, dif_pos (nanos ▸ bound)]
    exact congrArg some ((TimeOfDay.mk.injEq ..).mpr nanos.symm)

end Steward.Calendar
