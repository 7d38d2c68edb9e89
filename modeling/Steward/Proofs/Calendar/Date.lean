import Steward.Calendar.Date

/-!
Dates and their year, month and day. The year of a day is the one whose first day is the latest at or
before it, month and day are the place in that year as digits of a mixed radix, the lengths of the
months, and every date is the date of its own year, month and day.
-/
namespace Steward.Calendar

/-- The leap days before a year are 97 in 400, to within two. -/
theorem daysBeforeYear_bounds (year : Int) :
    146097 * (year - 1) - 699 ≤ 400 * daysBeforeYear year ∧
      400 * daysBeforeYear year ≤ 146097 * (year - 1) + 396 := by
  simp only [daysBeforeYear]
  omega

theorem dayNumber_newYear (year : Int) : dayNumber year 1 1 = daysBeforeYear year - 719162 := by
  have first : daysBeforeMonth year 1 = 0 := rfl
  simp only [dayNumber, first]
  omega

def daysOfMonths (lengths : List Nat) : Nat := lengths.foldl (· + ·) 0

theorem daysOfMonths_cons (length : Nat) (rest : List Nat) :
    daysOfMonths (length :: rest) = length + daysOfMonths rest := by
  have apart : rest.foldl (· + ·) (length + 0) = length + rest.foldl (· + ·) 0 := List.foldl_assoc
  rw [daysOfMonths, List.foldl_cons, Nat.zero_add]
  exact apart

theorem daysOfMonths_monthLengths (year : Int) :
    (daysOfMonths (monthLengths year) : Int) = daysBeforeYear (year + 1) - daysBeforeYear year := by
  simp only [monthLengths, daysOfMonths, List.foldl_cons, List.foldl_nil, daysBeforeYear, isLeap]
  by_cases fourth : year % 4 = 0 <;> by_cases hundredth : year % 100 = 0 <;>
    by_cases four : year % 400 = 0 <;> simp [fourth, hundredth, four] <;> omega

theorem monthDay_spec (lengths : List Nat) (month place : Nat) (inside : place < daysOfMonths lengths) :
    ∃ i, ∃ h : i < lengths.length, (Date.monthDay lengths month place).1 = month + i ∧
      1 ≤ (Date.monthDay lengths month place).2 ∧
      (Date.monthDay lengths month place).2 ≤ lengths[i] ∧
      daysOfMonths (lengths.take i) + (Date.monthDay lengths month place).2 = place + 1 := by
  induction lengths generalizing month place with
  | nil => exact absurd inside (Nat.not_lt_zero _)
  | cons length rest ih =>
    rw [daysOfMonths_cons] at inside
    by_cases here : place < length
    · rw [Date.monthDay, if_pos here]
      exact ⟨0, Nat.succ_pos _, rfl, Nat.succ_pos _, here, Nat.zero_add _⟩
    · rw [Date.monthDay, if_neg here]
      obtain ⟨i, bound, monthEq, positive, fits, total⟩ := ih (month + 1) (place - length) (by omega)
      refine ⟨i + 1, Nat.succ_lt_succ bound, by omega, positive, fits, ?_⟩
      rw [List.take_succ_cons, daysOfMonths_cons]
      omega

namespace Date

theorem yearOf_spec (n : Int) :
    daysBeforeYear (yearOf n) - 719162 ≤ n ∧ n < daysBeforeYear (yearOf n + 1) - 719162 := by
  simp only [yearOf, dayNumber_newYear]
  generalize estimated : 400 * (n + 719162) / 146097 + 1 = estimate
  have before := daysBeforeYear_bounds (estimate - 1)
  have after := daysBeforeYear_bounds (estimate + 1 + 1)
  split
  · exact ⟨by assumption, by omega⟩
  · split
    · exact ⟨by assumption, by omega⟩
    · rw [Int.sub_add_cancel]
      exact ⟨by omega, by omega⟩

variable (d : Date)

def place : Nat := (d.number - dayNumber d.year 1 1).toNat

theorem place_eq : (d.place : Int) = d.number - daysBeforeYear d.year + 719162 := by
  have spec := yearOf_spec d.number
  rw [place, dayNumber_newYear, year]
  omega

theorem place_lt : d.place < daysOfMonths (monthLengths d.year) := by
  have spec := yearOf_spec d.number
  have total := daysOfMonths_monthLengths d.year
  have placed := d.place_eq
  rw [year] at total placed ⊢
  omega

theorem month_day_spec : ∃ i, ∃ h : i < (monthLengths d.year).length, d.month = 1 + i ∧ 1 ≤ d.day ∧
    d.day ≤ (monthLengths d.year)[i] ∧ daysOfMonths ((monthLengths d.year).take i) + d.day = d.place + 1 :=
  monthDay_spec (monthLengths d.year) 1 d.place d.place_lt

theorem month_le : d.month ≤ 12 := by
  obtain ⟨i, bound, monthEq, -⟩ := d.month_day_spec
  have twelve : (monthLengths d.year).length = 12 := rfl
  omega

theorem day_le : d.day ≤ 31 := by
  obtain ⟨i, bound, -, -, fits, -⟩ := d.month_day_spec
  have longest : ∀ length ∈ monthLengths d.year, length ≤ 31 := by
    simp only [monthLengths]
    split <;> decide
  exact Nat.le_trans fits (longest _ (List.getElem_mem bound))

theorem ofNumber?_number : ofNumber? d.number = some d := dif_pos ⟨d.first_le, d.le_last⟩

theorem ofYearMonthDay?_self : ofYearMonthDay? d.year d.month d.day = some d := by
  obtain ⟨i, bound, monthEq, positive, fits, total⟩ := d.month_day_spec
  have before : daysBeforeMonth d.year d.month = daysOfMonths ((monthLengths d.year).take i) := by
    rw [daysBeforeMonth, monthEq, Nat.add_sub_cancel_left, daysOfMonths]
  have length : daysInMonth d.year d.month = (monthLengths d.year)[i] := by
    rw [daysInMonth, monthEq, if_neg (by omega), Nat.add_sub_cancel_left,
      List.getD_eq_getElem?_getD, List.getElem?_eq_getElem bound, Option.getD_some]
  have placed := d.place_eq
  have number : dayNumber d.year d.month d.day = d.number := by
    rw [dayNumber, before]
    omega
  rw [ofYearMonthDay?, if_pos ⟨positive, length ▸ fits⟩, number, ofNumber?_number]

end Date
end Steward.Calendar
