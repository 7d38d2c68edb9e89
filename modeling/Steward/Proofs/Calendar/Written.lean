import Steward.Calendar.Written
import Steward.Proofs.Calendar.Date
import Steward.Proofs.Text.Numeral

/-!
Written instants read back. The written form gives back the instant to the nanosecond, and the stamp
the instant at the start of its second.
-/
namespace Steward.Calendar
open Steward.Text

theorem readDigits?_padded {bound width n : Nat} {rest : List Char} (stops : NoDigit rest)
    (short : (padded width n).toList.length ≤ bound) :
    readDigits? bound ((padded width n).toList ++ rest) = some (n, rest) := by
  rw [readDigits?, takeWhile_padded width n stops, dropWhile_padded width n stops, if_pos short,
    digits?_padded]
  rfl

theorem readAfter?_padded (mark : Char) {n : Nat} {rest : List Char} (stops : NoDigit rest)
    (small : n < 100) : readAfter? mark (mark :: ((padded 2 n).toList ++ rest)) = some (n, rest) := by
  rw [readAfter?, if_pos rfl]
  exact readDigits?_padded stops (Nat.le_of_eq (length_padded (Nat.succ_pos 1) small))

theorem readYear?_unsigned {n : Nat} {rest : List Char} (stops : NoDigit rest) (small : n ≤ 9999) :
    readYear? ((padded 4 n).toList ++ rest) = some ((n : Int), rest) := by
  have read : readDigits? 4 ((padded 4 n).toList ++ rest) = some (n, rest) :=
    readDigits?_padded stops
      (Nat.le_of_eq (length_padded (Nat.succ_pos 3) (Nat.lt_succ_of_le small)))
  obtain ⟨d, ds, shape⟩ := List.exists_cons_of_ne_nil (padded_ne_nil 4 n)
  have digit : isDigit d = true := isDigit_of_mem_padded 4 n (shape ▸ List.mem_cons_self)
  rw [shape] at read ⊢
  rw [List.cons_append] at read ⊢
  unfold readYear?
  -- The sign of a year is no digit.
  split
  · rename_i same
    cases same
    cases digit
  · rename_i same
    cases same
    cases digit
  · rw [read]
    rfl

theorem readYear?_minus (cs : List Char) : readYear? ('-' :: cs) =
    (readDigits? cs.length cs).map fun (n, rest) => (-(n : Int), rest) := rfl

theorem readYear?_plus (cs : List Char) : readYear? ('+' :: cs) =
    (readDigits? cs.length cs).map fun (n, rest) => ((n : Int), rest) := rfl

theorem readYear?_writtenYear (year : Int) {rest : List Char} (stops : NoDigit rest) :
    readYear? ((writtenYear year).toList ++ rest) = some (year, rest) := by
  have signedYear (n : Nat) : readDigits? ((padded 4 n).toList ++ rest).length
      ((padded 4 n).toList ++ rest) = some (n, rest) :=
    readDigits?_padded stops (by rw [List.length_append]; exact Nat.le_add_right _ _)
  rw [writtenYear]
  by_cases four : 0 ≤ year ∧ year ≤ 9999
  · rw [if_pos four, readYear?_unsigned stops (by omega), Int.toNat_of_nonneg four.1]
  · rw [if_neg four]
    by_cases negative : year < 0
    · rw [if_pos negative, toList_minus, List.cons_append, readYear?_minus, signedYear]
      have same : -(year.natAbs : Int) = year := by omega
      exact congrArg some (congrArg (·, rest) same)
    · rw [if_neg negative, toList_plus, List.cons_append, readYear?_plus, signedYear]
      have same : (year.toNat : Int) = year := by omega
      exact congrArg some (congrArg (·, rest) same)

theorem toList_stamp (t : Instant) (rest : List Char) : t.stamp.toList ++ rest =
    (writtenYear t.date.year).toList ++ '-' :: ((padded 2 t.date.month).toList ++
      '-' :: ((padded 2 t.date.day).toList ++ 'T' :: ((padded 2 (t.time.seconds / 3600)).toList ++
        ':' :: ((padded 2 (t.time.seconds / 60 % 60)).toList ++
          ':' :: ((padded 2 (t.time.seconds % 60)).toList ++ rest))))) := by
  have dash : "-".toList = ['-'] := rfl
  have mark : "T".toList = ['T'] := rfl
  have colon : ":".toList = [':'] := rfl
  simp only [Instant.stamp, Date.written, TimeOfDay.clock, String.toList_append, dash, mark, colon,
    List.append_assoc, List.cons_append, List.nil_append]

theorem TimeOfDay.seconds_lt (t : TimeOfDay) : t.seconds < 86400 :=
  Nat.div_lt_of_lt_mul (Nat.mul_comm _ _ ▸ t.nanos_lt)

theorem readSeconds?_stamp (t : Instant) {rest : List Char} (stops : NoDigit rest) :
    readSeconds? (t.stamp.toList ++ rest) = some ((t.date, t.time.seconds), rest) := by
  have range := t.time.seconds_lt
  have month := t.date.month_le
  have day := t.date.day_le
  have dash (cs : List Char) : NoDigit ('-' :: cs) := noDigit_cons (by decide) cs
  have mark (cs : List Char) : NoDigit ('T' :: cs) := noDigit_cons (by decide) cs
  have colon (cs : List Char) : NoDigit (':' :: cs) := noDigit_cons (by decide) cs
  have clock : t.time.seconds / 3600 < 24 ∧ t.time.seconds / 60 % 60 < 60 ∧
      t.time.seconds % 60 < 60 := by omega
  have total : (t.time.seconds / 3600 * 60 + t.time.seconds / 60 % 60) * 60 + t.time.seconds % 60 =
      t.time.seconds := by omega
  rw [toList_stamp, readSeconds?, readYear?_writtenYear _ (dash _)]
  simp only [Option.bind_eq_bind, Option.bind_some]
  rw [readAfter?_padded '-' (dash _) (by omega), Option.bind_some,
    readAfter?_padded '-' (mark _) (by omega), Option.bind_some,
    readAfter?_padded 'T' (colon _) (by omega), Option.bind_some,
    readAfter?_padded ':' (colon _) (by omega), Option.bind_some,
    readAfter?_padded ':' stops (by omega), Option.bind_some,
    Date.ofYearMonthDay?_self, Option.bind_some, if_pos clock, total]

theorem readFraction?_padded {width k : Nat} (some : 0 < width) (nine : width ≤ 9)
    (fits : k < Nat.pow 10 width) :
    readFraction? ('.' :: (padded width k).toList) = .some (k * Nat.pow 10 (9 - width)) := by
  have length := length_padded some fits
  rw [readFraction?, digits?_padded, Option.map_some, length,
    List.take_of_length_le (by rw [length]; exact nine), valueOf_padded]

theorem readFraction?_written {nanos : Nat} (small : nanos < nanosPerSecond) :
    readFraction? (writtenFraction nanos).toList = some nanos := by
  have bound : nanos < 1000000000 := small
  have read (width k limit unit : Nat) (some : 0 < width) (nine : width ≤ 9)
      (digits : Nat.pow 10 width = limit) (left : Nat.pow 10 (9 - width) = unit) (fits : k < limit)
      (same : k * unit = nanos) : readFraction? ("." ++ padded width k).toList = .some nanos := by
    rw [toList_point, readFraction?_padded some nine (digits ▸ fits), left, same]
  rw [writtenFraction]
  split
  · rename_i none
    rw [none]
    rfl
  · split
    · exact read 3 _ 1000 1000000 (by decide) (by decide) rfl rfl (by omega) (by omega)
    · split
      · exact read 6 _ 1000000 1000 (by decide) (by decide) rfl rfl (by omega) (by omega)
      · exact read 9 _ 1000000000 1 (by decide) (by decide) rfl rfl bound (Nat.mul_one nanos)

theorem noDigit_writtenFraction (nanos : Nat) : NoDigit (writtenFraction nanos).toList := by
  have point (s : String) : NoDigit ("." ++ s).toList := by
    rw [toList_point]
    exact noDigit_cons (by decide) _
  rw [writtenFraction]
  split
  · exact noDigit_nil
  · split
    · exact point _
    · split
      · exact point _
      · exact point _

theorem TimeOfDay.ofSeconds?_seconds (t : TimeOfDay) : ofSeconds? t.seconds t.fraction = some t := by
  have nanos : t.seconds * nanosPerSecond + t.fraction = t.nanos :=
    Nat.div_add_mod' t.nanos nanosPerSecond
  exact (congrArg ofNanos? nanos).trans (dif_pos t.nanos_lt)

namespace Instant

/-- Every instant reads back from its written form. -/
theorem read?_written (t : Instant) : read? t.written = some t := by
  have small : t.time.fraction < nanosPerSecond := Nat.mod_lt _ (by decide)
  have seconds := readSeconds?_stamp t (noDigit_writtenFraction t.time.fraction)
  rw [← String.toList_append] at seconds
  exact Option.bind_eq_some_iff.2 ⟨_, seconds, Option.bind_eq_some_iff.2
    ⟨_, readFraction?_written small, Option.bind_eq_some_iff.2
      ⟨_, t.time.ofSeconds?_seconds, rfl⟩⟩⟩

example : earliest.written = "-262143-01-01T00:00:00" := by decide

theorem seconds_wholeSeconds (t : Instant) :
    TimeOfDay.ofSeconds? t.time.seconds 0 = some t.wholeSeconds.time := by
  have nanos : t.time.seconds * nanosPerSecond = t.wholeSeconds.time.nanos :=
    Nat.eq_sub_of_add_eq (Nat.div_add_mod' t.time.nanos nanosPerSecond)
  rw [TimeOfDay.ofSeconds?, Nat.add_zero, nanos]
  exact dif_pos t.wholeSeconds.time.nanos_lt

/-- What a stamp keeps of an instant is all but the fraction of its second. -/
theorem ofStamp?_stamp (t : Instant) : ofStamp? t.stamp = some t.wholeSeconds := by
  have seconds := readSeconds?_stamp t noDigit_nil
  rw [List.append_nil] at seconds
  exact Option.bind_eq_some_iff.2 ⟨_, seconds, Option.bind_eq_some_iff.2
    ⟨_, t.seconds_wholeSeconds, rfl⟩⟩

end Instant
end Steward.Calendar
