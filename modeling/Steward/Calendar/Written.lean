import Steward.Calendar.Instant

/-!
The written form of instants, `YYYY-MM-DDTHH:MM:SS` with a fraction of 3, 6 or 9 digits when the
second is not whole, and the stamp, which leaves the fraction out. A year outside 0 to 9999 carries its
sign. Blanks are not read.
-/
namespace Steward.Calendar

open Steward.Text

def writtenYear (year : Int) : String :=
  if 0 ≤ year ∧ year ≤ 9999 then padded 4 year.toNat
  else if year < 0 then "-" ++ padded 4 year.natAbs
  else "+" ++ padded 4 year.toNat

def Date.written (d : Date) : String :=
  writtenYear d.year ++ "-" ++ padded 2 d.month ++ "-" ++ padded 2 d.day

/-- The shortest of 0, 3, 6 and 9 digits that loses nothing. -/
def writtenFraction (nanos : Nat) : String :=
  if nanos = 0 then ""
  else if nanos % 1000000 = 0 then "." ++ padded 3 (nanos / 1000000)
  else if nanos % 1000 = 0 then "." ++ padded 6 (nanos / 1000)
  else "." ++ padded 9 nanos

/-- Hours, minutes and whole seconds. -/
def TimeOfDay.clock (t : TimeOfDay) : String :=
  padded 2 (t.seconds / 3600) ++ ":" ++ padded 2 (t.seconds / 60 % 60) ++ ":" ++
    padded 2 (t.seconds % 60)

def TimeOfDay.written (t : TimeOfDay) : String := t.clock ++ writtenFraction t.fraction

/-- The written form without a fraction. -/
def Instant.stamp (t : Instant) : String := t.date.written ++ "T" ++ t.time.clock

def Instant.written (t : Instant) : String := t.stamp ++ writtenFraction t.time.fraction

/-- A number of one to `width` digits, and what stands behind it. -/
def readDigits? (width : Nat) (cs : List Char) : Option (Nat × List Char) :=
  let ds := cs.takeWhile isDigit
  if ds.length ≤ width then (digits? ds).map (·, cs.dropWhile isDigit) else none

/-- A year, of at most four digits when it has no sign. -/
def readYear? : List Char → Option (Int × List Char)
  | '-' :: cs => (readDigits? cs.length cs).map fun (n, rest) => (-(n : Int), rest)
  | '+' :: cs => (readDigits? cs.length cs).map fun (n, rest) => ((n : Int), rest)
  | cs => (readDigits? 4 cs).map fun (n, rest) => ((n : Int), rest)

/-- A number of one or two digits behind the given mark. -/
def readAfter? (mark : Char) : List Char → Option (Nat × List Char)
  | c :: cs => if c = mark then readDigits? 2 cs else none
  | [] => none

/-- The fraction of a second in nanoseconds; digits behind the ninth do not count. -/
def readFraction? : List Char → Option Nat
  | [] => some 0
  | '.' :: ds =>
    (digits? ds).map fun _ => valueOf (ds.take 9) * Nat.pow 10 (9 - ds.length)
  | _ => none

/-- The date and the second of the day in front of a text, and what stands behind them. -/
def readSeconds? (cs : List Char) : Option ((Date × Nat) × List Char) := do
  let (year, rest) ← readYear? cs
  let (month, rest) ← readAfter? '-' rest
  let (day, rest) ← readAfter? '-' rest
  let (hour, rest) ← readAfter? 'T' rest
  let (minute, rest) ← readAfter? ':' rest
  let (second, rest) ← readAfter? ':' rest
  let date ← Date.ofYearMonthDay? year month day
  if hour < 24 ∧ minute < 60 ∧ second < 60 then
    some ((date, (hour * 60 + minute) * 60 + second), rest)
  else none

/-- The time of day with that second and the nanoseconds into it. -/
def TimeOfDay.ofSeconds? (seconds fraction : Nat) : Option TimeOfDay :=
  ofNanos? (seconds * nanosPerSecond + fraction)

def Instant.read? (s : String) : Option Instant := do
  let ((date, seconds), rest) ← readSeconds? s.toList
  let fraction ← readFraction? rest
  let time ← TimeOfDay.ofSeconds? seconds fraction
  some ⟨date, time⟩

/-- Reads an instant written without a fraction. -/
def Instant.ofStamp? (s : String) : Option Instant := do
  let ((date, seconds), rest) ← readSeconds? s.toList
  let time ← TimeOfDay.ofSeconds? seconds 0
  if rest.isEmpty then some ⟨date, time⟩ else none

end Steward.Calendar
