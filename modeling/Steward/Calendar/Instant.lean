import Steward.Calendar.Date
import Steward.Text.Numeral

/-!
Instants of local time: a date and the nanoseconds since its midnight. The order of instants is that
of their distance from 1970-01-01T00:00:00, and moving an instant by a span answers `none` when the
result lies outside the calendar. There are no leap seconds.
-/
namespace Steward.Calendar

def nanosPerSecond : Nat := 1000000000

def nanosPerMilli : Nat := 1000000

def nanosPerDay : Nat := 86400 * nanosPerSecond

structure TimeOfDay where
  nanos : Nat
  nanos_lt : nanos < nanosPerDay
deriving DecidableEq

namespace TimeOfDay

def midnight : TimeOfDay := ⟨0, by decide⟩

def ofNanos? (n : Nat) : Option TimeOfDay :=
  if h : n < nanosPerDay then some ⟨n, h⟩ else none

/-- The start of a minute of the day; there is no hour 24 and no minute 60. -/
def ofHourMinute? (hour minute : Nat) : Option TimeOfDay :=
  if hour < 24 ∧ minute < 60 then ofNanos? ((hour * 60 + minute) * 60 * nanosPerSecond) else none

def seconds (t : TimeOfDay) : Nat := t.nanos / nanosPerSecond

def fraction (t : TimeOfDay) : Nat := t.nanos % nanosPerSecond

end TimeOfDay

structure Instant where
  date : Date
  time : TimeOfDay
deriving DecidableEq

namespace Instant

/-- Nanoseconds since 1970-01-01T00:00:00. -/
def toNanos (t : Instant) : Int := t.date.number * nanosPerDay + t.time.nanos

instance : LE Instant := ⟨fun a b => a.toNanos ≤ b.toNanos⟩

instance : LT Instant := ⟨fun a b => a.toNanos < b.toNanos⟩

instance (a b : Instant) : Decidable (a ≤ b) := inferInstanceAs (Decidable (a.toNanos ≤ b.toNanos))

instance (a b : Instant) : Decidable (a < b) := inferInstanceAs (Decidable (a.toNanos < b.toNanos))

theorem time_bound (n : Int) : (n % nanosPerDay).toNat < nanosPerDay := by
  have pos : (0 : Int) < nanosPerDay := by decide
  have low := Int.emod_nonneg n (Int.ne_of_gt pos)
  have high := Int.emod_lt_of_pos n pos
  omega

def ofNanos? (n : Int) : Option Instant :=
  (Date.ofNumber? (n / nanosPerDay)).map fun d => ⟨d, ⟨(n % nanosPerDay).toNat, time_bound n⟩⟩

/-- The instant `nanos` later, unless the calendar ends before it. -/
def plus? (t : Instant) (nanos : Int) : Option Instant := ofNanos? (t.toNanos + nanos)

def plusMinutes? (t : Instant) (minutes : Nat) : Option Instant :=
  t.plus? (minutes * 60 * nanosPerSecond)

/-- Nanoseconds from `b` to `a`, negative when `a` is earlier. -/
def since (a b : Instant) : Int := a.toNanos - b.toNanos

/-- The same instant with the fraction of its second dropped. -/
def wholeSeconds (t : Instant) : Instant :=
  { t with
    time := ⟨t.time.nanos - t.time.nanos % nanosPerSecond,
      Nat.lt_of_le_of_lt (Nat.sub_le _ _) t.time.nanos_lt⟩ }

def earlier (a b : Instant) : Instant := if b < a then b else a

/-- 1975-01-01T01:00:00. -/
def longAgo : Instant := ⟨⟨1826, by decide, by decide⟩, ⟨3600000000000, by decide⟩⟩

def earliest : Instant := ⟨Date.earliest, TimeOfDay.midnight⟩

end Instant
end Steward.Calendar
