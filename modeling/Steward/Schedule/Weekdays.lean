import Steward.Calendar.Date

/-!
Sets of weekdays as a mask with Sunday in bit 0 and Saturday in bit 6. A mask that was read back from
the task store may have bit 7 set; it is then not empty and still holds no day.
-/
namespace Steward.Schedule

structure Weekdays where
  mask : UInt8
deriving DecidableEq

namespace Weekdays

def all : Weekdays := ⟨0x7F⟩

/-- Keeps the seven day bits and drops the rest. -/
def ofBits (bits : UInt16) : Weekdays := ⟨(bits &&& 0x7F).toUInt8⟩

def isEmpty (w : Weekdays) : Bool := w.mask == 0

def contains (w : Weekdays) (day : Nat) : Bool := w.mask.toNat.testBit day

end Weekdays
end Steward.Schedule
