import Steward.Text.Utf8
import Steward.Wire.Reader

/-!
Records in messages. A record is written as a map from field names to values. It is read from such a
map, whose keys may also be binary or the fields' positions, or from a list of the fields in their
order. Unknown keys are passed over; a field that is given twice, under any of its names, is an
error, and so is a key of any other kind.
-/
namespace Steward.Wire

open Steward.Text

/-- The names that a field goes by; the first is the one that is written. -/
structure Field where
  name : String
  aliases : List String

def field (name : String) : Field := ⟨name, []⟩

def fieldOr (name : String) (aliases : List String) : Field := ⟨name, aliases⟩

def Field.answersTo (f : Field) (key : Bytes) : Bool :=
  utf8 f.name == key || f.aliases.any (fun a => utf8 a == key)

/-- What a key stands for in a record with the given fields: the position of a field, or some key that
the record does not know. -/
inductive KeyPlace where
  | known (position : Nat)
  | unknown
deriving DecidableEq

def KeyPlace.ofPosition? : Option Nat → KeyPlace
  | some i => .known i
  | none => .unknown

/-- `none` for a key of a kind that no record has. -/
def placeOf? (fields : List Field) : Value → Option KeyPlace
  | .text key => some (.ofPosition? (fields.findIdx? (·.answersTo key)))
  | .binary key => some (.ofPosition? (fields.findIdx? (·.answersTo key)))
  | .uint n => some (if n.toNat < fields.length then .known n.toNat else .unknown)
  | _ => none

/-- One place for each field, filled or not. -/
abbrev Slots := List (Option Value)

def Slots.get? (slots : Slots) (i : Nat) : Option Value := (slots[i]?).join

def fillSlots (fields : List Field) : List (Value × Value) → Slots → Option Slots
  | [], slots => some slots
  | (key, value) :: rest, slots =>
    match placeOf? fields key with
    | none => none
    | some .unknown => fillSlots fields rest slots
    | some (.known i) =>
      if (slots.get? i).isSome then none else fillSlots fields rest (slots.set i (some value))

def slotsOf? (fields : List Field) : Value → Option Slots
  | .map entries => fillSlots fields entries (List.replicate fields.length none)
  | .list items =>
    if items.length ≤ fields.length then
      some (items.map some ++ List.replicate (fields.length - items.length) none)
    else none
  | _ => none

/-- The field at `i`, which has to be there. -/
def Slots.required (slots : Slots) (i : Nat) (read : Value → Option α) : Option α :=
  (slots.get? i).bind read

/-- The field at `i`, or its default when it is not there. -/
def Slots.orElse (slots : Slots) (i : Nat) (absent : α) (read : Value → Option α) : Option α :=
  match slots.get? i with
  | none => some absent
  | some v => read v

namespace Value

def asText? : Value → Option String
  | .text bytes => ofUtf8? bytes
  | .binary bytes => ofUtf8? bytes
  | _ => none

def asBool? : Value → Option Bool
  | .bool b => some b
  | _ => none

/-- An integer in any of its forms. -/
def asInt? : Value → Option Int
  | .uint n => some n.toNat
  | .int n => some n.toInt
  | _ => none

/-- An integer with `low ≤ n < high`. -/
def asIntIn? (low high : Int) (v : Value) : Option Int :=
  v.asInt?.filter fun n => low ≤ n && n < high

def asUInt64? (v : Value) : Option UInt64 := (v.asIntIn? 0 0x10000000000000000).map fun n => UInt64.ofNat n.toNat

def asUInt32? (v : Value) : Option UInt32 := (v.asIntIn? 0 0x100000000).map fun n => UInt32.ofNat n.toNat

def asUInt16? (v : Value) : Option UInt16 := (v.asIntIn? 0 0x10000).map fun n => UInt16.ofNat n.toNat

def asInt64? (v : Value) : Option Int64 := (v.asIntIn? (-0x8000000000000000) 0x8000000000000000).map Int64.ofInt

def asInt32? (v : Value) : Option Int32 := (v.asIntIn? (-0x80000000) 0x80000000).map Int32.ofInt

/-- The bits of a 64-bit float, into which shorter floats and integers are converted. -/
def asFloatBits? : Value → Option UInt64
  | .float64 bits => some bits
  | .float32 bits => some (widened bits)
  | .uint n => some n.toFloat.toBits
  | .int n => some n.toFloat.toBits
  | _ => none

def asOptional? (read : Value → Option α) : Value → Option (Option α)
  | .nil => some none
  | v => (read v).map some

def asList? (read : Value → Option α) : Value → Option (List α)
  | .list items => items.mapM read
  | _ => none

def ofText (s : String) : Value := .text (utf8 s)

def ofUInt32 (n : UInt32) : Value := .uint n.toUInt64

def ofInt32 (n : Int32) : Value := .ofInt n.toInt64

def ofOptional (write : α → Value) : Option α → Value
  | none => .nil
  | some a => write a

def ofList (write : α → Value) (items : List α) : Value := .list (items.map write)

/-- A record under the written names of its fields. -/
def ofFields (fields : List Field) (values : List Value) : Value :=
  .map ((fields.map fun f => ofText f.name).zip values)

end Value

/-- A type whose values are sent in messages. -/
class Sendable (α : Type) where
  toValue : α → Value
  ofValue? : Value → Option α

export Sendable (toValue ofValue?)

def encode [Sendable α] (a : α) : Bytes := (toValue a).write

def decode? [Sendable α] (bytes : Bytes) : Option α := (Value.read? bytes).bind ofValue?

instance : Sendable String := ⟨Value.ofText, Value.asText?⟩

instance : Sendable Bool := ⟨Value.bool, Value.asBool?⟩

instance : Sendable UInt32 := ⟨Value.ofUInt32, Value.asUInt32?⟩

instance [Sendable α] : Sendable (List α) := ⟨Value.ofList toValue, Value.asList? ofValue?⟩

instance : Sendable Value := ⟨id, some⟩

end Steward.Wire
