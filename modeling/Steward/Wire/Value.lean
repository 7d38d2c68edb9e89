/-!
Values of the binary message format and how they are written: the shortest head for each number,
text, list and map, with all numbers in big-endian order.

`Value` also tells apart forms that a reader can meet but the writer never chooses (a number in a
signed form although it is not negative, a 32-bit float, binary data, extensions). Lengths are below
2^32; a longer text or list has no written form, and `write` then cuts its length to 32 bits.
-/
namespace Steward.Wire

abbrev Bytes := List UInt8

inductive Value where
  | nil
  | bool (b : Bool)
  | uint (n : UInt64)
  | int (n : Int64)
  | float32 (bits : UInt32)
  | float64 (bits : UInt64)
  | text (utf8 : Bytes)
  | binary (bytes : Bytes)
  | list (items : List Value)
  | map (entries : List (Value × Value))
  | extension (tag : UInt8) (bytes : Bytes)

/-- The bits of the double that a 32-bit float stands for. One that is no number keeps its sign and its
payload and gets the mark of those that raise no alarm. -/
def widened (bits : UInt32) : UInt64 :=
  let f := Float32.ofBits bits
  if f.isNaN then
    ((bits >>> 31).toUInt64 <<< 63) ||| (0x7FF8000000000000 : UInt64) |||
      ((bits &&& 0x7FFFFF).toUInt64 <<< 29)
  else f.toFloat.toBits

/-- The last `width` bytes of `n`, most significant first. -/
def bigEndian : Nat → Nat → Bytes
  | 0, _ => []
  | width + 1, n => UInt8.ofNat (n / Nat.pow 256 width) :: bigEndian width n

def Value.ofInt (n : Int64) : Value :=
  if 0 ≤ n then .uint n.toUInt64 else .int n

def writeUInt (n : Nat) : Bytes :=
  if n < 0x80 then [UInt8.ofNat n]
  else if n < 0x100 then 0xCC :: bigEndian 1 n
  else if n < 0x10000 then 0xCD :: bigEndian 2 n
  else if n < 0x100000000 then 0xCE :: bigEndian 4 n
  else 0xCF :: bigEndian 8 n

/-- A negative number in two's complement; the others are written unsigned. -/
def writeInt (n : Int) : Bytes :=
  if 0 ≤ n then writeUInt n.toNat
  else if -0x20 ≤ n then [UInt8.ofNat (n + 0x100).toNat]
  else if -0x80 ≤ n then 0xD0 :: bigEndian 1 (n + 0x100).toNat
  else if -0x8000 ≤ n then 0xD1 :: bigEndian 2 (n + 0x10000).toNat
  else if -0x80000000 ≤ n then 0xD2 :: bigEndian 4 (n + 0x100000000).toNat
  else 0xD3 :: bigEndian 8 (n + 0x10000000000000000).toNat

def textHead (n : Nat) : Bytes :=
  if n < 0x20 then [UInt8.ofNat (0xA0 + n)]
  else if n < 0x100 then 0xD9 :: bigEndian 1 n
  else if n < 0x10000 then 0xDA :: bigEndian 2 n
  else 0xDB :: bigEndian 4 n

def binaryHead (n : Nat) : Bytes :=
  if n < 0x100 then 0xC4 :: bigEndian 1 n
  else if n < 0x10000 then 0xC5 :: bigEndian 2 n
  else 0xC6 :: bigEndian 4 n

def listHead (n : Nat) : Bytes :=
  if n < 0x10 then [UInt8.ofNat (0x90 + n)]
  else if n < 0x10000 then 0xDC :: bigEndian 2 n
  else 0xDD :: bigEndian 4 n

def mapHead (n : Nat) : Bytes :=
  if n < 0x10 then [UInt8.ofNat (0x80 + n)]
  else if n < 0x10000 then 0xDE :: bigEndian 2 n
  else 0xDF :: bigEndian 4 n

def extensionHead (n : Nat) : Bytes :=
  if n = 1 then [0xD4]
  else if n = 2 then [0xD5]
  else if n = 4 then [0xD6]
  else if n = 8 then [0xD7]
  else if n = 16 then [0xD8]
  else if n < 0x100 then 0xC7 :: bigEndian 1 n
  else if n < 0x10000 then 0xC8 :: bigEndian 2 n
  else 0xC9 :: bigEndian 4 n

mutual

def Value.write : Value → Bytes
  | .nil => [0xC0]
  | .bool false => [0xC2]
  | .bool true => [0xC3]
  | .uint n => writeUInt n.toNat
  | .int n => writeInt n.toInt
  | .float32 bits => 0xCA :: bigEndian 4 bits.toNat
  | .float64 bits => 0xCB :: bigEndian 8 bits.toNat
  | .text utf8 => textHead utf8.length ++ utf8
  | .binary bytes => binaryHead bytes.length ++ bytes
  | .list items => listHead items.length ++ writeItems items
  | .map entries => mapHead entries.length ++ writeEntries entries
  | .extension tag bytes => extensionHead bytes.length ++ tag :: bytes

def writeItems : List Value → Bytes
  | [] => []
  | v :: vs => v.write ++ writeItems vs

def writeEntries : List (Value × Value) → Bytes
  | [] => []
  | (k, v) :: rest => k.write ++ v.write ++ writeEntries rest

end

end Steward.Wire
