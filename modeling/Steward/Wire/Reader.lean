import Steward.Wire.Value

/-!
Reading one value from the front of a byte sequence. What follows the value is left over and never
looked at. Lists, maps and extensions nest at most 1023 deep; byte C1 starts no value.
-/
namespace Steward.Wire

/-- A reader takes its value off the front and answers the rest. -/
abbrev Reader (α : Type) := Bytes → Option (α × Bytes)

/-- The first `n` bytes, if there are so many. -/
def takeBytes : Nat → Reader Bytes
  | 0, bytes => some ([], bytes)
  | _ + 1, [] => none
  | n + 1, b :: bytes => (takeBytes n bytes).map fun (taken, rest) => (b :: taken, rest)

def bigEndianValue (bytes : Bytes) : Nat := bytes.foldl (fun n b => n * 256 + b.toNat) 0

def readNat (width : Nat) : Reader Nat := fun bytes =>
  (takeBytes width bytes).map fun (taken, rest) => (bigEndianValue taken, rest)

/-- Reads `n` values in a row. -/
def readMany (read : Reader α) : Nat → Reader (List α)
  | 0, bytes => some ([], bytes)
  | n + 1, bytes =>
    match read bytes with
    | none => none
    | some (a, rest) => (readMany read n rest).map fun (as, rest) => (a :: as, rest)

def readPair (read : Reader α) : Reader (α × α) := fun bytes =>
  match read bytes with
  | none => none
  | some (k, rest) => (read rest).map fun (v, rest) => ((k, v), rest)

def readUnsigned (width : Nat) : Reader Value := fun bytes =>
  (readNat width bytes).map fun (n, rest) => (.uint (UInt64.ofNat n), rest)

/-- A number of `width` bytes in two's complement. -/
def readSigned (width : Nat) : Reader Value := fun bytes =>
  (readNat width bytes).map fun (n, rest) =>
    let half := Nat.pow 256 width / 2
    (.int (Int64.ofInt (if n < half then (n : Int) else (n : Int) - (Nat.pow 256 width : Nat))), rest)

def readText (n : Nat) : Reader Value := fun bytes =>
  (takeBytes n bytes).map fun (taken, rest) => (.text taken, rest)

def readBinary (n : Nat) : Reader Value := fun bytes =>
  (takeBytes n bytes).map fun (taken, rest) => (.binary taken, rest)

def readExtension (n : Nat) : Reader Value := fun bytes =>
  match bytes with
  | [] => none
  | tag :: bytes => (takeBytes n bytes).map fun (taken, rest) => (.extension tag taken, rest)

/-- Reads a length of `width` bytes and then what it announces. -/
def withLength (width : Nat) (body : Nat → Reader α) : Reader α := fun bytes =>
  match readNat width bytes with
  | none => none
  | some (n, rest) => body n rest

/-- The value with head byte `head`, where `items n` and `entries n` read the inside of a list or a
map and `extension n` reads the inside of an extension. -/
def readBody (items entries extension : Nat → Reader Value) (head : Nat) : Reader Value := fun bytes =>
  if head < 0x80 then some (.uint (UInt64.ofNat head), bytes)
  else if head < 0x90 then entries (head - 0x80) bytes
  else if head < 0xA0 then items (head - 0x90) bytes
  else if head < 0xC0 then readText (head - 0xA0) bytes
  else if 0xE0 ≤ head then some (.int (Int64.ofInt ((head : Int) - 0x100)), bytes)
  else match head with
    | 0xC0 => some (.nil, bytes)
    | 0xC2 => some (.bool false, bytes)
    | 0xC3 => some (.bool true, bytes)
    | 0xC4 => withLength 1 readBinary bytes
    | 0xC5 => withLength 2 readBinary bytes
    | 0xC6 => withLength 4 readBinary bytes
    | 0xC7 => withLength 1 extension bytes
    | 0xC8 => withLength 2 extension bytes
    | 0xC9 => withLength 4 extension bytes
    | 0xCA => (readNat 4 bytes).map fun (n, rest) => (.float32 (UInt32.ofNat n), rest)
    | 0xCB => (readNat 8 bytes).map fun (n, rest) => (.float64 (UInt64.ofNat n), rest)
    | 0xCC => readUnsigned 1 bytes
    | 0xCD => readUnsigned 2 bytes
    | 0xCE => readUnsigned 4 bytes
    | 0xCF => readUnsigned 8 bytes
    | 0xD0 => readSigned 1 bytes
    | 0xD1 => readSigned 2 bytes
    | 0xD2 => readSigned 4 bytes
    | 0xD3 => readSigned 8 bytes
    | 0xD4 => extension 1 bytes
    | 0xD5 => extension 2 bytes
    | 0xD6 => extension 4 bytes
    | 0xD7 => extension 8 bytes
    | 0xD8 => extension 16 bytes
    | 0xD9 => withLength 1 readText bytes
    | 0xDA => withLength 2 readText bytes
    | 0xDB => withLength 4 readText bytes
    | 0xDC => withLength 2 items bytes
    | 0xDD => withLength 4 items bytes
    | 0xDE => withLength 2 entries bytes
    | 0xDF => withLength 4 entries bytes
    | _ => none

/-- A value with at most `depth` levels of lists, maps and extensions. -/
def readValue : Nat → Reader Value
  | 0, [] => none
  | 0, head :: bytes =>
    readBody (fun _ _ => none) (fun _ _ => none) (fun _ _ => none) head.toNat bytes
  | _ + 1, [] => none
  | depth + 1, head :: bytes =>
    readBody
      (fun n bytes => (readMany (readValue depth) n bytes).map fun (vs, rest) => (.list vs, rest))
      (fun n bytes =>
        (readMany (readPair (readValue depth)) n bytes).map fun (es, rest) => (.map es, rest))
      readExtension head.toNat bytes

/-- The deepest nesting that is read. -/
def nestingLimit : Nat := 1023

def Value.read? (bytes : Bytes) : Option Value := (readValue nestingLimit bytes).map Prod.fst

end Steward.Wire
