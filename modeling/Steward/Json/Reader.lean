import Steward.Json.Value
import Steward.Text.Decimal

/-!
Reading JSON texts, strictly: no comments, no trailing commas, no unpaired surrogates, numbers within
the range of floats, and lists and objects nested at most 127 deep. A whole number without fraction
and exponent is an integer if it fits 64 bits, signed or unsigned.
-/
namespace Steward.Json

open Steward.Text

def isSpace (c : Char) : Bool := c = ' ' || c = '\n' || c = '\t' || c = '\r'

def skipSpace (cs : List Char) : List Char := cs.dropWhile isSpace

/-- Four hexadecimal digits. -/
def readUnit? : List Char → Option (Nat × List Char)
  | a :: b :: c :: d :: rest => do
    let a ← hexDigitValue? a
    let b ← hexDigitValue? b
    let c ← hexDigitValue? c
    let d ← hexDigitValue? d
    return (((a * 16 + b) * 16 + c) * 16 + d, rest)
  | _ => none

/-- The character behind `\u`; a high surrogate needs a low one right behind it. -/
def readEscapedUnit? (cs : List Char) : Option (Char × List Char) := do
  let (high, rest) ← readUnit? cs
  if 0xDC00 ≤ high ∧ high ≤ 0xDFFF then none
  else if 0xD800 ≤ high ∧ high ≤ 0xDBFF then
    match rest with
    | '\\' :: 'u' :: rest =>
      let (low, rest) ← readUnit? rest
      if 0xDC00 ≤ low ∧ low ≤ 0xDFFF then
        some (Char.ofNat (0x10000 + (high - 0xD800) * 0x400 + (low - 0xDC00)), rest)
      else none
    | _ => none
  else some (Char.ofNat high, rest)

def readEscape? : List Char → Option (Char × List Char)
  | '"' :: rest => some ('"', rest)
  | '\\' :: rest => some ('\\', rest)
  | '/' :: rest => some ('/', rest)
  | 'b' :: rest => some (Char.ofNat 8, rest)
  | 'f' :: rest => some (Char.ofNat 12, rest)
  | 'n' :: rest => some ('\n', rest)
  | 'r' :: rest => some ('\r', rest)
  | 't' :: rest => some ('\t', rest)
  | 'u' :: rest => readEscapedUnit? rest
  | _ => none

/-- The rest of a text behind its opening quote; `fuel` bounds the number of characters. -/
def readTextBody? : Nat → List Char → List Char → Option (String × List Char)
  | 0, _, _ => none
  | fuel + 1, done, cs =>
    match cs with
    | [] => none
    | '"' :: rest => some (String.ofList done.reverse, rest)
    | '\\' :: rest =>
      match readEscape? rest with
      | none => none
      | some (c, rest) => readTextBody? fuel (c :: done) rest
    | c :: rest => if c.toNat < 0x20 then none else readTextBody? fuel (c :: done) rest

def readText? (cs : List Char) : Option (String × List Char) :=
  readTextBody? (cs.length + 1) [] cs

/-- The whole part of a number: no zero in front of another digit. -/
def readWhole? (cs : List Char) : Option (List Char × List Char) :=
  let ds := cs.takeWhile isDigit
  match ds with
  | [] => none
  | '0' :: _ :: _ => none
  | _ => some (ds, cs.dropWhile isDigit)

def readFraction? (cs : List Char) : Option (List Char × List Char) :=
  match cs with
  | '.' :: rest =>
    let ds := rest.takeWhile isDigit
    if ds.isEmpty then none else some (ds, rest.dropWhile isDigit)
  | _ => some ([], cs)

/-- The exponent, or `none` inside when there is none written. -/
def readExponent? (cs : List Char) : Option (Option Int × List Char) :=
  let digits (sign : Int) (cs : List Char) : Option (Option Int × List Char) :=
    (digits? (cs.takeWhile isDigit)).map fun n => (some (sign * n), cs.dropWhile isDigit)
  match cs with
  | e :: rest =>
    if e = 'e' || e = 'E' then
      match rest with
      | '-' :: rest => digits (-1) rest
      | '+' :: rest => digits 1 rest
      | rest => digits 1 rest
    else some (none, cs)
  | [] => some (none, cs)

/-- Appends digits to a number as long as it stays below 2^64. The number, and how many digits went in
and how many were left. -/
def absorb (n : Nat) : List Char → Nat × Nat × Nat
  | [] => (n, 0, 0)
  | d :: ds =>
    let longer := n * 10 + (d.toNat - '0'.toNat)
    if longer < 0x10000000000000000 then
      let (m, taken, left) := absorb longer ds
      (m, taken + 1, left)
    else (n, 0, ds.length + 1)

/-- `f · 10 ^ exponent` in steps of at most 308 digits, the last of them first rounded and then
checked to be in range. -/
def scaled? (f : Float) (exponent : Int) : Nat → Option Float
  | 0 => some 0
  | steps + 1 =>
    let size := exponent.natAbs
    if size ≤ 308 then
      let power := Float.ofScientific 1 false size
      if exponent < 0 then some (f / power)
      else if (f * power).isFinite then some (f * power) else none
    else if f == 0 then some f
    else if exponent < 0 then scaled? (f / Float.ofScientific 1 false 308) (exponent + 308) steps
    else none

/-- A number as a float. Digits beyond the first 64 bits count for the size alone, so the float need
not be the nearest one. -/
def realValue? (negative : Bool) (whole fraction : List Char) (exponent : Int) : Option Value := do
  let (n, _, left) := absorb 0 whole
  let (n, taken, _) := absorb n fraction
  let f ← scaled? (UInt64.ofNat n).toFloat (exponent + left - taken) 4
  return .real (if negative then -f else f).toBits

def numberValue? (negative : Bool) (whole fraction : List Char) (exponent : Option Int) :
    Option Value :=
  let real := realValue? negative whole fraction (exponent.getD 0)
  if fraction.isEmpty && exponent.isNone then
    let n := valueOf whole
    if negative then
      if 0 < n ∧ n ≤ 0x8000000000000000 then some (.int (-(n : Int))) else real
    else if n < 0x10000000000000000 then some (.int n) else real
  else real

def readNumber? (cs : List Char) : Option (Value × List Char) := do
  let (negative, cs) := match cs with
    | '-' :: rest => (true, rest)
    | other => (false, other)
  let (whole, cs) ← readWhole? cs
  let (fraction, cs) ← readFraction? cs
  let (exponent, cs) ← readExponent? cs
  let v ← numberValue? negative whole fraction exponent
  return (v, cs)

/-- Elements separated by commas up to the closing bracket, the first of them due now. -/
def readElements? (read : List Char → Option (α × List Char)) (close : Char) :
    Nat → List Char → Option (List α × List Char)
  | 0, _ => none
  | fuel + 1, cs => do
    let (a, cs) ← read cs
    match skipSpace cs with
    | c :: rest =>
      if c = close then some ([a], rest)
      else if c = ',' then
        let (as, rest) ← readElements? read close fuel rest
        return (a :: as, rest)
      else none
    | [] => none

/-- As `readElements?`, but there may be no element at all. -/
def readSequence? (read : List Char → Option (α × List Char)) (close : Char) (cs : List Char) :
    Option (List α × List Char) :=
  match skipSpace cs with
  | c :: rest => if c = close then some ([], rest) else readElements? read close cs.length cs
  | [] => none

def readMember? (read : List Char → Option (Value × List Char)) (cs : List Char) :
    Option ((String × Value) × List Char) :=
  match skipSpace cs with
  | '"' :: rest => do
    let (name, rest) ← readText? rest
    match skipSpace rest with
    | ':' :: rest =>
      let (v, rest) ← read rest
      return ((name, v), rest)
    | _ => none
  | _ => none

/-- A value with at most `depth` levels of lists and objects, blanks before it skipped. -/
def readValue? : Nat → List Char → Option (Value × List Char)
  | depth, cs =>
    match skipSpace cs with
    | 'n' :: 'u' :: 'l' :: 'l' :: rest => some (.null, rest)
    | 't' :: 'r' :: 'u' :: 'e' :: rest => some (.bool true, rest)
    | 'f' :: 'a' :: 'l' :: 's' :: 'e' :: rest => some (.bool false, rest)
    | '"' :: rest => (readText? rest).map fun (s, rest) => (.text s, rest)
    | '[' :: rest =>
      match depth with
      | 0 => none
      | depth + 1 => (readSequence? (readValue? depth) ']' rest).map fun (vs, rest) => (.list vs, rest)
    | '\x7b' :: rest =>
      match depth with
      | 0 => none
      | depth + 1 =>
        (readSequence? (readMember? (readValue? depth)) '\x7d' rest).map fun (ms, rest) =>
          (.object ms, rest)
    | cs => readNumber? cs

def nestingLimit : Nat := 127

/-- A text that holds one value and nothing else but blanks around it. -/
def Value.read? (s : String) : Option Value :=
  match readValue? nestingLimit s.toList with
  | some (v, rest) => if (skipSpace rest).isEmpty then some v else none
  | none => none

end Steward.Json
