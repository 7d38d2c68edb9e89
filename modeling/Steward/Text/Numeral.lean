import Steward.Text.Blank

/-!
Decimal numerals. Reading admits one sign and then digits 0 to 9 only: no blanks, no separators,
and a plain `+` or `-` is no number. A value outside the asked range is refused, not wrapped.
-/
namespace Steward.Text

def isDigit (c : Char) : Bool := '0' ≤ c && c ≤ '9'

def digitValue (c : Char) : Nat := c.toNat - '0'.toNat

def valueOf (digits : List Char) : Nat :=
  digits.foldl (fun n c => 10 * n + digitValue c) 0

/-- A run of digits, at least one. -/
def digits? (cs : List Char) : Option Nat :=
  if !cs.isEmpty && cs.all isDigit then some (valueOf cs) else none

/-- A natural number below `bound`, with an optional `+`. -/
def natural? (bound : Nat) (s : String) : Option Nat :=
  let read (cs : List Char) := (digits? cs).filter (· < bound)
  match s.toList with
  | '+' :: cs => read cs
  | cs => read cs

/-- An integer from `-half` to `half - 1`, with an optional sign. -/
def integer? (half : Nat) (s : String) : Option Int :=
  match s.toList with
  | '-' :: cs => ((digits? cs).filter (· ≤ half)).map fun n => -(n : Int)
  | '+' :: cs => ((digits? cs).filter (· < half)).map Int.ofNat
  | cs => ((digits? cs).filter (· < half)).map Int.ofNat

/-- The decimal digits of `n`, with zeros in front up to `width`. -/
def padded (width n : Nat) : String :=
  let ds := Nat.toDigits 10 n
  String.ofList (List.replicate (width - ds.length) '0' ++ ds)

def signed (n : Int) : String :=
  match n with
  | Int.ofNat k => padded 1 k
  | Int.negSucc k => "-" ++ padded 1 (k + 1)

def hexDigit (n : Nat) : Char :=
  if n < 10 then Char.ofNat ('0'.toNat + n) else Char.ofNat ('a'.toNat + (n - 10))

def hexDigitValue? (c : Char) : Option Nat :=
  if isDigit c then some (digitValue c)
  else if 'a' ≤ c && c ≤ 'f' then some (c.toNat - 'a'.toNat + 10)
  else if 'A' ≤ c && c ≤ 'F' then some (c.toNat - 'A'.toNat + 10)
  else none

end Steward.Text
