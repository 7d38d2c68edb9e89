import Steward.Text.Numeral

/-!
Decimal fractions and 64-bit floats. A float is read as the nearest one to the decimal; the written
form is its exact decimal expansion, so reading it gives the float back.
-/
namespace Steward.Text

/-- A decimal number `± significand · 10 ^ exponent`. -/
structure Decimal where
  negative : Bool
  significand : Nat
  exponent : Int

namespace Decimal

/-- Digits before the point that the number would have, at least roughly. -/
def magnitude (d : Decimal) : Int := (Nat.toDigits 10 d.significand).length + d.exponent

/-- The nearest float; exponents far beyond the range of floats are settled without computing them. -/
def toFloat (d : Decimal) : Float :=
  let size : Float :=
    if d.significand = 0 || d.magnitude < -400 then 0
    else if 400 < d.magnitude then 1 / 0
    else match d.exponent with
      | Int.ofNat e => Float.ofScientific d.significand false e
      | Int.negSucc e => Float.ofScientific d.significand true (e + 1)
  if d.negative then -size else size

end Decimal

/-- Digits with an optional point and exponent, at least one digit before the exponent; `none` if
anything else follows. -/
def unsignedDecimal? (cs : List Char) : Option (Nat × Int) := do
  let whole := cs.takeWhile isDigit
  let rest := cs.dropWhile isDigit
  let (fraction, rest) := match rest with
    | '.' :: more => (more.takeWhile isDigit, more.dropWhile isDigit)
    | other => ([], other)
  if whole.isEmpty && fraction.isEmpty then none
  else
    let exponent ← match rest with
      | [] => some (0 : Int)
      | e :: digits =>
        if e = 'e' || e = 'E' then
          match digits with
          | '-' :: ds => (digits? ds).map fun n => -(n : Int)
          | '+' :: ds => (digits? ds).map Int.ofNat
          | ds => (digits? ds).map Int.ofNat
        else none
    return (valueOf (whole ++ fraction), exponent - fraction.length)

/-- A float in decimal notation, or one of the words for infinity and for no number, in any case. -/
def float? (s : String) : Option Float :=
  let (negative, cs) := match s.toList with
    | '-' :: cs => (true, cs)
    | '+' :: cs => (false, cs)
    | cs => (false, cs)
  match String.ofList (cs.map Char.toLower) with
  | "inf" => some (if negative then -(1 / 0) else 1 / 0)
  | "infinity" => some (if negative then -(1 / 0) else 1 / 0)
  | "nan" => some (0 / 0)
  | _ => (unsignedDecimal? cs).map fun (m, e) => Decimal.toFloat ⟨negative, m, e⟩

/-- Exact decimal expansion of `m · 2 ^ q`. -/
def expansion (m : Nat) (q : Int) : String :=
  match q with
  | Int.ofNat k => padded 1 (m * Nat.pow 2 k) ++ ".0"
  | Int.negSucc k =>
    let n := m * Nat.pow 5 (k + 1)
    padded 1 (n / Nat.pow 10 (k + 1)) ++ "." ++ padded (k + 1) (n % Nat.pow 10 (k + 1))

/-- The decimal text of a finite float, given by its bits. -/
def decimalOfBits (bits : UInt64) : String :=
  let n := bits.toNat
  let fraction := n % 0x10000000000000
  let power := n / 0x10000000000000 % 0x800
  let body :=
    if power = 0 then expansion fraction (-1074) else expansion (0x10000000000000 + fraction) (Int.ofNat power - 1075)
  if n < 0x8000000000000000 then body else "-" ++ body

/-- The 16 hexadecimal digits of a word. -/
def hex16 (bits : UInt64) : String :=
  let ds := Nat.toDigits 16 bits.toNat
  String.ofList (List.replicate (16 - ds.length) '0' ++ ds)

end Steward.Text
