import Steward.Text.Numeral

/-!
Bytes as pairs of hexadecimal digits, written in lower case.
-/
namespace Steward.Text

def hexOfByte (b : UInt8) : List Char := [hexDigit (b.toNat / 16), hexDigit (b.toNat % 16)]

def hexOfBytes (bytes : List UInt8) : String := String.ofList (bytes.flatMap hexOfByte)

def bytesOfHexChars? : List Char → Option (List UInt8)
  | [] => some []
  | [_] => none
  | a :: b :: rest => do
    let high ← hexDigitValue? a
    let low ← hexDigitValue? b
    let bytes ← bytesOfHexChars? rest
    return UInt8.ofNat (high * 16 + low) :: bytes

def bytesOfHex? (s : String) : Option (List UInt8) := bytesOfHexChars? s.toList

end Steward.Text
