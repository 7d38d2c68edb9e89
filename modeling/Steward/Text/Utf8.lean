/-!
Text and its UTF-8 bytes. `decodeLossy` reads any bytes: each maximal part that starts a character but
does not finish it, and each byte that starts none, becomes one U+FFFD.
-/
namespace Steward.Text

def utf8 (s : String) : List UInt8 := s.toByteArray.data.toList

def ofUtf8? (bytes : List UInt8) : Option String := String.fromUTF8? ⟨bytes.toArray⟩

def replacement : Char := Char.ofNat 0xFFFD

/-- For a byte that starts a character of two to four bytes: its own bits, the number of bytes that
follow, and the range of the first of these. The narrowed ranges shut out overlong forms, surrogates
and code points above U+10FFFF. -/
def leadByte? (b : UInt8) : Option (Nat × Nat × Nat × Nat) :=
  let n := b.toNat
  if 0xC2 ≤ n ∧ n ≤ 0xDF then some (n - 0xC0, 1, 0x80, 0xBF)
  else if n = 0xE0 then some (0, 2, 0xA0, 0xBF)
  else if n = 0xED then some (0xD, 2, 0x80, 0x9F)
  else if 0xE1 ≤ n ∧ n ≤ 0xEF then some (n - 0xE0, 2, 0x80, 0xBF)
  else if n = 0xF0 then some (0, 3, 0x90, 0xBF)
  else if 0xF1 ≤ n ∧ n ≤ 0xF3 then some (n - 0xF0, 3, 0x80, 0xBF)
  else if n = 0xF4 then some (4, 3, 0x80, 0x8F)
  else none

/-- A character that is being read: its bits so far, how many bytes it still needs, and the range of
the next one. -/
structure Pending where
  bits : Nat
  needed : Nat
  low : Nat
  high : Nat

/-- Starts a character at `b`, or answers the character that `b` stands for on its own. -/
def startChar (b : UInt8) : Char ⊕ Pending :=
  if b.toNat < 0x80 then .inl (Char.ofNat b.toNat)
  else match leadByte? b with
    | some (bits, needed, low, high) => .inr ⟨bits, needed, low, high⟩
    | none => .inl replacement

def decodeFrom : Option Pending → List UInt8 → List Char
  | none, [] => []
  | some _, [] => [replacement]
  | none, b :: bs =>
    match startChar b with
    | .inl c => c :: decodeFrom none bs
    | .inr p => decodeFrom (some p) bs
  | some p, b :: bs =>
    if p.low ≤ b.toNat ∧ b.toNat ≤ p.high then
      let bits := p.bits * 64 + (b.toNat - 0x80)
      if p.needed = 1 then Char.ofNat bits :: decodeFrom none bs
      else decodeFrom (some ⟨bits, p.needed - 1, 0x80, 0xBF⟩) bs
    else
      replacement :: match startChar b with
        | .inl c => c :: decodeFrom none bs
        | .inr p => decodeFrom (some p) bs

def decodeLossy (bytes : List UInt8) : String := String.ofList (decodeFrom none bytes)

end Steward.Text
