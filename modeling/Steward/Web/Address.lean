import Steward.Text.Line
import Steward.Text.Numeral

/-!
Numeric addresses of hosts. One of 32 bits has up to four numbers with dots between them, decimal, octal
behind a zero or hexadecimal behind `0x`, of which the last takes all the bits that are left. One of 128
bits has eight hexadecimal pieces with colons between them, of which one run of zeros may be left out and
the last two may be written with dots.
-/
namespace Steward.Web

open Steward.Text

/-- A number in digits of a base. -/
def numberIn? (base : Nat) (digits : List Char) : Option Nat :=
  if digits.all fun c => (hexDigitValue? c).any (· < base) then
    some (digits.foldl (fun n c => n * base + (hexDigitValue? c).getD 0) 0)
  else none

/-- A part of an address with dots; `0x` alone is zero. -/
def dottedPart? : List Char → Option Nat
  | [] => none
  | '0' :: 'x' :: digits => numberIn? 16 digits
  | '0' :: 'X' :: digits => numberIn? 16 digits
  | '0' :: c :: digits => numberIn? 8 (c :: digits)
  | digits => numberIn? 10 digits

/-- The parts between dots; a dot at the end ends the last one. -/
def dottedParts (host : List Char) : List (List Char) :=
  let parts := host.splitOnP (· == '.')
  if parts.getLast? = some [] then parts.dropLast else parts

/-- Whether a host is meant to be an address: its last part is a number, or would be one in base ten. -/
def endsInNumber (host : List Char) : Bool :=
  match (dottedParts host).getLast? with
  | none => false
  | some last => (!last.isEmpty && last.all isDigit) || (dottedPart? last).isSome

/-- The address that a text with dots stands for. -/
def dotted? (host : List Char) : Option Nat := do
  let numbers ← (dottedParts host).mapM dottedPart?
  match numbers.reverse with
  | [] => none
  | last :: before =>
    let high := before.reverse
    if 3 < high.length || high.any (255 < ·) || Nat.pow 256 (4 - high.length) ≤ last then none
    else some (high.zipIdx.foldl (fun n (part, i) => n + part * Nat.pow 256 (3 - i)) last)

def writtenDotted (n : Nat) : String :=
  join "." ([16777216, 65536, 256, 1].map fun size => padded 1 (n / size % 256))

/-- The four numbers with dots at the end of an address with colons, as two pieces: decimal, below 256 and
without zeros in front. -/
def dottedPieces? (cs : List Char) : Option (List Nat) := do
  let numbers ← (cs.splitOnP (· == '.')).mapM fun part =>
    if part.length > 1 && part.head? = some '0' then none else (digits? part).filter (· < 256)
  match numbers with
  | [a, b, c, d] => some [a * 256 + b, c * 256 + d]
  | _ => none

def piece? (cs : List Char) : Option Nat := if cs.isEmpty || cs.length > 4 then none else numberIn? 16 cs

/-- Pieces with colons between them, none when nothing is written. -/
def pieces? (cs : List Char) (admitsDots : Bool) : Option (List Nat) :=
  if cs.isEmpty then some []
  else
    let parts := cs.splitOnP (· == ':')
    let last := parts.getLastD []
    if admitsDots && last.contains '.' then do
      let front ← parts.dropLast.mapM piece?
      return front ++ (← dottedPieces? last)
    else parts.mapM piece?

/-- The eight pieces of an address, where two colons stand for a run of zeros. -/
def colonPieces? (cs : List Char) : Option (List Nat) :=
  match cutAtText [':', ':'] cs with
  | none => (pieces? cs true).filter (·.length = 8)
  | some (before, after) => do
    let front ← pieces? before false
    let back ← pieces? after true
    if front.length + back.length < 8 then
      some (front ++ List.replicate (8 - front.length - back.length) 0 ++ back)
    else none

/-- The first of the longest runs of zeros, as its place and its length. -/
def longestZeros (pieces : List Nat) : Nat × Nat :=
  ((List.range pieces.length).map fun i => (i, ((pieces.drop i).takeWhile (· = 0)).length)).foldl
    (fun best run => if best.2 < run.2 then run else best) (0, 0)

/-- The longest run of at least two zeros is left out. -/
def writtenColons (pieces : List Nat) : String :=
  let shown (ps : List Nat) : String := join ":" (ps.map fun n => String.ofList (Nat.toDigits 16 n))
  let (start, length) := longestZeros pieces
  if length < 2 then shown pieces
  else shown (pieces.take start) ++ "::" ++ shown (pieces.drop (start + length))

end Steward.Web
