import Steward.Text.Numeral

/-!
Code points written in ASCII: first those of ASCII themselves, then, behind a hyphen, where the others go
and in which order, as differences from one to the next. A difference is written in digits of a mixed
radix, the lowest first, whose size is fitted to the differences seen so far.
-/
namespace Steward.Web.Domain.Punycode

open Steward.Text

/-- The digits are the letters and then the digits of ASCII. -/
def digit (n : Nat) : Char := if n < 26 then Char.ofNat (0x61 + n) else Char.ofNat (0x30 + (n - 26))

def digit? (c : Char) : Option Nat :=
  if 'a' ≤ c && c ≤ 'z' then some (c.toNat - 'a'.toNat)
  else if 'A' ≤ c && c ≤ 'Z' then some (c.toNat - 'A'.toNat)
  else if isDigit c then some (digitValue c + 26)
  else none

/-- A digit below this one, at the place `k`, is the last of its number. -/
def threshold (bias k : Nat) : Nat := min 26 (max 1 (k - bias))

/-- Scales a difference down; answers it with the place that goes with it. -/
def settle (delta k : Nat) : Nat × Nat :=
  if 455 < delta then settle (delta / 35) (k + 36) else (delta, k)
termination_by delta
decreasing_by exact Nat.div_lt_self (by omega) (by omega)

/-- The bias after a difference, when there are `count` code points. -/
def adapted (delta count : Nat) (isFirst : Bool) : Nat :=
  let halved := if isFirst then delta / 700 else delta / 2
  let (rest, k) := settle (halved + halved / count) 0
  k + 36 * rest / (rest + 38)

/-- Writes a difference from the place `k` on; `fuel` bounds the number of digits. -/
def writeDelta (bias : Nat) : Nat → Nat → Nat → List Char
  | 0, _, _ => []
  | fuel + 1, k, delta =>
    let t := threshold bias k
    if delta < t then [digit delta]
    else digit (t + (delta - t) % (36 - t)) :: writeDelta bias fuel (k + 36) ((delta - t) / (36 - t))

/-- The text written so far, the difference at hand, and how many code points are written. -/
structure Writing where
  text : List Char
  delta : Nat
  bias : Nat
  count : Nat

/-- Passes over a code point of the text in the round of the code point `n`. -/
def Writing.pass (basic n : Nat) (w : Writing) (m : Nat) : Writing :=
  if m < n then { w with delta := w.delta + 1 }
  else if m = n then
    { text := w.text ++ writeDelta w.bias (w.delta + 1) 36 w.delta, delta := 0
      bias := adapted w.delta (w.count + 1) (w.count = basic), count := w.count + 1 }
  else w

/-- A round for each code point, in their order; `low` is where the last one ended. -/
def writeRounds (ns : List Nat) (basic : Nat) : List Nat → Nat → Writing → List Char
  | [], _, w => w.text
  | n :: rest, low, w =>
    let w := ns.foldl (Writing.pass basic n) { w with delta := w.delta + (n - low) * (w.count + 1) }
    writeRounds ns basic rest (n + 1) { w with delta := w.delta + 1 }

def encode (ns : List Nat) : List Char :=
  let basic := (ns.filter (· < 0x80)).map Char.ofNat
  let others := ((ns.filter (0x80 ≤ ·)).eraseDups).mergeSort fun a b => a ≤ b
  let start := if basic.isEmpty then [] else basic ++ ['-']
  writeRounds ns basic.length others 0x80 ⟨start, 0, 72, basic.length⟩

/-- Reads a difference from the place `k` on, where a digit counts `weight`, and adds it to `sum`. -/
def readDelta? (bias : Nat) : List Char → Nat → Nat → Nat → Option (Nat × List Char)
  | [], _, _, _ => none
  | c :: cs, k, weight, sum =>
    match digit? c with
    | none => none
    | some d =>
      let t := threshold bias k
      if d < t then some (sum + d * weight, cs)
      else readDelta? bias cs (k + 36) (weight * (36 - t)) (sum + d * weight)

/-- Puts code points into a text one after the other; `fuel` bounds their number. -/
def readRounds? : Nat → Nat → Nat → Nat → List Nat → List Char → Option (List Nat)
  | _, _, _, _, done, [] => some done
  | 0, _, _, _, _, _ => none
  | fuel + 1, bias, n, i, done, cs =>
    match readDelta? bias cs 36 1 i with
    | none => none
    | some (j, rest) =>
      let count := done.length + 1
      let n := n + j / count
      if n < 0xD800 || (0xDFFF < n && n < 0x110000) then
        readRounds? fuel (adapted (j - i) count (i = 0)) n (j % count + 1) (done.insertIdx (j % count) n) rest
      else none

/-- The code points that a text stands for. A hyphen at its very start is none of its own. -/
def decode? (cs : List Char) : Option (List Nat) :=
  let tail := (cs.reverse.takeWhile (· ≠ '-')).reverse
  let basic := cs.take (cs.length - tail.length - 1)
  let rest := if basic.isEmpty then cs else tail
  readRounds? rest.length 72 0x80 0 (basic.map Char.toNat) rest

end Steward.Web.Domain.Punycode
