import Steward.Text.Line
import Steward.Text.Numeral

/-!
Tables of code points, written as texts. A row is a code point or a range of them in hexadecimal digits,
and perhaps a mark and more numbers, apart by commas; blanks and line ends stand between rows. What mark
and numbers mean is for each table to tell.
-/
namespace Steward.Text

structure CodeRow where
  first : Nat
  last : Nat
  mark : Char
  values : List Nat
deriving DecidableEq

abbrev CodeTable := List CodeRow

def hexValue (digits : List Char) : Nat :=
  digits.foldl (fun n c => n * 16 + (hexDigitValue? c).getD 0) 0

def CodeRow.ofChars (cs : List Char) : CodeRow :=
  let inRange (c : Char) : Bool := c = '-' || (hexDigitValue? c).isSome
  let (first, last) := (cutAt '-' (cs.takeWhile inRange)).getD (cs.takeWhile inRange, cs.takeWhile inRange)
  match cs.dropWhile inRange with
  | [] => ⟨hexValue first, hexValue last, ' ', []⟩
  | mark :: values => ⟨hexValue first, hexValue last, mark, (values.splitOnP (· == ',')).map hexValue⟩

namespace CodeTable

def ofText (text : String) : CodeTable :=
  ((text.toList.splitOnP fun c => c == ' ' || c == '\n').filter fun row => !row.isEmpty).map CodeRow.ofChars

def row? (t : CodeTable) (n : Nat) : Option CodeRow := t.find? fun r => r.first ≤ n && n ≤ r.last

def holds (t : CodeTable) (n : Nat) : Bool := (t.row? n).isSome

end CodeTable
end Steward.Text
