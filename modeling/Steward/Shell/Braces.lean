import Steward.Shell.Pattern
import Steward.Shell.Syntax
import Steward.Text.Numeral

/-!
Words with alternatives in braces, written out before anything else in them is replaced: lists with
commas, and ranges of numbers or letters.
-/
namespace Steward.Shell

open Steward.Text

/-- A word in parts of one unquoted character or of anything else. -/
def singleParts (w : Word) : Word :=
  w.flatMap fun
    | .text false cs => cs.map fun c => .text false [c]
    | part => [part]

def isMark (c : Char) : Part → Bool
  | .text false [d] => c = d
  | _ => false

/-- The alternatives up to the closing brace, and what follows it. -/
def alternatives : Nat → Word → Option (List Word × Word)
  | _, [] => none
  | depth, p :: ps =>
    let put (rest : Option (List Word × Word)) : Option (List Word × Word) :=
      rest.map fun (words, behind) =>
        match words with
        | w :: ws => ((p :: w) :: ws, behind)
        | [] => ([[p]], behind)
    if isMark '\x7b' p then put (alternatives (depth + 1) ps)
    else if isMark '\x7d' p then
      match depth with
      | 0 => some ([[]], ps)
      | n + 1 => put (alternatives n ps)
    else if isMark ',' p && depth = 0 then (alternatives depth ps).map fun (words, behind) => ([] :: words, behind)
    else put (alternatives depth ps)

/-- The numbers from one to the other in steps, both ends included. -/
def range (first last : Int) (step : Nat) : List Int :=
  let step := max step 1
  (List.range ((last - first).natAbs / step + 1)).map fun i : Nat =>
    if first ≤ last then first + i * step else first - i * step

/-- The members of a range such as `1..9`, `01..10` or `a..e..2`. -/
def rangeOf? (text : String) : Option (List String) :=
  let members (first last : String) (step : Nat) : Option (List String) :=
    match first.toInt?, last.toInt?, first.toList, last.toList with
    | some a, some b, f, l =>
      let isWide (cs : List Char) : Bool := cs.length > 1 && cs.head? = some '0'
      let width := if isWide f || isWide l then max f.length l.length else 1
      some ((range a b step).map fun n => (if n < 0 then "-" else "") ++ padded width n.natAbs)
    | _, _, [f], [l] =>
      some ((range f.toNat l.toNat step).map fun n => String.ofList [Char.ofNat n.toNat])
    | _, _, _, _ => none
  match text.splitOn ".." with
  | [first, last] => members first last 1
  | [first, last, step] => step.toInt?.bind fun n => members first last n.natAbs
  | _ => none

def plainText? (w : Word) : Option String :=
  (w.mapM fun p : Part =>
    match p with
    | .text false [c] => some c
    | _ => none).map String.ofList

/-- The words that a word in single parts stands for. -/
def writeOut : Nat → Word → List Word
  | 0, w => [w]
  | fuel + 1, w =>
    let front := w.takeWhile fun p => !isMark '\x7b' p
    match w.drop front.length with
    | [] => [w]
    | brace :: rest =>
      let members : Option (List Word × Word) :=
        match alternatives 0 rest with
        | some ([only], behind) =>
          ((plainText? only).bind rangeOf?).map fun ms => (ms.map fun m => [.text false m.toList], behind)
        | some (words, behind) => some (words.flatMap (writeOut fuel), behind)
        | none => none
      match members with
      | some (words, behind) =>
        let ends := writeOut fuel behind
        words.flatMap fun middle => ends.map fun last => front ++ middle ++ last
      | none => (writeOut fuel rest).map fun w => front ++ brace :: w

def writtenOut (w : Word) : List Word :=
  if w.any fun | .text false cs => cs.contains '\x7b' | _ => false then
    let parts := singleParts w
    writeOut (parts.length + 1) parts
  else [w]

end Steward.Shell
