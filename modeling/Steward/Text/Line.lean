import Steward.Text.Blank

/-!
Lines and fields. A line ends at a line feed, together with one carriage return before it; the last
line may lack the line feed, and then it keeps its carriage return.
-/
namespace Steward.Text

def dropReturn (line : List Char) : List Char :=
  match line.reverse with
  | '\r' :: rest => rest.reverse
  | _ => line

/-- Turns the stretches between line feeds into lines: all but the last were ended by a line feed. -/
def endLines : List (List Char) → List (List Char)
  | [] => []
  | [last] => if last.isEmpty then [] else [last]
  | line :: rest => dropReturn line :: endLines rest

def linesOf (cs : List Char) : List (List Char) :=
  endLines (cs.splitOnP (· == '\n'))

def lines (s : String) : List String := (linesOf s.toList).map String.ofList

/-- What stands before the first separator and what stands after it. -/
def cutAt (sep : Char) : List Char → Option (List Char × List Char)
  | [] => none
  | c :: cs =>
    if c = sep then some ([], cs)
    else (cutAt sep cs).map fun (before, after) => (c :: before, after)

/-- `some rest` when the text starts with the given one. -/
def dropStart? : List Char → List Char → Option (List Char)
  | [], cs => some cs
  | _ :: _, [] => none
  | p :: ps, c :: cs => if p = c then dropStart? ps cs else none

/-- Cuts at the first place where `mark` starts. -/
def cutAtText (mark : List Char) : List Char → Option (List Char × List Char)
  | [] => if mark.isEmpty then some ([], []) else none
  | c :: cs =>
    match dropStart? mark (c :: cs) with
    | some after => some ([], after)
    | none => (cutAtText mark cs).map fun (before, after) => (c :: before, after)

def holds (mark text : String) : Bool := (cutAtText mark.toList text.toList).isSome

/-- Takes `ending` off the end as often as it stands there. -/
def dropEndings (ending : List Char) (cs : List Char) : List Char :=
  let rec go (fuel : Nat) (rev : List Char) : List Char :=
    match fuel with
    | 0 => rev
    | n + 1 => match dropStart? ending.reverse rev with
      | some rest => go n rest
      | none => rev
  (go cs.length cs.reverse).reverse

/-- Lower case for the letters A to Z; every other character stays. -/
def lower (s : String) : String :=
  String.ofList (s.toList.map Char.toLower)

def join (sep : String) (parts : List String) : String := sep.intercalate parts

end Steward.Text
