import Steward.Shell.Pattern

/-!
Regular expressions on characters, and the rests of a text that a match can leave. Of the basic form
only the marks differ, so it is read by exchanging them first.
-/
namespace Steward.Shell

open Steward.Text

inductive Regex where
  | one (holds : Char → Bool)
  | empty
  | atStart
  | atEnd
  | both (a b : Regex)
  | either (a b : Regex)
  /-- As often as possible, at least so many times, and at most so many. -/
  | times (a : Regex) (low : Nat) (high : Option Nat)

namespace Regex

/-- Rests after between `low` and `high` steps, those after more steps first. -/
def afterSteps (step : List Char → List (List Char)) (low : Nat) (high : Option Nat) :
    Nat → Nat → List Char → List (List Char)
  | 0, _, _ => []
  | fuel + 1, done, cs =>
    let further := if high = some done then [] else
      ((step cs).filter fun rest => rest.length < cs.length || done < low).flatMap
        (afterSteps step low high fuel (done + 1))
    further ++ if low ≤ done then [cs] else []

/-- What a match at the front of a text of which `cs` is left can leave of it. -/
def rests (whole : Nat) : Regex → List Char → List (List Char)
  | one holds, cs =>
    match cs with
    | c :: rest => if holds c then [rest] else []
    | [] => []
  | empty, cs => [cs]
  | atStart, cs => if cs.length = whole then [cs] else []
  | atEnd, cs => if cs.isEmpty then [cs] else []
  | both a b, cs => (rests whole a cs).flatMap (rests whole b)
  | either a b, cs => rests whole a cs ++ rests whole b cs
  | times a low high, cs => afterSteps (rests whole a) low high (cs.length + low + 1) 0 cs

/-- The first match, as long as it can be there. -/
def firstMatch? (r : Regex) (text : List Char) : Option (List Char) :=
  (List.range (text.length + 1)).findSome? fun n =>
    let cs := text.drop n
    (((r.rests text.length cs).map List.length).min?).map fun left => cs.take (cs.length - left)

mutual

/-- Alternatives up to a closing parenthesis. -/
def readEither : Nat → List Char → Option (Regex × List Char)
  | 0, _ => none
  | fuel + 1, cs => do
    let (a, rest) ← readBoth fuel cs
    match rest with
    | '|' :: rest =>
      let (b, rest) ← readEither fuel rest
      return (.either a b, rest)
    | rest => return (a, rest)

def readBoth : Nat → List Char → Option (Regex × List Char)
  | 0, _ => none
  | fuel + 1, cs =>
    match cs with
    | [] => some (.empty, [])
    | '|' :: _ => some (.empty, cs)
    | ')' :: _ => some (.empty, cs)
    | cs => do
      let (a, rest) ← readOne fuel cs
      let (a, rest) ← readTimes fuel a rest
      let (b, rest) ← readBoth fuel rest
      return (.both a b, rest)

def readTimes : Nat → Regex → List Char → Option (Regex × List Char)
  | 0, _, _ => none
  | fuel + 1, a, cs =>
    match cs with
    | '*' :: rest => readTimes fuel (.times a 0 none) rest
    | '+' :: rest => readTimes fuel (.times a 1 none) rest
    | '?' :: rest => readTimes fuel (.times a 0 (some 1)) rest
    | '\x7b' :: rest => do
      let (counts, rest) ← cutAt '\x7d' rest
      match (String.ofList counts).splitOn "," with
      | [n] => readTimes fuel (.times a (← n.toNat?) (n.toNat?)) rest
      | [n, ""] => readTimes fuel (.times a (← n.toNat?) none) rest
      | [n, m] => readTimes fuel (.times a (← n.toNat?) (some (← m.toNat?))) rest
      | _ => none
    | cs => some (a, cs)

def readOne : Nat → List Char → Option (Regex × List Char)
  | 0, _ => none
  | fuel + 1, cs =>
    match cs with
    | '(' :: rest => do
      let (a, rest) ← readEither fuel rest
      match rest with
      | ')' :: rest => return (a, rest)
      | _ => none
    | '[' :: rest => do
      let (set, rest) ← readBrackets (rest.map (·, false))
      return (.one (matchesSet set), rest.map Prod.fst)
    | '.' :: rest => some (.one fun _ => true, rest)
    | '^' :: rest => some (.atStart, rest)
    | '$' :: rest => some (.atEnd, rest)
    | '\\' :: c :: rest => some (.one (· = c), rest)
    | c :: rest => some (.one (· = c), rest)
    | [] => none

end

def read? (text : String) : Option Regex :=
  match readEither (8 * text.length + 8) text.toList with
  | some (r, []) => some r
  | _ => none

/-- Exchanges marks that mean something with a backslash and marks that mean something without. -/
def exchangeMarks : List Char → List Char
  | '\\' :: c :: cs => (if "+?|()\x7b\x7d".toList.contains c then [c] else ['\\', c]) ++ exchangeMarks cs
  | c :: cs => (if "+?|()\x7b\x7d".toList.contains c then ['\\', c] else [c]) ++ exchangeMarks cs
  | [] => []

def readBasic? (text : String) : Option Regex := read? (String.ofList (exchangeMarks text.toList))

end Regex
end Steward.Shell
