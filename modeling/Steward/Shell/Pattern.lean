import Steward.Text.Line
import Steward.Text.Utf8

/-!
Patterns of names: `*` stands for any text, `?` for any character, brackets for one of several
characters. A quoted character stands for itself. Whole texts are compared byte by byte.
-/
namespace Steward.Shell

open Steward.Text

/-- A character and whether it was quoted. -/
abbrev Mark := Char × Bool

def charsBetween (low high : Char) : List Char :=
  (List.range (high.toNat + 1 - low.toNat)).map fun i => Char.ofNat (low.toNat + i)

/-- The characters of a named class. -/
def classChars (name : String) : List Char :=
  let digits := charsBetween '0' '9'
  let lower := charsBetween 'a' 'z'
  let upper := charsBetween 'A' 'Z'
  match name with
  | "digit" => digits
  | "lower" => lower
  | "upper" => upper
  | "alpha" => lower ++ upper
  | "alnum" => lower ++ upper ++ digits
  | "xdigit" => digits ++ charsBetween 'a' 'f' ++ charsBetween 'A' 'F'
  | "space" => [' ', '\t', '\n', '\r', '\x0b', '\x0c']
  | "blank" => [' ', '\t']
  | "punct" => (charsBetween '!' '~').filter fun c => !c.isAlphanum
  | _ => []

/-- Whether a character is among those in brackets. -/
def inBrackets (c : Char) : List Mark → Bool
  | (low, _) :: ('-', false) :: (high, _) :: rest => (low ≤ c && c ≤ high) || inBrackets c rest
  | (d, _) :: rest => c = d || inBrackets c rest
  | [] => false

/-- Splits at the bracket that closes a set, in which classes are written out. -/
def closeBrackets : Nat → List Mark → Option (List Mark × List Mark)
  | 0, _ => none
  | _ + 1, [] => none
  | _ + 1, (']', false) :: rest => some ([], rest)
  | fuel + 1, ('[', false) :: (':', false) :: rest =>
    match cutAtText [':', ']'] (rest.map Prod.fst) with
    | some (name, after) =>
      (closeBrackets fuel (rest.drop (rest.length - after.length))).map fun (set, rest) =>
        ((classChars (String.ofList name)).map (·, true) ++ set, rest)
    | none => (closeBrackets fuel ((':', false) :: rest)).map fun (set, rest) => (('[', false) :: set, rest)
  | fuel + 1, m :: rest => (closeBrackets fuel rest).map fun (set, rest) => (m :: set, rest)

/-- The set behind an opening bracket; a closing bracket in front of all others belongs to it. -/
def readBrackets (marks : List Mark) : Option (List Mark × List Mark) :=
  let close (marks : List Mark) := closeBrackets (marks.length + 1) marks
  match marks with
  | (']', q) :: rest => (close rest).map fun (set, rest) => ((']', q) :: set, rest)
  | ('!', false) :: (']', q) :: rest =>
    (close rest).map fun (set, rest) => (('!', false) :: (']', q) :: set, rest)
  | ('^', false) :: (']', q) :: rest =>
    (close rest).map fun (set, rest) => (('!', false) :: (']', q) :: set, rest)
  | marks => close marks

def matchesSet (set : List Mark) (c : Char) : Bool :=
  match set with
  | ('!', false) :: set => !inBrackets c set
  | ('^', false) :: set => !inBrackets c set
  | set => inBrackets c set

/-- Whether the whole text is of the pattern. -/
def matchesPattern : Nat → List Mark → List Char → Bool
  | 0, _, _ => false
  | _ + 1, [], text => text.isEmpty
  | fuel + 1, ('*', false) :: rest, text =>
    matchesPattern fuel rest text ||
      (match text with
       | [] => false
       | _ :: text => matchesPattern fuel (('*', false) :: rest) text)
  | fuel + 1, ('?', false) :: rest, text =>
    match text with
    | [] => false
    | _ :: text => matchesPattern fuel rest text
  | fuel + 1, ('[', false) :: rest, text =>
    match readBrackets rest, text with
    | some (set, rest), c :: text => matchesSet set c && matchesPattern fuel rest text
    | some _, [] => false
    | none, c :: text => c = '[' && matchesPattern fuel rest text
    | none, [] => false
  | fuel + 1, (c, _) :: rest, text =>
    match text with
    | [] => false
    | d :: text => c = d && matchesPattern fuel rest text

def isOfPattern (pattern : List Mark) (text : List Char) : Bool :=
  matchesPattern (pattern.length + text.length + 1) pattern text

/-- A character for each byte. -/
def byteChars (c : Char) : List Char := (utf8 (String.ofList [c])).map fun b => Char.ofNat b.toNat

/-- Whether the bytes of a text are of the pattern. -/
def bytesAreOf (pattern : List Mark) (text : List Char) : Bool :=
  isOfPattern (pattern.flatMap fun (c, q) => (byteChars c).map (·, q)) (text.flatMap byteChars)

/-- The numbers of characters that can be dropped in front, the least first. -/
def frontMatches (pattern : List Mark) (text : List Char) : List Nat :=
  (List.range (text.length + 1)).filter fun n => isOfPattern pattern (text.take n)

def dropFront (longest : Bool) (pattern : List Mark) (text : List Char) : List Char :=
  let ns := frontMatches pattern text
  text.drop ((if longest then ns.getLast? else ns.head?).getD 0)

/-- The numbers of characters that can be kept in front of a match at the end, the least first. -/
def backMatches (pattern : List Mark) (text : List Char) : List Nat :=
  (List.range (text.length + 1)).filter fun n => isOfPattern pattern (text.drop n)

def dropBack (longest : Bool) (pattern : List Mark) (text : List Char) : List Char :=
  let ns := backMatches pattern text
  text.take ((if longest then ns.head? else ns.getLast?).getD text.length)

/-- Replaces the first match that is not empty, or every one, each as long as it can be. -/
def replaceMatches (every : Bool) (pattern : List Mark) (new : List Char) : Nat → List Char → List Char
  | 0, text => text
  | _ + 1, [] => []
  | fuel + 1, c :: text =>
    match ((frontMatches pattern (c :: text)).getLast?).filter (0 < ·) with
    | some n =>
      let rest := (c :: text).drop n
      new ++ (if every then replaceMatches every pattern new fuel rest else rest)
    | none => c :: replaceMatches every pattern new fuel text

def replaceFront (pattern : List Mark) (new text : List Char) : List Char :=
  match (frontMatches pattern text).getLast? with
  | some n => new ++ text.drop n
  | none => text

def replaceBack (pattern : List Mark) (new text : List Char) : List Char :=
  match (backMatches pattern text).head? with
  | some n => text.take n ++ new
  | none => text

end Steward.Shell
