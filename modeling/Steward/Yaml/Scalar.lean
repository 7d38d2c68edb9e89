import Steward.Yaml.Cursor

/-!
Scalars of YAML texts: plain ones, ones in single or double quotes, and blocks below a mark. Outside of
blocks a scalar that runs over several lines is folded: one break becomes a space, and each further one
stays a break.
-/
namespace Steward.Yaml

open Steward.Text

/-! Gaps within a scalar. -/

/-- Blanks and line breaks within a scalar. -/
structure Gap where
  /-- The blanks in front of the first break. -/
  blanks : List Char
  breaks : List Char

/-- What a gap stands for. -/
def Gap.folded (g : Gap) : List Char :=
  match g.breaks with
  | [] => g.blanks
  | ['\n'] => [' ']
  | '\n' :: more => more
  | breaks => breaks

/-- Lines with nothing but blanks, from the start of the first one; none when a tab stands in front of
column `least`. -/
def takeBlankLines? (least : Nat) : Nat → Cursor → Option (List Char × Cursor)
  | 0, c => some ([], c)
  | fuel + 1, c =>
    let (blanks, after) := c.takeWhile isSpace
    if (blanks.takeWhile (· ≠ '\t')).length < blanks.length
        && c.column + (blanks.takeWhile (· ≠ '\t')).length < least then none
    else match after.char? with
      | some b =>
        if isBreak b then do
          let (breaks, after) ← takeBlankLines? least fuel after.skipBreak
          return (keptBreak b :: breaks, after)
        else some ([], after)
      | none => some ([], after)

/-- The gap that stands here, and what follows it. -/
def takeGap? (least : Nat) (c : Cursor) : Option (Gap × Cursor) :=
  let (blanks, after) := c.takeWhile isSpace
  match after.char? with
  | some b =>
    if isBreak b then do
      let (breaks, after) ← takeBlankLines? least (after.rest.length + 1) after.skipBreak
      return (⟨blanks, keptBreak b :: breaks⟩, after)
    else some (⟨blanks, []⟩, after)
  | none => some (⟨blanks, []⟩, after)

/-! Scalars in quotes. -/

/-- A character given by `n` hexadecimal digits. -/
def readCode? (n : Nat) (cs : List Char) : Option Char :=
  let ds := cs.take n
  if ds.length = n then
    (ds.mapM hexDigitValue?).bind fun vs =>
      let code := vs.foldl (fun m v => m * 16 + v) 0
      if code.isValidChar then some (Char.ofNat code) else none
  else none

/-- The character that an escape stands for, and how many characters the escape has. -/
def readEscape? : List Char → Option (Char × Nat)
  | [] => none
  | c :: rest =>
    match c with
    | '0' => some (Char.ofNat 0, 2)
    | 'a' => some (Char.ofNat 7, 2)
    | 'b' => some (Char.ofNat 8, 2)
    | 't' | '\t' => some ('\t', 2)
    | 'n' => some ('\n', 2)
    | 'v' => some (Char.ofNat 11, 2)
    | 'f' => some (Char.ofNat 12, 2)
    | 'r' => some ('\r', 2)
    | 'e' => some (Char.ofNat 27, 2)
    | ' ' | '"' | '/' | '\\' => some (c, 2)
    | 'N' => some (Char.ofNat 0x85, 2)
    | '_' => some (Char.ofNat 0xA0, 2)
    | 'L' => some (Char.ofNat 0x2028, 2)
    | 'P' => some (Char.ofNat 0x2029, 2)
    | 'x' => (readCode? 2 rest).map (·, 4)
    | 'u' => (readCode? 4 rest).map (·, 6)
    | 'U' => (readCode? 8 rest).map (·, 10)
    | _ => none

/-- The rest of a text in quotes, behind the first of them. In single quotes a doubled quote stands for
one; in double quotes a backslash starts an escape, and at the end of a line it joins the lines. No
marker of a document may stand at the start of a line. -/
def readQuoted? (quote : Char) : Nat → Cursor → Option (List Char × Cursor)
  | 0, _ => none
  | fuel + 1, c =>
    if c.isMarker then none
    else match c.char? with
      | none => none
      | some d =>
        let after (cs : List Char) (c : Cursor) : Option (List Char × Cursor) :=
          (readQuoted? quote fuel c).map fun (more, rest) => (cs ++ more, rest)
        if d = quote then
          if quote = '\'' && c.ahead? 1 = some quote then after [quote] (c.skip 2)
          else some ([], c.skip 1)
        else if isGap d then do
          let (gap, rest) ← takeGap? 0 c
          after gap.folded rest
        else if quote = '"' && d = '\\' then
          if (c.ahead? 1).any isBreak then do
            let (breaks, rest) ← takeBlankLines? 0 (c.rest.length + 1) (c.skip 1).skipBreak
            after breaks rest
          else do
            let (e, n) ← readEscape? (c.rest.drop 1)
            after [e] (c.skip n)
        else after [d] (c.skip 1)

/-! Plain scalars. -/

/-- Characters that cannot start a plain scalar. -/
def isIndicator (c : Char) : Bool := "-?:,[]\x7b\x7d#&*!|>'\"%@`".toList.contains c

/-- Whether a plain scalar may start here. -/
def startsPlain (inFlow : Bool) (c : Cursor) : Bool :=
  match c.char? with
  | none => false
  | some d =>
    (!isGap d && !isIndicator d) || (d = '-' && !(c.ahead? 1).any isSpace) ||
      (!inFlow && (d = '?' || d = ':') && !c.isGapAhead 1)

/-- A plain scalar, what follows it, and whether it is followed by line breaks. Outside of brackets its
further lines start at column `least` or behind it. -/
def readPlain? (inFlow : Bool) (least : Nat) : Nat → Cursor → Option (List Char × Cursor × Bool)
  | 0, _ => none
  | fuel + 1, c =>
    let ends (c : Cursor) : Bool :=
      c.isGapAhead 0 || (c.isAt ':' && c.isGapAhead 1) || (inFlow && c.char?.any isFlowMark)
    let after (cs : List Char) (c : Cursor) : Option (List Char × Cursor × Bool) :=
      (readPlain? inFlow least fuel c).map fun (more, rest) => (cs ++ more, rest)
    if inFlow && c.isAt ':' && (c.ahead? 1).any fun d => isFlowMark d || d = '?' then none
    else match c.char? with
      | none => some ([], c, false)
      | some d =>
        if isGap d then do
          let (gap, rest) ← takeGap? least c
          let breaks := !gap.breaks.isEmpty
          if (!inFlow && rest.column < least) || rest.isMarker || rest.isAt '#' || rest.char?.isNone then
            return ([], rest, breaks)
          else if inFlow && rest.isAt ':' && (rest.ahead? 1).any fun d => isFlowMark d || d = '?' then none
          else if ends rest then return ([], rest, breaks)
          else after gap.folded rest
        else if ends c then some ([], c, false)
        else after [d] (c.skip 1)

/-! Blocks. -/

inductive Chomping where
  | strip
  | clip
  | keep
deriving DecidableEq

/-- What stands behind the mark of a block: how its end is kept and how much deeper it is indented. -/
def readBlockHead? (c : Cursor) : Option (Chomping × Option Nat × Cursor) :=
  let chomping? (c : Cursor) : Option Chomping :=
    if c.isAt '+' then some .keep else if c.isAt '-' then some .strip else none
  let digit? (c : Cursor) : Option Nat := (c.char?.filter (·.isDigit)).map fun d => d.toNat - 48
  let checked (chomping : Chomping) (increment : Option Nat) (c : Cursor) :
      Option (Chomping × Option Nat × Cursor) :=
    if increment = some 0 then none else some (chomping, increment, c)
  match chomping? c, digit? c with
  | some chomping, _ =>
    let c := c.skip 1
    match digit? c with
    | some n => checked chomping (some n) (c.skip 1)
    | none => some (chomping, none, c)
  | none, some n =>
    let c := c.skip 1
    match chomping? c with
    | some chomping => checked chomping (some n) (c.skip 1)
    | none => checked .clip (some n) c
  | none, none => some (.clip, none, c)

/-- Empty lines in a block, from the start of the first one: their breaks, the deepest column that was
reached, and the first line that is not empty. At most `indent` blanks are taken off a line; without an
indent all of them are. -/
def takeEmptyLines? (indent : Option Nat) : Nat → Nat → Cursor → Option (List Char × Nat × Cursor)
  | 0, deepest, c => some ([], deepest, c)
  | fuel + 1, deepest, c =>
    let blanks := (c.rest.takeWhile (· = ' ')).length
    let c := c.skip (indent.elim blanks fun n => min blanks (n - c.column))
    let deepest := max deepest c.column
    if indent.all (c.column < ·) && c.isAt '\t' then none
    else match c.char? with
      | some b =>
        if isBreak b then do
          let (breaks, deepest, rest) ← takeEmptyLines? indent fuel deepest c.skipBreak
          return (keptBreak b :: breaks, deepest, rest)
        else some ([], deepest, c)
      | none => some ([], deepest, c)

/-- The lines of a block, and the breaks at its end: the one that ends the last line, and those of empty
lines behind it. `before` holds the breaks in front of this line, and `wasBlank` says whether the line
before starts with a blank. -/
def readBlockLines? (literal : Bool) (indent : Nat) : Nat → List Char → List Char → Bool → Cursor →
    Option (List Char × List Char × List Char × Cursor)
  | 0, _, _, _, _ => none
  | fuel + 1, lineBreak, empties, wasBlank, c =>
    if c.column = indent && c.char?.isSome then do
      let isBlank := c.char?.any isSpace
      let joined :=
        if !literal && lineBreak = ['\n'] && !wasBlank && !isBlank then
          if empties.isEmpty then [' '] else empties
        else lineBreak ++ empties
      let (text, c) := c.takeWhile fun d => !isBreak d
      let ending := (c.char?.map keptBreak).toList
      let (empties, _, c) ← takeEmptyLines? (some indent) (c.rest.length + 1) 0 c.skipBreak
      let (more, lineBreak, empties, c) ← readBlockLines? literal indent fuel ending empties isBlank c
      return (joined ++ text ++ more, lineBreak, empties, c)
    else some ([], lineBreak, empties, c)

/-- A block, from behind its mark. `outer` is the indent of what holds it, if anything does. -/
def readBlock? (literal : Bool) (outer : Option Nat) (c : Cursor) : Option (List Char × Cursor) := do
  let (chomping, increment, c) ← readBlockHead? c
  let c ← c.endLine?
  let given := increment.map (· + outer.getD 0)
  let (empties, deepest, c) ← takeEmptyLines? given (c.rest.length + 1) 0 c
  let indent := given.getD (max (max deepest (outer.elim 0 (· + 1))) 1)
  let (text, lineBreak, empties, c) ← readBlockLines? literal indent (c.rest.length + 1) [] empties false c
  return (text ++ (if chomping = .strip then [] else lineBreak) ++ (if chomping = .keep then empties else []), c)

end Steward.Yaml
