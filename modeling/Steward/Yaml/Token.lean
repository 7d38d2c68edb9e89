import Steward.Yaml.Scalar
import Steward.Yaml.Tag

/-!
The tokens of a YAML text. Blocks begin and end where the indentation says so, which tokens of their own
stand for. That a scalar or a bracket was the start of a key shows only at the colon behind it, on the
same line and within 1024 characters; the tokens in front of it are then inserted.
-/
namespace Steward.Yaml

inductive Token where
  | directive (d : Directive)
  | documentStart
  | documentEnd
  | blockList
  | blockMapping
  | blockEnd
  | listStart
  | listEnd
  | mappingStart
  | mappingEnd
  | item
  | comma
  | key
  | value
  | alias (name : String)
  | anchor (name : String)
  | tag (handle suffix : String)
  | scalar (isPlain : Bool) (text : String)
deriving DecidableEq

/-- A place where a key may have started. -/
structure Candidate where
  /-- How many tokens stand in front of it. -/
  number : Nat
  /-- Whether nothing but a key may start here. -/
  required : Bool
  start : Cursor
deriving DecidableEq

structure Scan where
  cursor : Cursor
  /-- Newest first. -/
  tokens : List Token
  /-- Column of the innermost block. -/
  indent : Option Nat
  outer : List (Option Nat)
  keysAllowed : Bool
  /-- One for each open bracket, innermost first, and one outside of all. -/
  candidates : List (Option Candidate)

namespace Scan

def ofText (text : String) : Scan :=
  { cursor := .ofText text, tokens := [], indent := none, outer := [], keysAllowed := true, candidates := [none] }

def inFlow (s : Scan) : Bool := s.candidates.length > 1

def push (s : Scan) (t : Token) : Scan := { s with tokens := t :: s.tokens }

/-- Puts a token behind the first `number` ones. -/
def insert (s : Scan) (number : Nat) (t : Token) : Scan :=
  let newer := s.tokens.length - number
  { s with tokens := s.tokens.take newer ++ t :: s.tokens.drop newer }

def skip (s : Scan) (n : Nat) : Scan := { s with cursor := s.cursor.skip n }

/-- Blanks, comments and line breaks in front of a token, and a byte order mark at the start of a line.
Tabs count as blanks only where no key may start; each new line allows keys outside of brackets. -/
def skipGaps : Nat → Scan → Scan
  | 0, s => s
  | fuel + 1, s =>
    let c := if s.cursor.column = 0 && s.cursor.char?.any (·.toNat = 0xFEFF) then s.cursor.skip 1 else s.cursor
    let c := c.skipWhile fun d => d = ' ' || (d = '\t' && (s.inFlow || !s.keysAllowed))
    let c := if c.isAt '#' then c.skipLine else c
    if c.char?.any isBreak then
      skipGaps fuel { s with cursor := c.skipBreak, keysAllowed := s.keysAllowed || !s.inFlow }
    else { s with cursor := c }

/-- Gives up candidates that a colon here would be too far from. -/
def dropStale? (s : Scan) : Option Scan :=
  let isStale (k : Candidate) : Bool :=
    k.start.line < s.cursor.line || k.start.index + 1024 < s.cursor.index
  if s.candidates.any fun k => k.any fun k => isStale k && k.required then none
  else some { s with candidates := s.candidates.map fun k => k.filter fun k => !isStale k }

def setCandidate (s : Scan) (k : Option Candidate) : Scan :=
  { s with candidates := k :: s.candidates.drop 1 }

/-- Gives up the innermost candidate. -/
def dropCandidate? (s : Scan) : Option Scan :=
  if (s.candidates.head?.join).any (·.required) then none else some (s.setCandidate none)

/-- Notes that a key may start here. -/
def noteCandidate? (s : Scan) : Option Scan :=
  if s.keysAllowed then do
    let required := !s.inFlow && s.indent = some s.cursor.column
    let s ← s.dropCandidate?
    return s.setCandidate (some ⟨s.tokens.length, required, s.cursor⟩)
  else some s

/-- Ends the blocks that are indented deeper than `column`. -/
def unroll (column : Option Nat) : Nat → Scan → Scan
  | 0, s => s
  | fuel + 1, s =>
    let isDeeper := match s.indent, column with
      | some n, some m => m < n
      | some _, none => true
      | none, _ => false
    if isDeeper && !s.inFlow then
      unroll column fuel ({ s with indent := s.outer.head?.join, outer := s.outer.drop 1 }.push .blockEnd)
    else s

def unrollTo (s : Scan) (column : Option Nat) : Scan := unroll column (s.outer.length + 1) s

/-- Begins a block at `column`, behind the first `number` tokens, unless one at this column is open. -/
def roll (s : Scan) (column number : Nat) (t : Token) : Scan :=
  if s.inFlow || s.indent.any (column ≤ ·) then s
  else { s with indent := some column, outer := s.indent :: s.outer }.insert number t

/-- Begins a block here. -/
def rollHere? (s : Scan) (t : Token) : Option Scan :=
  if s.inFlow then some s
  else if s.keysAllowed then some (s.roll s.cursor.column s.tokens.length t)
  else none

/-- The end of the text, or a line that does not belong to any block. -/
def endBlocks? (s : Scan) : Option Scan := do
  let s ← (s.unrollTo none).dropCandidate?
  return { s with keysAllowed := false }

def open? (s : Scan) (t : Token) : Option Scan := do
  let s ← s.noteCandidate?
  return { s with candidates := none :: s.candidates, keysAllowed := true }.skip 1 |>.push t

def close? (s : Scan) (t : Token) : Option Scan := do
  let s ← s.dropCandidate?
  let candidates := if s.inFlow then s.candidates.drop 1 else s.candidates
  return { s with candidates, keysAllowed := false }.skip 1 |>.push t

def comma? (s : Scan) : Option Scan := do
  let s ← s.dropCandidate?
  return { s with keysAllowed := true }.skip 1 |>.push .comma

def item? (s : Scan) : Option Scan := do
  let s ← s.rollHere? .blockList
  let s ← s.dropCandidate?
  return { s with keysAllowed := true }.skip 1 |>.push .item

def key? (s : Scan) : Option Scan := do
  let s ← s.rollHere? .blockMapping
  let s ← s.dropCandidate?
  return { s with keysAllowed := !s.inFlow }.skip 1 |>.push .key

def value? (s : Scan) : Option Scan := do
  match s.candidates.head?.join with
  | some k =>
    let s := (s.insert k.number .key).roll k.start.column k.number .blockMapping
    return { s.setCandidate none with keysAllowed := false }.skip 1 |>.push .value
  | none =>
    let s ← s.rollHere? .blockMapping
    return { s with keysAllowed := !s.inFlow }.skip 1 |>.push .value

/-- A token that may start a key, as `read` reads it. -/
def named? (s : Scan) (read : Cursor → Option (Token × Cursor)) : Option Scan := do
  let s ← s.noteCandidate?
  let (t, cursor) ← read s.cursor
  return { s with cursor, keysAllowed := false }.push t

def quoted? (s : Scan) (quote : Char) : Option Scan :=
  s.named? fun c => (readQuoted? quote (c.rest.length + 1) (c.skip 1)).map fun (text, c) =>
    (.scalar false (String.ofList text), c)

def plain? (s : Scan) : Option Scan := do
  let s ← s.noteCandidate?
  let least := s.indent.elim 0 (· + 1)
  let (text, cursor, breaks) ← readPlain? s.inFlow least (s.cursor.rest.length + 1) s.cursor
  return { s with cursor, keysAllowed := breaks }.push (.scalar true (String.ofList text))

def block? (s : Scan) (literal : Bool) : Option Scan := do
  let s ← s.dropCandidate?
  let (text, cursor) ← readBlock? literal s.indent (s.cursor.skip 1)
  return { s with cursor, keysAllowed := true }.push (.scalar false (String.ofList text))

def marker? (s : Scan) (t : Token) : Option Scan := do
  let s ← s.endBlocks?
  return s.skip 3 |>.push t

def directive? (s : Scan) : Option Scan := do
  let s ← s.endBlocks?
  let (d, cursor) ← readDirective? (s.cursor.skip 1)
  return { s with cursor }.push (.directive d)

/-- The next token, which starts at the character `c`. -/
def take? (s : Scan) (c : Char) : Option Scan :=
  let at_ := s.cursor
  if at_.column = 0 && c = '%' then s.directive?
  else if at_.startsMarker '-' then s.marker? .documentStart
  else if at_.startsMarker '.' then s.marker? .documentEnd
  else if c = '[' then s.open? .listStart
  else if c = '\x7b' then s.open? .mappingStart
  else if c = ']' then s.close? .listEnd
  else if c = '\x7d' then s.close? .mappingEnd
  else if c = ',' then s.comma?
  else if c = '-' && at_.isGapAhead 1 then s.item?
  else if c = '?' && (s.inFlow || at_.isGapAhead 1) then s.key?
  else if c = ':' && (s.inFlow || at_.isGapAhead 1) then s.value?
  else if c = '*' then s.named? fun c => (readAnchor? (c.skip 1)).map fun (name, c) => (.alias name, c)
  else if c = '&' then s.named? fun c => (readAnchor? (c.skip 1)).map fun (name, c) => (.anchor name, c)
  else if c = '!' then
    s.named? fun c => (readTag? s.inFlow c).map fun ((handle, suffix), c) => (.tag handle suffix, c)
  else if (c = '|' || c = '>') && !s.inFlow then s.block? (c = '|')
  else if c = '\'' || c = '"' then s.quoted? c
  else if startsPlain s.inFlow at_ then s.plain?
  else none

/-- Takes tokens up to the end of the text. -/
def finish? : Nat → Scan → Option Scan
  | 0, _ => none
  | fuel + 1, s => do
    let s ← (s.skipGaps (s.cursor.rest.length + 1)).dropStale?
    let s := s.unrollTo (some s.cursor.column)
    match s.cursor.char? with
    | none => s.endBlocks?
    | some c => finish? fuel (← s.take? c)

end Scan

/-- The tokens of a text, if it consists of tokens. -/
def tokens? (text : String) : Option (List Token) :=
  if text.toList.all isAllowed then (Scan.finish? (text.length + 2) (.ofText text)).map (·.tokens.reverse)
  else none

end Steward.Yaml
