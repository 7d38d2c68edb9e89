import Steward.Yaml.Cursor

/-!
Names that stand in front of a node, and the directives in front of a document. A tag is a handle and a
suffix; directives say what a handle is short for. Octets that are written as escapes count as
characters of the same number.
-/
namespace Steward.Yaml

open Steward.Text

/-- The name of an anchor or an alias, from behind its mark. -/
def readAnchor? (c : Cursor) : Option (String × Cursor) :=
  let (name, rest) := c.takeWhile isNameChar
  if name.isEmpty then none
  else if rest.isGapAhead 0 || rest.char?.any fun d => "?:,]\x7d%@`".toList.contains d then
    some (String.ofList name, rest)
  else none

/-- A handle: an exclamation mark, a name, and perhaps another mark. -/
def readHandle? (c : Cursor) : Option (String × Cursor) :=
  if c.isAt '!' then
    let (name, rest) := (c.skip 1).takeWhile isNameChar
    let (close, rest) := if rest.isAt '!' then (['!'], rest.skip 1) else ([], rest)
    some (String.ofList ('!' :: name ++ close), rest)
  else none

/-- An octet written as a percent sign and two digits. -/
def readOctet? (c : Cursor) : Option (Nat × Cursor) :=
  match c.rest with
  | '%' :: a :: b :: _ => do
    let high ← hexDigitValue? a
    let low ← hexDigitValue? b
    return (high * 16 + low, c.skip 3)
  | _ => none

/-- So many octets of the inner part of a character. -/
def readInnerOctets? : Nat → Cursor → Option (List Char × Cursor)
  | 0, c => some ([], c)
  | n + 1, c => do
    let (octet, c) ← readOctet? c
    if octet / 64 = 2 then
      let (more, c) ← readInnerOctets? n c
      return (Char.ofNat octet :: more, c)
    else none

/-- The octets of one character, written as escapes. -/
def readOctets? (c : Cursor) : Option (List Char × Cursor) := do
  let (octet, c) ← readOctet? c
  let inner ←
    if octet < 0x80 then some 0
    else if octet / 32 = 6 then some 1
    else if octet / 16 = 14 then some 2
    else if octet / 8 = 30 then some 3
    else none
  let (more, c) ← readInnerOctets? inner c
  return (Char.ofNat octet :: more, c)

def isTagChar (bracketed : Bool) (c : Char) : Bool :=
  isNameChar c || ";/?:@&=+$.%!~*'()".toList.contains c || (bracketed && ",[]".toList.contains c)

/-- The characters of a tag, as many as there are. -/
def readTagChars? (bracketed : Bool) : Nat → Cursor → Option (List Char × Cursor)
  | 0, _ => none
  | fuel + 1, c =>
    match c.char?.filter (isTagChar bracketed) with
    | none => some ([], c)
    | some d => do
      let (own, c) ← if d = '%' then readOctets? c else some ([d], c.skip 1)
      let (more, c) ← readTagChars? bracketed fuel c
      return (own ++ more, c)

def readTagText? (bracketed : Bool) (c : Cursor) : Option (String × Cursor) :=
  (readTagChars? bracketed (c.rest.length + 1) c).map fun (cs, c) => (String.ofList cs, c)

/-- Handle and suffix of a tag. -/
def readTag? (inFlow : Bool) (c : Cursor) : Option ((String × String) × Cursor) := do
  let (tag, rest) ←
    if c.ahead? 1 = some '<' then do
      let (suffix, rest) ← readTagText? true (c.skip 2)
      if suffix.isEmpty || !rest.isAt '>' then none else some (("", suffix), rest.skip 1)
    else do
      let (handle, rest) ← readHandle? c
      let (suffix, rest) ← readTagText? false rest
      if handle.length > 1 && handle.endsWith "!" then
        if suffix.isEmpty then none else some ((handle, suffix), rest)
      else
        let suffix := String.ofList (handle.toList.drop 1) ++ suffix
        some (if suffix.isEmpty then ("", "!") else ("!", suffix), rest)
  if rest.isGapAhead 0 || (inFlow && rest.isAt ',') then some (tag, rest) else none

/-- What a directive says. -/
inductive Directive where
  | version (major minor : Nat)
  | handle (name start : String)
deriving DecidableEq

def readVersionNumber? (c : Cursor) : Option (Nat × Cursor) :=
  let (digits, rest) := c.takeWhile (·.isDigit)
  if digits.isEmpty || digits.length > 9 then none else some (valueOf digits, rest)

/-- A directive, from behind its mark up to the next line. -/
def readDirective? (c : Cursor) : Option (Directive × Cursor) := do
  let (name, rest) := c.takeWhile isNameChar
  if !rest.isGapAhead 0 then none
  let value := rest.skipWhile isSpace
  let (directive, rest) ← match String.ofList name with
    | "YAML" => do
      let (major, rest) ← readVersionNumber? value
      if !rest.isAt '.' then none
      let (minor, rest) ← readVersionNumber? (rest.skip 1)
      some (Directive.version major minor, rest)
    | "TAG" => do
      let (handle, rest) ← readHandle? value
      if handle.length > 1 && !handle.endsWith "!" then none
      if !(rest.char?.any isSpace) then none
      let (start, rest) ← readTagText? true (rest.skipWhile isSpace)
      if start.isEmpty || !rest.isGapAhead 0 then none
      some (Directive.handle handle start, rest)
    | _ => none
  let rest ← rest.endLine?
  return (directive, rest)

end Steward.Yaml
