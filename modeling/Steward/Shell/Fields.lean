import Steward.Shell.Pattern
import Steward.Shell.State

/-!
The fields that an expanded word falls into. A word is expanded to bits: characters, places where a
field ends, and fields that are there even when they are empty.
-/
namespace Steward.Shell

open Steward.Text

inductive Bit where
  | char (m : Mark)
  /-- A field ends here, if there is one. -/
  | soft
  /-- A field ends here, even one that has nothing in it. -/
  | hard
  | field

def charBits (quoted : Bool) (cs : List Char) : List Bit := cs.map fun c => .char (c, quoted)

def isBlankSeparator (c : Char) : Bool := c = ' ' || c = '\t' || c = '\n'

/-- The bits of a value that stands unquoted. Blanks around another separator belong to it. -/
def splitBits (separators : List Char) : List Char → List Bit
  | [] => []
  | c :: cs =>
    if !separators.contains c then .char (c, false) :: splitBits separators cs
    else if isBlankSeparator c then
      match cs.find? fun e => !(separators.contains e && isBlankSeparator e) with
      | some e => if separators.contains e then splitBits separators cs else .soft :: splitBits separators cs
      | none => [.soft]
    else .hard :: splitAfter separators cs
where
  /-- Drops the blanks behind a separator. -/
  splitAfter (separators : List Char) : List Char → List Bit
    | [] => []
    | c :: cs =>
      if separators.contains c && isBlankSeparator c then splitAfter separators cs
      else if !separators.contains c then .char (c, false) :: splitBits separators cs
      else .hard :: splitAfter separators cs

def intercalateBits (sep : Bit) : List (List Bit) → List Bit
  | [] => []
  | [bits] => bits
  | bits :: rest => bits ++ sep :: intercalateBits sep rest

def fieldsOf (bits : List Bit) : List (List Mark) :=
  let step : Option (List Mark) × List (List Mark) → Bit → Option (List Mark) × List (List Mark) :=
    fun (current, fields) bit =>
      match bit with
      | .char m => (some (m :: current.getD []), fields)
      | .field => (some (current.getD []), fields)
      | .soft => (none, current.toList ++ fields)
      | .hard => (none, current.getD [] :: fields)
  let (current, fields) := bits.foldl step (none, [])
  ((current.toList ++ fields).map List.reverse).reverse

def plain (marks : List Mark) : String := String.ofList (marks.map Prod.fst)

/-- The marks of bits that are not split. -/
def joinedMarks (bits : List Bit) : List Mark :=
  bits.flatMap fun
    | .char m => [m]
    | .field => []
    | _ => [(' ', false)]

def joinedText (bits : List Bit) : String := plain (joinedMarks bits)

/-- The bits of values, which are one field or one for each when they are quoted. -/
def valueBits (separators : List Char) (quoted many : Bool) (values : List String) : List Bit :=
  if quoted then
    if many then intercalateBits .hard (values.map fun v => .field :: charBits true v.toList)
    else
      let between := match separators with
        | c :: _ => String.ofList [c]
        | [] => ""
      .field :: charBits true (between.intercalate values).toList
  else intercalateBits .soft (values.map fun v => splitBits separators v.toList)

/-- The bits of the word of an operation: all of it quoted, or what is not quoted in it split. -/
def operandBits (separators : List Char) (quoted : Bool) (bits : List Bit) : List Bit :=
  if quoted then
    .field :: bits.filterMap fun
      | .char (c, _) => some (.char (c, true))
      | .field => none
      | _ => some (.char (' ', true))
  else bits.map fun
    | .char (c, false) => if separators.contains c then .soft else .char (c, false)
    | bit => bit

/-- Whether a parameter stands for several values. -/
def isMany (name : String) (index : Option String) : Bool := name = "@" || index = some "@"

def isAll (name : String) (index : Option String) : Bool :=
  isMany name index || name = "*" || index = some "*"

/-- What parameters in braces are called in messages. -/
def shownName (d : Dialect) (name : String) : String :=
  if d = .bash && name.toList.all isDigit then "$" ++ name else name

/-- Parameters that only the larger shell has. -/
def State.ownParameter (s : State) (name : String) (index : Option String) : Option (List String) :=
  match name with
  | "BASH_VERSION" => some ["5.2.15(1)-release"]
  | "BASH" => some ["/bin/bash"]
  | "UID" | "EUID" => some ["0"]
  | "LINENO" => some [padded 1 s.line]
  | "SECONDS" => some [padded 1 (s.clock / 1000)]
  | "RANDOM" => some ["16838"]
  | "PIPESTATUS" =>
    let shown := s.statuses.map (padded 1)
    if index = some "@" || index = some "*" then some shown
    else (shown[((index.getD "0").toNat?).getD 0]?).map fun a => [a]
  | _ => none

/-- The values that a parameter has, none when it is not set. Of an array, the one at an index, which is
computed already. -/
def State.parameter (s : State) (name : String) (index : Option String) : Option (List String) :=
  let fixed (text : String) : Option (List String) := some [text]
  match name with
  | "@" | "*" => some s.args
  | "#" => fixed (padded 1 s.args.length)
  | "?" => fixed (padded 1 s.status)
  | "$" => fixed (padded 1 ownPid)
  | "!" => s.lastJob.map fun pid => [padded 1 pid]
  | "-" => fixed ((if s.dialect = .bash then "hBc" else "") ++ (if s.options.strict then "e" else ""))
  | "0" => fixed s.name
  | name =>
    match digits? name.toList, s.lookup? name, index with
    | some n, _, _ => (s.args[n - 1]?).map fun a => [a]
    | none, some v, some "@" | none, some v, some "*" => some (v.values.map Prod.snd)
    | none, some v, some i =>
      match i.toInt? with
      | some (.ofNat n) => (v.values.lookup n).map fun a => [a]
      | some (.negSucc n) => (v.values.reverse[n]?).map fun a => [a.2]
      | none => none
    | none, some v, none => (v.values.lookup 0).map fun a => [a]
    | none, none, _ =>
      match name with
      | "IFS" => fixed " \t\n"
      | "PS4" => fixed "+ "
      | "OPTIND" => fixed "1"
      | "PPID" => fixed (padded 1 (ownPid - 1))
      | "PWD" => fixed s.cwd
      | name => if s.dialect = .bash then s.ownParameter name index else none

/-- The length of a value, in bytes. -/
def byteLength (text : String) : Nat := text.utf8ByteSize

def dropNewlines (bytes : Bytes) : Bytes := ((bytes.reverse).dropWhile (· = 10)).reverse

/-- The part of a list that starts at a position, counted from the end when it is negative, and has a
length or ends that far before the end. -/
def sliceOf {α : Type} (xs : List α) (offset : Int) (length : Option Int) : List α :=
  let start : Int := if offset < 0 then xs.length + offset else offset
  if start < 0 || start > xs.length then []
  else
    let rest := xs.drop start.toNat
    match length with
    | none => rest
    | some n => if n < 0 then rest.take (rest.length + n).toNat else rest.take n.toNat

def mapFirst (f : Char → Char) (all : Bool) (text : String) : String :=
  match text.toList, all with
  | c :: cs, false => String.ofList (f c :: cs)
  | cs, _ => String.ofList (cs.map f)

/-- The folder that a tilde in front of a word stands for, and the rest of the word. -/
def tilde? (w : Word) : Option Word :=
  match w with
  | .text false ('~' :: cs) :: parts =>
    let home : Part := .param true "HOME" none (.orElse .unset) [[.text true "/root".toList]]
    match cs with
    | [] => if parts.isEmpty then some [home] else none
    | '/' :: _ => some (home :: .text false cs :: parts)
    | cs =>
      if String.ofList cs = "root" && parts.isEmpty then some [.text true "/root".toList] else none
  | _ => none

/-- A word as a trace shows it. -/
def traced (d : Dialect) (text : String) : String :=
  if d = .posix then text
  else if text.isEmpty then "''"
  else if text.toList.all fun c => c.isAlphanum || "_-./:@%+=,".toList.contains c || c.toNat > 127 then text
  else "'" ++ text.replace "'" "'\\''" ++ "'"

end Steward.Shell
