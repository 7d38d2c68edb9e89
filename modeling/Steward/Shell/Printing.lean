import Steward.Shell.Syntax
import Steward.Text.Numeral
import Steward.Text.Utf8

/-!
Texts that are printed after a format, and texts with backslashes in them. A format is read into pieces
first; printing goes through the pieces as often as there are arguments.
-/
namespace Steward.Shell

open Steward.Text

abbrev Bytes := List UInt8

def isOctal (c : Char) : Bool := '0' ≤ c && c ≤ '7'

def octalValue (cs : List Char) : UInt8 := UInt8.ofNat (cs.foldl (fun n c => n * 8 + digitValue c) 0)

def namedEscape? : Char → Option UInt8
  | 'n' => some 10
  | 't' => some 9
  | 'r' => some 13
  | 'a' => some 7
  | 'b' => some 8
  | 'e' => some 27
  | 'f' => some 12
  | 'v' => some 11
  | '\\' => some 92
  | _ => none

/-- What follows a backslash: its bytes and the rest. -/
def escape (d : Dialect) (cs : List Char) : Bytes × List Char :=
  match d, cs with
  | _, [] => ([92], [])
  | .bash, '"' :: rest => ([34], rest)
  | .bash, '\'' :: rest => ([39], rest)
  | .bash, 'x' :: rest =>
    let digits := (rest.take 2).takeWhile fun c => (hexDigitValue? c).isSome
    if digits.isEmpty then ([92, 120], rest)
    else ([UInt8.ofNat (digits.foldl (fun n c => n * 16 + (hexDigitValue? c).getD 0) 0)],
      rest.drop digits.length)
  | _, c :: rest =>
    let digits := (cs.take 3).takeWhile isOctal
    if digits.isEmpty then
      match namedEscape? c with
      | some b => ([b], rest)
      | none => (92 :: utf8 (String.ofList [c]), rest)
    else ([octalValue digits], cs.drop digits.length)

/-- A text with its escapes replaced, and whether one of them ends all output. -/
def unescape (d : Dialect) (bareOctal : Bool) : Nat → List Char → Bytes × Bool
  | 0, _ => ([], false)
  | _ + 1, [] => ([], false)
  | _ + 1, '\\' :: 'c' :: _ => ([], true)
  | fuel + 1, '\\' :: '0' :: rest =>
    let digits := (rest.take 3).takeWhile isOctal
    let (bytes, ended) := unescape d bareOctal fuel (rest.drop digits.length)
    (octalValue digits :: bytes, ended)
  | fuel + 1, '\\' :: c :: rest =>
    if isOctal c && !bareOctal then
      let (bytes, ended) := unescape d bareOctal fuel rest
      (92 :: utf8 (String.ofList [c]) ++ bytes, ended)
    else
      let (escaped, rest) := escape d (c :: rest)
      let (bytes, ended) := unescape d bareOctal fuel rest
      (escaped ++ bytes, ended)
  | fuel + 1, c :: rest =>
    let (bytes, ended) := unescape d bareOctal fuel rest
    (utf8 (String.ofList [c]) ++ bytes, ended)

def unescaped (text : String) : Bytes := (unescape .bash true (text.length + 1) text.toList).1

/-- A size in a conversion: a number or the next argument. -/
inductive Size where
  | fixed (n : Nat)
  | argument
deriving DecidableEq

/-- Flags, width and precision of a conversion. -/
structure Layout where
  flags : List Char
  width : Size
  precision : Option Size
deriving DecidableEq

inductive Piece where
  | bytes (bs : Bytes)
  | conversion (l : Layout) (c : Char)
  /-- A conversion that the format breaks off. -/
  | missing

def readSize (cs : List Char) : Size × List Char :=
  match cs with
  | '*' :: rest => (.argument, rest)
  | cs =>
    let digits := cs.takeWhile isDigit
    (.fixed (valueOf digits), cs.drop digits.length)

def readLayout (cs : List Char) : Layout × List Char :=
  let flags := cs.takeWhile fun c => "-0+ #".toList.contains c
  let (width, rest) := readSize (cs.drop flags.length)
  match rest with
  | '.' :: rest =>
    let (precision, rest) := readSize rest
    (⟨flags, width, some precision⟩, rest)
  | rest => (⟨flags, width, none⟩, rest)

def pieces (d : Dialect) : Nat → List Char → List Piece
  | 0, _ => []
  | _ + 1, [] => []
  | fuel + 1, '%' :: '%' :: rest => .bytes [37] :: pieces d fuel rest
  | fuel + 1, '%' :: rest =>
    let (layout, rest) := readLayout rest
    match rest with
    | c :: rest => .conversion layout c :: pieces d fuel rest
    | [] => [.missing]
  | fuel + 1, '\\' :: rest =>
    let (escaped, rest) := escape d rest
    .bytes escaped :: pieces d fuel rest
  | fuel + 1, c :: rest => .bytes (utf8 (String.ofList [c])) :: pieces d fuel rest

inductive PrintFault where
  | noNumber (text : String)
  /-- Only the front of the text is a number. -/
  | partNumber (text : String)
  | tooLarge (text : String)
  | badConversion (c : Char)
  | noConversion
deriving DecidableEq

namespace PrintFault

def message (d : Dialect) : PrintFault → String
  | noNumber text => text ++ (if d = .posix then ": expected numeric value" else ": invalid number")
  | partNumber text => text ++ (if d = .posix then ": not completely converted" else ": invalid number")
  | tooLarge text =>
    (if d = .posix then "" else "warning: ") ++ text ++ ": Numerical result out of range"
  | badConversion c =>
    let c := String.ofList [c]
    if d = .posix then "%" ++ c ++ ": invalid directive" else "`" ++ c ++ "': invalid format character"
  | noConversion =>
    if d = .posix then "missing format character" else "`%': missing format character"

/-- The status that a fault leaves. -/
def status (d : Dialect) : PrintFault → Nat
  | badConversion _ | noConversion => if d = .posix then 2 else 1
  | tooLarge _ => if d = .posix then 1 else 0
  | _ => 1

end PrintFault

/-- Digits of a base in front of a text: the number and what follows it. -/
def digitsIn (base : Nat) (cs : List Char) : Nat × List Char :=
  let digits := cs.takeWhile fun c => ((hexDigitValue? c).map fun n => decide (n < base)).getD false
  (digits.foldl (fun n c => n * base + (hexDigitValue? c).getD 0) 0, cs.drop digits.length)

/-- The number that an argument is, and what is wrong with it. A quotation mark asks for the code of a
character. -/
def numberArgument (text : String) : Int × Option PrintFault :=
  let bounded (negative : Bool) (n : Nat) (fault : Option PrintFault) : Int × Option PrintFault :=
    if negative then
      if n ≤ 0x8000000000000000 then (-(n : Int), fault) else (-0x8000000000000000, some (.tooLarge text))
    else if n < 0x8000000000000000 then (n, fault)
    else (0x7fffffffffffffff, some (.tooLarge text))
  match text.toList with
  | [] => (0, none)
  | '\'' :: c :: _ | '"' :: c :: _ => (((utf8 (String.ofList [c])).headD 0).toNat, none)
  | cs =>
    let cs := cs.dropWhile fun c => c = ' ' || c = '\t' || c = '\n'
    let (negative, cs) := match cs with
      | '-' :: rest => (true, rest)
      | '+' :: rest => (false, rest)
      | cs => (false, cs)
    let (n, rest) := match cs with
      | '0' :: 'x' :: rest => digitsIn 16 rest
      | '0' :: 'X' :: rest => digitsIn 16 rest
      | '0' :: rest => digitsIn 8 rest
      | cs => digitsIn 10 cs
    if rest.length = cs.length then (0, some (.noNumber text))
    else bounded negative n (if rest.isEmpty then none else some (.partNumber text))

def inBase (base n : Nat) : String := String.ofList (Nat.toDigits base n)

/-- The natural number of 64 bits that an integer is stored as. -/
def stored (n : Int) : Nat := (n % 0x10000000000000000).toNat

/-- A number of ten-to-the-`places`-ths, rounded to the nearest, a half to the even one. -/
def roundedPlaces (num den places : Nat) : Nat :=
  let scaled := num * Nat.pow 10 places
  let n := scaled / den
  let twice := 2 * (scaled % den)
  if twice < den || (twice = den && n % 2 = 0) then n else n + 1

/-- A decimal number as numerator and denominator, with its sign, when the whole text is one. -/
def fraction? (text : String) : Option (Bool × Nat × Nat) :=
  let cs := text.toList
  let (negative, cs) := match cs with
    | '-' :: rest => (true, rest)
    | '+' :: rest => (false, rest)
    | cs => (false, cs)
  let whole := cs.takeWhile isDigit
  let (places, rest) := match cs.drop whole.length with
    | '.' :: rest => (rest.takeWhile isDigit, rest.dropWhile isDigit)
    | rest => ([], rest)
  let n := valueOf (whole ++ places)
  let den := Nat.pow 10 places.length
  if whole.isEmpty && places.isEmpty then none
  else match rest with
    | [] => some (negative, n, den)
    | e :: power =>
      if e = 'e' || e = 'E' then
        match (String.ofList power).toInt?, power with
        | some (.ofNat p), _ => some (negative, n * Nat.pow 10 (min p 400), den)
        | some (.negSucc p), _ => some (negative, n, den * Nat.pow 10 (min (p + 1) 400))
        | none, '+' :: digits =>
          if digits.isEmpty then none else some (negative, n * Nat.pow 10 (min (valueOf digits) 400), den)
        | none, _ => none
      else none

/-- Pads a text, its sign staying in front of zeros. -/
def pad (flags : List Char) (width : Nat) (zeros : Bool) (sign body : Bytes) : Bytes :=
  let missing := width - (sign.length + body.length)
  if flags.contains '-' then sign ++ body ++ List.replicate missing 32
  else if zeros then sign ++ List.replicate missing 48 ++ body
  else List.replicate missing 32 ++ sign ++ body

def signOf (flags : List Char) (negative : Bool) : Bytes :=
  if negative then [45] else if flags.contains '+' then [43] else if flags.contains ' ' then [32] else []

/-- A whole number with at least so many digits as the precision says. -/
def layDigits (flags : List Char) (width : Nat) (precision : Option Nat) (sign : Bytes) (digits : String) :
    Bytes :=
  let ds := utf8 digits
  let ds := List.replicate ((precision.getD 1) - ds.length) 48 ++ ds
  pad flags width (flags.contains '0' && precision.isNone) sign ds

def layText (flags : List Char) (width : Nat) (precision : Option Nat) (text : Bytes) : Bytes :=
  pad flags width false [] (match precision with
    | some n => text.take n
    | none => text)

def layFraction (flags : List Char) (width : Nat) (precision : Option Nat) (negative : Bool) (num den : Nat) :
    Bytes :=
  let places := precision.getD 6
  let n := roundedPlaces num den places
  let scale := Nat.pow 10 places
  let digits := padded 1 (n / scale) ++ if places = 0 then "" else "." ++ padded places (n % scale)
  pad flags width (flags.contains '0') (signOf flags negative) (utf8 digits)

/-- Characters that stand for themselves in a command line. -/
def isSafe (c : Char) : Bool := c.isAlphanum || "_-./:@%+=,".toList.contains c

/-- A text as it can be written in a command line. -/
def reusable (text : String) : String :=
  if text.isEmpty then "''"
  else String.ofList (text.toList.flatMap fun c => if isSafe c then [c] else ['\\', c])

/-- One conversion of an argument: its bytes, what is wrong, and whether all output ends. -/
def convert (d : Dialect) (c : Char) (flags : List Char) (width : Nat) (precision : Option Nat)
    (argument : String) : Bytes × Option PrintFault × Bool :=
  let (n, fault) := numberArgument argument
  let marked (mark digits : String) : String := if flags.contains '#' then mark ++ digits else digits
  match c with
  | 's' => (layText flags width precision (utf8 argument), none, false)
  | 'c' =>
    (layText flags width none (if argument.isEmpty then [0] else (utf8 argument).take 1), none, false)
  | 'b' =>
    let (bytes, ended) := unescape d true (argument.length + 1) argument.toList
    (layText flags width precision bytes, none, ended)
  | 'd' | 'i' =>
    (layDigits flags width precision (signOf flags (n < 0)) (padded 1 n.natAbs), fault, false)
  | 'u' => (layDigits flags width precision [] (padded 1 (stored n)), fault, false)
  | 'o' => (layDigits flags width precision [] (marked "0" (inBase 8 (stored n))), fault, false)
  | 'x' => (layDigits flags width precision [] (marked "0x" (inBase 16 (stored n))), fault, false)
  | 'X' =>
    (layDigits flags width precision [] (marked "0X" (inBase 16 (stored n)).toUpper), fault, false)
  | 'f' | 'F' =>
    match fraction? (if argument.isEmpty then "0" else argument) with
    | some (negative, num, den) => (layFraction flags width precision negative num den, none, false)
    | none => (layFraction flags width precision false 0 1, some (.noNumber argument), false)
  | 'q' =>
    if d = .bash then (layText flags width precision (utf8 (reusable argument)), none, false)
    else ([], some (.badConversion c), true)
  | c => ([], some (.badConversion c), true)

/-- What printing makes: its bytes, its faults, whether it ended before its end, the arguments that are
left and whether any was used. -/
structure Printed where
  bytes : Bytes
  faults : List PrintFault
  ended : Bool
  args : List String
  used : Bool

def Printed.add (p : Printed) (bytes : Bytes) : Printed := { p with bytes := p.bytes ++ bytes }

def takeSize (size : Size) (args : List String) : Nat × List String :=
  match size with
  | .fixed n => (n, args)
  | .argument => ((numberArgument (args.headD "")).1.toNat, args.drop 1)

/-- Goes through the pieces once. -/
def printOnce (d : Dialect) (args : List String) (ps : List Piece) : Printed :=
  ps.foldl (fun p piece =>
    if p.ended then p
    else match piece with
      | .bytes bs => p.add bs
      | .missing => { p with faults := p.faults ++ [.noConversion], ended := true }
      | .conversion l c =>
        let (width, args) := takeSize l.width p.args
        let (precision, args) := match l.precision with
          | some size =>
            let (n, args) := takeSize size args
            (some n, args)
          | none => (none, args)
        let (bytes, fault, ended) := convert d c l.flags width precision (args.headD "")
        { bytes := p.bytes ++ bytes, faults := p.faults ++ fault.toList, ended
          args := args.drop 1, used := true })
    ⟨[], [], false, args, false⟩

/-- Goes through the pieces again as long as there are arguments. -/
def printAll (d : Dialect) (ps : List Piece) : Nat → List String → Bytes × List PrintFault
  | 0, _ => ([], [])
  | fuel + 1, args =>
    let p := printOnce d args ps
    if p.used && !p.ended && !p.args.isEmpty then
      let (bytes, faults) := printAll d ps fuel p.args
      (p.bytes ++ bytes, p.faults ++ faults)
    else (p.bytes, p.faults)

def printFormat (d : Dialect) (format : String) (args : List String) : Bytes × List PrintFault :=
  printAll d (pieces d (format.length + 1) format.toList) (args.length + 1) args

end Steward.Shell
