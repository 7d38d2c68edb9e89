import Steward.Shell.Regex
import Steward.Shell.State

/-!
Programs that read files or their input and write what they make of it. Each is called by the name it was
started under, which its messages begin with.
-/
namespace Steward.Shell

open Steward.Text

/-- Lines without their line ends, and whether the last one had one. -/
def byteLines (bytes : Bytes) : List Bytes × Bool :=
  match bytes.splitOn 10 with
  | [] => ([], true)
  | lines => if lines.getLast? = some [] then (lines.dropLast, true) else (lines, false)

/-- Lines with their line ends. -/
def endedLines (bytes : Bytes) : List Bytes :=
  let (lines, ended) := byteLines bytes
  match ended, lines.reverse with
  | false, last :: front => (front.reverse).map (· ++ [10]) ++ [last]
  | _, _ => lines.map (· ++ [10])

def unlines (lines : List Bytes) : Bytes := lines.flatMap (· ++ [10])

def byteText (bytes : Bytes) : String := String.ofList (bytes.map fun b => Char.ofNat b.toNat)

/-! Options. -/

/-- Options of one letter, some with a value, and the words behind them; or the letter or the long option
that is none. -/
def options (letters valued : String) : List String → Except String (List (Char × String) × List String)
  | [] => .ok ([], [])
  | "--" :: rest => .ok ([], rest)
  | word :: rest =>
    match word.toList with
    | '-' :: '-' :: _ => .error ("unrecognized option '" ++ word ++ "'")
    | '-' :: c :: cs => do
      let (more, words) ← options letters valued rest
      let rec spread : List Char → Except String (List (Char × String) × Option Char)
        | [] => .ok ([], none)
        | c :: cs =>
          if valued.toList.contains c then
            if cs.isEmpty then .ok ([], some c) else .ok ([(c, String.ofList cs)], none)
          else if letters.toList.contains c then do
            let (more, open_) ← spread cs
            return ((c, "") :: more, open_)
          else .error ("invalid option -- '" ++ String.ofList [c] ++ "'")
      let (own, open_) ← spread (c :: cs)
      match open_, rest with
      | none, _ => return (own ++ more, words)
      | some c, value :: rest =>
        let (more, words) ← options letters valued rest
        return (own ++ (c, value) :: more, words)
      | some c, [] => .error ("option requires an argument -- '" ++ String.ofList [c] ++ "'")
    | _ => do
      let (more, words) ← options letters valued rest
      return (more, word :: words)

def has (c : Char) (os : List (Char × String)) : Bool := os.any (·.1 = c)

/-- What a program says of a call that it does not understand. -/
def misuse (tool message : String) (code : Nat) : Sh Unit := do
  putErrors (tool ++ ": " ++ message ++ "\nTry '" ++ tool ++ " --help' for more information.\n")
  setStatus code

/-- Says something under the name of a program. -/
def report (tool message : String) (code : Nat) : Sh Unit := do
  putErrors (tool ++ ": " ++ message ++ "\n")
  setStatus code

def write (bytes : Bytes) : Sh Unit := do
  let s ← get
  match s.sink? 1, bytes.isEmpty with
  | none, false => setStatus 1
  | _, _ => set (s.write 1 bytes)

/-! Files. -/

/-- The bytes that devices without an end give when nobody says how many. -/
def deviceBytes : Nat := 0x20000

def missingFile : String := "No such file or directory"

/-- The bytes of a file or of the input, or why there are none. Endless devices give `count` bytes. -/
def contents (file : String) (count : Nat) : Sh (Except String Bytes) := do
  let s ← get
  if file = "-" then
    set { s with input := [] }
    return if s.inputIsFolder then .error "Is a directory" else .ok s.input
  else
    let path := s.path file
    match s.changes.find path with
    | .file bytes => return .ok bytes
    | .device => return .ok (if path = "/dev/null" then [] else List.replicate count 0)
    | .folder => return .error "Is a directory"
    | .nothing => return .error missingFile

/-- The bytes of all files, and whether none was missing; `complaint` says what is said of a missing one. -/
def allContents (tool : String) (complaint : String → String → String) (count : Nat) :
    List String → Sh (Bytes × Bool)
  | [] => return ([], true)
  | file :: rest => do
    match ← contents file count with
    | .ok bytes =>
      let (more, all) ← allContents tool complaint count rest
      return (bytes ++ more, all)
    | .error reason =>
      putErrors (tool ++ ": " ++ complaint file reason ++ "\n")
      let (more, _) ← allContents tool complaint count rest
      return (more, false)

def plainComplaint (file reason : String) : String := file ++ ": " ++ reason

def orInput (files : List String) : List String := if files.isEmpty then ["-"] else files

/-- Writes what a function makes of the files' bytes. -/
def filter (tool : String) (complaint : String → String → String) (failure : Nat) (files : List String)
    (f : Bytes → Bytes) : Sh Unit := do
  let (bytes, all) ← allContents tool complaint deviceBytes (orInput files)
  done
  write (f bytes)
  unless all do setStatus failure

def numbered (lines : List Bytes) : List Bytes :=
  lines.zipIdx.map fun (line, i) =>
    let n := padded 1 (i + 1)
    utf8 (String.ofList (List.replicate (6 - n.length) ' ') ++ n ++ "\t") ++ line

def cat (tool : String) (args : List String) : Sh Unit := do
  match options "nuvet" "" args with
  | .error message => misuse tool message 1
  | .ok (os, files) =>
    filter tool plainComplaint 1 files fun bytes =>
      if has 'n' os then (numbered (endedLines bytes)).flatten else bytes
    if (← get).sink? 1 = none then report tool "standard output: Bad file descriptor" 1

/-! Parts of texts. -/

/-- A count with its unit of bytes. -/
def count? (text : String) : Option Nat :=
  let digits := text.toList.takeWhile isDigit
  let factor : Option Nat := match String.ofList (text.toList.drop digits.length) with
    | "" => some 1
    | "b" => some 512
    | "k" | "K" | "KiB" => some 1024
    | "kB" => some 1000
    | "M" | "MiB" => some 1048576
    | "MB" => some 1000000
    | _ => none
  if digits.isEmpty then none else factor.map (valueOf digits * ·)

/-- Which end of a text is asked for: so many units, or all but so many. -/
inductive Extent where
  | only (n : Nat)
  | allBut (n : Nat)

/-- An option such as `-3` or `--bytes=3` in its short form. -/
def shortCount (option : String) : String :=
  match option.toList with
  | '-' :: d :: cs => if isDigit d then "-n" ++ String.ofList (d :: cs) else
    match cutAtText ("--bytes=").toList option.toList, cutAtText ("--lines=").toList option.toList with
    | some (_, n), _ => "-c" ++ String.ofList n
    | none, some (_, n) => "-n" ++ String.ofList n
    | none, none => option
  | _ => option

/-- Options in their short form; what stands behind an option with a value is left as it is. -/
def shortCounts : List String → List String
  | "-n" :: value :: rest => "-n" :: value :: shortCounts rest
  | "-c" :: value :: rest => "-c" :: value :: shortCounts rest
  | option :: rest => shortCount option :: shortCounts rest
  | [] => []

def Extent.read? (special : Char) (text : String) : Option Extent :=
  match text.toList with
  | c :: cs => if c = special then (count? (String.ofList cs)).map .allBut
      else if c = '-' || c = '+' then (count? (String.ofList cs)).map .only
      else (count? text).map .only
  | [] => none

def headOrTail (front : Bool) (tool : String) (args : List String) : Sh Unit := do
  match options "qvzf" "nc" (shortCounts args) with
  | .error message => misuse tool message 1
  | .ok (os, files) =>
    let byBytes := has 'c' os
    let given := ((os.filter fun (c, _) => c = 'n' || c = 'c').getLast?.map Prod.snd).getD "10"
    match Extent.read? (if front then '-' else '+') given with
    | none =>
      report tool ("invalid number of " ++ (if byBytes then "bytes" else "lines") ++ ": '" ++ given ++ "'") 1
    | some extent =>
      let want := match extent with
        | .only n => if byBytes then n else deviceBytes
        | .allBut _ => deviceBytes
      let (bytes, all) ← allContents tool
        (fun file reason => if reason = missingFile
          then "cannot open '" ++ file ++ "' for reading: " ++ reason
          else "error reading '" ++ file ++ "': " ++ reason) want (orInput files)
      done
      let part {α : Type} (xs : List α) : List α :=
        match front, extent with
        | true, .only n => xs.take n
        | true, .allBut n => xs.take (xs.length - n)
        | false, .only n => xs.drop (xs.length - n)
        | false, .allBut n => xs.drop (n - 1)
      write (if byBytes then part bytes else (part (endedLines bytes)).flatten)
      unless all do setStatus 1

def wordCount (tool : String) (args : List String) : Sh Unit := do
  match options "lwcmL" "" args with
  | .error message => misuse tool message 1
  | .ok (os, files) =>
    let os := if os.isEmpty then [('l', ""), ('w', ""), ('c', "")] else os
    let counts (bytes : Bytes) : List Nat :=
      (if has 'l' os then [bytes.countP (· = 10)] else []) ++
        (if has 'w' os then [(words (byteText bytes)).length] else []) ++
        (if has 'm' os then [bytes.length] else []) ++ (if has 'c' os then [bytes.length] else []) ++
        (if has 'L' os then [((byteLines bytes).1.map List.length).foldl max 0] else [])
    let (bytes, all) ← allContents tool plainComplaint deviceBytes (orInput files)
    done
    let ns := counts bytes
    let width := if ns.length = 1 then 1 else if files.isEmpty then 7 else (padded 1 bytes.length).length
    let shown := ns.map fun n =>
      let text := padded 1 n
      String.ofList (List.replicate (width - text.length) ' ') ++ text
    if all then
      write (utf8 (" ".intercalate shown ++ (files.head?.elim "" fun f => " " ++ f) ++ "\n"))
    else setStatus 1

/-! Characters. -/

/-- The characters of a set of bytes, ranges and classes written out. -/
def byteSet : Nat → Bytes → Bytes
  | 0, _ => []
  | fuel + 1, 91 :: 58 :: rest =>
    match cutAtText [':', ']'] (rest.map fun b => Char.ofNat b.toNat) with
    | some (name, after) =>
      (classChars (String.ofList name)).map (fun c => UInt8.ofNat c.toNat) ++
        byteSet fuel (rest.drop (rest.length - after.length))
    | none => 91 :: byteSet fuel (58 :: rest)
  | fuel + 1, low :: 45 :: high :: rest =>
    (List.range (high.toNat + 1 - low.toNat)).map (fun i => low + UInt8.ofNat i) ++ byteSet fuel rest
  | fuel + 1, b :: rest => b :: byteSet fuel rest
  | _ + 1, [] => []

def setOf (text : String) : Bytes :=
  let bytes := unescaped text
  byteSet (bytes.length + 1) bytes

/-- Replaces the bytes of one set by those of the other, whose last stands for all that are missing. -/
def translate (from_ to_ : Bytes) (bytes : Bytes) : Bytes :=
  bytes.map fun b =>
    match from_.findIdx? (· == b) with
    | some i => to_.getD i (to_.getLast?.getD b)
    | none => b

/-- Runs of one byte of a set as one byte. -/
def squeeze (set : Bytes) : Bytes → Bytes
  | a :: b :: rest => if a = b && set.contains a then squeeze set (b :: rest) else a :: squeeze set (b :: rest)
  | bytes => bytes

def translateInput (tool : String) (args : List String) : Sh Unit := do
  match options "cCdst" "" args with
  | .error message => misuse tool message 1
  | .ok (os, sets) =>
    let all := (List.range 256).map UInt8.ofNat
    let chosen (text : String) : Bytes :=
      if has 'c' os || has 'C' os then all.filter fun b => !(setOf text).contains b else setOf text
    match sets, has 'd' os, has 's' os with
    | [], _, _ => misuse tool "missing operand" 1
    | [a], true, _ => filter tool plainComplaint 1 [] fun bytes => bytes.filter fun b => !(chosen a).contains b
    | [a], false, true => filter tool plainComplaint 1 [] (squeeze (chosen a))
    | [a], false, false =>
      misuse tool ("missing operand after '" ++ a ++ "'\nTwo strings must be given when translating.") 1
    | [a, b], _, squeezes =>
      filter tool plainComplaint 1 [] fun bytes =>
        let bytes := translate (chosen a) (setOf b) bytes
        if squeezes then squeeze (setOf b) bytes else bytes
    | _ :: _ :: c :: _, _, _ => misuse tool ("extra operand '" ++ c ++ "'") 1

/-! Lines. -/

def lineOrder (numeric : Bool) (a b : Bytes) : Bool :=
  let number (line : Bytes) : Int :=
    let front := (byteText line).toList.takeWhile fun c => isDigit c || c = '-' || c = ' '
    (trim (String.ofList front)).toInt?.getD 0
  if numeric && number a ≠ number b then number a < number b
  else !List.lex b a fun x y => x.toNat < y.toNat

def sortLines (tool : String) (args : List String) : Sh Unit := do
  match options "nrufbs" "kt" args with
  | .error message => misuse tool message 2
  | .ok (os, files) =>
    filter tool (fun file reason => "cannot read: " ++ file ++ ": " ++ reason) 2 files fun bytes =>
      let lines := (byteLines bytes).1.mergeSort (lineOrder (has 'n' os))
      let lines := if has 'u' os then lines.foldr (fun a rest => if rest.head? = some a then rest else a :: rest) []
                   else lines
      unlines (if has 'r' os then lines.reverse else lines)

/-- Neighbouring lines that are equal, with their number. -/
def runs : List Bytes → List (Nat × Bytes)
  | [] => []
  | a :: rest =>
    match runs rest with
    | (n, b) :: more => if a = b then (n + 1, b) :: more else (1, a) :: (n, b) :: more
    | [] => [(1, a)]

def uniqueLines (tool : String) (args : List String) : Sh Unit := do
  match options "cdui" "" args with
  | .error message => misuse tool message 1
  | .ok (os, files) =>
    filter tool plainComplaint 1 files fun bytes =>
      let kept := (runs (byteLines bytes).1).filter fun (n, _) =>
        (!has 'd' os || n > 1) && (!has 'u' os || n = 1)
      unlines (kept.map fun (n, line) =>
        if has 'c' os then
          let text := padded 1 n
          utf8 (String.ofList (List.replicate (7 - text.length) ' ') ++ text ++ " ") ++ line
        else line)

/-- Positions such as `1,3-5,7-`, the first of which is one. -/
def inPositions (text : String) (i : Nat) : Bool :=
  (text.splitOn ",").any fun part =>
    match part.splitOn "-" with
    | [n] => n.toNat? = some i
    | [a, b] => (a.toNat?).getD 1 ≤ i && ((b.toNat?).elim true fun n => decide (i ≤ n))
    | _ => false

def cutLines (tool : String) (args : List String) : Sh Unit := do
  match options "sn" "dfcb" args with
  | .error message => misuse tool message 1
  | .ok (os, files) =>
    let mark : UInt8 := (((os.lookup 'd').map utf8).bind List.head?).getD 9
    match os.find? fun (c, _) => c ≠ 'd' && c ≠ 's' with
    | none => misuse tool "you must specify a list of bytes, characters, or fields" 1
    | some (kind, positions) =>
      filter tool plainComplaint 1 files fun bytes =>
        unlines ((byteLines bytes).1.filterMap fun line =>
          let fields := line.splitOn mark
          if kind = 'f' && fields.length = 1 then if has 's' os then none else some line
          else
            let parts : List Bytes := if kind = 'f' then fields else line.map fun b => [b]
            let kept := (parts.zipIdx.filter fun (_, i) => inPositions positions (i + 1)).map Prod.fst
            some (if kind = 'f' then [mark].intercalate kept else kept.flatten))

def findLines (tool : String) (args : List String) : Sh Unit := do
  match options "qcvinowxEFsh" "e" args with
  | .error message => misuse tool message 2
  | .ok (os, words) =>
    let (pattern, files) := match os.lookup 'e', words with
      | some p, files => (some p, files)
      | none, p :: files => (some p, files)
      | none, [] => (none, [])
    match pattern with
    | none =>
      putErrors ("Usage: " ++ tool ++ " [OPTION]... PATTERNS [FILE]...\nTry '" ++ tool ++
        " --help' for more information.\n")
      setStatus 2
    | some pattern =>
      let fold (text : String) : String := if has 'i' os then lower text else text
      let pattern := fold pattern
      let find (line : String) : Option (List Char) :=
        if has 'F' os then (cutAtText pattern.toList line.toList).map fun _ => pattern.toList
        else ((if has 'E' os then Regex.read? pattern else Regex.readBasic? pattern).bind fun r =>
          r.firstMatch? line.toList)
      let (bytes, all) ← allContents tool plainComplaint deviceBytes (orInput files)
      let hits := (byteLines bytes).1.zipIdx.filterMap fun (line, i) =>
        let found := find (fold (byteText line))
        let fits := if has 'x' os then found = some (fold (byteText line)).toList else found.isSome
        if fits ≠ has 'v' os then some (i + 1, if has 'o' os then utf8 (String.ofList (found.getD [])) else line)
        else none
      setStatus (if !all then 2 else if hits.isEmpty then 1 else 0)
      if has 'q' os then return ()
      else if has 'c' os then write (utf8 (padded 1 hits.length ++ "\n"))
      else write (unlines (hits.map fun (n, line) =>
        (if has 'n' os then utf8 (padded 1 n ++ ":") else []) ++ line))

def reverseLines (tool : String) (args : List String) : Sh Unit :=
  filter tool (fun file reason => "cannot open " ++ file ++ ": " ++ reason) 1 args fun bytes =>
    let (lines, ended) := byteLines bytes
    let turned := lines.map fun line => utf8 (String.ofList (decodeLossy line).toList.reverse)
    if ended then unlines turned else [10].intercalate turned

def lastLinesFirst (tool : String) (args : List String) : Sh Unit :=
  filter tool (fun file reason => "failed to open '" ++ file ++ "' for reading: " ++ reason) 1 args fun bytes =>
    ((endedLines bytes).reverse).flatten

/-- Writes the input to the output and to files. -/
def tee (tool : String) (args : List String) : Sh Unit := do
  match options "aip" "" args with
  | .error message => misuse tool message 1
  | .ok (os, files) =>
    let s ← get
    set { s with input := [] }
    done
    write s.input
    for file in files do
      modify fun t =>
        match file with
        | "/dev/null" => t
        | "/dev/stdout" => t.write 1 s.input
        | "/dev/stderr" => t.write 2 s.input
        | file =>
          let path := t.path file
          let t := if has 'a' os then t else { t with changes := t.changes.put path (some []) }
          t.writeTo (.file path) s.input

end Steward.Shell
