import Steward.Shell.Conditions
import Steward.Shell.Expr

/-!
Small programs that scripts start: numbers and time, paths, and what the machine is. `runTool` runs one by
its name.
-/
namespace Steward.Shell

open Steward.Text

/-! Numbers and time. -/

/-- A duration in seconds, as milliseconds. -/
def milliseconds? (text : String) : Option Nat :=
  let cs := text.toList
  let (cs, factor) := match cs.getLast? with
    | some 's' => (cs.dropLast, 1)
    | some 'm' => (cs.dropLast, 60)
    | some 'h' => (cs.dropLast, 3600)
    | some 'd' => (cs.dropLast, 86400)
    | _ => (cs, 1)
  let whole := cs.takeWhile isDigit
  match cs.drop whole.length with
  | [] => if whole.isEmpty then none else some (valueOf whole * 1000 * factor)
  | '.' :: fraction =>
    if fraction.all isDigit && !(whole.isEmpty && fraction.isEmpty) then
      some ((valueOf whole * 1000 + valueOf ((fraction ++ ['0', '0', '0']).take 3)) * factor)
    else none
  | _ => none

def sleepFor (tool : String) (args : List String) : Sh Unit := do
  match options "" "" args with
  | .error message => misuse tool message 1
  | .ok (_, []) => misuse tool "missing operand" 1
  | .ok (_, times) =>
    match times.find? fun t => (milliseconds? t).isNone with
    | some wrong => misuse tool ("invalid time interval '" ++ wrong ++ "'") 1
    | none => sleep ((times.filterMap milliseconds?).foldl (· + ·) 0)

def sequence (tool : String) (args : List String) : Sh Unit := do
  let separator := match args with
    | a :: _ => if a.startsWith "-s" then some (String.ofList (a.toList.drop 2)) else none
    | [] => none
  let args := if separator.isSome then args.drop 1 else args
  let wide := args.head? = some "-w"
  let args := if wide then args.drop 1 else args
  match args.find? fun a => a.toInt?.isNone, args.mapM String.toInt? with
  | some wrong, _ => misuse tool ("invalid floating point argument: '" ++ wrong ++ "'") 1
  | none, none => done
  | none, some [] => misuse tool "missing operand" 1
  | none, some (first :: more) =>
    if more.length > 2 then misuse tool ("extra operand '" ++ args.getD 3 "" ++ "'") 1
    else
      let (first, step, last) : Int × Int × Int := match more with
        | [last] => (first, 1, last)
        | [step, last] => (first, step, last)
        | _ => (1, 1, first)
      let count := if step = 0 then 0 else ((last - first) / step + 1).toNat
      let shown := (List.range count).map fun i : Nat => signed (first + step * (i : Int))
      let width := if wide then shown.foldl (fun w t => max w t.length) 0 else 0
      let shown := shown.map fun t => String.ofList (List.replicate (width - t.length) '0') ++ t
      done
      if !shown.isEmpty then write (utf8 ((separator.getD "\n").intercalate shown ++ "\n"))

/-! Paths. -/

def lastPart (path : String) : String :=
  if path.toList.all (· = '/') && !path.isEmpty then "/" else ((path.splitOn "/").filter (· ≠ "")).getLast?.getD ""

def baseName (tool : String) (args : List String) : Sh Unit := do
  match args with
  | [] => misuse tool "missing operand" 1
  | path :: ending =>
    let name := lastPart path
    let ending := ending.headD ""
    let cut := if ending ≠ name && name.endsWith ending then String.ofList (name.toList.take (name.length - ending.length))
               else name
    done
    write (utf8 (cut ++ "\n"))

def dirName (tool : String) (args : List String) : Sh Unit := do
  match args with
  | [] => misuse tool "missing operand" 1
  | path :: _ =>
    let parts := (path.splitOn "/").filter (· ≠ "")
    let front := "/".intercalate parts.dropLast
    let folder := (if Path.isAbsolute path then "/" else "") ++ front
    done
    write (utf8 ((if folder.isEmpty then "." else folder) ++ "\n"))

/-- Does something to each path; what goes wrong is said, and the rest is done all the same. -/
def eachPath (tool : String) (failure : Nat) (paths : List String)
    (act : State → String → Except String State) : Sh Unit := do
  done
  for given in paths do
    let s ← get
    match act s given with
    | .ok t => set t
    | .error message => report tool message failure

def removeFiles (tool : String) (args : List String) : Sh Unit := do
  match options "rRfiv" "" args with
  | .error message => misuse tool message 1
  | .ok (os, []) => if has 'f' os then done else misuse tool "missing operand" 1
  | .ok (os, paths) =>
    eachPath tool 1 paths fun s given =>
      let path := s.path given
      match s.changes.find path, has 'r' os || has 'R' os with
      | .nothing, _ =>
        if has 'f' os then .ok s
        else .error ("cannot remove '" ++ given ++ "': " ++ missingFile)
      | .folder, false => .error ("cannot remove '" ++ given ++ "': Is a directory")
      | .folder, true =>
        .ok { s with changes :=
          { files := s.changes.files.filter fun f => !f.1.startsWith (path ++ "/")
            folders := s.changes.folders.filter fun f => f ≠ path && !f.startsWith (path ++ "/") } }
      | _, _ => .ok { s with changes := s.changes.put path none }

def touchFiles (tool : String) (args : List String) : Sh Unit := do
  eachPath tool 1 args fun s given =>
    let path := s.path given
    match s.changes.find path, s.changes.find (folderOf path) with
    | .nothing, .folder => .ok { s with changes := s.changes.put path (some []) }
    | .nothing, _ => .error ("cannot touch '" ++ given ++ "': " ++ missingFile)
    | _, _ => .ok s

/-- The folders above a path, the path itself last. -/
def foldersTo (path : String) : List String :=
  ((path.splitOn "/").filter (· ≠ "")).foldl (fun done part =>
    done ++ [(done.getLast?.getD "") ++ "/" ++ part]) []

def makeFolders (tool : String) (args : List String) : Sh Unit := do
  match options "pv" "m" args with
  | .error message => misuse tool message 1
  | .ok (os, paths) =>
    eachPath tool 1 paths fun s given =>
      let path := s.path given
      let add (folders : List String) : State :=
        { s with changes := { s.changes with folders := folders ++ s.changes.folders } }
      match s.changes.find path, s.changes.find (folderOf path), has 'p' os with
      | .folder, _, true => .ok s
      | .nothing, .folder, false => .ok (add [path])
      | .nothing, _, true => .ok (add (foldersTo path))
      | .nothing, _, false => .error ("cannot create directory '" ++ given ++ "': " ++ missingFile)
      | _, _, _ => .error ("cannot create directory '" ++ given ++ "': File exists")

def removeFolders (tool : String) (args : List String) : Sh Unit := do
  eachPath tool 1 args fun s given =>
    let path := s.path given
    if s.changes.folders.contains path then
      .ok { s with changes := { s.changes with folders := s.changes.folders.filter (· ≠ path) } }
    else .error ("failed to remove '" ++ given ++ "': " ++
      if s.changes.find path = .nothing then missingFile else "Directory not empty")

/-- Names of files; what a folder of the machine holds nobody knows. -/
def listFiles (tool : String) (args : List String) : Sh Unit := do
  match options "ldaA1hrt" "" args with
  | .error message => misuse tool message 2
  | .ok (os, paths) =>
    done
    for given in paths do
      let s ← get
      let path := s.path given
      let held := ((s.changes.files.filterMap fun (file, bytes) => if bytes.isSome then some file else none) ++
        s.changes.folders).filter fun f => folderOf f = path
      match s.changes.find path, has 'd' os with
      | .nothing, _ =>
        putErrors (tool ++ ": cannot access '" ++ given ++ "': " ++ missingFile ++ "\n")
        setStatus 2
      | .folder, false =>
        write (utf8 (String.join ((held.map lastPart).mergeSort.map (· ++ "\n"))))
      | _, _ => write (utf8 (given ++ "\n"))

def makeTemporary (args : List String) : Sh Unit := do
  let s ← get
  let path := "/tmp/tmp." ++ padded 10 (s.changes.files.length + s.changes.folders.length + 1)
  let changes := if args.contains "-d" then { s.changes with folders := path :: s.changes.folders }
                 else s.changes.put path (some [])
  set { s with changes }
  done
  write (utf8 (path ++ "\n"))

/-- Copies blocks from a file to the output; how long it took is not said in numbers that matter. -/
def copyBlocks (tool : String) (args : List String) : Sh Unit := do
  let value (name : String) : Option String :=
    args.findSome? fun a =>
      match cutAt '=' a.toList with
      | some (n, v) => if String.ofList n = name then some (String.ofList v) else none
      | none => none
  let size := ((value "bs").bind count?).getD 512
  let count := ((value "count").bind count?).map (size * ·)
  match ← contents ((value "if").getD "-") (count.getD deviceBytes) with
  | .error reason =>
    report tool ("failed to open '" ++ (value "if").getD "-" ++ "': " ++ reason) 1
  | .ok bytes =>
    let bytes := count.elim bytes bytes.take
    done
    match value "of" with
    | none => write bytes
    | some file => modify fun s => if file = "/dev/null" then s else
        { s with changes := s.changes.put (s.path file) (some bytes) }
    let full := padded 1 (bytes.length / size) ++ "+" ++ (if bytes.length % size = 0 then "0" else "1")
    putErrors (full ++ " records in\n" ++ full ++ " records out\n")

/-! What the machine is. -/

def identity (tool : String) (args : List String) : Sh Unit := do
  done
  match args with
  | [] => write (utf8 "uid=0(root) gid=0(root) groups=0(root)\n")
  | ["-u"] | ["-g"] => write (utf8 "0\n")
  | ["-un"] | ["-gn"] | ["-u", "-n"] => write (utf8 "root\n")
  | [user] => report tool ("'" ++ user ++ "': no such user") 1
  | _ => write (utf8 "0\n")

def systemName (args : List String) : Sh Unit := do
  done
  write (utf8 ((if args.contains "-m" then "x86_64" else "Linux") ++ "\n"))

/-- The value of an exported variable. -/
def printVariables (names : List String) : Sh Unit := do
  let s ← get
  let exported := s.vars.filter (·.exported)
  let shown (v : Variable) : String := (v.values.lookup 0).getD ""
  done
  if names.isEmpty then
    write (utf8 (String.join (exported.reverse.map fun v => v.name ++ "=" ++ shown v ++ "\n")))
  else
    for name in names do
      match exported.find? (·.name == name) with
      | some v => write (utf8 (shown v ++ "\n"))
      | none => setStatus 1

def whereIs (names : List String) : Sh Unit := do
  done
  for name in names do
    if toolNames.contains name then write (utf8 ("/usr/bin/" ++ name ++ "\n")) else setStatus 1

/-- Writes the same line again and again, until nobody reads it any more. -/
def yes (args : List String) : Sh Unit := do
  let line := utf8 ((if args.isEmpty then "y" else " ".intercalate args) ++ "\n")
  let s ← get
  write (List.replicate (0x40000 / line.length + 1) line).flatten
  match s.sink? 1 with
  | some (.pipe _) => setStatus 141
  | _ => throw .stuck

/-! Words and conditions. -/

/-- The words that `echo` writes. -/
def echoBytes (d : Dialect) (args : List String) : Bytes :=
  let isFlags (word : String) : Bool :=
    match word.toList with
    | '-' :: c :: cs => if d = .bash then (c :: cs).all fun e => "neE".toList.contains e else c = 'n' && cs.isEmpty
    | _ => false
  let flags := (args.takeWhile isFlags).take (if d = .bash then args.length else 1)
  let letters := flags.flatMap String.toList
  let escapes : Bool := match (letters.filter fun c => c = 'e' || c = 'E').getLast? with
    | some c => c = 'e'
    | none => d = .posix
  let text := " ".intercalate (args.drop flags.length)
  let (bytes, ended) :=
    if escapes then unescape d (d = .posix) (text.length + 1) text.toList else (utf8 text, false)
  bytes ++ if ended || letters.contains 'n' then [] else [10]

def holdsOrSays (command : String) (say : String → Sh Unit) (args : List String) : Sh Unit := do
  let s ← get
  let closed := command ≠ "[" || args.getLast? = some "]"
  if !closed then
    say (if s.dialect = .posix then "missing ]" else "missing `]'")
    setStatus 2
  else
    match holdsTest s (if command = "[" then args.dropLast else args) with
    | .ok holds => setStatus (if holds then 0 else 1)
    | .error fault =>
      say (fault.message s.dialect)
      setStatus 2

/-- Prints after a format; a variable may take what is printed. -/
def printWords (d : Dialect) (format : String) (args : List String) (say : String → Sh Unit)
    (keep : Bytes → Sh Unit) : Sh Unit := do
  let (bytes, faults) := printFormat d format args
  done
  keep bytes
  for fault in faults do
    say (fault.message d)
  match faults.getLast? with
  | some fault => setStatus (fault.status d)
  | none => return ()

/-- A tool that starts no other program; `tool` is the name under which it was started. -/
def runTool (tool name : String) (args : List String) : Sh Unit := do
  let tell (message : String) : Sh Unit := putErrors (tool ++ ": " ++ message ++ "\n")
  match name with
  | "true" | "sync" => done
  | "false" => setStatus 1
  | "cat" => cat tool args
  | "head" => headOrTail true tool args
  | "tail" => headOrTail false tool args
  | "tr" => translateInput tool args
  | "wc" => wordCount tool args
  | "sort" => sortLines tool args
  | "uniq" => uniqueLines tool args
  | "cut" => cutLines tool args
  | "grep" => findLines tool args
  | "rev" => reverseLines tool args
  | "tac" => lastLinesFirst tool args
  | "tee" => tee tool args
  | "seq" => sequence tool args
  | "sleep" => sleepFor tool args
  | "expr" => expression tool args
  | "basename" => baseName tool args
  | "dirname" => dirName tool args
  | "rm" => removeFiles tool args
  | "touch" => touchFiles tool args
  | "mkdir" => makeFolders tool args
  | "rmdir" => removeFolders tool args
  | "mktemp" => makeTemporary args
  | "ls" => listFiles tool args
  | "dd" => copyBlocks tool args
  | "id" => identity tool args
  | "whoami" =>
    done
    write (utf8 "root\n")
  | "uname" => systemName args
  | "printenv" => printVariables args
  | "which" => whereIs args
  | "yes" => yes args
  | "echo" =>
    done
    write (echoBytes .bash args)
  | "printf" =>
    match args with
    | [] => misuse tool "missing operand" 1
    | format :: args => printWords .bash format args tell write
  | "pwd" =>
    done
    write (utf8 ((← get).cwd ++ "\n"))
  | "test" | "[" => holdsOrSays name tell args
  | _ => done

end Steward.Shell
