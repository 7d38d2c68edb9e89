import Steward.Shell.Arithmetic
import Steward.Shell.Fields
import Steward.Shell.Tools

/-!
Commands of the shell itself that start nothing and run no text: variables, options, traps, jobs and
signals. A standard shell ends when one of its special commands is misused.
-/
namespace Steward.Shell

open Steward.Text

def commonBuiltins : List String :=
  [".", ":", "[", "alias", "bg", "break", "cd", "command", "continue", "echo", "eval", "exec", "exit",
   "export", "false", "fg", "getopts", "hash", "jobs", "kill", "local", "printf", "pwd", "read", "readonly",
   "return", "set", "shift", "test", "times", "trap", "true", "type", "ulimit", "umask", "unalias", "unset",
   "wait"]

def bashBuiltins : List String :=
  ["builtin", "declare", "disown", "enable", "let", "mapfile", "readarray", "shopt", "source", "typeset"]

def isBuiltin (d : Dialect) (name : String) : Bool :=
  commonBuiltins.contains name || (d = .bash && bashBuiltins.contains name)

def isSpecial (name : String) : Bool :=
  [".", ":", "break", "continue", "eval", "exec", "exit", "export", "readonly", "return", "set", "shift",
   "times", "trap", "unset"].contains name

/-! Variables. -/

/-- Assigns unless the variable cannot be changed. -/
def assignChecked (name : String) (change : State → State) : Sh Unit := do
  let s ← get
  if (s.entry name).readOnly then
    if s.dialect = .posix then
      complainWith 2 (name ++ ": is read only")
      throw .exit
    else
      complainWith 1 (name ++ ": readonly variable")
      throw .abandon
  else set (change s)

/-- The value of an arithmetic expression, its assignments made. -/
def compute (text : String) : Sh Int := do
  let s ← get
  match arithmetic s.dialect (fun name => (s.parameter name none).bind List.head?) text with
  | .ok (n, assigned) =>
    for (name, value) in assigned.reverse do
      assignChecked name fun s => s.assign name (signed value)
    return n
  | .error fault =>
    complain (fault.message s.dialect text)
    if s.dialect = .posix then
      setStatus 2
      throw .exit
    else
      setStatus 1
      throw .abandon

def splitAssignment (text : String) : String × Option String :=
  match cutAt '=' text.toList with
  | some (name, value) => (String.ofList name, some (String.ofList value))
  | none => (text, none)

/-- Options in front of words, all of one letter each. -/
def letterOptions (args : List String) : List Char × List String :=
  let isOption (a : String) : Bool := a.startsWith "-" && a.length > 1
  let given := args.takeWhile fun a => isOption a && a ≠ "--"
  let rest := args.drop given.length
  (given.flatMap fun a => a.toList.drop 1, if rest.head? = some "--" then rest.drop 1 else rest)

/-- Does something to each variable of a list, assigning first where the list asks for it. -/
def declareEach (command : String) (change : Variable → Variable) : List String → Sh Unit
  | [] => return ()
  | a :: rest => do
    let (name, value) := splitAssignment a
    let posix := (← get).dialect = .posix
    if !isName name.toList then
      refuse (command ++ ": " ++ name ++ ": bad variable name")
        (command ++ ": `" ++ a ++ "': not a valid identifier") 1
      declareEach command change rest
    else if value.isSome && ((← get).entry name).readOnly then
      refuse (command ++ ": " ++ name ++ ": is read only") (name ++ ": readonly variable") 1
      declareEach command change rest
    else
      modify fun s =>
        let s := value.elim s fun v => s.assign name v
        let v := s.entry name
        if posix && (s.lookup? name).isNone then s.put (change { v with values := [] }) else s.put (change v)
      declareEach command change rest

def exportNames (args : List String) : Sh Unit := do
  let (letters, names) := letterOptions args
  if letters.contains 'n' && (← get).dialect = .posix then refuse "export: Illegal option -n" "" 2
  done
  declareEach "export" (fun v => { v with exported := !letters.contains 'n' }) names

def freezeNames (args : List String) : Sh Unit := do
  done
  declareEach "readonly" (fun v => { v with readOnly := true }) (letterOptions args).2

/-- Makes variables the own ones of the innermost function. -/
def ownEach (keeps : Bool) : List String → Sh Unit
  | [] => return ()
  | a :: rest => do
    let (name, value) := splitAssignment a
    modify fun s =>
      match s.scopes with
      | [] => s
      | scope :: outer =>
        let scope := if (scope.lookup name).isSome then scope else (name, s.lookup? name) :: scope
        let s := { s with scopes := scope :: outer }
        match value with
        | some v => s.assign name v
        | none => if keeps then s else s.unset name
    ownEach keeps rest

def localNames (command : String) (args : List String) : Sh Unit := do
  let s ← get
  let (letters, names) := letterOptions args
  if s.scopes.isEmpty then
    if command = "local" then refuse "local: not in a function" "local: can only be used in a function" 1
    else
      done
      declareEach command (fun v =>
        { v with exported := v.exported || letters.contains 'x', readOnly := v.readOnly || letters.contains 'r' })
        names
  else
    done
    if letters.contains 'g' then declareEach command id names else ownEach (s.dialect = .posix) names
    declareEach command (fun v =>
      { v with exported := v.exported || letters.contains 'x', readOnly := v.readOnly || letters.contains 'r' })
      (names.filter fun a => (splitAssignment a).2.isSome)

def unsetNames (args : List String) : Sh Unit := do
  let (letters, names) := letterOptions args
  done
  for name in names do
    let s ← get
    if letters.contains 'f' then set { s with functions := s.functions.filter (·.1 != name) }
    else if !isName name.toList && s.dialect = .posix then
      refuse ("unset: " ++ name ++ ": bad variable name") "" 1
    else if (s.entry name).readOnly then
      refuse ("unset: " ++ name ++ ": is read only") ("unset: " ++ name ++ ": cannot unset: readonly variable") 1
    else if (s.lookup? name).isNone then set { s with functions := s.functions.filter (·.1 != name) }
    else set (s.unset name)

/-- A whole number as an argument. -/
def argument? (text : String) : Option Int :=
  match (trim text).toList with
  | '+' :: cs => (digits? cs).map Int.ofNat
  | cs => (String.ofList cs).toInt?

def shiftArgs (args : List String) : Sh Unit := do
  let s ← get
  match (args.head?.elim (some 1) argument?) with
  | none =>
    let text := args.headD ""
    refuse ("shift: Illegal number: " ++ text) ("shift: " ++ text ++ ": numeric argument required") 1
  | some n =>
    if n > s.args.length then
      if s.dialect = .posix then refuse "shift: can't shift that many" "" 1 else setStatus 1
    else
      set { s with args := s.args.drop n.toNat }
      done

def withOption (o : Options) (c : Char) (value : Bool) : Option Options :=
  match c with
  | 'e' => some { o with strict := value }
  | 'u' => some { o with checked := value }
  | 'x' => some { o with traced := value }
  | 'a' => some { o with exporting := value }
  | 'n' => some { o with idle := value }
  | c => if "bCEfhIimTvVBHkpPt".toList.contains c then some o else none

def withNamedOption (d : Dialect) (o : Options) (name : String) (value : Bool) : Option Options :=
  match name with
  | "errexit" => withOption o 'e' value
  | "nounset" => withOption o 'u' value
  | "xtrace" => withOption o 'x' value
  | "allexport" => withOption o 'a' value
  | "noexec" => withOption o 'n' value
  | "pipefail" => if d = .bash then some { o with wholePipes := value } else none
  | "noglob" | "noclobber" | "verbose" | "monitor" | "ignoreeof" | "emacs" | "vi" | "notify" => some o
  | name => if d = .bash && ["posix", "braceexpand", "hashall", "physical"].contains name then some o else none

def setUsage : String :=
  "set: usage: set [-abefhkmnptuvxBCEHPT] [-o option-name] [--] [-] [arg ...]\n"

def setOptions : List String → Sh Unit
  | [] => done
  | "--" :: args => do
    modify fun s => { s with args }
    done
  | "-" :: args => do
    unless args.isEmpty do modify fun s => { s with args }
    done
  | "-o" :: name :: rest => named true name rest
  | "+o" :: name :: rest => named false name rest
  | word :: rest => do
    let s ← get
    match word.toList with
    | sign :: letters =>
      if (sign = '-' || sign = '+') && !letters.isEmpty then
        let value := sign = '-'
        let letters' := letters.filter (· ≠ 'o')
        match letters'.find? fun c => (withOption s.options c value).isNone with
        | some c =>
          let c := String.ofList [c]
          refuse ("set: Illegal option -" ++ c) ("set: -" ++ c ++ ": invalid option") 2
          putErrors setUsage
        | none =>
          set { s with options := letters'.foldl (fun o c => (withOption o c value).getD o) s.options }
          if letters.contains 'o' then
            match rest with
            | name :: rest => named value name rest
            | [] => done
          else setOptions rest
      else
        set { s with args := word :: rest }
        done
    | [] =>
      set { s with args := word :: rest }
      done
where
  /-- An option with a name. -/
  named (value : Bool) (name : String) (rest : List String) : Sh Unit := do
    let s ← get
    match withNamedOption s.dialect s.options name value with
    | some options =>
      set { s with options }
      setOptions rest
    | none => refuse ("set: Illegal option -o " ++ name) ("set: " ++ name ++ ": invalid option name") 2

/-! Folders and input. -/

def changeDir (args : List String) : Sh Unit := do
  let s ← get
  let args := if args.head? = some "-" then args else (letterOptions args).2
  let home := (s.value? "HOME").getD "/root"
  let back := (s.value? "OLDPWD")
  let target : Option String := match args with
    | [] => some home
    | "-" :: _ => if s.dialect = .posix then some (back.getD s.cwd) else back
    | path :: _ => some path
  match target, s.dialect, args with
  | none, _, _ => complainWith 1 "cd: OLDPWD not set"
  | some _, .bash, _ :: _ :: _ => complainWith 1 "cd: too many arguments"
  | some path, d, _ =>
    let place := s.path path
    match path.isEmpty, s.changes.find place with
    | false, .folder =>
      set ({ s with cwd := place }.assign "OLDPWD" s.cwd)
      done
      if args.head? = some "-" then put (place ++ "\n")
    | true, _ => done
    | false, found =>
      if d = .posix then complainWith 2 ("cd: can't cd to " ++ path)
      else complainWith 1 ("cd: " ++ path ++ ": " ++ if found = .nothing then missingFile else "Not a directory")

def showDir (args : List String) : Sh Unit := do
  let s ← get
  match (letterOptions args).1.find? fun c => c ≠ 'L' && c ≠ 'P' with
  | some c =>
    let c := String.ofList [c]
    if s.dialect = .posix then complain ("pwd: Illegal option -" ++ c)
    else
      complain ("pwd: -" ++ c ++ ": invalid option")
      putErrors "pwd: usage: pwd [-LP]\n"
    setStatus 2
  | none => putBytes "pwd" (utf8 (s.cwd ++ "\n"))

/-- A line without the backslashes that keep a character as it is. -/
def withoutBackslashes : List Char → List Char
  | '\\' :: c :: cs => c :: withoutBackslashes cs
  | c :: cs => c :: withoutBackslashes cs
  | [] => []

/-- The values that names get from a line; the last one gets all that is left. -/
def lineFields (separators : List Char) (names : Nat) (line : List Char) : List String :=
  let isBlank (c : Char) : Bool := separators.contains c && isBlankSeparator c
  let trimmed := ((line.dropWhile isBlank).reverse.dropWhile isBlank).reverse
  match names with
  | 0 => []
  | 1 => [String.ofList trimmed]
  | n + 1 =>
    let field := trimmed.takeWhile fun c => !separators.contains c
    let rest := (trimmed.drop field.length).dropWhile isBlank
    let rest := match rest with
      | c :: cs => if separators.contains c then cs else rest
      | [] => []
    String.ofList field :: lineFields separators n rest

def readVariables (args : List String) : Sh Unit := do
  let s ← get
  let line := s.input.takeWhile (· ≠ 10)
  let raw := args.any fun a => a.startsWith "-" && a.toList.contains 'r'
  let names := match args.filter fun a => !a.startsWith "-" with
    | [] => ["REPLY"]
    | names => names
  set { s with input := s.input.drop (line.length + 1) }
  let text := (decodeLossy line).toList
  let values := lineFields s.separators names.length (if raw then text else withoutBackslashes text)
  setStatus (if line.length < s.input.length then 0 else 1)
  for (name, value) in names.zip values do
    assignChecked name fun s => s.assign name value

/-- All lines of the input as the values of an array. -/
def readLines (args : List String) : Sh Unit := do
  let s ← get
  let (letters, names) := letterOptions args
  let lines := (if letters.contains 't' then (byteLines s.input).1 else endedLines s.input).map decodeLossy
  set { s with input := [] }
  modify fun s => s.assignAll (names.headD "MAPFILE") (lines.zipIdx.map fun (line, i) => (i, line))
  done

/-! Traps, jobs and signals. -/

/-- The signal of a trap. -/
def trapSignal? (d : Dialect) (name : String) : Option Nat :=
  if name.toUpper = "EXIT" then some 0 else signal? d name

def shownTrap (d : Dialect) (n : Nat) (action : String) : String :=
  let name := (signalName? n).getD (padded 1 n)
  "trap -- '" ++ action.replace "'" "'\\''" ++ "' " ++ (if d = .bash && n ≠ 0 then "SIG" else "") ++ name ++ "\n"

def setTraps (args : List String) : Sh Unit := do
  let s ← get
  let args := if args.head? = some "--" then args.drop 1 else args
  done
  match args with
  | [] => put (String.join ((s.traps.mergeSort fun a b => a.1 ≤ b.1).map fun (n, action) =>
      shownTrap s.dialect n action))
  | first :: names =>
    let (action, names) := if names.isEmpty then ("-", [first]) else (first, names)
    for name in names do
      match trapSignal? s.dialect name with
      | some n => modify fun s =>
          let others := s.traps.filter (·.1 != n)
          { s with traps := if action = "-" then others else (n, action) :: others }
      | none =>
        unless s.dialect = .bash && ["ERR", "DEBUG", "RETURN"].contains name do
          if s.dialect = .posix then putErrors ("trap: " ++ name ++ ": bad trap\n")
          else complain ("trap: " ++ name ++ ": invalid signal specification")
          setStatus 1

/-- Lets time pass until a job is over, and takes what it wrote. -/
def finishJob (j : Job) : Sh Unit := do
  modify fun s => { s with clock := max s.clock j.ends, jobs := s.jobs.filter (·.pid ≠ j.pid)
                           written := j.written ++ s.written }
  let s ← get
  if s.deadline ≤ s.clock then throw .stuck

def waitFor (args : List String) : Sh Unit := do
  let s ← get
  match args with
  | [] =>
    for j in s.jobs.mergeSort fun a b => a.ends ≤ b.ends do
      finishJob j
    done
  | args =>
    for a in args do
      match digits? a.toList with
      | none =>
        if s.dialect = .posix then complainWith 2 ("wait: Illegal number: " ++ a)
        else complainWith 1 ("wait: `" ++ a ++ "': not a pid or valid job spec")
      | some pid =>
        match s.jobs.find? (·.pid = pid) with
        | some j =>
          finishJob j
          if s.dialect = .posix then
            putErrors ((j.killed.map deathNotice).getD "")
          setStatus j.status
        | none =>
          if s.dialect = .bash then complain ("wait: pid " ++ padded 1 pid ++ " is not a child of this shell")
          setStatus 127

/-- Ends a job that still runs. -/
def Job.kill (j : Job) (now signal : Nat) : Job :=
  if j.ends ≤ now || idleSignals.contains signal || stopSignals.contains signal then j
  else { j with ends := now, status := 128 + signal, killed := some signal
                written := j.written.filter (·.time < now) }

/-- What a call of `kill` asks for: a signal and to whom it goes, or the names of signals. -/
inductive KillCall where
  | send (signal : Nat) (targets : List String)
  | list (numbers : List String)
  | refused (message : String) (code : Nat)
  | usage

def KillCall.read (d : Dialect) (args : List String) : KillCall :=
  let bad (posix name : String) : KillCall :=
    if d = .posix then .refused posix 2 else .refused (name ++ ": invalid signal specification") 1
  let sent (name posix : String) (targets : List String) : KillCall :=
    match signal? d name with
    | none => bad posix name
    | some n =>
      let targets := if d = .bash && targets.head? = some "--" then targets.drop 1 else targets
      if targets.isEmpty then .usage else .send n targets
  match args with
  | [] => .usage
  | "-l" :: numbers => .list numbers
  | "--" :: targets => if targets.isEmpty then .usage else .send 15 targets
  | "-s" :: name :: targets => sent name ("invalid signal number or name: " ++ name) targets
  | first :: rest =>
    match first.toList, d, rest with
    | ['-', 'n'], .bash, n :: targets => sent n "" targets
    | '-' :: c :: cs, _, targets =>
      let name := String.ofList (c :: cs)
      let known := d = .bash || (name.toUpper ≠ "EXIT" && !name.startsWith "SIG")
      if known then sent name ("Illegal option -" ++ String.ofList [c]) targets
      else bad ("Illegal option -" ++ String.ofList [c]) name
    | _, _, _ => .send 15 args

def killUsage (d : Dialect) : String :=
  if d = .posix then
    "Usage: kill [-s sigspec | -signum | -sigspec] [pid | job]... or\nkill -l [exitstatus]"
  else "kill: usage: kill [-s sigspec | -n signum | -sigspec] pid | jobspec ... or kill -l [sigspec]\n"

def listSignals (numbers : List String) : Sh Unit := do
  let d := (← get).dialect
  done
  for given in numbers do
    match digits? given.toList with
    | some n =>
      match signalName? (if n > 128 then n - 128 else n) with
      | some name =>
        if n = 0 && d = .posix then complainWith 2 "kill: invalid signal number or exit status: 0"
        else put (name ++ "\n")
      | none => complainWith 1 ("kill: " ++ given ++ ": invalid signal specification")
    | none =>
      match signal? d given, d with
      | _, .posix => complainWith 2 ("kill: Illegal number: " ++ given)
      | some n, .bash => put (padded 1 n ++ "\n")
      | none, .bash => complainWith 1 ("kill: " ++ given ++ ": invalid signal specification")

/-- Sends signals to jobs; the answer is how often the shell itself is meant. -/
def sendSignal (n : Nat) : List String → Sh Nat
  | [] => return 0
  | target :: rest => do
    let s ← get
    let posix := s.dialect = .posix
    match digits? target.toList with
    | none =>
      if target.startsWith "%" then
        complainWith (if posix then 2 else 1) (if posix then "kill: No such job: " ++ target
          else "kill: " ++ target ++ ": no such job")
      else if posix then
        complainWith 2 ("kill: Illegal number: " ++ if target.startsWith "-" then "-" else target)
      else complainWith 1 (if target.isEmpty then "kill: `': not a pid or valid job spec"
        else "kill: " ++ target ++ ": arguments must be process or job IDs")
      if posix then return 0 else sendSignal n rest
    | some pid =>
      if pid = ownPid then return (← sendSignal n rest) + 1
      else if s.jobs.any (·.pid = pid) then
        set { s with jobs := s.jobs.map fun j : Job => if j.pid = pid then j.kill s.clock n else j }
        sendSignal n rest
      else
        if posix then complainWith 1 "kill: No such process\n"
        else complainWith 1 ("kill: (" ++ target ++ ") - No such process")
        sendSignal n rest

/-- Sends the signals of a call; the signal that the shell itself gets is the answer. -/
def kill (args : List String) : Sh (Option Nat) := do
  let d := (← get).dialect
  match KillCall.read d args with
  | .usage =>
    if d = .posix then complainWith 2 ("kill: " ++ killUsage d)
    else
      putErrors (killUsage d)
      setStatus 2
    return none
  | .refused message code =>
    complainWith code ("kill: " ++ message)
    return none
  | .list numbers =>
    listSignals numbers
    return none
  | .send n targets =>
    done
    let own ← sendSignal n targets
    return if own > 0 then some n else none

/-! Answers about commands. -/

def keywords (d : Dialect) : List String :=
  reservedWords ++ if d = .bash then ["[[", "]]", "function", "select", "time", "coproc"] else []

/-- What a name stands for, in the words of `type`, and what `command -v` shows. -/
def kindOf? (s : State) (name : String) : Option (String × String) :=
  let builtin := " is a " ++ "shell builtin"
  if (keywords s.dialect).contains name then some (" is a shell keyword", name)
  else if (s.functions.lookup name).isSome then
    some (if s.dialect = .posix then " is a shell function" else " is a function", name)
  else if isBuiltin s.dialect name then some (builtin, name)
  else (s.locate? name).map fun target =>
    let path := if name.toList.contains '/' then name else match target with
      | .tool n => "/usr/bin/" ++ n
      | .answering n => Path.join s.programs.folder n
    (" is " ++ path, path)

def tellKinds (names : List String) : Sh Unit := do
  let s ← get
  done
  for name in names do
    match kindOf? s name with
    | some (kind, _) => put (name ++ kind ++ "\n")
    | none =>
      if s.dialect = .posix then
        put (name ++ ": not found\n")
        setStatus 127
      else complainWith 1 ("type: " ++ name ++ ": not found")

def tellPaths (names : List String) : Sh Unit := do
  let s ← get
  done
  for name in names do
    match kindOf? s name with
    | some (_, shown) => put (shown ++ "\n")
    | none => setStatus (if s.dialect = .posix then 127 else 1)

def octal (text : String) : Option Nat :=
  let cs := text.toList
  if !cs.isEmpty && cs.all isOctal then some (cs.foldl (fun n c => n * 8 + digitValue c) 0) else none

def fileMask (args : List String) : Sh Unit := do
  let s ← get
  done
  match args with
  | [] =>
    let digits := inBase 8 s.mask
    put (String.ofList (List.replicate (4 - digits.length) '0') ++ digits ++ "\n")
  | "-S" :: _ =>
    let part (shift : Nat) : String :=
      let bits := s.mask / Nat.pow 8 shift % 8
      (if bits / 4 = 0 then "r" else "") ++ (if bits / 2 % 2 = 0 then "w" else "") ++
        (if bits % 2 = 0 then "x" else "")
    put ("u=" ++ part 2 ++ ",g=" ++ part 1 ++ ",o=" ++ part 0 ++ "\n")
  | mask :: _ =>
    match octal mask with
    | some mask => set { s with mask }
    | none => refuse ("umask: Illegal mode: " ++ mask) ("umask: `" ++ mask ++ "': invalid symbolic mode operator") 1

/-- Looks names up where programs are searched. -/
def rememberPaths (names : List String) : Sh Unit := do
  let s ← get
  done
  if names.isEmpty && s.dialect = .bash then put "hash: hash table empty\n"
  for name in names do
    if (kindOf? s name).isNone && !name.startsWith "-" then complainWith 1 ("hash: " ++ name ++ ": not found")

def shortNames (command : String) (args : List String) : Sh Unit := do
  let posix := (← get).dialect = .posix
  done
  for a in args do
    if command = "unalias" || !a.toList.contains '=' then
      if posix then putErrors (command ++ ": " ++ a ++ " not found\n")
      else complain (command ++ ": " ++ a ++ ": not found")
      setStatus 1

def letSums : List String → Sh Unit
  | [] => complainWith 1 "let: expression expected"
  | [text] => do
    let n ← compute text
    setStatus (if n = 0 then 1 else 0)
  | text :: rest => do
    let _ ← compute text
    letSums rest

def printfUsage : String := "printf: usage: printf [-v var] format [arguments]\n"

def printf (args : List String) : Sh Unit := do
  let d := (← get).dialect
  let tell (message : String) : Sh Unit := complain ("printf: " ++ message)
  let usage : Sh Unit := do
    if d = .posix then complain "printf: usage: printf format [arg ...]" else putErrors printfUsage
    setStatus 2
  match args, d with
  | [], _ => usage
  | ["--"], _ => usage
  | "--" :: format :: args, _ => printWords d format args tell (putBytes "printf")
  | "-v" :: name :: format :: args, .bash =>
    printWords d format args tell fun bytes => modify fun s => s.assign name (decodeLossy bytes)
  | "-v" :: _, .bash =>
    complain "printf: -v: option requires an argument"
    putErrors printfUsage
    setStatus 2
  | format :: args, _ =>
    match format.toList with
    | '-' :: c :: _ =>
      let c := String.ofList [c]
      if d = .posix then complain ("printf: Illegal option -" ++ c)
      else
        complain ("printf: -" ++ c ++ ": invalid option")
        putErrors printfUsage
      setStatus 2
    | _ => printWords d format args tell (putBytes "printf")

/-- A command of the shell that starts nothing, when this is one. -/
def builtin? (d : Dialect) (name : String) : Option (List String → Sh Unit) :=
  match name with
  | ":" | "true" | "ulimit" => some fun _ => done
  | "false" => some fun _ => setStatus 1
  | "echo" => some fun args => do putBytes "echo" (echoBytes (← get).dialect args)
  | "printf" => some printf
  | "pwd" => some showDir
  | "test" | "[" => some (holdsOrSays name fun message => complain (name ++ ": " ++ message))
  | "cd" => some changeDir
  | "export" => some exportNames
  | "readonly" => some freezeNames
  | "local" => some (localNames name)
  | "unset" => some unsetNames
  | "shift" => some shiftArgs
  | "set" => some setOptions
  | "trap" => some setTraps
  | "wait" => some waitFor
  | "read" => some readVariables
  | "type" => some tellKinds
  | "umask" => some fileMask
  | "hash" => some rememberPaths
  | "alias" | "unalias" => some (shortNames name)
  | "times" => some fun _ => do
      done
      put "0m0.00s 0m0.00s\n0m0.00s 0m0.00s\n"
  | "jobs" => some fun _ => done
  | "fg" | "bg" => some fun _ => do
      if (← get).dialect = .posix then complainWith 2 (name ++ ": No current job")
      else complainWith 1 (name ++ ": no job control")
  | name =>
    if d = .posix then none
    else match name with
      | "declare" | "typeset" => some (localNames name)
      | "let" => some letSums
      | "mapfile" | "readarray" => some readLines
      | "shopt" | "enable" => some fun _ => done
      | "disown" => some fun _ => complainWith 1 "disown: current: no such job"
      | _ => none

end Steward.Shell
