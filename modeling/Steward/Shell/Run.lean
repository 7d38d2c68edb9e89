import Steward.Shell.Braces
import Steward.Shell.Builtins

/-!
Running shell scripts in virtual time. Only sleeping takes time. What runs in the background starts
when it is reached and is cut off when the script ends, unless the script waits for it. A text is read
and run line by line, so that what stands before a fault is still run. A run that is out of fuel counts
as out of time.
-/
namespace Steward.Shell

open Steward.Supervision Steward.Text

/-- Runs in a copy of the state: of what it does only the time, the status, what is written and what is
started stays. -/
def copied (body : Sh Unit) : Sh Unit := do
  let s ← get
  set { s with nested := true }
  let flow ← attempt body
  modify fun t =>
    { s with clock := t.clock, status := t.status, written := t.written, started := t.started
             pipes := t.pipes, jobs := t.jobs, lastJob := s.lastJob, input := t.input, changes := t.changes }
  match flow with
  | some (.killed n) => throw (.killed n)
  | some .stuck => throw .stuck
  | _ => return ()

/-- Runs with descriptors of its own, and when `reads` is set with an input of its own. -/
def sheltered (reads : Bool) (body : Sh Unit) : Sh Unit := do
  let s ← get
  let flow ← attempt body
  modify fun t => { t with sinks := s.sinks, input := if reads then s.input else t.input
                           inputIsFolder := s.inputIsFolder }
  resume flow

/-- Whether a redirection replaces the input. -/
def Redirect.reads : Redirect → Bool
  | .mk fd mode _ => fd = 0 && mode ≠ .write && mode ≠ .append

/-- Runs where failures do not end a strict script. -/
def leniently (body : Sh Unit) : Sh Unit := do
  let strict := (← get).options.strict
  modify fun s => { s with options := { s.options with strict := false } }
  let flow ← attempt body
  modify fun s => { s with options := { s.options with strict := s.options.strict || strict } }
  resume flow

/-- Runs a loop's body; whether the loop goes on. -/
def round (body : Sh Unit) : Sh Bool := do
  let s ← get
  set { s with loops := s.loops + 1 }
  let flow ← attempt body
  modify fun t => { t with loops := s.loops }
  match flow with
  | none | some (.again 0) => return true
  | some (.leave 0) => return false
  | some (.leave (n + 1)) => throw (.leave n)
  | some (.again (n + 1)) => throw (.again n)
  | some flow => throw flow

/-- Runs with assignments that hold only meanwhile. -/
def withVariables (names : List String) (body : Sh Unit) : Sh Unit := do
  let before := (← get).vars.filter fun v => names.contains v.name
  let flow ← attempt body
  modify fun s => names.foldl (fun s name => s.restore name (before.find? (·.name == name))) s
  resume flow

/-- A parameter that is not set where one has to be. -/
def rejectParameter (name message : String) : Sh Unit := do
  let s ← get
  if s.dialect = .posix then complainWith 2 (name ++ ": " ++ message)
  else complainWith (if s.nested || s.options.strict then 1 else 127) (shownName .bash name ++ ": " ++ message)
  throw .exit

def reportFault (fault : Fault) : Sh Unit := do
  let s ← get
  if s.dialect = .posix then
    let (line, message) := fault.plainMessage s.source
    putErrors (s.name ++ ": " ++ padded 1 line ++ ": " ++ s.place ++ message ++ "\n")
  else
    for (line, message) in fault.bashMessages s.source do
      putErrors (s.name ++ ": " ++ s.place ++ "line " ++ padded 1 line ++ ": " ++ message ++ "\n")
  setStatus 2

/-- Whether a word is an operator of a condition. -/
def isConditionWord (mark : String) : Word → Bool
  | [.text false cs] => cs = mark.toList
  | _ => false

def wordName : Word → String
  | [.text false cs] => String.ofList cs
  | _ => ""

def conditionOperators : List String :=
  ["=", "==", "!=", "=~", "<", ">", "-eq", "-ne", "-lt", "-le", "-gt", "-ge", "-nt", "-ot", "-ef"]

def Assignment.name : Assignment → String
  | .scalar name _ _ _ => name
  | .array name _ _ => name

/-- Opens a file for writing; what is said when it cannot be opened. -/
def openFile (path : String) (appends : Bool) : Sh (Except String Sink) := do
  let s ← get
  let posix := s.dialect = .posix
  let place := s.path path
  let created (contents : Bytes) : Sh (Except String Sink) := do
    set { s with changes := s.changes.put place (some contents) }
    return .ok (.file place)
  match path, s.changes.find place, s.changes.find (folderOf place) with
  | "/dev/stdout", _, _ => return .ok ((s.sink? 1).getD .nothing)
  | "/dev/stderr", _, _ => return .ok ((s.sink? 2).getD .nothing)
  | _, .device, _ => return .ok .nothing
  | _, .folder, _ => return .error (if posix then "cannot create " ++ path ++ ": Is a directory"
      else path ++ ": Is a directory")
  | _, .file old, _ => created (if appends then old else [])
  | _, .nothing, .folder => created []
  | _, .nothing, .file _ => return .error (if posix then "cannot create " ++ path ++ ": Directory nonexistent"
      else path ++ ": Not a directory")
  | _, .nothing, _ => return .error (if posix then "cannot create " ++ path ++ ": Directory nonexistent"
      else path ++ ": " ++ missingFile)

/-- Opens a file as the input; what is said when there is none. -/
def openInput (path : String) : Sh (Option String) := do
  let s ← get
  match path, s.changes.find (s.path path) with
  | "/dev/stdin", _ => return none
  | "/dev/null", _ =>
    set { s with input := [], inputIsFolder := false }
    return none
  | _, .device =>
    set { s with input := List.replicate deviceBytes 0, inputIsFolder := false }
    return none
  | _, .file contents =>
    set { s with input := contents, inputIsFolder := false }
    return none
  | _, .folder =>
    set { s with input := [], inputIsFolder := true }
    return none
  | _, .nothing =>
    return some (if s.dialect = .posix then "cannot open " ++ path ++ ": No such file"
      else path ++ ": " ++ missingFile)

/-- Sends a descriptor where another one leads. -/
def duplicateSink (fd : Nat) (target : String) : Sh (Option String) := do
  let s ← get
  match digits? target.toList, target with
  | _, "-" =>
    set (if fd = 0 then { s with input := [] } else s.close fd)
    return none
  | some n, _ =>
    if fd = 0 || n = 0 then return none
    else match s.sink? n with
      | some k =>
        set (s.redirect fd k)
        return none
      | none => return some (target ++ ": Bad file descriptor")
  | none, _ =>
    match ← openFile target false with
    | .ok k =>
      modify fun s => (s.redirect fd k).redirect 2 k
      return none
    | .error message => return some message

/-- What comes of opening the file or the descriptor that a redirection names. -/
def redirectTo (fd : Nat) (mode : RedirectMode) (target : String) : Sh (Option String) := do
  match mode with
  | .here =>
    if fd = 0 then modify fun s => { s with input := utf8 target, inputIsFolder := false }
    return none
  | .read => openInput target
  | .duplicate => duplicateSink fd target
  | mode =>
    match ← openFile target (mode = .append) with
    | .ok k =>
      modify fun s => s.redirect fd k
      return none
    | .error message => return some message

/-- Notes the start of an answering program and lets it answer. -/
def answerFrom (program : String) (args : List String) : Sh Unit := do
  let s ← get
  let a := s.programs.answer program args
  let frontend := (s.vars.find? fun v => v.name == "DEBIAN_FRONTEND" && v.exported).map
    fun v => (v.values.lookup 0).getD ""
  set { s with started := ⟨program, args.map .text, frontend, none⟩ :: s.started }
  modify fun s => (s.write 1 (utf8 a.stdout)).write 2 (utf8 a.stderr)
  setStatus a.code

/-- A shell that another one starts. -/
def State.child (s : State) (dialect : Dialect) (name : String) (args : List String) : State :=
  { s with dialect, name, args, vars := s.vars.filter (·.exported), scopes := [], functions := [], loops := 0
           traps := s.traps.filter (·.2 = ""), options := .none, nested := false, jobs := [], lastJob := none
           statuses := [] }

def dialectOf (tool : String) : Dialect := if tool = "bash" then .bash else .posix

/-- What a shell is asked to run. -/
inductive ShellCall where
  | text (script name : String) (args : List String)
  | file (path : String) (args : List String)
  | input
  | refused (message : String)

/-- The options of a shell and what they ask for. -/
def ShellCall.read (d : Dialect) (program : String) (args : List String) : Options × ShellCall :=
  let given := args.takeWhile fun a => a.startsWith "-" && a.length > 1 && a ≠ "--"
  let letters := given.flatMap fun a => if a.startsWith "--" then [] else a.toList.drop 1
  let options := letters.foldl (fun o c => (withOption o c true).getD o) Options.none
  let rest := args.drop given.length
  let rest := if rest.head? = some "--" then rest.drop 1 else rest
  match letters.contains 'c', rest with
  | true, [] => (options, .refused (if d = .posix then program ++ ": 0: -c requires an argument"
      else program ++ ": -c: option requires an argument"))
  | true, [script] => (options, .text script program [])
  | true, script :: name :: args => (options, .text script name args)
  | false, [] => (options, .input)
  | false, path :: args => (options, .file path args)

/-- What is left of a call of a program that starts another one: the variables it sets, and whether it
takes all others away. -/
def readEnvironment : List String → List (String × String) × Bool × List String
  | "-i" :: rest => ((readEnvironment rest).1, true, (readEnvironment rest).2.2)
  | a :: rest =>
    match splitAssignment a with
    | (name, some value) =>
      let (set_, clears, rest) := readEnvironment rest
      ((name, value) :: set_, clears, rest)
    | (_, none) => ([], false, a :: rest)
  | [] => ([], false, [])

def exitWith (args : List String) : Sh Unit := do
  match args with
  | [] => throw .exit
  | code :: more =>
    match argument? code, (← get).dialect, more with
    | some n, .posix, _ =>
      if n < 0 || n > 0x7fffffff then complainWith 2 ("exit: Illegal number: " ++ code)
      else setStatus (n % 256).toNat
    | none, .posix, _ => complainWith 2 ("exit: Illegal number: " ++ code)
    | none, .bash, _ => complainWith 2 ("exit: " ++ code ++ ": numeric argument required")
    | some n, .bash, [] => setStatus (n % 256).toNat
    | some _, .bash, _ :: _ =>
      complainWith 1 "exit: too many arguments"
      throw .abandon
    throw .exit

def returnWith (args : List String) : Sh Unit := do
  let s ← get
  let posix := s.dialect = .posix
  if s.scopes.isEmpty && !posix then
    complainWith 2 "return: can only `return' from a function or sourced script"
  else match args.head?, args.head?.bind argument? with
    | none, _ => throw .back
    | some code, none =>
      refuse ("return: Illegal number: " ++ code) ("return: " ++ code ++ ": numeric argument required") 2
      throw .back
    | some code, some n =>
      if posix && n < 0 then refuse ("return: Illegal number: " ++ code) "" 2
      setStatus (if posix then n.toNat else (n % 256).toNat)
      throw .back

/-- Leaves loops or goes on with one of them. -/
def leaveLoops (command : String) (flow : Nat → Flow) (args : List String) : Sh Unit := do
  let s ← get
  match args.head?, args.head?.bind argument? with
  | some given, none =>
    if s.dialect = .bash then
      complainWith 128 (command ++ ": " ++ given ++ ": numeric argument required")
      throw .exit
    else refuse (command ++ ": Illegal number: " ++ given) "" 2
  | given, n =>
    let n := n.getD 1
    done
    if s.loops = 0 then
      if s.dialect = .bash then
        complain (command ++ ": only meaningful in a `for', `while', or `until' loop")
    else if n ≤ 0 then
      refuse (command ++ ": Illegal number: " ++ given.getD "")
        (command ++ ": " ++ given.getD "" ++ ": loop count out of range") 1
      throw (.leave (s.loops - 1))
    else throw (flow (min n.toNat s.loops - 1))

mutual

def expandPart : Nat → Part → Sh (List Bit)
  | 0, _ => throw .stuck
  | _ + 1, .text quoted cs => return if quoted then .field :: charBits true cs else charBits false cs
  | fuel + 1, .param quoted name index op words => do
    let index ← expandIndex fuel index
    let s ← get
    let many := isMany name index
    let separators := s.separators
    let value := s.parameter name index
    let text := " ".intercalate (value.getD [])
    let shown (values : List String) : List Bit := valueBits separators quoted many values
    let single (text : String) : List Bit := valueBits separators quoted false [text]
    let missing (m : Missing) : Bool :=
      match m with
      | .unset => value.isNone
      | .empty => text.isEmpty
    let isSet (values : Option (List String)) : Sh (List String) := do
      if values.isNone && s.options.checked && !isAll name index then
        if s.dialect = .posix then rejectParameter name "parameter not set"
        else rejectParameter name "unbound variable"
      return values.getD (if isAll name index then [] else [""])
    let operand (word : Word) : Sh (List Bit) := do
      return operandBits separators quoted (← expandParts fuel word)
    match op, words with
    | .value, _ => return shown (← isSet value)
    | .length, _ =>
      let values ← isSet value
      if s.dialect = .bash && isAll name index then return single (padded 1 values.length)
      else return single (padded 1 (byteLength (" ".intercalate values)))
    | .named, _ =>
      if isAll name index then
        return shown (((s.lookup? name).elim [] fun v => v.values).map fun (i, _) => padded 1 i)
      else return shown ((s.parameter text none).getD [""])
    | .ifSet m, word :: _ => if missing m then return single "" else operand word
    | .orElse m, word :: _ => if missing m then operand word else return shown (value.getD [])
    | .orAssign m, word :: _ =>
      if !missing m then return shown (value.getD [])
      else
        let text := joinedText (← expandParts fuel word)
        if !isName name.toList then
          if s.dialect = .posix then
            complainWith 2 (name ++ ": bad variable name")
            throw .exit
          else
            complainWith 1 (shownName .bash name ++ ": cannot assign in this way")
            throw .abandon
        assignChecked name fun s => s.assign name text
        return single text
    | .orFail m, word :: _ =>
      if missing m then
        let message := joinedText (← expandParts fuel word)
        let unset := if m = .unset then "parameter not set"
          else if s.dialect = .posix then "parameter not set or null" else "parameter null or not set"
        rejectParameter name (if message.isEmpty then unset else message)
      return shown (value.getD [])
    | .dropFront longest, word :: _ =>
      let pattern := joinedMarks (← expandParts fuel word)
      return shown ((← isSet value).map fun v => String.ofList (dropFront longest pattern v.toList))
    | .dropBack longest, word :: _ =>
      let pattern := joinedMarks (← expandParts fuel word)
      return shown ((← isSet value).map fun v => String.ofList (dropBack longest pattern v.toList))
    | .slice, word :: rest =>
      let offset ← compute (joinedText (← expandParts fuel word))
      let length ← match rest with
        | word :: _ => do pure (some (← compute (joinedText (← expandParts fuel word))))
        | [] => pure none
      if isAll name index then
        return shown (sliceOf (if name = "@" || name = "*" then s.name :: s.args else value.getD []) offset length)
      else return single (String.ofList (sliceOf text.toList offset length))
    | .replace place, word :: rest =>
      let pattern := joinedMarks (← expandParts fuel word)
      let new := (joinedText (← expandParts fuel (rest.headD []))).toList
      return shown ((value.getD []).map fun v =>
        let cs := v.toList
        String.ofList (match place with
          | .first => replaceMatches false pattern new (cs.length + 1) cs
          | .every => replaceMatches true pattern new (cs.length + 1) cs
          | .front => replaceFront pattern new cs
          | .back => replaceBack pattern new cs))
    | .upper all, _ => return shown ((value.getD []).map (mapFirst Char.toUpper all))
    | .lower all, _ => return shown ((value.getD []).map (mapFirst Char.toLower all))
    | .unknown text, _ =>
      if s.dialect = .posix then
        complainWith 2 "Bad substitution"
        throw .exit
      else
        complainWith 1 ("$" ++ "\x7b" ++ text ++ "\x7d" ++ ": bad substitution")
        throw .abandon
    | _, [] => return shown (value.getD [])
  | fuel + 1, .output quoted body => do
    let s ← get
    set { s.redirect 1 (.pipe s.pipes) with pipes := s.pipes + 1 }
    let flow ← attempt (copied (runItems fuel body))
    modify fun t => { t with sinks := s.sinks }
    resume flow
    let bytes := (← get).writtenTo (.pipe s.pipes)
    modify fun t => { t with substituted := some t.status }
    if s.dialect = .bash && bytes.contains 0 then
      complain "warning: command substitution: ignored null byte in input"
    let text := decodeLossy (dropNewlines (bytes.filter (· ≠ 0)))
    return valueBits s.separators quoted false [text]
  | fuel + 1, .sum quoted expression => do
    let n ← compute (joinedText (← expandParts fuel expression))
    return valueBits (← get).separators quoted false [signed n]

/-- An index as a number. -/
def expandIndex : Nat → Option String → Sh (Option String)
  | 0, _ => throw .stuck
  | _ + 1, none => return none
  | fuel + 1, some index => do
    if index = "@" || index = "*" then return some index
    else
      match readQuoted .bash '\x00' [] (8 * index.length + 8) index.toList with
      | .ok (word, _) => return some (signed (← compute (joinedText (← expandParts fuel word))))
      | .error _ => return some "0"

def expandParts : Nat → Word → Sh (List Bit)
  | 0, _ => throw .stuck
  | _ + 1, [] => return []
  | fuel + 1, p :: ps => do
    let bits ← expandPart fuel p
    return bits ++ (← expandParts fuel ps)

def expandWords : Nat → List Word → Sh (List String)
  | 0, _ => throw .stuck
  | _ + 1, [] => return []
  | fuel + 1, w :: ws => do
    let fields := (fieldsOf (← expandParts fuel ((tilde? w).getD w))).map plain
    return fields ++ (← expandWords fuel ws)

def expandText : Nat → Word → Sh String
  | 0, _ => throw .stuck
  | fuel + 1, w => return joinedText (← expandParts fuel ((tilde? w).getD w))

/-- Applies redirections up to one that fails; whether all were applied. -/
def applyRedirects : Nat → List Redirect → Sh Bool
  | 0, _ => throw .stuck
  | _ + 1, [] => return true
  | fuel + 1, .mk fd mode target :: rest => do
    let text ← if mode = .here then do pure (joinedText (← expandParts fuel target)) else expandText fuel target
    match ← redirectTo fd mode text with
    | none => applyRedirects fuel rest
    | some message =>
      complainWith (if (← get).dialect = .posix then 2 else 1) message
      return false

def applyAssignments : Nat → List Assignment → Sh Unit
  | 0, _ => throw .stuck
  | _ + 1, [] => return ()
  | fuel + 1, .scalar name index appends word :: rest => do
    let text ← expandText fuel word
    let index ← expandIndex fuel index
    let i := ((index.bind String.toNat?).getD 0)
    assignChecked name fun s =>
      let old := if appends then (((s.entry name).values).lookup i).getD "" else ""
      if index.isNone && (s.entry name).values.length ≤ 1 then s.assign name (old ++ text)
      else s.assignAt name i (old ++ text)
    if (← get).options.traced then putErrors ("+ " ++ name ++ "=" ++ traced (← get).dialect text ++ "\n")
    applyAssignments fuel rest
  | fuel + 1, .array name appends elements :: rest => do
    let values ← expandWords fuel elements
    assignChecked name fun s =>
      let old := if appends then (s.entry name).values else []
      let start := (old.getLast?.map fun (i, _) => i + 1).getD 0
      s.assignAll name (old ++ values.zipIdx.map fun (v, i) => (start + i, v))
    applyAssignments fuel rest

def withRedirects : Nat → List Redirect → Sh Unit → Sh Unit
  | 0, _, _ => throw .stuck
  | fuel + 1, redirects, body => sheltered (redirects.any Redirect.reads) do
    if ← applyRedirects fuel redirects then body

/-- Delivers a signal to the shell itself. -/
def signalSelf : Nat → Nat → Sh Unit
  | 0, _ => throw .stuck
  | fuel + 1, n => do
    let s ← get
    let action := s.traps.lookup n
    if n = 9 then throw (.killed 9)
    else if n = 19 then throw .stuck
    else match action with
      | some action => runText fuel "" action
      | none =>
        if idleSignals.contains n || (n = 3 && s.dialect = .bash) then return ()
        else if stopSignals.contains n then throw .stuck
        else throw (.killed n)

/-- Runs a text line by line. At the end of each line what it gave up is forgotten. -/
def runLines : Nat → Chars → Sh Unit
  | 0, _ => throw .stuck
  | fuel + 1, cs => do
    let s ← get
    match cs.isEmpty || s.options.idle, Script.readLine s.dialect cs with
    | true, _ => return ()
    | false, .error fault =>
      reportFault fault
      if s.place = "eval: " && s.dialect = .bash then return () else throw .exit
    | false, .ok (items, rest) =>
      match ← attempt (runItems fuel items) with
      | some .abandon => if s.nested then throw .abandon else runLines fuel rest
      | flow =>
        resume flow
        runLines fuel rest

/-- Runs a text; `place` is what messages on faults in it say about where it stands. -/
def runText : Nat → String → String → Sh Unit
  | 0, _, _ => throw .stuck
  | fuel + 1, place, text => do
    let s ← get
    set { s with source := text.toList, place }
    let flow ← attempt (runLines fuel text.toList)
    modify fun t => { t with source := s.source, place := s.place, line := s.line }
    resume flow

/-- Runs a text to its end, with what is to be done there. -/
def runWhole : Nat → String → String → Sh Unit
  | 0, _, _ => throw .stuck
  | fuel + 1, place, script => do
    let flow ← attempt (runText fuel place script)
    finish fuel flow

/-- Does what is to be done at the end of a shell. -/
def finish : Nat → Option Flow → Sh Unit
  | 0, _ => throw .stuck
  | fuel + 1, flow => do
    let s ← get
    let runs : Bool := match flow with
      | some .stuck => false
      | some (.killed n) => n ≠ 9 && s.dialect = .bash
      | _ => true
    match runs, s.traps.lookup 0 with
    | true, some action =>
      set { s with traps := s.traps.filter (·.1 ≠ 0) }
      match ← attempt (runText fuel "" action) with
      | some .exit => pure ()
      | some .stuck => throw .stuck
      | some (.killed n) => throw (.killed n)
      | _ => setStatus s.status
    | _, _ => pure ()
    match flow with
    | some (.killed n) => throw (.killed n)
    | some .stuck => throw .stuck
    | _ => return ()

/-- Runs a shell inside a shell. -/
def runChild : Nat → State → String → String → Sh Unit
  | 0, _, _, _ => throw .stuck
  | fuel + 1, child, place, script => do
    let s ← get
    set { child with status := 0 }
    let flow ← attempt (runWhole fuel place script)
    modify fun t =>
      { s with clock := t.clock, written := t.written, started := t.started, pipes := t.pipes
               status := t.status, changes := t.changes, input := t.input }
    match flow with
    | some (.killed n) =>
      if s.dialect = .posix then putErrors (deathNotice n)
      setStatus (128 + n)
    | some .stuck => throw .stuck
    | _ => return ()

/-- Runs a shell that was started by its name. -/
def runShell : Nat → String → String → List String → Sh Unit
  | 0, _, _, _ => throw .stuck
  | fuel + 1, program, tool, args => do
    let s ← get
    let d := dialectOf tool
    let (options, call) := ShellCall.read d program args
    let child (name : String) (args : List String) : State := { s.child d name args with options }
    match call with
    | .refused message =>
      putErrors (message ++ "\n")
      setStatus 2
    | .text script name args => runChild fuel (child name args) (if d = .bash then "-c: " else "") script
    | .input =>
      let script := decodeLossy s.input
      runChild fuel { child program [] with input := [] } "" script
    | .file path args =>
      match s.changes.find (s.path path) with
      | .file contents => runChild fuel (child path args) "" (decodeLossy contents)
      | _ =>
        putErrors (if d = .posix then program ++ ": 0: cannot open " ++ path ++ ": No such file\n"
          else program ++ ": " ++ path ++ ": " ++ missingFile ++ "\n")
        setStatus (if d = .posix then 2 else 127)

/-- Runs a program with a limit on its time. -/
def runLimited : Nat → String → List String → Sh Unit
  | 0, _, _ => throw .stuck
  | fuel + 1, tool, args => do
    let s ← get
    match args with
    | limit :: program :: args =>
      match milliseconds? limit with
      | none => misuse tool ("invalid time interval '" ++ limit ++ "'") 125
      | some ms =>
        let limit := s.clock + ms
        set { s with deadline := min s.deadline limit }
        let flow ← attempt (runProgram fuel program args)
        modify fun t => { t with deadline := s.deadline }
        if flow = some .stuck && limit < s.deadline then
          modify fun t => { t with clock := limit, sinks := s.sinks, status := 124 }
        else resume flow
    | _ => misuse tool "missing operand" 125

/-- Runs a program with other variables. -/
def runWith : Nat → String → List String → Sh Unit
  | 0, _, _ => throw .stuck
  | fuel + 1, tool, args => do
    let s ← get
    let (given, clears, rest) := readEnvironment args
    let kept := if clears then [] else s.vars
    set (given.foldl (fun s (name, value) =>
      let s := s.assign name value
      s.put { s.entry name with exported := true }) { s with vars := kept })
    let flow ← attempt (match rest with
      | [] => printVariables []
      | program :: args => do
        let s ← get
        if (s.locate? program).isNone then
          putErrors (tool ++ ": '" ++ program ++ "': " ++ missingFile ++ "\n")
          setStatus 127
        else runProgram fuel program args)
    modify fun t => { t with vars := s.vars }
    resume flow

/-- Starts a program that is no command of the shell. -/
def runProgram : Nat → String → List String → Sh Unit
  | 0, _, _ => throw .stuck
  | fuel + 1, program, args => do
    let s ← get
    let posix := s.dialect = .posix
    match s.locate? program with
    | some (.answering name) => answerFrom name args
    | some (.tool tool) =>
      done
      if shellNames.contains tool then runShell fuel program tool args
      else match tool, args with
        | "env", args => runWith fuel program args
        | "timeout", args => runLimited fuel program args
        | "nohup", inner :: args => runProgram fuel inner args
        | "setsid", inner :: args => runProgram fuel inner args
        | "nice", inner :: args => runProgram fuel inner args
        | "kill", args =>
          match ← kill args with
          | some n => signalSelf fuel n
          | none => return ()
        | tool, args => runTool program tool args
    | none =>
      if program.isEmpty then
        complainWith 127 (if posix then ": Permission denied" else ": command not found")
      else if !program.toList.contains '/' then
        complainWith 127 (program ++ if posix then ": not found" else ": command not found")
      else match s.changes.find (s.path program) with
        | .nothing =>
          complainWith 127 (program ++ if posix then ": not found" else ": " ++ missingFile)
        | .folder => complainWith 126 (program ++ if posix then ": Permission denied" else ": Is a directory")
        | _ => complainWith 126 (program ++ ": Permission denied")

/-- Runs a file in the shell itself. -/
def runFile : Nat → List String → Sh Unit
  | 0, _ => throw .stuck
  | fuel + 1, args => do
    let s ← get
    match args with
    | [] => complainWith 2 ".: filename argument required"
    | path :: _ =>
      match s.changes.find (s.path path), path.toList.contains '/' || s.dialect = .bash with
      | .file contents, true => runText fuel "" (decodeLossy contents)
      | .device, true => done
      | _, true => refuse (".: cannot open " ++ path ++ ": No such file") (path ++ ": " ++ missingFile) 1
      | _, false => refuse (".: " ++ path ++ ": not found") "" 1

/-- Replaces the shell by a program. -/
def become : Nat → List String → Sh Unit
  | 0, _ => throw .stuck
  | _ + 1, [] => done
  | fuel + 1, program :: args => do
    let s ← get
    set { s with traps := [] }
    if (s.locate? program).isNone then
      let isPath := program.toList.contains '/'
      let found := isPath && s.changes.find (s.path program) ≠ .nothing
      if s.dialect = .posix then
        complainWith (if found then 126 else 127)
          ("exec: " ++ program ++ if found then ": Permission denied" else ": not found")
      else if found then
        complain (program ++ ": Permission denied")
        complainWith 126 ("exec: " ++ program ++ ": cannot execute: Permission denied")
      else if isPath then complainWith 127 (program ++ ": " ++ missingFile)
      else complainWith 127 ("exec: " ++ program ++ ": not found")
    else runProgram fuel program args
    throw .exit

/-- Runs a command by its name, without looking for a function when `plain` is set. -/
def call : Nat → Bool → String → List String → Sh Unit
  | 0, _, _, _ => throw .stuck
  | fuel + 1, plainly, name, args => do
    let s ← get
    match if plainly then none else s.functions.lookup name with
    | some body =>
      set { s with args, scopes := [] :: s.scopes, loops := 0 }
      let flow ← attempt (runCommand fuel body)
      modify fun t => (t.scopes.headD []).foldl (fun t (name, v) => t.restore name v)
        { t with args := s.args, scopes := t.scopes.drop 1, loops := s.loops }
      if flow ≠ some .back then resume flow
    | none =>
      match isBuiltin s.dialect name, builtin? s.dialect name with
      | false, _ => runProgram fuel name args
      | true, some run => run args
      | true, none =>
        match name with
        | "exit" => exitWith args
        | "return" => returnWith args
        | "break" => leaveLoops "break" .leave args
        | "continue" => leaveLoops "continue" .again args
        | "eval" =>
          done
          runText fuel "eval: " (" ".intercalate args)
        | "." | "source" => runFile fuel args
        | "exec" => become fuel args
        | "builtin" =>
          match args with
          | [] => done
          | name :: args => call fuel true name args
        | "command" =>
          match args with
          | "-v" :: names => tellPaths names
          | "-V" :: names => tellKinds names
          | "-p" :: name :: args => call fuel true name args
          | name :: args => call fuel true name args
          | [] => done
        | "kill" =>
          match ← kill args with
          | some n => signalSelf fuel n
          | none => return ()
        | _ => done

/-- Conditions with bars between them, and the words that are left. -/
def holdsEither : Nat → List Word → Sh (Bool × List Word)
  | 0, _ => throw .stuck
  | fuel + 1, ws => do
    let (a, rest) ← holdsBoth fuel ws
    match rest with
    | w :: rest =>
      if isConditionWord "||" w then
        let (b, rest) ← holdsEither fuel rest
        return (a || b, rest)
      else return (a, w :: rest)
    | [] => return (a, [])

def holdsBoth : Nat → List Word → Sh (Bool × List Word)
  | 0, _ => throw .stuck
  | fuel + 1, ws => do
    let (a, rest) ← holdsOne fuel ws
    match rest with
    | w :: rest =>
      if isConditionWord "&&" w then
        let (b, rest) ← holdsBoth fuel rest
        return (a && b, rest)
      else return (a, w :: rest)
    | [] => return (a, [])

def holdsOne : Nat → List Word → Sh (Bool × List Word)
  | 0, _ => throw .stuck
  | fuel + 1, ws => do
    match ws with
    | [] => return (false, [])
    | w :: rest =>
      if isConditionWord "!" w then
        let (a, rest) ← holdsOne fuel rest
        return (!a, rest)
      else if isConditionWord "(" w then
        let (a, rest) ← holdsEither fuel rest
        return (a, rest.drop 1)
      else
        match rest with
        | op :: right :: more =>
          if conditionOperators.contains (wordName op) then
            return (← compareWords fuel w (wordName op) right, more)
          else holdsPlain fuel w rest
        | rest => holdsPlain fuel w rest

/-- A word alone, or behind an operator. -/
def holdsPlain : Nat → Word → List Word → Sh (Bool × List Word)
  | 0, _, _ => throw .stuck
  | fuel + 1, w, rest => do
    match rest, (unaryTest? (← get) (wordName w) "").isSome with
    | operand :: rest, true =>
      let text ← expandText fuel operand
      return ((unaryTest? (← get) (wordName w) text).getD false, rest)
    | rest, _ => return (!(← expandText fuel w).isEmpty, rest)

def compareWords : Nat → Word → String → Word → Sh Bool
  | 0, _, _, _ => throw .stuck
  | fuel + 1, left, op, right => do
    let text ← expandText fuel left
    let marks := joinedMarks (← expandParts fuel right)
    match op with
    | "=" | "==" => return bytesAreOf marks text.toList
    | "!=" => return !bytesAreOf marks text.toList
    | "=~" =>
      let pattern := String.ofList (marks.flatMap fun (c, quoted) =>
        if quoted && "\\.[]*^$+?()|\x7b\x7d".toList.contains c then ['\\', c] else [c])
      match (Regex.read? pattern).bind fun r => r.firstMatch? text.toList with
      | some found =>
        modify fun s => s.assign "BASH_REMATCH" (String.ofList found)
        return true
      | none => return false
    | "<" => return text < plain marks
    | ">" => return plain marks < text
    | op =>
      if ["-nt", "-ot", "-ef"].contains op then return false
      else
        let a ← compute text
        let b ← compute (plain marks)
        return (match binaryTest? .bash (signed a) op (signed b) with
          | .ok (some holds) => holds
          | _ => false)

def runArms (subject : String) : Nat → Bool → List (List Word × Script × Bool) → Sh Unit
  | 0, _, _ => throw .stuck
  | _ + 1, _, [] => return ()
  | fuel + 1, entered, (patterns, body, falls) :: rest => do
    let fits ← if entered then pure true else patterns.anyM fun p => do
      return bytesAreOf (joinedMarks (← expandParts fuel p)) subject.toList
    if fits then
      runItems fuel body
      if falls then runArms subject fuel true rest
    else runArms subject fuel false rest

def runLoop (goal : Bool) (test body : Script) : Nat → Nat → Sh Unit
  | 0, _ => throw .stuck
  | fuel + 1, status => do
    if ← round (leniently (runItems fuel test)) then
      if ((← get).status = 0) = goal then
        if ← round (runItems fuel body) then runLoop goal test body fuel (← get).status
      else setStatus status

def runCount (test next : Word) (body : Script) : Nat → Sh Unit
  | 0 => throw .stuck
  | fuel + 1 => do
    let text ← expandText fuel test
    let goes ← if isBlankText text then pure 1 else compute text
    if goes ≠ 0 then
      if ← round (runItems fuel body) then
        let _ ← compute (← expandText fuel next)
        runCount test next body fuel

def runEach (name : String) (body : Script) : Nat → List String → Sh Unit
  | 0, _ => throw .stuck
  | _ + 1, [] => return ()
  | fuel + 1, v :: vs => do
    assignChecked name fun s => s.assign name v
    if ← round (runItems fuel body) then runEach name body fuel vs

def runSimple : Nat → List Assignment → List String → List Redirect → Sh Unit
  | 0, _, _, _ => throw .stuck
  | fuel + 1, assignments, [], redirects => do
    applyAssignments fuel assignments
    let status := (← get).substituted.getD 0
    setStatus status
    withRedirects fuel redirects (return ())
  | fuel + 1, assignments, name :: args, redirects => do
    let s ← get
    if s.options.traced then
      putErrors ("+ " ++ " ".intercalate ((name :: args).map (traced s.dialect)) ++ "\n")
    if name = "exec" && args.isEmpty then
      applyAssignments fuel assignments
      done
      if !(← applyRedirects fuel redirects) then throw .exit
    else
      let isOwn := s.dialect = .posix && isSpecial name && (s.functions.lookup name).isNone
      let names := if isOwn then [] else assignments.map Assignment.name
      withVariables names do
        applyAssignments fuel assignments
        modify fun s => { s with vars := s.vars.map fun v =>
          { v with exported := v.exported || names.contains v.name } }
        sheltered (redirects.any Redirect.reads) do
          if ← applyRedirects fuel redirects then
            call fuel false name args
            if name = "exec" then throw .exit
          else if isOwn then throw .exit

def runCommand : Nat → Command → Sh Unit
  | 0, _ => throw .stuck
  | fuel + 1, .simple left assignments ws redirects => do
    modify fun s => { s with line := lineOf s.source (s.source.drop (s.source.length - left))
                             substituted := none }
    let bash := (← get).dialect = .bash
    let words ← expandWords fuel (if bash then ws.flatMap writtenOut else ws)
    runSimple fuel assignments words redirects
  | fuel + 1, .redirected command redirects => withRedirects fuel redirects (runCommand fuel command)
  | fuel + 1, .group body => runItems fuel body
  | fuel + 1, .subshell body => copied do
    modify fun s => { s with traps := s.traps.filter (·.2 = "") }
    let flow ← attempt (runItems fuel body)
    finish fuel flow
  | fuel + 1, .branch test yes no => do
    leniently (runItems fuel test)
    if (← get).status = 0 then runItems fuel yes
    else
      done
      runItems fuel no
  | fuel + 1, .loop goal test body => runLoop goal test body fuel 0
  | fuel + 1, .each name ws body => do
    let bash := (← get).dialect = .bash
    let values ← match ws with
      | some ws => expandWords fuel (if bash then ws.flatMap writtenOut else ws)
      | none => pure (← get).args
    if bash && !isName name.toList then complainWith 1 ("`" ++ name ++ "': not a valid identifier")
    else
      done
      runEach name body fuel values
  | fuel + 1, .count first test next body => do
    let _ ← compute (← expandText fuel first)
    done
    runCount test next body fuel
  | fuel + 1, .choice word arms => do
    let subject ← expandText fuel word
    done
    runArms subject fuel false arms
  | fuel + 1, .condition ws => do
    let (holds, _) ← holdsEither fuel ws
    setStatus (if holds then 0 else 1)
  | fuel + 1, .sum expression => do
    let n ← compute (joinedText (← expandParts fuel expression))
    setStatus (if n = 0 then 1 else 0)
  | _ + 1, .define name body => do
    modify fun s => { s with functions := (name, body) :: s.functions.filter (·.1 != name) }
    done

/-- Runs the stages of a pipeline, each on what the one before it has written. A stage that never comes
to an end is over when nobody reads it any more. -/
def runStages (start : Nat) : Nat → List Command → Sh (List Nat × Option Flow)
  | 0, _ => throw .stuck
  | _ + 1, [] => return ([], none)
  | fuel + 1, [last] => do
    modify fun s => { s with clock := start }
    let flow ← attempt (copied (runCommand fuel last))
    return ([(← get).status], flow)
  | fuel + 1, stage :: rest => do
    let s ← get
    let pipe := s.pipes
    set { s.redirect 1 (.pipe pipe) with pipes := pipe + 1, clock := start }
    let flow ← attempt (copied (runCommand fuel stage))
    let t ← get
    let isEndless := flow = some .stuck && t.clock < t.deadline
    set { t with sinks := s.sinks, input := t.writtenTo (.pipe pipe), inputIsFolder := false }
    let (statuses, lastFlow) ← runStages start fuel rest
    modify fun u => { u with clock := if isEndless then u.clock else max t.clock u.clock, input := s.input }
    return (t.status :: statuses, if isEndless then lastFlow else flow.or lastFlow)

def runPipeline : Nat → Pipeline → Sh Unit
  | 0, _ => throw .stuck
  | fuel + 1, .mk negated stages => do
    let strict := (← get).options.strict
    match stages with
    | [single] =>
      if negated then leniently (runCommand fuel single) else runCommand fuel single
      modify fun s => { s with statuses := [s.status] }
    | stages =>
      let (statuses, flow) ← runStages (← get).clock fuel stages
      modify fun s => { s with statuses }
      resume flow
      if (← get).options.wholePipes then
        setStatus ((statuses.reverse.find? (· ≠ 0)).getD 0)
    if negated then modify fun s => { s with status := if s.status = 0 then 1 else 0 }
    let s ← get
    if strict && s.options.strict && !negated && s.status ≠ 0 then throw .exit

def runChain : Nat → List (Bool × Pipeline) → Sh Unit
  | 0, _ => throw .stuck
  | _ + 1, [] => return ()
  | fuel + 1, (success, pipeline) :: rest => do
    if ((← get).status = 0) = success then
      if rest.isEmpty then runPipeline fuel pipeline else leniently (runPipeline fuel pipeline)
    runChain fuel rest

def runItem : Nat → Item → Sh Unit
  | 0, _ => throw .stuck
  | fuel + 1, .mk first rest false => do
    if rest.isEmpty then runPipeline fuel first else leniently (runPipeline fuel first)
    runChain fuel rest
  | fuel + 1, .mk first rest true => do
    let s ← get
    let pid := (s.lastJob.getD ownPid) + 1
    set { s with written := [], input := [], nested := true, jobs := [] }
    let flow ← attempt (runItem fuel (.mk first rest false))
    modify fun t =>
      let ends := if flow = some .stuck then max t.clock t.deadline else t.clock
      { s with started := t.started, pipes := t.pipes, changes := t.changes, status := 0, lastJob := some pid
               jobs := s.jobs ++ [⟨pid, ends, t.status, none, t.written⟩] }

def runItems : Nat → Script → Sh Unit
  | 0, _ => throw .stuck
  | _ + 1, [] => return ()
  | fuel + 1, item :: rest => do
    unless (← get).options.idle do
      runItem fuel item
      runItems fuel rest

end

/-- Steps that a script may take. -/
def scriptFuel : Nat := 30000

/-- What was written up to an instant, with what the background wrote before it. -/
def State.trace (s : State) (flow : Option Flow) : Trace :=
  let isOut := flow = some .stuck || s.deadline ≤ s.clock
  let ends := if isOut then s.deadline else s.clock
  let background := (s.jobs.flatMap (·.written)).filter (·.time < ends)
  let written := ((s.written.filter fun w => w.time < s.deadline) ++ background).reverse
  let ordered := written.mergeSort fun a b => a.time ≤ b.time
  let sent (k : Sink) : Bytes := (ordered.filter (·.sink = k)).flatMap (·.bytes)
  { stdout := sent .output, stderr := sent .errors
    ending := if isOut then .outOfTime
      else match flow with
        | some (.killed n) => .killed n
        | _ => .exited (s.status % 256)
    seconds := (Float.ofNat ends / 1000).toBits }

end Steward.Shell
