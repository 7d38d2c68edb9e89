import Steward.Shell.Run

/-!
Starting programs on a machine that is only described: the answering programs, the shell and its
tools. What cannot be started fails with the reason that the system would give.
-/
namespace Steward.Shell

open Steward.Supervision Steward.Text

def missing : String := "No such file or directory (os error 2)"

def refused : String := "Permission denied (os error 13)"

def noFolder : String := "Not a directory (os error 20)"

def longName : String := "File name too long (os error 36)"

def nulByte : String := "nul byte found in provided data"

def argumentText : Argument → String
  | .text s => s
  | .scriptPath => "/tmp/fleetagent-script.sh"

def holdsNul (s : String) : Bool := s.toList.contains '\x00'

/-- What keeps a path from being followed: something on the way that is no folder, or nothing there. -/
def pathFault? (cwd path : String) : Option String :=
  let parts := (if Path.isAbsolute path then path else cwd ++ "/" ++ path).splitOn "/"
  let fault? (n : Nat) : Option String :=
    if ((parts.drop n).headD "").utf8ByteSize > 255 then some longName
    else match Changes.find ⟨[], []⟩ (absolutePath "/" ("/".intercalate (parts.take (n + 1)))) with
      | .nothing => some missing
      | .folder => none
      | _ => if n + 1 < parts.length then some noFolder else none
  if path.isEmpty then some missing
  else if path.utf8ByteSize > 4095 then some longName
  else (List.range parts.length).findSome? fault?

/-- What keeps the folder of a launch from being entered. -/
def folderFault? (p : Programs) (workdir : Option String) : Option String :=
  workdir.bind fun folder =>
    if folder = p.folder then none
    else (pathFault? "/" folder).orElse fun _ =>
      if Changes.find ⟨[], []⟩ (absolutePath "/" folder) = .folder then none else some noFolder

/-- What keeps a program from being started that is not found. Of the folders in which a name is looked
for, one that holds something of this name is enough to be refused. -/
def programFault (folders : Option String) (cwd program : String) : String :=
  let there (folder : String) : Bool :=
    !program.isEmpty && (pathFault? cwd (Path.join (if folder.isEmpty then "." else folder) program)).isNone
  if program.toList.contains '/' then (pathFault? cwd program).getD refused
  else if program.utf8ByteSize > 255 then longName
  else if ((folders.getD "/bin").splitOn ":").any there then refused
  else missing

/-- The value of a variable that a launch sets, the last one that is given. -/
def given? (l : Launch) (name : String) : Option String := l.env.reverse.lookup name

def target? (p : Programs) (l : Launch) : Option Target :=
  p.locate? (given? l "PATH") (l.workdir.getD "/") l.program

def startFault? (p : Programs) (l : Launch) : Option String :=
  let texts := l.program :: l.args.map argumentText ++ l.workdir.toList ++
    l.env.flatMap fun (name, value) => [name, value]
  if texts.any holdsNul then some nulByte
  else (folderFault? p l.workdir).orElse fun _ =>
    if (target? p l).isSome then none
    else some (programFault (given? l "PATH") (l.workdir.getD "/") l.program)

/-- The variables of a launch in the order of their names, as a program finds them. A name ends at its
first equals sign. -/
def givenVariables (l : Launch) : List (String × String) :=
  let names := (l.env.map Prod.fst).eraseDups.mergeSort fun a b => !(b < a)
  names.map fun name =>
    let text := (name ++ "=" ++ (given? l name).getD "").toList
    (String.ofList (text.takeWhile (· ≠ '=')), String.ofList ((text.dropWhile (· ≠ '=')).drop 1))

/-- A shell in which a launch begins. -/
def State.ofLaunch (p : Programs) (l : Launch) : State :=
  let s : State :=
    { dialect := .posix, name := l.program, place := "", args := [], vars := [], scopes := [], functions := []
      loops := 0, sinks := [(1, .output), (2, .errors)], input := [], inputIsFolder := false
      cwd := absolutePath "/" (l.workdir.getD "/"), traps := [], options := .none, nested := false, source := [], line := 1
      clock := 0, deadline := l.timeoutMs, status := 0, substituted := none, statuses := [], jobs := []
      lastJob := none, pipes := 0, changes := ⟨[], []⟩, mask := 0o22, written := [], programs := p
      started := [] }
  (givenVariables l).foldl (fun s (name, value) =>
    let s := s.assign name value
    s.put { s.entry name with exported := true }) s

/-- What a launch does, apart from an answering program's script. -/
def runLaunch (tool : String) (l : Launch) : Sh Unit := do
  let args := l.args.map argumentText
  match shellNames.contains tool, l.script with
  | true, some file =>
    modify fun s => { s with dialect := dialectOf tool, name := args.headD "", args := args.drop 1 }
    runWhole scriptFuel "" file.code
  | true, none =>
    let d := dialectOf tool
    match ShellCall.read d l.program args with
    | (options, .text script name args) =>
      modify fun s => { s with dialect := d, name, args, options }
      runWhole scriptFuel (if d = .bash then "-c: " else "") script
    | _ => runShell scriptFuel l.program tool args
  | false, _ => runProgram scriptFuel l.program args

/-- Starts a program; what came of it, and which answering programs were started on the way. -/
def Programs.launch (p : Programs) (l : Launch) : Except ProcessError Outcome × List Started :=
  let run (body : Sh Unit) : Option Flow × State :=
    match (attempt body).run.run (.ofLaunch p l) with
    | (.ok flow, s) => (flow, s)
    | (.error flow, s) => (some flow, s)
  match startFault? p l, target? p l with
  | some reason, _ => (.error (.spawn l.program reason), [])
  | none, some (.answering name) =>
    let (flow, s) := run (answerFrom name (l.args.map argumentText))
    let noted := s.started.map fun n => { n with args := l.args, script := l.script }
    (.ok (l.conclude (s.trace flow)), noted)
  | none, found =>
    let tool := match found with
      | some (.tool name) => name
      | _ => ""
    let (flow, s) := run (runLaunch tool l)
    (.ok (l.conclude (s.trace flow)), s.started.reverse)

end Steward.Shell
