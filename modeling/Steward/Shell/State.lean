import Steward.Shell.Files
import Steward.Shell.Reader
import Steward.Supervision.Launch

/-!
The state of a shell that runs in virtual time: variables, descriptors, what was written and when, and
the programs around it. Programs outside the shell answer as described; each start of one is noted.
-/
namespace Steward.Shell

open Steward.Supervision Steward.Text

/-- A program that answers in a fixed way when its arguments start as stated. -/
structure Answering where
  program : String
  argsStart : List String
  stdout : String
  stderr : String
  code : Nat
deriving DecidableEq

/-- The start of an answering program, with its script when it was given one. -/
structure Started where
  program : String
  args : List Argument
  frontend : Option String
  script : Option ScriptFile
deriving DecidableEq

/-- The programs that answer: their names, the folder they are in, and how they answer, the first
description that fits. -/
structure Programs where
  known : List String
  folder : String
  answers : List Answering
deriving DecidableEq

/-- What is run under the name of a program. -/
inductive Target where
  | answering (name : String)
  | tool (name : String)
deriving DecidableEq

namespace Programs

/-- The program at a path. -/
def at? (p : Programs) (cwd path : String) : Option Target :=
  let place := if Path.isAbsolute path then path else cwd ++ "/" ++ path
  match p.known.find? fun name => place.endsWith ("/" ++ name) && absolutePath "/" place = Path.join p.folder name with
  | some name => some (.answering name)
  | none => (toolName? place).map .tool

/-- The program that is meant in a folder, where a name that is no path is looked for in the given
folders, or else wherever there are programs. -/
def locate? (p : Programs) (folders : Option String) (cwd program : String) : Option Target :=
  if program.toList.contains '/' then p.at? cwd program
  else match folders with
    | some list => (list.splitOn ":").findSome? fun folder => p.at? cwd (Path.join folder program)
    | none =>
      if p.known.contains program then some (.answering program)
      else if toolNames.contains program then some (.tool program)
      else none

def answer (p : Programs) (program : String) (args : List String) : Answering :=
  (p.answers.find? fun a => a.program == program && a.argsStart.isPrefixOf args).getD
    ⟨program, [], "", "", 0⟩

end Programs

/-- Where a descriptor leads. -/
inductive Sink where
  | output
  | errors
  | pipe (n : Nat)
  | file (path : String)
  | nothing
deriving DecidableEq

structure Written where
  time : Nat
  sink : Sink
  bytes : Bytes
deriving DecidableEq

/-- A variable; one that is no array has a value at the index 0 alone. -/
structure Variable where
  name : String
  values : List (Nat × String)
  exported : Bool
  readOnly : Bool
deriving DecidableEq

/-- What runs besides the shell: when and how it is over, and what it writes. -/
structure Job where
  pid : Nat
  ends : Nat
  status : Nat
  /-- The signal that ended it. -/
  killed : Option Nat
  written : List Written
deriving DecidableEq

structure Options where
  /-- A failure ends the script. -/
  strict : Bool
  /-- A parameter that is not set ends the script. -/
  checked : Bool
  traced : Bool
  /-- A pipeline fails when one of its stages does. -/
  wholePipes : Bool
  /-- Variables are exported when they are assigned. -/
  exporting : Bool
  /-- Nothing is run any more. -/
  idle : Bool
deriving DecidableEq

def Options.none : Options := ⟨false, false, false, false, false, false⟩

/-- How a command leaves its script. -/
inductive Flow where
  | exit
  | killed (signal : Nat)
  | back
  | leave (loops : Nat)
  | again (loops : Nat)
  /-- The rest of the line is given up. -/
  | abandon
  /-- Out of time. -/
  | stuck
deriving DecidableEq

structure State where
  dialect : Dialect
  /-- What the shell was started as. -/
  name : String
  /-- What messages on a text that is no script say about where it stands. -/
  place : String
  args : List String
  vars : List Variable
  /-- Variables as they were before functions made them their own, the innermost function first. -/
  scopes : List (List (String × Option Variable))
  functions : List (String × Command)
  /-- The loops around a command. -/
  loops : Nat
  sinks : List (Nat × Sink)
  input : Bytes
  /-- Whether the input is a folder, from which nothing can be read. -/
  inputIsFolder : Bool
  cwd : String
  /-- What is run at a signal; nothing is run at an ignored one. The signal 0 is the end. -/
  traps : List (Nat × String)
  options : Options
  /-- Whether this shell is a part of another one. -/
  nested : Bool
  source : Chars
  line : Nat
  /-- In milliseconds. -/
  clock : Nat
  deadline : Nat
  status : Nat
  /-- The status of a script in a word of the command at hand. -/
  substituted : Option Nat
  /-- Of the stages of the last pipeline. -/
  statuses : List Nat
  jobs : List Job
  lastJob : Option Nat
  pipes : Nat
  changes : Changes
  mask : Nat
  /-- Newest first. -/
  written : List Written
  programs : Programs
  /-- Newest first. -/
  started : List Started

abbrev Sh := ExceptT Flow (StateM State)

/-- The number under which the shell runs. -/
def ownPid : Nat := 4242

namespace State

def lookup? (s : State) (name : String) : Option Variable := s.vars.find? (·.name == name)

def values (s : State) (name : String) : Option (List String) :=
  (s.lookup? name).map fun v => v.values.map Prod.snd

def value? (s : State) (name : String) : Option String := (s.lookup? name).bind fun v => v.values.lookup 0

def put (s : State) (v : Variable) : State := { s with vars := v :: s.vars.filter (·.name != v.name) }

/-- The variable of a name, one without values when there is none. -/
def entry (s : State) (name : String) : Variable := (s.lookup? name).getD ⟨name, [], false, false⟩

def assignAll (s : State) (name : String) (values : List (Nat × String)) : State :=
  let v := s.entry name
  s.put { v with values, exported := v.exported || s.options.exporting }

def assign (s : State) (name value : String) : State := s.assignAll name [(0, value)]

/-- Puts a value at an index, the indices staying in order. -/
def assignAt (s : State) (name : String) (i : Nat) (value : String) : State :=
  let old := (s.entry name).values
  s.assignAll name (old.filter (·.1 < i) ++ (i, value) :: old.filter (i < ·.1))

def unset (s : State) (name : String) : State := { s with vars := s.vars.filter (·.name != name) }

def restore (s : State) (name : String) (v : Option Variable) : State :=
  match v with
  | some v => s.put v
  | none => s.unset name

def sink? (s : State) (fd : Nat) : Option Sink := s.sinks.lookup fd

def close (s : State) (fd : Nat) : State := { s with sinks := s.sinks.filter (·.1 != fd) }

def redirect (s : State) (fd : Nat) (k : Sink) : State := { s with sinks := (fd, k) :: (s.close fd).sinks }

def writeTo (s : State) (k : Sink) (bytes : Bytes) : State :=
  match k with
  | .nothing => s
  | .file path =>
    match s.changes.find path with
    | .file old => { s with changes := s.changes.put path (some (old ++ bytes)) }
    | _ => { s with changes := s.changes.put path (some bytes) }
  | k => if bytes.isEmpty then s else { s with written := ⟨s.clock, k, bytes⟩ :: s.written }

/-- Writes to a descriptor, to none when it is closed. -/
def write (s : State) (fd : Nat) (bytes : Bytes) : State :=
  match s.sink? fd with
  | some k => s.writeTo k bytes
  | none => s

/-- All that was written to a sink, in the order of time. -/
def writtenTo (s : State) (k : Sink) : Bytes :=
  ((s.written.filter (·.sink = k)).reverse).flatMap (·.bytes)

/-- What separates fields. -/
def separators (s : State) : List Char := ((s.value? "IFS").getD " \t\n").toList

def path (s : State) (given : String) : String := absolutePath s.cwd given

def locate? (s : State) (program : String) : Option Target :=
  s.programs.locate? (s.value? "PATH") s.cwd program

end State

def setStatus (code : Nat) : Sh Unit := modify fun s => { s with status := code }

def done : Sh Unit := setStatus 0

def put (text : String) : Sh Unit := modify fun s => s.write 1 (utf8 text)

def putErrors (text : String) : Sh Unit := modify fun s => s.write 2 (utf8 text)

/-- Writes a message of the shell itself. -/
def complain (message : String) : Sh Unit := do
  let s ← get
  let line := padded 1 s.line
  match s.dialect with
  | .posix => putErrors (s.name ++ ": " ++ line ++ ": " ++ message ++ "\n")
  | .bash => putErrors (s.name ++ ": line " ++ line ++ ": " ++ message ++ "\n")

def complainWith (code : Nat) (message : String) : Sh Unit := do
  complain message
  setStatus code

/-- A fault after which a standard shell ends and the other one goes on. -/
def refuse (posix bash : String) (code : Nat) : Sh Unit := do
  if (← get).dialect = .posix then
    complainWith 2 posix
    throw .exit
  else complainWith code bash

/-- Writes to the output, and complains as `command` when it is closed. -/
def putBytes (command : String) (bytes : Bytes) : Sh Unit := do
  let s ← get
  match s.sink? 1, bytes.isEmpty with
  | none, false =>
    if s.dialect = .posix then complain (command ++ ": " ++ command ++ ": I/O error")
    else complain (command ++ ": write error: Bad file descriptor")
    setStatus 1
  | _, _ =>
    set (s.write 1 bytes)
    done

/-- Runs to the end or to where the flow leaves. -/
def attempt (body : Sh Unit) : Sh (Option Flow) := fun s =>
  let (result, s) := (body.run).run s
  match result with
  | .ok () => (.ok none, s)
  | .error flow => (.ok (some flow), s)

/-- Goes on with a flow that was held. -/
def resume : Option Flow → Sh Unit
  | none => return ()
  | some flow => throw flow

/-- Lets time pass; past the deadline nothing happens any more. -/
def sleep (ms : Nat) : Sh Unit := do
  let s ← get
  set { s with clock := s.clock + ms, status := 0 }
  if s.deadline ≤ s.clock + ms then throw .stuck

def signalNumbers : List (String × Nat) :=
  [("HUP", 1), ("INT", 2), ("QUIT", 3), ("ILL", 4), ("TRAP", 5), ("ABRT", 6), ("BUS", 7), ("FPE", 8),
   ("KILL", 9), ("USR1", 10), ("SEGV", 11), ("USR2", 12), ("PIPE", 13), ("ALRM", 14), ("TERM", 15),
   ("STKFLT", 16), ("CHLD", 17), ("CONT", 18), ("STOP", 19), ("TSTP", 20), ("TTIN", 21), ("TTOU", 22),
   ("URG", 23), ("XCPU", 24), ("XFSZ", 25), ("VTALRM", 26), ("PROF", 27), ("WINCH", 28), ("IO", 29),
   ("PWR", 30), ("SYS", 31), ("RTMIN", 34), ("RTMAX", 64), ("EXIT", 0)]

def signalName? (n : Nat) : Option String := (signalNumbers.find? (·.2 = n)).map Prod.fst

/-- The number of a signal; only the larger shell knows names with `SIG` in front. -/
def signal? (d : Dialect) (name : String) : Option Nat :=
  match digits? name.toList with
  | some n => if n ≤ 64 then some n else none
  | none =>
    let name := name.toUpper
    let bare := if d = .bash && name.startsWith "SIG" then String.ofList (name.toList.drop 3) else name
    if d = .posix && bare = "STKFLT" then none else signalNumbers.lookup bare

/-- Signals that do nothing, and signals that stop a process without ending it. -/
def idleSignals : List Nat := [0, 17, 18, 23, 28]

def stopSignals : List Nat := [19, 20, 21, 22]

/-- The line that is written about a process that a signal ended, nothing for some. -/
def deathNotice (signal : Nat) : String :=
  match [(1, "Hangup"), (3, "Quit"), (4, "Illegal instruction"), (6, "Aborted"), (8, "Floating point exception"),
    (9, "Killed"), (10, "User defined signal 1"), (11, "Segmentation fault"), (12, "User defined signal 2"),
    (14, "Alarm clock"), (15, "Terminated")].lookup signal with
  | some notice => notice ++ "\n"
  | none => ""

end Steward.Shell
