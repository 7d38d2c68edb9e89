import Steward.Text.Numeral
import Steward.Text.Utf8

/-!
Starting programs. A `Launch` is what the agent asks of the machine, a `Trace` what the machine saw of
the run, and `Launch.conclude` the outcome that the agent reports: output bytes as text, the exit code
(128 and the signal's number for a killed process, 98 after a timeout) and a note on the timeout at
the end of the error output.

A script is handed over in a temporary file whose path the agent never chooses; `Argument.scriptPath`
stands for it.
-/
namespace Steward.Supervision

open Steward.Text

inductive Argument where
  | text (s : String)
  | scriptPath
deriving DecidableEq

structure ScriptFile where
  extension : String
  code : String
deriving DecidableEq

structure Launch where
  program : String
  args : List Argument
  workdir : Option String
  env : List (String × String)
  script : Option ScriptFile
  timeoutMs : Nat
deriving DecidableEq

def Launch.plain (program : String) (args : List String) (timeoutMs : Nat) : Launch :=
  { program, args := args.map .text, workdir := none, env := [], script := none, timeoutMs }

inductive Ending where
  | exited (code : Nat)
  | killed (signal : Nat)
  | outOfTime
deriving DecidableEq

structure Trace where
  stdout : List UInt8
  stderr : List UInt8
  ending : Ending
  /-- Wall-clock seconds, as the bits of a float. -/
  seconds : UInt64
deriving DecidableEq

structure Outcome where
  stdout : String
  stderr : String
  exitCode : Int32
  timedOut : Bool
  seconds : UInt64
deriving DecidableEq

namespace Outcome

def success (o : Outcome) : Bool := o.exitCode == 0 && !o.timedOut

/-- Output and then error output. -/
def combined (o : Outcome) : String := o.stdout ++ o.stderr

end Outcome

/-- Exit code of a process that was killed because its time was up. -/
def timeoutExitCode : Int32 := 98

def Ending.exitCode : Ending → Int32
  | exited code => Int32.ofNat code
  | killed signal => Int32.ofNat (128 + signal)
  | outOfTime => timeoutExitCode

/-- Appends the note on the timeout, on a line of its own. -/
def withTimeoutNote (stderr : String) (timeoutMs : Nat) : String :=
  let ended := stderr.isEmpty || stderr.toList.getLast? == some '\n'
  stderr ++ (if ended then "" else "\n") ++ "timed out after " ++ padded 1 (timeoutMs / 1000) ++
    " seconds"

def Launch.conclude (l : Launch) (t : Trace) : Outcome :=
  let stderr := decodeLossy t.stderr
  let timedOut := t.ending == .outOfTime
  { stdout := decodeLossy t.stdout
    stderr := if timedOut then withTimeoutNote stderr l.timeoutMs else stderr
    exitCode := t.ending.exitCode
    timedOut
    seconds := t.seconds }

inductive ProcessError where
  | spawn (program reason : String)
  | notFound (pid : Int)
  | isProtected (pid : Int)
  | script (reason : String)
deriving DecidableEq

namespace ProcessError

def message : ProcessError → String
  | spawn program reason => "failed to start " ++ program ++ ": " ++ reason
  | notFound pid => "process " ++ signed pid ++ " not found"
  | isProtected pid => "refusing to signal protected pid " ++ signed pid
  | script reason => "script error: " ++ reason

/-- The message and the messages of its causes. -/
def chain : ProcessError → List String
  | spawn program reason => [(spawn program reason).message, reason]
  | e => [e.message]

end ProcessError
end Steward.Supervision
