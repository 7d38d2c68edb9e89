import Steward.Supervision.Launch
import Steward.Text.Line

/-!
Which program runs a script or a one-line command. Names of interpreters and shells are matched in
any case; a one-line command without a shell goes to `/bin/sh`.
-/
namespace Steward.Supervision

open Steward.Text

inductive Interpreter where
  | bash
  | python
  | powerShell
deriving DecidableEq, Repr

namespace Interpreter

def ofName? (name : String) : Except ProcessError Interpreter :=
  match lower name with
  | "shell" => .ok bash
  | "bash" => .ok bash
  | "sh" => .ok bash
  | "python" => .ok python
  | "python3" => .ok python
  | "powershell" => .ok powerShell
  | "pwsh" => .ok powerShell
  | other => .error (.script ("unsupported interpreter: " ++ other))

def name : Interpreter → String
  | bash => "Bash"
  | python => "Python"
  | powerShell => "PowerShell"

def extension : Interpreter → String
  | bash => ".sh"
  | python => ".py"
  | powerShell => ".ps1"

def program : Interpreter → String
  | bash => "/bin/bash"
  | python => "python3"
  | powerShell => "pwsh"

/-- Options that the interpreter gets before the script. -/
def options : Interpreter → List String
  | powerShell => ["-NonInteractive", "-NoProfile", "-File"]
  | _ => []

end Interpreter

def scriptLaunch (interpreter code : String) (args : List String) (timeoutMs : Nat) :
    Except ProcessError Launch :=
  (Interpreter.ofName? interpreter).map fun i =>
    { program := i.program
      args := i.options.map .text ++ .scriptPath :: args.map .text
      workdir := none
      env := []
      script := some ⟨i.extension, code⟩
      timeoutMs }

def shellLaunch (shell command : String) (timeoutMs : Nat) : Except ProcessError Launch :=
  match lower shell with
  | "" => .ok (.plain "/bin/sh" ["-c", command] timeoutMs)
  | "sh" => .ok (.plain "/bin/sh" ["-c", command] timeoutMs)
  | "cmd" => .ok (.plain "/bin/sh" ["-c", command] timeoutMs)
  | "shell" => .ok (.plain "/bin/sh" ["-c", command] timeoutMs)
  | "bash" => .ok (.plain "/bin/bash" ["-c", command] timeoutMs)
  | "powershell" => .ok (.plain "pwsh" ["-Command", command] timeoutMs)
  | "pwsh" => .ok (.plain "pwsh" ["-Command", command] timeoutMs)
  | other => .error (.script ("unsupported shell: " ++ other))

end Steward.Supervision
