import Steward.CommandLine.Reader
import Steward.Config.Agent
import Steward.Text.Numeral

/-!
The agent's command line: options that every command shares, and the commands with their own.
-/
namespace Steward.CommandLine

open Steward.Text

inductive LogTarget where
  | file
  | stdout
deriving DecidableEq

inductive Mode where
  | run
  | taskRun (id : Int64)
  | runChecks
  | sync
  | sysinfo
  | software
  | publicIp
  | cleanup
  | update (url version : String) (sha256 : Option String)
  | validate
  | version
deriving DecidableEq

structure Invocation where
  config : String
  logLevel : String
  logTo : LogTarget
  mode : Mode
deriving DecidableEq

/-- A command: its name, its options, and what it is when they are given. -/
structure ModeRule where
  name : String
  about : String
  options : List OptionRule
  mode : Given → Option Mode

def textOption (name about : String) (required : Bool) : OptionRule :=
  { name, about, accepts := fun _ => true, required, fallback := none, choices := [] }

def taskId? (value : String) : Option Int64 := (integer? (0x8000000000000000) value).map Int64.ofInt

def idOption : OptionRule :=
  { textOption "id" "Task id on the controller" true with accepts := fun v => (taskId? v).isSome }

def plainMode (name about : String) (mode : Mode) : ModeRule := ⟨name, about, [], fun _ => some mode⟩

def updateMode (given : Given) : Option Mode := do
  return .update (← given.lookup "url") (← given.lookup "version") (given.lookup "sha256")

def modeRules : List ModeRule :=
  [plainMode "run" "Connect to the message bus and serve commands" .run,
   ⟨"task-run", "Run a controller-defined task and report its result", [idOption],
    fun given => ((given.lookup "id").bind taskId?).map .taskRun⟩,
   plainMode "run-checks" "Run assigned script checks and report results" .runChecks,
   plainMode "sync" "Push system facts and software inventory" .sync,
   plainMode "sysinfo" "Push system facts" .sysinfo,
   plainMode "software" "Push software inventory" .software,
   plainMode "public-ip" "Print the public IP address" .publicIp,
   plainMode "cleanup" "Delete all agent-owned scheduled tasks" .cleanup,
   ⟨"update", "Download and install a newer agent binary",
    [textOption "url" "Download URL of the new binary" true,
     textOption "version" "Version of the new binary" true,
     textOption "sha256" "Expected SHA-256 of the download (hex)" false], updateMode⟩,
   plainMode "validate" "Validate the config file" .validate,
   plainMode "version" "Print the agent version" .version]

/-- A path may be anything but empty. -/
def configOption : OptionRule :=
  { textOption "config" "Path to the agent config file" false with
    accepts := fun v => !v.isEmpty, fallback := some AgentConfig.defaultPath }

def logLevelOption : OptionRule :=
  { textOption "log-level" "Log filter when RUST_LOG is unset" false with fallback := some "info" }

def logTarget? : String → Option LogTarget
  | "file" => some .file
  | "stdout" => some .stdout
  | _ => none

def logToOption : OptionRule :=
  { textOption "log-to" "Where logs are written" false with
    accepts := fun v => (logTarget? v).isSome, fallback := some "file", choices := ["file", "stdout"] }

/-- The command that shows the help of another. -/
def helpCommand : String := "help"

def topGrammar : Grammar :=
  { topic := none, options := [configOption, logLevelOption, logToOption]
    commands := modeRules.map ModeRule.name ++ [helpCommand], tellsVersion := true }

def ModeRule.grammar (m : ModeRule) : Grammar :=
  { topic := some m.name, options := m.options, commands := [], tellsVersion := false }

/-- The words behind the help command are the name of a command, or nothing. -/
def helpStop (words : List String) : Stop :=
  match words with
  | [] => .help none
  | [name] => if topGrammar.commands.contains name then .help (some name) else .unusable
  | _ => .unusable

def ModeRule.read (m : ModeRule) (words : List String) : Except Stop Mode := do
  let (r, _) ← m.grammar.read .start words
  match m.mode (← r.settle) with
  | some mode => return mode
  | none => .error .unusable

def orUnusable : Option α → Except Stop α
  | some a => .ok a
  | none => .error .unusable

/-- Reads the words behind the program's name. -/
def Invocation.read (words : List String) : Except Stop Invocation := do
  let (r, command) ← topGrammar.read .start words
  let (name, rest) ← orUnusable command
  if name = helpCommand then .error (helpStop rest)
  else
    let rule ← orUnusable (modeRules.find? (·.name = name))
    let mode ← rule.read rest
    let given ← r.settle
    return {
      config := (given.lookup "config").getD AgentConfig.defaultPath
      logLevel := (given.lookup "log-level").getD "info"
      logTo := ((given.lookup "log-to").bind logTarget?).getD .file
      mode }

end Steward.CommandLine
