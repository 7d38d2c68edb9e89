import Steward.Schedule.Task
import Steward.Text.Numeral
import Steward.Text.Path

/-!
The command line that a task action stands for. An action of the agent itself runs the agent's own
binary with the config file that the running agent was started with.
-/
namespace Steward.Schedule

open Steward.Text

structure Invocation where
  program : String
  args : List String
  workdir : Option String
deriving DecidableEq

/-- The running agent binary and its config file. -/
structure AgentBinary where
  exe : String
  config : String
deriving DecidableEq

def AgentBinary.invocation (agent : AgentBinary) (subcommand : List String) : Invocation :=
  { program := agent.exe
    args := ["--config", agent.config] ++ subcommand
    workdir := Path.parent? agent.exe }

/-- The subcommand by which the agent runs task `pk` of the controller. -/
def taskRunArgs (pk : Int64) : List String := ["task-run", "--id", signed pk.toInt]

def Action.invocation (agent : AgentBinary) : Action → Invocation
  | .agentInternal pk => agent.invocation (taskRunArgs pk)
  | .reboot => { program := "shutdown", args := ["-r", "+0"], workdir := none }
  | .custom path workdir args =>
    { program := path
      args := words args
      workdir := if workdir.isEmpty then none else some workdir }

end Steward.Schedule
