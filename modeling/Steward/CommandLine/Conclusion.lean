import Steward.Agent.Session
import Steward.CommandLine.Help
import Steward.Host.Linux

/-!
What invocations come to: an exit code and what is printed. A one-shot command opens the scheduled
tasks of its config, works as the agent that the config describes, and ends. Serving commands needs a
message bus; without one it ends at once.
-/
namespace Steward.CommandLine

open Steward.Agent Steward.Config Steward.Schedule Steward.Text Steward.Update

structure Conclusion where
  code : Nat
  output : String
  /-- What is printed beside the output. -/
  errors : String
deriving DecidableEq

namespace Conclusion

def done (output : String) : Conclusion := ⟨0, output, ""⟩

/-- The causes of a failure, numbered where there are several. -/
def causes : List String → String
  | [] => ""
  | [cause] => "\n\nCaused by:\n    " ++ cause
  | causes =>
    "\n\nCaused by:" ++ join "" (causes.zipIdx.map fun (cause, i) =>
      "\n    " ++ padded 1 i ++ ": " ++ cause)

def failed (e : Chain) : Conclusion := ⟨1, "", "Error: " ++ e.outermost ++ causes e.tail ++ "\n"⟩

def aborted : Conclusion := ⟨101, "", ""⟩

def ofResult : Except Abort (Except Chain String) → Conclusion
  | .error _ => aborted
  | .ok (.error e) => failed e
  | .ok (.ok output) => done output

def ofStop (words : List String) : Stop → Conclusion
  | .help topic => done (helpFor topic)
  | .version => done (programName ++ " " ++ Host.agentVersion ++ "\n")
  | .unusable =>
    if words.isEmpty then ⟨2, "", topHelp⟩
    else ⟨2, "", "error: unusable arguments\n\n" ++ topUsage ++ "\n\nFor more information, try '--help'.\n"⟩

end Conclusion

/-- The place where an invocation is carried out. -/
structure Site (m : Type → Type) where
  environment : Environment
  /-- Where relative paths begin. -/
  folder : String
  /-- The agent's own binary. -/
  exe : String
  readFile : String → m (Option (List UInt8))
  /-- Makes the data folder, if need be, and opens the scheduled tasks. -/
  openTasks : AgentConfig → m (Except Chain Store)
  closeTasks : AgentConfig → Store → m Unit
  world : AgentConfig → World m

def ownVersion : Version := (Version.ofText? Host.agentVersion).getD ⟨0, 1, 0, [], []⟩

/-- The agent that a config describes. -/
def agentOf (c : AgentConfig) (binary : AgentBinary) : Agent :=
  { id := c.agentId, client := .new c.controllerUrl c.token, binary, version := ownVersion }

/-- The work of a one-shot command, with what it prints. -/
def Mode.job (a : Agent) : Mode → Job String
  | taskRun task => do
    let _ ← runTask a task
    return ""
  | runChecks => do
    let _ ← Agent.runChecks a
    return ""
  | sync => do
    syncInfo a
    return ""
  | sysinfo => do
    sendSysinfo a
    return ""
  | software => do
    sendSoftware a
    return ""
  | publicIp => return (← orFail (← call (.host .publicIp))) ++ "\n"
  | cleanup => do
    let removed : Nat ← call (.tasks .cleanup)
    return "Removed " ++ padded 1 removed ++ " scheduled tasks.\n"
  | update url offered sha256 => do
    let d ← orSay DescriptorFault.message (Descriptor.make url offered sha256)
    match ← Agent.update a.version d with
    | .upToDate => return "Already up to date.\n"
    | .installed v => return "Updated to " ++ v.text ++ ".\n"
  | run => return ""
  | validate => return ""
  | version => return ""

section

variable {m : Type → Type} [Monad m] (site : Site m)

/-- Works in a session of its own. -/
def Site.work (c : AgentConfig) (job : Job String) : m Conclusion := do
  match ← site.openTasks c with
  | .error e => return .failed e
  | .ok store =>
    let session : Session :=
      { store, guards := .free, transport := ⟨.new 1, none, none⟩, stopping := false }
    let (result, w) ←
      (Plan.run (site.world c).perform (ExceptT.run job)).run.run ⟨session, .new none⟩
    site.closeTasks c w.session.store
    return .ofResult result

def Site.conclude (i : Invocation) : m Conclusion := do
  if i.mode = .version then return .ofStop [] .version
  else
    match AgentConfig.load i.config (← site.readFile i.config) site.environment with
    | .error fault => return .failed [fault.message]
    | .ok c =>
      match i.mode with
      | .validate => return .ofResult (c.summary.map fun s => .ok ("Config valid.\n" ++ s ++ "\n"))
      | .run => return ⟨1, "", ""⟩
      | mode => site.work c (mode.job (agentOf c ⟨site.exe, Path.join site.folder i.config⟩))

/-- Carries out what the words behind the program's name say. -/
def Site.invoke (words : List String) : m Conclusion :=
  match Invocation.read words with
  | .ok i => site.conclude i
  | .error why => return .ofStop words why

end

end Steward.CommandLine
