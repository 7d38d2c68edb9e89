import Steward.CommandLine.Conclusion

/-!
The program. It reads its config and prints; it starts no programs, reaches no network and keeps no
tasks from one invocation to the next, so that one-shot commands find every one of these failing or
empty. Nothing that an invocation does looks at the clock.
-/
namespace Steward.CommandLine

open Steward.Agent Steward.Config Steward.Host Steward.Supervision

def readBytes (path : String) : IO (Option (List UInt8)) := do
  try
    return some (← IO.FS.readBinFile path).toList
  catch _ => return none

/-- The values of the variables that a config file refers to. -/
def environmentFor (file : Option (List UInt8)) : IO Environment := do
  let text := file.bind Text.ofUtf8?
  let names := ((text.bind AgentConfig.ofText?).map AgentConfig.references).getD []
  let values ← names.filterMapM fun name => do
    return (← IO.getEnv name).map fun value => (name, value)
  return .ofList values

def configPath (words : List String) : String :=
  match Invocation.read words with
  | .ok i => i.config
  | .error _ => AgentConfig.defaultPath

/-- What a machine answers of which only files can be read. -/
def machineAnswer : (c : MachineCall) → IO c.Answer
  | .launch l => return .error (.spawn l.program "programs cannot be started")
  | .fileExists path => return (← readBytes path).isSome
  | .readText path => do
    match (← readBytes path).bind Text.ofUtf8? with
    | some text => return .ok text
    | none => return .error ["unreadable file"]
  | .processors => return 1
  | .architecture => return "x86_64"
  | .otherProcesses => return .ok []
  | .fetch _ => return .unreachable

def secludedWorld (c : AgentConfig) : World IO where
  now := Calendar.Instant.longAgo
  host call := Plan.run machineAnswer (LinuxHost.perform ⟨c.serviceName, c.uninstallCommand, programName⟩ call)
  exchange _ := return .unreachable
  launch l := machineAnswer (.launch l)
  processes := return .ok []
  kill pid := return .error (.notFound pid)
  install _ := return .error ["failed to replace agent binary"]
  exit _ := return

def secludedSite (environment : Environment) (folder : String) : Site IO where
  environment := environment
  folder := folder
  exe := programName
  readFile := readBytes
  openTasks c := return .ok (.empty c.taskPrefix)
  closeTasks _ _ := return
  world := secludedWorld

end Steward.CommandLine

open Steward.CommandLine in
def main (words : List String) : IO UInt32 := do
  let environment ← environmentFor (← readBytes (configPath words))
  let folder := (← IO.getEnv "PWD").getD "/"
  let c ← (secludedSite environment folder).invoke words
  (← IO.getStdout).putStr c.output
  (← IO.getStderr).putStr c.errors
  return UInt32.ofNat c.code
