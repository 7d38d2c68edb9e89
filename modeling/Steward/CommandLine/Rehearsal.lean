import Steward.CommandLine.Conclusion
import Steward.Host.Rehearsal

/-!
A described place for invocations: a machine that is only described, a few files, one store of tasks,
and no network.
-/
namespace Steward.CommandLine

open Steward.Agent Steward.Calendar Steward.Config Steward.Host Steward.Schedule Steward.Supervision Steward.Text

/-- What is kept of an invocation. -/
structure Traces where
  started : List Shell.Started
  store : Store

structure DescribedSite where
  machine : DescribedMachine
  environment : Environment
  folder : String
  exe : String
  now : Instant
  files : List (String × List UInt8)
  /-- Where the store of tasks is; elsewhere there are none. -/
  tasksDb : String

namespace DescribedSite

def start (s : StateM (List Shell.Started) α) : StateM Traces α := do
  let t ← get
  let (a, started) := s.run t.started
  set { t with started }
  return a

/-- The path and the folders above it. -/
def ancestors : Nat → String → List String
  | 0, _ => []
  | n + 1, path =>
    match Path.parent? path with
    | some parent => path :: ancestors n parent
    | none => [path]

/-- Whether a folder is there or can be made: no file is in its way, and the system does not keep the
place for itself. -/
def canMake (d : DescribedSite) (path : String) : Bool :=
  let isFolder (p : String) : Bool := Shell.existingDirs.contains p
  let isFile (p : String) : Bool := !isFolder p && (Shell.fileExists p || (d.files.lookup p).isSome)
  let above := ancestors (path.length + 1) path
  !above.any isFile && (isFolder path || !(above.contains "/proc" || above.contains "/sys"))

def openTasks (d : DescribedSite) (c : AgentConfig) : StateM Traces (Except Chain Store) := do
  if !d.canMake (Path.join d.folder c.dataDir) then
    return .error ["failed to create data dir: " ++ c.dataDir]
  else if Path.join d.folder c.tasksDb = d.tasksDb then
    return .ok { (← get).store with ownedStart := c.taskPrefix }
  else return .ok (.empty c.taskPrefix)

def closeTasks (d : DescribedSite) (c : AgentConfig) (s : Store) : StateM Traces Unit :=
  modify fun t => if Path.join d.folder c.tasksDb = d.tasksDb then { t with store := s } else t

def world (d : DescribedSite) (c : AgentConfig) : World (StateM Traces) where
  now := d.now
  host call := start (d.machine.perform ⟨c.serviceName, c.uninstallCommand, d.exe⟩ call)
  exchange _ := return .unreachable
  launch l := start (d.machine.answer (.launch l))
  processes := return .ok []
  kill pid := return (Table.kill d.machine.processes pid).map fun _ => ()
  install _ := return .error ["failed to replace agent binary"]
  exit _ := return

def site (d : DescribedSite) : Site (StateM Traces) where
  environment := d.environment
  folder := d.folder
  exe := d.exe
  readFile path := return d.files.lookup (Path.join d.folder path)
  openTasks := d.openTasks
  closeTasks := d.closeTasks
  world := d.world

end DescribedSite
end Steward.CommandLine
