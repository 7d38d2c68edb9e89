import Steward.Host.Linux
import Steward.Shell.Starting

/-!
A Linux machine that is only described: the programs that answer on it, the files on it, and the
processes beside the agent. It has no network.
-/
namespace Steward.Host

open Steward.Shell Steward.Supervision

structure DescribedMachine where
  programs : Programs
  /-- The files that are there. -/
  files : List String
  texts : List (String × String)
  processes : Table

namespace DescribedMachine

/-- A machine with the tools of Debian, one processor and nothing else going on. -/
def debian (programs : Programs) : DescribedMachine :=
  { programs, files := ["/usr/bin/apt-get", "/usr/bin/dpkg-query"]
    texts := [("/proc/loadavg", "0.25 0.20 0.15 1/100 1000\n"), ("/proc/sys/kernel/hostname", "host\n")]
    processes := [] }

def answer (m : DescribedMachine) : (c : MachineCall) → StateM (List Started) c.Answer
  | .launch l => do
    let (result, started) := m.programs.launch l
    modify (· ++ started)
    return result
  | .fileExists path => return m.files.contains path
  | .readText path =>
    return match m.texts.lookup path with
      | some text => .ok text
      | none => .error [missing]
  | .processors => return 1
  | .architecture => return "x86_64"
  | .otherProcesses => return .ok m.processes
  | .fetch _ => return .unreachable

/-- Carries out a call on the machine. -/
def perform (m : DescribedMachine) (h : LinuxHost) (c : Call) : StateM (List Started) c.Answer :=
  Plan.run m.answer (h.perform c)

end DescribedMachine
end Steward.Host
