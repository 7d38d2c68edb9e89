import Steward.Host.Call
import Steward.Inventory.Facts
import Steward.Inventory.Journal
import Steward.Inventory.Package
import Steward.Inventory.Service
import Steward.Supervision.Script
import Steward.Supervision.Table
import Steward.Text.Path
import Steward.Web.Controller

/-!
The calls to the host, carried out on a Linux machine: service control and the journal through their
command line tools, packages through whichever package manager is installed, facts from the files in
which the kernel publishes them.

Names that go to an installer are checked before anything is started.
-/
namespace Steward.Host

open Steward.Inventory Steward.Message Steward.Supervision Steward.Text Steward.Web

/-- What a Linux machine is asked for. -/
inductive MachineCall where
  | launch (l : Launch)
  | fileExists (path : String)
  | readText (path : String)
  | processors
  | architecture
  /-- All processes but the agent's own. -/
  | otherProcesses
  /-- Downloads a page. -/
  | fetch (url : String)
deriving DecidableEq

abbrev MachineCall.Answer : MachineCall → Type
  | launch _ => Except ProcessError Outcome
  | fileExists _ => Bool
  | readText _ => Except Chain String
  | processors => UInt64
  | architecture => String
  | otherProcesses => Except Chain Table
  | fetch _ => Exchange

def Machine : Interface := ⟨MachineCall, MachineCall.Answer⟩

def askMachine (c : MachineCall) : Plan Machine c.Answer := Plan.perform c Plan.done

def commandTimeoutSecs : Nat := 60

def installTimeoutSecs : Nat := 1200

def uninstallTimeoutSecs : Nat := 300

/-- Records that a query of the journal answers at most. -/
def eventLogLimit : String := "5000"

def agentVersion : String := "0.1.0"

structure LinuxHost where
  serviceName : String
  uninstallCommand : Option String
  /-- The agent's own binary. -/
  agentExe : String
deriving DecidableEq

/-- A launch without questions asked back by installers. -/
def quietLaunch (program : String) (args : List String) (timeoutSecs : Nat) : Launch :=
  { Launch.plain program args (timeoutSecs * 1000) with
    env := [("DEBIAN_FRONTEND", "noninteractive")] }

def start (l : Launch) : Action Machine Outcome := do
  let answer : Except ProcessError Outcome ← ExceptT.lift (askMachine (.launch l))
  Action.ofExcept ProcessError.chain answer

/-- How a program failed, by its exit code and what it wrote to its error output. -/
def failureText (program : String) (o : Outcome) : String :=
  program ++ " exited with code " ++ signed o.exitCode.toInt ++ ": " ++ trim o.stderr

/-- The output of a program that has to succeed. -/
def capture (program : String) (args : List String) : Action Machine String := do
  let o ← start (quietLaunch program args commandTimeoutSecs)
  if o.success then return o.stdout
  else Action.fail (failureText program o)

/-- The outcome of a change of a service. -/
def serviceResult (args : List String) : Plan Machine ServiceActionResult := do
  match ← (capture "systemctl" args).run with
  | .ok _ => return .ok
  | .error e => return .failed e.outermost

inductive PackageManager where
  | apt
  | dnf
deriving DecidableEq

def PackageManager.name : PackageManager → String
  | apt => "apt"
  | dnf => "dnf"

def fileExists (path : String) : Plan Machine Bool := askMachine (.fileExists path)

def packageManager? : Plan Machine (Option PackageManager) := do
  if ← fileExists "/usr/bin/apt-get" then return some .apt
  else if ← fileExists "/usr/bin/dnf" then return some .dnf
  else return none

def packageManager : Action Machine PackageManager := do
  match ← ExceptT.lift packageManager? with
  | some pm => return pm
  | none => Action.fail "no supported package manager found"

def checkName (name : String) : Action Machine Unit :=
  Action.ofExcept (fun f => [PackageNameFault.message f]) (checkPackageName name)

def eventLogArgs (logName : String) (days : UInt32) : List String :=
  ["--since", padded 1 (max 1 days.toNat) ++ " days ago", "-o", "json", "--no-pager", "-q", "-n",
    eventLogLimit] ++
    (if logName.isEmpty || lower logName = "system" then [] else ["-u", logName])

def services : Action Machine (List ServiceRecord) := do
  let units ← capture "systemctl"
    ["list-units", "--type=service", "--all", "--no-legend", "--no-pager", "--plain"]
  let files ← Action.attempt
    (capture "systemctl" ["list-unit-files", "--type=service", "--no-legend", "--no-pager"])
  return readServices units (files.toOption.getD "")

def serviceDetail (name : String) : Action Machine ServiceDetail := do
  let out ← capture "systemctl"
    ["show", name, "--no-pager",
      "--property=Id,Description,ActiveState,SubState,UnitFileState,ExecStart,MainPID"]
  return readServiceDetail name out

def serviceAction (name action : String) : Plan Machine ServiceActionResult :=
  if ["start", "stop", "restart"].contains action then serviceResult [action, name]
  else return .failed ("unknown service action: " ++ action)

def serviceEdit (name startType : String) : Plan Machine ServiceActionResult :=
  if ["auto", "automatic", "autodelay"].contains startType then serviceResult ["enable", name]
  else if ["manual", "disabled"].contains startType then serviceResult ["disable", name]
  else return .failed ("unknown start type: " ++ startType)

def debianFormat : String :=
  "$\x7bPackage\x7d\t$\x7bVersion\x7d\t$\x7bMaintainer\x7d\t$\x7bInstalled-Size\x7d\n"

def rpmFormat : String :=
  "%\x7bNAME\x7d\t%\x7bVERSION\x7d-%\x7bRELEASE\x7d\t%\x7bVENDOR\x7d\t%\x7bSIZE\x7d\n"

def software : Action Machine (List SoftwareRecord) := do
  if ← ExceptT.lift (fileExists "/usr/bin/dpkg-query") then
    let out ← capture "dpkg-query" ["-W", "-f", debianFormat]
    return readSoftware out 1024
  else
    let out ← capture "rpm" ["-qa", "--queryformat", rpmFormat]
    return readSoftware out 1

def rebootRequired : Action Machine Bool := do
  if ← ExceptT.lift (fileExists "/var/run/reboot-required") then return true
  else if ← ExceptT.lift (fileExists "/usr/bin/needs-restarting") then
    let o ← start (quietLaunch "needs-restarting" ["-r"] commandTimeoutSecs)
    return o.exitCode == 1
  else return false

def readText (path : String) : Plan Machine (Except Chain String) := askMachine (.readText path)

def processors : Plan Machine UInt64 := askMachine .processors

def cpuLoadAverage : Action Machine UInt32 := do
  let answer ← ExceptT.lift (readText "/proc/loadavg")
  let text ← Action.ofExcept (fun e => "failed to read /proc/loadavg" :: e) answer
  let cpus ← ExceptT.lift processors
  Action.ofExcept (fun f => [LoadFault.message f]) (loadPercent text cpus)

/-- Services that answer a request with the address it came from, in the order of their use. -/
def addressServices : List String := ["https://api.ipify.org", "https://icanhazip.com"]

/-- Whether a text is an address, four numbers below 256 or groups of hexadecimal digits. -/
def isAddress (s : String) : Bool :=
  let octets := (s.toList.splitOnP (· == '.')).map fun ds => (digits? ds).filter (· < 256)
  (octets.length = 4 && octets.all Option.isSome) ||
    (s.toList.contains ':' && s.toList.all fun c => c = ':' || c = '.' || (hexDigitValue? c).isSome)

/-- The address that the first service with a proper answer tells. -/
def addressFrom : Chain → List String → Action Machine String
  | last, [] => throw last
  | _, url :: rest => do
    let answer : Exchange ← ExceptT.lift (askMachine (.fetch url))
    match answer with
    | .answered status body =>
      let address := trim (decodeLossy body)
      if !isSuccess status then addressFrom [url ++ " returned " ++ writtenStatus status] rest
      else if isAddress address then return address
      else addressFrom [url ++ " returned a non-ip body: invalid IP address syntax"] rest
    | _ => addressFrom ["error sending request for url (" ++ url ++ "/)"] rest

def publicIp : Action Machine String := addressFrom ["no public ip endpoint configured"] addressServices

/-- The trimmed text of a file, empty when it cannot be read. -/
def factText (path : String) : Plan Machine String := do
  return trim ((← readText path).toOption.getD "")

def uptimeSeconds (uptime : String) : UInt64 :=
  (((words uptime).head?.bind float?).getD 0).toUInt64

def systemFacts : Plan Machine Json.Value := do
  let osRelease ← factText "/etc/os-release"
  let meminfo ← factText "/proc/meminfo"
  let cpuinfo ← factText "/proc/cpuinfo"
  let uptime ← factText "/proc/uptime"
  let hostname ← factText "/proc/sys/kernel/hostname"
  let kernel ← factText "/proc/sys/kernel/osrelease"
  let cpus ← processors
  let arch ← askMachine .architecture
  return .object
    [("hostname", .text hostname), ("os", .text (prettyName osRelease)), ("kernel", .text kernel),
     ("arch", .text arch), ("cpu_model", .text ((keyValue? cpuinfo "model name" ':').getD "")),
     ("cpu_count", .int cpus.toNat),
     ("total_ram_kb", .int (((keyValue? meminfo "MemTotal" ':').map ramKb).getD 0)),
     ("uptime_secs", .int (uptimeSeconds uptime).toNat), ("agent_version", .text agentVersion)]

/-- Whether a process other than the agent runs checks with the agent's binary. -/
def checksRunning (agentExe : String) : Plan Machine Bool := do
  let exeName := (Path.fileName? agentExe).getD ""
  let answer : Except Chain Table ← askMachine .otherProcesses
  match answer with
  | .ok table => return table.any fun e => holds exeName e.cmdline && holds "run-checks" e.cmdline
  | .error _ => return false

def installPackageManager : Plan Machine PackageManagerStatus := do
  match ← packageManager? with
  | some pm => return ⟨pm.name, true⟩
  | none => return ⟨"", false⟩

/-- Program and arguments that install one package. -/
def installCommand (pm : PackageManager) (name : String) : String × List String :=
  match pm with
  | .apt => ("apt-get", ["install", "-y", name])
  | .dnf => ("dnf", ["install", "-y", name])

/-- What the installer wrote to its error output, or else its output. -/
def installPackage (name : String) : Action Machine String := do
  checkName name
  let (program, args) := installCommand (← packageManager) name
  let o ← start (quietLaunch program args installTimeoutSecs)
  return if isBlankText o.stderr then o.stdout else o.stderr

def osUpdates : Action Machine (List OsUpdateRecord) := do
  match ← packageManager with
  | .apt =>
    let out ← capture "apt" ["list", "--upgradable"]
    return readAptUpgradable out
  | .dnf =>
    let o ← start (quietLaunch "dnf" ["check-update", "-q"] installTimeoutSecs)
    -- The exit code 100 says that there are updates.
    if o.exitCode == 0 || o.exitCode == 100 then return readDnfUpdates o.stdout
    else Action.fail ("dnf check-update failed: " ++ trim o.stderr)

/-- Program and arguments that install updates, all of them when none is named. -/
def upgradeCommand (pm : PackageManager) (ids : List String) : String × List String :=
  match pm with
  | .apt =>
    if ids.isEmpty then ("apt-get", ["upgrade", "-y"])
    else ("apt-get", ["install", "--only-upgrade", "-y"] ++ ids)
  | .dnf => ("dnf", ["upgrade", "-y"] ++ ids)

def installOsUpdates (ids : List String) : Action Machine String := do
  ids.forM checkName
  let (program, args) := upgradeCommand (← packageManager) ids
  let o ← start (quietLaunch program args installTimeoutSecs)
  if o.success then return o.combined
  else Action.fail (failureText program o)

def uninstall (h : LinuxHost) : Action Machine Unit := do
  match h.uninstallCommand with
  | some command =>
    let l ← Action.ofExcept ProcessError.chain (shellLaunch "sh" command (uninstallTimeoutSecs * 1000))
    let o ← start l
    if o.success then return ()
    else Action.fail ("uninstall command failed: " ++ trim o.combined)
  | none =>
    let _ ← capture "systemctl" ["disable", h.serviceName]
    return ()

/-- How a call is carried out. -/
def LinuxHost.perform (h : LinuxHost) : (c : Call) → Plan Machine c.Answer
  | .eventLog logName days =>
    ExceptT.run do return readJournal (← capture "journalctl" (eventLogArgs logName days))
  | .services => services.run
  | .serviceDetail name => (serviceDetail name).run
  | .serviceAction name action => serviceAction name action
  | .serviceEdit name startType => serviceEdit name startType
  | .software => software.run
  | .reboot => ExceptT.run do let _ ← capture "shutdown" ["-r", "+0"]
  | .rebootRequired => rebootRequired.run
  | .cpuLoadAverage => cpuLoadAverage.run
  | .publicIp => publicIp.run
  | .systemFacts => ExceptT.run (ExceptT.lift systemFacts)
  | .checksRunning => checksRunning h.agentExe
  | .installPackageManager => installPackageManager
  | .installPackage name => (installPackage name).run
  | .osUpdates => osUpdates.run
  | .installOsUpdates ids => (installOsUpdates ids).run
  | .restartAgentService =>
    ExceptT.run do let _ ← capture "systemctl" ["--no-block", "restart", h.serviceName]
  | .uninstall => (uninstall h).run

end Steward.Host
