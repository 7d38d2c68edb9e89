import Steward.Agent.Lifecycle
import Steward.Agent.Reporting
import Steward.Text.Line

/-!
The commands that the agent knows, each with what it does. A handler answers its command itself; when
it fails before that, the text of its failure is the answer (`answering`).
-/
namespace Steward.Agent

open Steward.Message Steward.Supervision Steward.Text Steward.Web

abbrev Handler := Agent → Command → Job Unit

def defaultRawTimeoutSecs : UInt64 := 30

def recoveryTimeoutSecs : Nat := 300

def checkRunTimeoutSecs : Nat := 600

def defaultEventLogDays : UInt32 := 1

/-- A part of the command that has to be there; without it the failure is `message`. -/
def needed (message : String) : Option α → Job α
  | some x => return x
  | none => Action.fail message

def Handler.ping : Handler := fun _ _ => reply "pong"

namespace Handler

/-! Scheduled tasks. -/

def taskPayload (c : Command) : Job Schedule.Payload :=
  needed (c.name ++ " requires a scheduled task payload") c.scheduledTask

def taskAdd : Handler := fun _ c => do
  let p ← taskPayload c
  orSay Schedule.TaskError.message (← call (.tasks (.create p)))
  reply replyOk

def taskDelete : Handler := fun _ c => do
  let p ← taskPayload c
  orSay Schedule.TaskError.message (← call (.tasks (.delete p.name)))
  reply replyOk

def taskEnable : Handler := fun _ c => do
  let p ← taskPayload c
  orSay Schedule.TaskError.message (← call (.tasks (.enable p.name p.enabled)))
  reply replyOk

def taskList : Handler := fun _ _ => do
  let names : List String ← call (.tasks .list)
  reply names

/-- Reports to the controller and answers nothing. -/
def taskRun : Handler := fun a c => do
  let id ← needed "task-run requires a task id" c.taskId
  let _ ← runTask a id

/-! Programs and processes. -/

def processList : Handler := fun _ _ => do
  let table ← Action.ofExcept (fun e => "failed to read process table" :: e) (← call .processes)
  reply table

def processKill : Handler := fun _ c => do
  let pid ← needed "process-kill requires a pid" c.pid
  Action.ofExcept ProcessError.chain (← call (.kill pid.toInt))
  reply replyOk

/-- Answers the error output when there is any, and the output otherwise. -/
def runRawCommand : Handler := fun _ c => do
  let command ← needed "run-raw-command requires a command" (c.arg? "command")
  let o ← launch (shellLaunch ((c.arg? "shell").getD "") command
    ((c.timeoutOr defaultRawTimeoutSecs).toNat * 1000))
  reply (if o.stderr.isEmpty then o.stdout else o.stderr)

def scriptRun : Handler := fun _ c => do
  let o ← launch (scriptLaunch ((c.arg? "shell").getD "") ((c.arg? "code").getD "") c.scriptArgs
    ((c.timeoutOr defaultScriptTimeout).toNat * 1000))
  reply o.combined

/-- Answers the result of a script, also of one that could not be started. -/
def scriptRunFull : Handler := fun _ c => do
  let result ← ExceptT.lift (runScript ((c.arg? "shell").getD "") ((c.arg? "code").getD "") c.scriptArgs
    (c.timeoutOr defaultScriptTimeout))
  reply result

/-- Answers first, since the command may restart the agent. -/
def recoveryCommand : Handler := fun _ c => do
  let command ← needed "recoverycmd requires a recovery command"
    (c.recoveryCommand.filter (!isBlankText ·))
  reply replyOk
  let _ ← call .flush
  let _ ← launch (shellLaunch "sh" command (recoveryTimeoutSecs * 1000))

/-! The host. -/

/-- An argument that has to be there and not empty. -/
def required (c : Command) (key : String) : Job String :=
  needed (c.name ++ " requires \x60" ++ key ++ "\x60") ((c.arg? key).filter (!·.isEmpty))

def eventLogQuery : Handler := fun _ c => do
  let days := ((c.arg? "days").bind (natural? 0x100000000)).elim defaultEventLogDays UInt32.ofNat
  let records ← orFail (← call (.host (.eventLog ((c.arg? "logname").getD "") days)))
  reply records

def serviceList : Handler := fun _ _ => do
  let services ← orFail (← call (.host .services))
  reply services

def serviceDetail : Handler := fun _ c => do
  let name ← required c "name"
  let detail ← orFail (← call (.host (.serviceDetail name)))
  reply detail

def serviceAction : Handler := fun _ c => do
  let name ← required c "name"
  let action ← required c "action"
  let result : ServiceActionResult ← call (.host (.serviceAction name action))
  reply result

def serviceEdit : Handler := fun _ c => do
  let name ← required c "name"
  let startType ← required c "startType"
  let result : ServiceActionResult ← call (.host (.serviceEdit name startType))
  reply result

def softwareList : Handler := fun _ _ => do
  let software ← orFail (← call (.host .software))
  reply software

/-- What cannot be found out counts as no need for a reboot. -/
def rebootNeededCheck : Handler := fun _ _ => do
  let answer : Except Chain Bool ← call (.host .rebootRequired)
  reply (answer.toOption.getD false)

def cpuLoadAverage : Handler := fun _ _ => do
  let load ← orFail (← call (.host .cpuLoadAverage))
  reply load

def publicIp : Handler := fun _ _ => do
  let address ← orFail (← call (.host .publicIp))
  reply address

def systemInfoRefresh : Handler := fun a _ => do
  sendSysinfo a
  reply replyOk

/-- Reports to the controller and answers nothing. -/
def syncInfo : Handler := fun a _ => Agent.syncInfo a

/-- Starts a check run in a process of its own, unless one is going on. -/
def runChecks : Handler := fun a _ => do
  if ← call (.host .checksRunning) then reply replyBusy
  else
    reply replyOk
    let i := a.binary.invocation ["run-checks"]
    let _ ← launch (.ok
      { Launch.plain i.program i.args (checkRunTimeoutSecs * 1000) with workdir := i.workdir })

/-- The mode `agent` restarts the agent's service. -/
def recoverAgent : Handler := fun _ c => do
  reply replyOk
  if c.arg? "mode" = some "agent" then
    let _ ← call .flush
    orFail (← call (.host .restartAgentService))
  else return ()

/-! Packages. -/

/-- Reports to the controller and answers nothing. -/
def installPackageManager : Handler := fun a _ => do
  let status : Host.PackageManagerStatus ← call (.host .installPackageManager)
  post a Route.packageManager (.object
    [("agent_id", .text a.id), ("installed", .bool status.installed),
     ("package_manager", .text status.name)])

/-- Answers first; what came of the installation goes to the controller. -/
def installPackage : Handler := fun a c => do
  let name ← needed "install-package requires a package name" (c.packageName.filter (!·.isEmpty))
  let pending ← needed "install-package requires a pending action" c.pendingAction
  reply replyOk
  let results : Except Chain String ← call (.host (.installPackage name))
  let told := match results with
    | .ok output => output
    | .error e => e.full
  patch a (Route.packageResult pending) (.object [("results", .text told)])

def getOsUpdates : Handler := fun a _ => do
  let begun ← guarded .osUpdateScan do
    reply replyOk
    let updates ← orFail (← call (.host .osUpdates))
    post a (Route.osUpdates a.id)
      (.object [("agent_id", .text a.id), ("updates", documents updates)])
  if begun.isNone then reply replyBusy else return ()

def installOsUpdates : Handler := fun a c => do
  let begun ← guarded .osUpdateInstall do
    reply replyOk
    let outcome : Except Chain String ← call (.host (.installOsUpdates c.updateIds))
    let (success, output) := match outcome with
      | .ok output => (true, output)
      | .error e => (false, e.full)
    post a (Route.osUpdatesInstall a.id) (.object
      [("agent_id", .text a.id), ("guids", .list (c.updateIds.map .text)), ("success", .bool success),
       ("output", .text output)])
  if begun.isNone then reply replyBusy else return ()

/-! The agent itself. -/

def rebootNow : Handler := fun _ _ => reboot

def agentSelfUpdate : Handler := fun a c => selfUpdate a.version c

def agentUninstall : Handler := fun _ _ => uninstall

/-- The commands by their names. -/
def table : List (String × Handler) :=
  [("ping", ping), ("task-add", taskAdd), ("task-delete", taskDelete), ("task-enable", taskEnable),
   ("task-list", taskList), ("task-run", taskRun), ("eventlog-query", eventLogQuery),
   ("process-list", processList), ("process-kill", processKill), ("run-raw-command", runRawCommand),
   ("service-list", serviceList), ("service-detail", serviceDetail),
   ("service-action", serviceAction), ("service-edit", serviceEdit), ("script-run", scriptRun),
   ("script-run-full", scriptRunFull), ("recover-agent", recoverAgent),
   ("recoverycmd", recoveryCommand), ("software-list", softwareList), ("reboot-now", rebootNow),
   ("reboot-needed-check", rebootNeededCheck), ("system-info-refresh", systemInfoRefresh),
   ("sync-info", syncInfo), ("cpu-load-average", cpuLoadAverage), ("run-checks", runChecks),
   ("public-ip", publicIp), ("install-package-manager", installPackageManager),
   ("install-package", installPackage), ("get-os-updates", getOsUpdates),
   ("install-os-updates", installOsUpdates), ("agent-self-update", agentSelfUpdate),
   ("agent-uninstall", agentUninstall)]

end Handler

/-- Answers with the text of the failure when a job fails without an answer. Whether it did not fail. -/
def answering (job : Job Unit) : Plan Surroundings Bool := do
  match ← job.run with
  | .ok () => return true
  | .error e =>
    if ← ask .hasReplied then return false
    else
      let _ ← (reply e.full).run
      return false

/-- The work on a message, none when it is no command or one that is not in the table. -/
def workOn? (table : List (String × Handler)) (a : Agent) (payload : Wire.Bytes) :
    Option (Plan Surroundings Bool) := do
  let c : Command ← Wire.decode? payload
  let handler ← table.lookup c.name
  return answering (handler a c)

end Steward.Agent
