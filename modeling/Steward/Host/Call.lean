import Steward.Json.Value
import Steward.Message.Reply
import Steward.Plan

/-!
What the agent asks of the host it runs on.
-/
namespace Steward.Host

open Steward.Message

/-- Which package manager there is, if any. -/
structure PackageManagerStatus where
  name : String
  installed : Bool
deriving DecidableEq

inductive Call where
  | eventLog (logName : String) (days : UInt32)
  | services
  | serviceDetail (name : String)
  | serviceAction (name action : String)
  | serviceEdit (name startType : String)
  | software
  | reboot
  | rebootRequired
  | cpuLoadAverage
  | publicIp
  | systemFacts
  | checksRunning
  | installPackageManager
  | installPackage (name : String)
  | osUpdates
  | installOsUpdates (ids : List String)
  | restartAgentService
  | uninstall
deriving DecidableEq

abbrev Call.Answer : Call → Type
  | eventLog _ _ => Except Chain (List EventLogRecord)
  | services => Except Chain (List ServiceRecord)
  | serviceDetail _ => Except Chain ServiceDetail
  | serviceAction _ _ => ServiceActionResult
  | serviceEdit _ _ => ServiceActionResult
  | software => Except Chain (List SoftwareRecord)
  | reboot => Except Chain Unit
  | rebootRequired => Except Chain Bool
  | cpuLoadAverage => Except Chain UInt32
  | publicIp => Except Chain String
  | systemFacts => Except Chain Json.Value
  | checksRunning => Bool
  | installPackageManager => PackageManagerStatus
  | installPackage _ => Except Chain String
  | osUpdates => Except Chain (List OsUpdateRecord)
  | installOsUpdates _ => Except Chain String
  | restartAgentService => Except Chain Unit
  | uninstall => Except Chain Unit

end Steward.Host
