import Steward.Host.Call
import Steward.Json.Access
import Steward.Wire.Document

/-!
A host as a JSON document: for each call what it answers, where an object with the member `err` is a
failure with these messages. A call that is not mentioned answers with nothing much.
-/
namespace Steward.Host

open Steward.Json Steward.Message

def chainOf? (j : Value) : Option Chain :=
  if j.has "err" then some (j.textsAt "err") else none

def described (host : Value) (name : String) (other : α) (read : Value → Option α) : Except Chain α :=
  let j := host.at_ name
  match chainOf? j with
  | some chain => .error chain
  | none => if host.has name then .ok ((read j).getD other) else .ok other

def sent (α : Type) [Wire.Sendable α] (j : Value) : Option α := Wire.ofValue? (Wire.Value.ofJson j)

def describedAction (host : Value) (name : String) : ServiceActionResult :=
  match described host name .ok (sent ServiceActionResult) with
  | .ok r => r
  | .error e => .failed e.outermost

def plainDetail (name : String) : ServiceDetail :=
  { name, displayName := "Cron", description := "Cron", status := "running", startType := "automatic"
    binpath := "/usr/sbin/cron -f", pid := 812 }

def ofDocument (host : Value) : (c : Call) → c.Answer
  | .eventLog _ _ => described host "event_log" [] (sent (List EventLogRecord))
  | .services => described host "services" [] (sent (List ServiceRecord))
  | .serviceDetail name => described host "service_detail" (plainDetail name) (sent ServiceDetail)
  | .serviceAction _ _ => describedAction host "service_action"
  | .serviceEdit _ _ => describedAction host "service_edit"
  | .software => described host "software" [] (sent (List SoftwareRecord))
  | .reboot => described host "reboot" () fun _ => none
  | .rebootRequired => described host "reboot_required" false Value.asBool?
  | .cpuLoadAverage => described host "cpu_load_average" 42 (sent UInt32)
  | .publicIp => described host "public_ip" "203.0.113.7" Value.asText?
  | .systemFacts => described host "system_facts" (.object [("hostname", .text "web-01")]) some
  | .checksRunning => host.boolAt "checks_running"
  | .installPackageManager =>
    match (host.at_ "install_package_manager").items with
    | [name, installed] => ⟨name.asText?.getD "", installed.asBool?.getD false⟩
    | _ => ⟨"apt", true⟩
  | .installPackage name => described host "install_package" (name ++ " installed") Value.asText?
  | .osUpdates => described host "os_updates" [] (sent (List OsUpdateRecord))
  | .installOsUpdates ids =>
    described host "install_os_updates" ("upgraded " ++ " ".intercalate ids) Value.asText?
  | .restartAgentService => described host "restart_agent_service" () fun _ => none
  | .uninstall => described host "uninstall" () fun _ => none

/-- The name of a call and its arguments. -/
def Call.document (c : Call) : Value :=
  let shown (name : String) (args : List Value) : Value := .list [.text name, .list args]
  match c with
  | eventLog logName days => shown "event_log" [.text logName, .nat days.toNat]
  | services => shown "services" []
  | serviceDetail name => shown "service_detail" [.text name]
  | serviceAction name action => shown "service_action" [.text name, .text action]
  | serviceEdit name startType => shown "service_edit" [.text name, .text startType]
  | software => shown "software" []
  | reboot => shown "reboot" []
  | rebootRequired => shown "reboot_required" []
  | cpuLoadAverage => shown "cpu_load_average" []
  | publicIp => shown "public_ip" []
  | systemFacts => shown "system_facts" []
  | checksRunning => shown "checks_running" []
  | installPackageManager => shown "install_package_manager" []
  | installPackage name => shown "install_package" [.text name]
  | osUpdates => shown "os_updates" []
  | installOsUpdates ids => shown "install_os_updates" [.texts ids]
  | restartAgentService => shown "restart_agent_service" []
  | uninstall => shown "uninstall" []

/-- Whether a call can fail as a whole. -/
def Call.isFallible : Call → Bool
  | serviceAction _ _ => false
  | serviceEdit _ _ => false
  | checksRunning => false
  | installPackageManager => false
  | _ => true

/-- What a call has answered, as a document. -/
def Call.outcome : (c : Call) → c.Answer → Except Chain Value
  | eventLog _ _, r => r.map written
  | services, r => r.map written
  | serviceDetail _, r => r.map written
  | serviceAction _ _, (r : ServiceActionResult) => .ok (written r)
  | serviceEdit _ _, (r : ServiceActionResult) => .ok (written r)
  | software, r => r.map written
  | rebootRequired, r => r.map written
  | cpuLoadAverage, r => r.map written
  | publicIp, r => r.map written
  | systemFacts, r => r
  | checksRunning, (r : Bool) => .ok (.bool r)
  | installPackageManager, (r : PackageManagerStatus) =>
    .ok (.object [("name", .text r.name), ("installed", .bool r.installed)])
  | installPackage _, r => r.map written
  | osUpdates, r => r.map written
  | installOsUpdates _, r => r.map written
  | reboot, r => r.map fun () => .null
  | restartAgentService, r => r.map fun () => .null
  | uninstall, r => r.map fun () => .null
where
  written {α : Type} [Wire.Sendable α] (a : α) : Value := ((Wire.toValue a).toJson?).getD .null

/-- A call by its name, with its arguments as members: the first two texts, the days and the ids. -/
def Call.ofDocument? (j : Value) : Option Call :=
  let a := j.textAt "a"
  let b := j.textAt "b"
  match j.textAt "do" with
  | "event_log" => some (.eventLog a (UInt32.ofNat (j.natAt "days" 1)))
  | "services" => some .services
  | "service_detail" => some (.serviceDetail a)
  | "service_action" => some (.serviceAction a b)
  | "service_edit" => some (.serviceEdit a b)
  | "software" => some .software
  | "reboot" => some .reboot
  | "reboot_required" => some .rebootRequired
  | "cpu_load_average" => some .cpuLoadAverage
  | "public_ip" => some .publicIp
  | "system_facts" => some .systemFacts
  | "checks_running" => some .checksRunning
  | "install_package_manager" => some .installPackageManager
  | "install_package" => some (.installPackage a)
  | "os_updates" => some .osUpdates
  | "install_os_updates" => some (.installOsUpdates (j.textsAt "ids"))
  | "restart_agent_service" => some .restartAgentService
  | "uninstall" => some .uninstall
  | _ => none

end Steward.Host
