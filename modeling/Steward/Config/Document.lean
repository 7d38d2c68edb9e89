import Steward.Config.Agent
import Steward.Json.Access

/-!
The configuration as a JSON document, under the names of its fields.
-/
namespace Steward.AgentConfig

open Steward.Json

def document (c : AgentConfig) : Value :=
  .object [("agent_id", .text c.agentId), ("controller_url", .text c.controllerUrl),
    ("token", .text c.token), ("nats_url", .text c.natsUrl), ("root_cert", .ofOption .text c.rootCert),
    ("data_dir", .text c.dataDir), ("log_dir", .text c.logDir), ("task_prefix", .text c.taskPrefix),
    ("service_name", .text c.serviceName),
    ("uninstall_command", .ofOption .text c.uninstallCommand)]

/-- What is missing has its default. -/
def ofDocument (j : Value) : AgentConfig :=
  let least := minimal (j.textAt "agent_id") (j.textAt "controller_url") (j.textAt "token")
    (j.textAt "nats_url")
  { least with
    rootCert := j.textAt? "root_cert", dataDir := (j.textAt? "data_dir").getD least.dataDir
    logDir := (j.textAt? "log_dir").getD least.logDir
    taskPrefix := (j.textAt? "task_prefix").getD least.taskPrefix
    serviceName := (j.textAt? "service_name").getD least.serviceName
    uninstallCommand := j.textAt? "uninstall_command" }

end Steward.AgentConfig
