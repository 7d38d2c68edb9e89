import Steward.Abort
import Steward.Config.Expansion
import Steward.Text.Path
import Steward.Text.Utf8
import Steward.Yaml.Document

/-!
The agent's configuration: its fields, how they are read from the config file, what makes them usable
(`check`) and how they are summed up for people. Three fields may refer to environment variables.

The summary shows the first four bytes of a token that is longer than that. Where these end inside a
character there is no summary.
-/
namespace Steward

open Steward.Config Steward.Text

structure AgentConfig where
  agentId : String
  controllerUrl : String
  token : String
  natsUrl : String
  rootCert : Option String
  dataDir : String
  logDir : String
  taskPrefix : String
  serviceName : String
  uninstallCommand : Option String
deriving DecidableEq

inductive ConfigFault where
  | unreadable (path : String)
  | malformed (path : String)
  | emptyAgentId
  | badAgentId (id : String)
  | badControllerUrl (url : String)
  | emptyNatsUrl
  | emptyTaskPrefix
deriving DecidableEq

def ConfigFault.message : ConfigFault → String
  | unreadable path => "failed to read config file: " ++ path
  | malformed path => "failed to parse yaml file: " ++ path
  | emptyAgentId => "agent_id must not be empty"
  | badAgentId id => "agent_id is not a valid subject token: " ++ id
  | badControllerUrl url => "controller_url must be an http(s) url: " ++ url
  | emptyNatsUrl => "nats_url must not be empty"
  | emptyTaskPrefix => "task_prefix must not be empty"

namespace AgentConfig

def defaultPath : String := "/etc/fleetagent/agent.yaml"

/-- The required fields, all others at their defaults. -/
def minimal (agentId controllerUrl token natsUrl : String) : AgentConfig :=
  { agentId, controllerUrl, token, natsUrl, rootCert := none, dataDir := "/var/lib/fleetagent"
    logDir := "/var/log/fleetagent", taskPrefix := "FleetAgent_", serviceName := "fleetagent"
    uninstallCommand := none }

/-- Where the scheduled tasks are kept. -/
def tasksDb (c : AgentConfig) : String := Path.join c.dataDir "tasks.db"

/-- The characters that make up the first `n` bytes, if no character lies across their end. -/
def takeBytes? : Nat → List Char → Option (List Char)
  | 0, _ => some []
  | _ + 1, [] => none
  | n + 1, c :: cs =>
    if c.utf8Size ≤ n + 1 then (takeBytes? (n + 1 - c.utf8Size) cs).map (c :: ·) else none
termination_by n _ => n
decreasing_by
  have := c.utf8Size_pos
  omega

def mask (secret : String) : Except Abort String :=
  let size := (utf8 secret).length
  if size = 0 then .ok "(empty)"
  else if size ≤ 4 then .ok "****"
  else match takeBytes? 4 secret.toList with
    | some cs => .ok (String.ofList cs ++ "****")
    | none => .error .splitCharacter

def summary (c : AgentConfig) : Except Abort String := do
  let token ← mask c.token
  let always := ["agent_id:        " ++ c.agentId, "controller_url:  " ++ c.controllerUrl,
    "nats_url:        " ++ c.natsUrl, "token:           " ++ token,
    "data_dir:        " ++ c.dataDir, "log_dir:         " ++ c.logDir,
    "task_prefix:     " ++ c.taskPrefix, "service_name:    " ++ c.serviceName]
  let cert := c.rootCert.toList.map ("root_cert:       " ++ ·)
  let command := c.uninstallCommand.toList.map ("uninstall:       " ++ ·)
  return join "\n" (always ++ cert ++ command)

/-- Marks that a subject token must not hold. -/
def isSubjectMark (c : Char) : Bool := c = '.' || c = '*' || c = '>' || c = ' '

def isHttpUrl (url : String) : Bool :=
  "http://".toList.isPrefixOf url.toList || "https://".toList.isPrefixOf url.toList

/-- Reports the first fault. -/
def check (c : AgentConfig) : Except ConfigFault Unit :=
  if isBlankText c.agentId then .error .emptyAgentId
  else if c.agentId.toList.any isSubjectMark then .error (.badAgentId c.agentId)
  else if !isHttpUrl c.controllerUrl then .error (.badControllerUrl c.controllerUrl)
  else if isBlankText c.natsUrl then .error .emptyNatsUrl
  else if c.taskPrefix.isEmpty then .error .emptyTaskPrefix
  else .ok ()

/-- The config with references to environment variables replaced where they are allowed. -/
def expanded (env : Environment) (c : AgentConfig) : AgentConfig :=
  { c with
    token := expand env c.token
    controllerUrl := expand env c.controllerUrl
    natsUrl := expand env c.natsUrl }

/-- The variables that the config refers to. -/
def references (c : AgentConfig) : List String :=
  [c.token, c.controllerUrl, c.natsUrl].flatMap Config.references

def fieldNames : List String :=
  ["agent_id", "controller_url", "token", "nats_url", "root_cert", "data_dir", "log_dir",
    "task_prefix", "service_name", "uninstall_command"]

/-- The values by field; a field that is given twice is an error, an unknown one is passed over. -/
def fillFields : List (String × Option Yaml.Scalar) → List (String × Option Yaml.Scalar) →
    Option (List (String × Option Yaml.Scalar))
  | [], found => some found
  | (key, value) :: rest, found =>
    if !fieldNames.contains key then fillFields rest found
    else if (found.lookup key).isSome then none
    else fillFields rest ((key, value) :: found)

def ofEntries? (entries : List (String × Option Yaml.Scalar)) : Option AgentConfig := do
  let found ← fillFields entries []
  let required (name : String) : Option String := ((found.lookup name).join).map (·.text)
  let orElse (name absent : String) : Option String :=
    match found.lookup name with
    | none => some absent
    | some v => v.map (·.text)
  let optional (name : String) : Option (Option String) :=
    match found.lookup name with
    | none => some none
    | some v => v.bind (·.optional?)
  let agentId ← required "agent_id"
  let controllerUrl ← required "controller_url"
  let token ← required "token"
  let natsUrl ← required "nats_url"
  let least := minimal agentId controllerUrl token natsUrl
  let rootCert ← optional "root_cert"
  let dataDir ← orElse "data_dir" least.dataDir
  let logDir ← orElse "log_dir" least.logDir
  let taskPrefix ← orElse "task_prefix" least.taskPrefix
  let serviceName ← orElse "service_name" least.serviceName
  let uninstallCommand ← optional "uninstall_command"
  return { least with rootCert, dataDir, logDir, taskPrefix, serviceName, uninstallCommand }

/-- The config that a file's text holds, not yet expanded and checked. -/
def ofText? (text : String) : Option AgentConfig := (Yaml.readEntries? text).bind ofEntries?

/-- Reads the config file at `path`, whose bytes are absent when there is none. -/
def load (path : String) (file : Option (List UInt8)) (env : Environment) :
    Except ConfigFault AgentConfig :=
  match file.bind ofUtf8? with
  | none => .error (.unreadable path)
  | some text =>
    match ofText? text with
    | none => .error (.malformed path)
    | some c => (c.expanded env).check.map fun () => c.expanded env

end AgentConfig
end Steward
