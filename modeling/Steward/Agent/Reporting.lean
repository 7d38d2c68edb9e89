import Steward.Agent.Call
import Steward.Supervision.Script
import Steward.Web.Route

/-!
Work that is reported to the controller: runs of its tasks and checks, and what the agent knows of its
host.

A script that cannot be started is reported as well, with the exit code 1 and the reason as its error
output.
-/
namespace Steward.Agent

open Steward.Message Steward.Supervision Steward.Web

variable (a : Agent)

/-- Sends a request on a route and answers the body. -/
def exchange (method : Method) (route : String) (body : Option Json.Value) : Job (List UInt8) := do
  let request ← orSay WebError.message (a.client.prepare method route body)
  orSay WebError.message (Client.conclude route request.url (← call (.request request)))

def fetch (α : Type) [Wire.Sendable α] (route : String) : Job α := do
  orSay WebError.message (decoded α (← exchange a .get route none))

def patch (route : String) (body : Json.Value) : Job Unit := do
  let _ ← exchange a .patch route (some body)

def post (route : String) (body : Json.Value) : Job Unit := do
  let _ ← exchange a .post route (some body)

/-- A list of records as a document. -/
def documents [Wire.Sendable α] (as : List α) : Json.Value :=
  .list (as.filterMap fun x => (Wire.toValue x).toJson?)

def resultOf : Except ProcessError Outcome → ScriptResult
  | .ok o => { stdout := o.stdout, stderr := o.stderr, retcode := o.exitCode, executionTime := o.seconds }
  | .error e => { stdout := "", stderr := e.message, retcode := 1, executionTime := 0 }

def runScript (interpreter code : String) (args : List String) (timeoutSecs : UInt64) :
    Plan Surroundings ScriptResult :=
  match scriptLaunch interpreter code args (timeoutSecs.toNat * 1000) with
  | .error e => return resultOf (.error e)
  | .ok l => do return resultOf (← ask (.launch l))

def resultMembers (r : ScriptResult) : List (String × Json.Value) :=
  [("stdout", .text r.stdout), ("stderr", .text r.stderr), ("retcode", .int r.retcode.toInt),
    ("execution_time", Wire.jsonOfFloat r.executionTime)]

/-- Fetches a task, runs it and sends the result back on the same route. -/
def runTask (taskId : Int64) : Job ScriptResult := do
  let route := Route.taskRunner taskId a.id
  let task ← fetch a AutomatedTask route
  let result ← ExceptT.lift (runScript task.script.shell task.script.code task.args task.timeout)
  patch a route (.object (resultMembers result))
  return result

/-- The report on a check. -/
def checkReport (check : ScriptCheck) (r : ScriptResult) : Json.Value :=
  .object ([("id", .int check.id.toInt), ("agent_id", .text a.id)] ++ resultMembers r)

/-- Runs a check and reports it; whether the report was accepted. -/
def runCheck (check : ScriptCheck) : Plan Surroundings Bool := do
  let result ← runScript check.script.shell check.script.code check.scriptArgs check.timeout
  let sent ← (patch a Route.checkResults (checkReport a check result)).run
  return sent.isOk

/-- Runs all of the agent's checks side by side, with their calls in this order; the number of accepted
reports. -/
def runChecks (order : List Nat := []) : Job Nat := do
  let list ← fetch a CheckList (Route.checkRunner a.id)
  let accepted ← ExceptT.lift (Plan.beside order (list.checks.map (runCheck a)))
  return accepted.count true

/-- Sends what is known of the host, and its public address when that can be found. -/
def sendSysinfo : Job Unit := do
  let facts ← orFail (← call (.host .systemFacts))
  let address ← call (.host .publicIp)
  let told := match address with
    | .ok ip => facts.put "public_ip" (.text ip)
    | .error _ => facts
  patch a (Route.sysinfo a.id) told

def sendSoftware : Job Unit := do
  let software ← orFail (← call (.host .software))
  patch a (Route.software a.id) (.object [("software", documents software)])

def syncInfo : Job Unit := do
  sendSysinfo a
  sendSoftware a

end Steward.Agent
