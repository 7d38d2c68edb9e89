import Steward.Text.Numeral

/-!
The controller's routes. Identities go into a route as they are.
-/
namespace Steward.Web.Route

open Steward.Text

def taskRunner (taskId : Int64) (agentId : String) : String :=
  "/api/v3/" ++ signed taskId.toInt ++ "/" ++ agentId ++ "/taskrunner/"

def packageResult (pendingAction : Int64) : String :=
  "/api/v3/" ++ signed pendingAction.toInt ++ "/packageresult/"

def packageManager : String := "/api/v3/packagemanager/"

def osUpdates (agentId : String) : String := "/api/v3/" ++ agentId ++ "/osupdates/"

def osUpdatesInstall (agentId : String) : String := "/api/v3/" ++ agentId ++ "/osupdates/install/"

def sysinfo (agentId : String) : String := "/api/v3/" ++ agentId ++ "/sysinfo/"

def software (agentId : String) : String := "/api/v3/" ++ agentId ++ "/software/"

def checkRunner (agentId : String) : String := "/api/v3/" ++ agentId ++ "/checkrunner/"

def checkResults : String := "/api/v3/checkrunner/"

end Steward.Web.Route
