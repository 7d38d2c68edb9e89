import Steward.Agent.Reporting
import Steward.Proofs.Agent.Acts

/-!
Reports. Whatever the answers, work that is reported to the controller asks the host, starts programs and
sends requests, and does nothing else.
-/
namespace Steward.Agent

open Steward.Message Steward.Supervision Steward.Web

def Call.Reports : Call → Prop
  | .host _ => True
  | .request _ => True
  | .launch _ => True
  | _ => False

theorem makes_call {only : Call → Prop} {c : Call} (allowed : only c) :
    Action.Makes (I := Surroundings) only (call c) :=
  Action.makes_lift (.call allowed fun _ => .done _)

/-- The job asks the host, starts programs and sends requests, and does nothing else. -/
abbrev Reporting (job : Job α) : Prop := Action.Makes Call.Reports job

section
variable (a : Agent)

theorem reporting_exchange (method : Method) (route : String) (body : Option Json.Value) :
    Reporting (exchange a method route body) := by
  unfold exchange
  apply Action.makes_bind (Action.makes_ofExcept _ _)
  intro request
  apply Action.makes_bind
  · apply makes_call
    trivial
  · intro answer
    exact Action.makes_ofExcept _ _

theorem reporting_fetch (α : Type) [Wire.Sendable α] (route : String) : Reporting (fetch a α route) := by
  unfold fetch
  apply Action.makes_bind (reporting_exchange a .get route none)
  intro body
  exact Action.makes_ofExcept _ _

theorem reporting_patch (route : String) (body : Json.Value) : Reporting (patch a route body) := by
  unfold patch
  apply Action.makes_bind (reporting_exchange a .patch route (some body))
  intro answer
  exact Action.makes_pure _

theorem reporting_post (route : String) (body : Json.Value) : Reporting (post a route body) := by
  unfold post
  apply Action.makes_bind (reporting_exchange a .post route (some body))
  intro answer
  exact Action.makes_pure _

theorem makes_runScript (interpreter code : String) (args : List String) (timeoutSecs : UInt64) :
    Plan.Makes Call.Reports (runScript interpreter code args timeoutSecs) := by
  unfold runScript
  cases scriptLaunch interpreter code args (timeoutSecs.toNat * 1000) with
  | error e => exact .done _
  | ok l => exact .call trivial fun _ => .done _

theorem reporting_runTask (id : Int64) : Reporting (runTask a id) := by
  unfold runTask
  apply Action.makes_bind (reporting_fetch a AutomatedTask _)
  intro task
  apply Action.makes_bind (Action.makes_lift (makes_runScript _ _ _ _))
  intro result
  apply Action.makes_bind (reporting_patch a _ _)
  intro sent
  exact Action.makes_pure _

theorem makes_runCheck (check : ScriptCheck) : Plan.Makes Call.Reports (runCheck a check) := by
  unfold runCheck
  apply Plan.makes_bind (makes_runScript _ _ _ _)
  intro result
  apply Plan.makes_bind (reporting_patch a _ _)
  intro sent
  exact .done _

theorem reporting_runChecks (order : List Nat) : Reporting (runChecks a order) := by
  unfold runChecks
  apply Action.makes_bind (reporting_fetch a CheckList _)
  intro list
  apply Action.makes_bind
  · apply Action.makes_lift
    apply Plan.makes_beside
    intro p mem
    obtain ⟨check, -, rfl⟩ := List.mem_map.1 mem
    exact makes_runCheck a check
  · intro accepted
    exact Action.makes_pure _

theorem reporting_sendSysinfo : Reporting (sendSysinfo a) := by
  unfold sendSysinfo
  apply Action.makes_bind
  · apply makes_call
    trivial
  intro facts
  apply Action.makes_bind (Action.makes_ofExcept _ _)
  intro known
  apply Action.makes_bind
  · apply makes_call
    trivial
  intro address
  exact reporting_patch a _ _

theorem reporting_sendSoftware : Reporting (sendSoftware a) := by
  unfold sendSoftware
  apply Action.makes_bind
  · apply makes_call
    trivial
  intro software
  apply Action.makes_bind (Action.makes_ofExcept _ _)
  intro known
  exact reporting_patch a _ _

theorem reporting_syncInfo : Reporting (syncInfo a) := by
  unfold syncInfo
  apply Action.makes_bind (reporting_sendSysinfo a)
  intro sent
  exact reporting_sendSoftware a

end
end Steward.Agent
