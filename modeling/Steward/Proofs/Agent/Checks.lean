import Steward.Proofs.Agent.Ending
import Steward.Proofs.Agent.Reporting
import Steward.Proofs.Beside
import Steward.Proofs.Web.Destination

/-!
Runs of the controller's checks. The checks of a list are run and reported side by side. Each of them starts
its own script, if that can be started, and sends one report on it; whatever becomes of the others has no
part in it.
-/
namespace Steward.Supervision.Interpreter

open Steward.Text

def names : List String := ["shell", "bash", "sh", "python", "python3", "powershell", "pwsh"]

theorem ofName?_eq_error {name : String} {e : ProcessError} : ofName? name = .error e ↔
    lower name ∉ names ∧ e = .script ("unsupported interpreter: " ++ lower name) := by
  unfold ofName? names
  split <;> simp_all [eq_comm]

end Steward.Supervision.Interpreter

namespace Steward.Agent

open Steward.Message Steward.Supervision Steward.Text Steward.Web

/-! The course of one check. -/

def checkLaunch (i : Interpreter) (check : ScriptCheck) : Launch :=
  { program := i.program
    args := i.options.map .text ++ .scriptPath :: check.scriptArgs.map .text
    workdir := none
    env := []
    script := some ⟨i.extension, check.script.code⟩
    timeoutMs := check.timeout.toNat * 1000 }

def unstarted (e : ProcessError) : ScriptResult :=
  { stdout := "", stderr := e.message, retcode := 1, executionTime := 0 }

inductive ScriptRun (check : ScriptCheck) : List Surroundings.Event → ScriptResult → Prop where
  | unknown : lower check.script.shell ∉ Interpreter.names →
      ScriptRun check [] (unstarted (.script ("unsupported interpreter: " ++ lower check.script.shell)))
  | refused {i : Interpreter} (e : ProcessError) : Interpreter.ofName? check.script.shell = .ok i →
      ScriptRun check [⟨.launch (checkLaunch i check), .error e⟩] (unstarted e)
  | ran {i : Interpreter} (o : Outcome) : Interpreter.ofName? check.script.shell = .ok i →
      ScriptRun check [⟨.launch (checkLaunch i check), .ok o⟩]
        { stdout := o.stdout, stderr := o.stderr, retcode := o.exitCode, executionTime := o.seconds }

variable (a : Agent)

def reportRequest (url : String) (check : ScriptCheck) (r : ScriptResult) : Request :=
  { method := .patch
    url
    headers := a.client.headers
    body := some (.object [("id", .int check.id.toInt), ("agent_id", .text a.id), ("stdout", .text r.stdout),
      ("stderr", .text r.stderr), ("retcode", .int r.retcode.toInt),
      ("execution_time", Wire.jsonOfFloat r.executionTime)]) }

def accepts : Exchange → Bool
  | .answered status _ => isSuccess status
  | _ => false

/-- One report, and whether it is accepted. Only a URL that is too long to be requested keeps it back. -/
inductive Reported (url : String) (check : ScriptCheck) (r : ScriptResult) :
    List Surroundings.Event → Bool → Prop where
  | sent (x : Exchange) : url.utf8ByteSize ≤ urlLimit →
      Reported url check r [⟨.request (reportRequest a url check r), x⟩] (accepts x)
  | unformed : urlLimit < url.utf8ByteSize → Reported url check r [] false

def CheckRun (url : String) (check : ScriptCheck) (events : List Surroundings.Event) (accepted : Bool) : Prop :=
  ∃ ran r report, events = ran ++ report ∧ ScriptRun check ran r ∧ Reported a url check r report accepted

theorem runScript_traces {check : ScriptCheck} {events : List Surroundings.Event} {r : ScriptResult} :
    (runScript check.script.shell check.script.code check.scriptArgs check.timeout).Traces events r ↔
      ScriptRun check events r := by
  unfold runScript scriptLaunch
  cases named : Interpreter.ofName? check.script.shell with
  | error e =>
    obtain ⟨unknown, same⟩ := Interpreter.ofName?_eq_error.1 named
    constructor
    · intro traces
      cases traces
      rw [same]
      exact .unknown unknown
    · intro run
      cases run with
      | unknown => rw [← same]; exact .done _
      | refused e known => rw [named] at known; cases known
      | ran o known => rw [named] at known; cases known
  | ok i =>
    constructor
    · intro traces
      cases traces with
      | call x rest =>
        cases rest
        cases x with
        | ok o => exact .ran o named
        | error e => exact .refused e named
    · intro run
      cases run with
      | unknown unknown =>
        rw [Interpreter.ofName?_eq_error.2 ⟨unknown, rfl⟩] at named
        cases named
      | refused e known =>
        rw [named] at known
        cases known
        exact .call _ (.done _)
      | ran o known =>
        rw [named] at known
        cases known
        exact .call _ (.done _)

section Formed
variable {route : String} {request : Request} {events : List Surroundings.Event}

/-- A request that can be formed is one call. -/
theorem exchange_formed {method : Method} {body : Option Json.Value}
    (formed : a.client.prepare method route body = .ok request) :
    exchange a method route body = call (.request request) >>= fun x =>
      orSay WebError.message (Client.conclude route request.url x) := by
  unfold exchange
  rw [formed]
  rfl

theorem answer_traces {β : Type} {f : Exchange → Except WebError β} {outcome : Except Chain β} :
    Action.Traces (call (.request request) >>= fun x => orSay WebError.message (f x)) events outcome ↔
      ∃ x, events = [⟨.request request, x⟩] ∧ outcome = (f x).mapError fun e => [e.message] := by
  constructor
  · intro traces
    obtain ⟨x, rest, rfl, answered⟩ := traces_call_bind.1 traces
    obtain ⟨rfl, same⟩ := Action.traces_ofExcept.1 answered
    exact ⟨x, rfl, same⟩
  · rintro ⟨x, rfl, rfl⟩
    exact traces_call_bind.2 ⟨x, [], rfl, Action.traces_ofExcept.2 ⟨rfl, rfl⟩⟩

theorem fetch_traces [Wire.Sendable α] {outcome : Except Chain α}
    (formed : a.client.prepare .get route none = .ok request) :
    Action.Traces (fetch a α route) events outcome ↔ ∃ x, events = [⟨.request request, x⟩] ∧
      outcome = ((Client.conclude route request.url x).bind (decoded α)).mapError fun e => [e.message] := by
  unfold fetch
  rw [exchange_formed a formed, bind_assoc]
  simp only [orSay, Action.ofExcept_bind]
  exact answer_traces

theorem fetch_unformed [Wire.Sendable α] {e : WebError} {outcome : Except Chain α}
    (unformed : a.client.prepare .get route none = .error e) :
    Action.Traces (fetch a α route) events outcome ↔ events = [] ∧ outcome = .error [e.message] := by
  unfold fetch exchange
  rw [unformed]
  exact Action.traces_throw

/-- A report is one request, and it is accepted if that is answered with success. -/
theorem patch_traces {body : Json.Value} {accepted : Bool}
    (formed : a.client.prepare .patch route (some body) = .ok request) :
    (∃ outcome, Action.Traces (patch a route body) events outcome ∧ accepted = outcome.isOk) ↔
      ∃ x, events = [⟨.request request, x⟩] ∧ accepted = accepts x := by
  have judged (x : Exchange) : accepts x =
      (((Client.conclude route request.url x).map fun _ => ()).mapError fun e => [e.message]).isOk := by
    cases x with
    | answered status body =>
      rw [Client.conclude, accepts]
      cases isSuccess status <;> rfl
    | _ => rfl
  unfold patch
  rw [exchange_formed a formed, bind_assoc]
  simp only [orSay, Action.ofExcept_map]
  constructor
  · rintro ⟨outcome, traces, rfl⟩
    obtain ⟨x, rfl, rfl⟩ := answer_traces.1 traces
    exact ⟨x, rfl, (judged x).symm⟩
  · rintro ⟨x, rfl, rfl⟩
    exact ⟨_, answer_traces.2 ⟨x, rfl, rfl⟩, judged x⟩

theorem patch_unformed {body : Json.Value} {e : WebError} {accepted : Bool}
    (unformed : a.client.prepare .patch route (some body) = .error e) :
    (∃ outcome, Action.Traces (patch a route body) events outcome ∧ accepted = outcome.isOk) ↔
      events = [] ∧ accepted = false := by
  unfold patch exchange
  rw [unformed]
  constructor
  · rintro ⟨outcome, traces, rfl⟩
    cases traces
    exact ⟨rfl, rfl⟩
  · rintro ⟨rfl, rfl⟩
    exact ⟨.error [e.message], .done _, rfl⟩

end Formed

section Course
variable {url : String} {check : ScriptCheck} {r : ScriptResult}
variable {events : List Surroundings.Event} {accepted : Bool}

theorem reported_iff (sends : a.client.SendsTo Route.checkResults url) :
    (∃ outcome, Action.Traces (patch a Route.checkResults (checkReport a check r)) events outcome ∧
      accepted = outcome.isOk) ↔ Reported a url check r events accepted := by
  by_cases fits : url.utf8ByteSize ≤ urlLimit
  · have request : a.client.prepare .patch Route.checkResults (some (checkReport a check r)) =
        .ok (reportRequest a url check r) := by
      rw [sends, if_pos fits]
      rfl
    rw [patch_traces a request]
    constructor
    · rintro ⟨x, rfl, rfl⟩
      exact .sent x fits
    · intro reported
      cases reported with
      | sent x _ => exact ⟨x, rfl, rfl⟩
      | unformed long => exact absurd fits (Nat.not_le_of_lt long)
  · rw [patch_unformed a ((sends .patch _).trans (if_neg fits))]
    constructor
    · rintro ⟨rfl, rfl⟩
      exact .unformed (Nat.lt_of_not_le fits)
    · intro reported
      cases reported with
      | sent x fits' => exact absurd fits' fits
      | unformed _ => exact ⟨rfl, rfl⟩

theorem runCheck_traces (sends : a.client.SendsTo Route.checkResults url) :
    (runCheck a check).Traces events accepted ↔ CheckRun a url check events accepted := by
  constructor
  · intro traces
    obtain ⟨ran, r, rest, rfl, script, after⟩ := Plan.traces_bind.1 traces
    obtain ⟨report, outcome, none, rfl, sent, ending⟩ := Plan.traces_bind.1 after
    cases ending
    rw [List.append_nil]
    exact ⟨ran, r, report, rfl, runScript_traces.1 script, (reported_iff a sends).1 ⟨outcome, sent, rfl⟩⟩
  · rintro ⟨ran, r, report, rfl, script, reported⟩
    obtain ⟨outcome, sent, rfl⟩ := (reported_iff a sends).2 reported
    apply Plan.traces_bind.2
    refine ⟨ran, r, report, rfl, runScript_traces.2 script, Plan.traces_bind.2 ?_⟩
    exact ⟨report, outcome, [], (List.append_nil report).symm, sent, .done _⟩

end Course

/-! The course of a list of checks. -/

/-- Every element of a list has its own course among the steps, whatever the courses of the others are. -/
structure EachReported (url : String) (checks : List ScriptCheck) (steps : List (Nat × Surroundings.Event))
    (accepted : List Bool) : Prop where
  length : accepted.length = checks.length
  placed : ∀ e ∈ steps, e.1 < checks.length
  course : ∀ (i : Nat) (check : ScriptCheck) (taken : Bool), checks[i]? = some check →
    accepted[i]? = some taken → CheckRun a url check (Plan.own i steps) taken

/-- The list is asked for, and if it comes its checks are run with their calls in this order. -/
inductive ChecksRun : List Nat → List Surroundings.Event → Except Chain Nat → Prop where
  | unformed (order : List Nat) {e : WebError} :
      a.client.prepare .get (Route.checkRunner a.id) none = .error e → ChecksRun order [] (.error [e.message])
  | unreturned (order : List Nat) {request : Request} {x : Exchange} {e : WebError} :
      a.client.prepare .get (Route.checkRunner a.id) none = .ok request →
      (Client.conclude (Route.checkRunner a.id) request.url x).bind (decoded CheckList) = .error e →
      ChecksRun order [⟨.request request, x⟩] (.error [e.message])
  | returned {request : Request} {status : Nat} {body : List UInt8} {list : CheckList} {url : String}
      {steps : List (Nat × Surroundings.Event)} {accepted : List Bool} :
      a.client.prepare .get (Route.checkRunner a.id) none = .ok request → isSuccess status = true →
      decoded CheckList body = .ok list → a.client.Addresses Route.checkResults url →
      EachReported a url list.checks steps accepted →
      ChecksRun (steps.map Prod.fst) (⟨.request request, .answered status body⟩ :: steps.map Prod.snd)
        (.ok (accepted.count true))

theorem apart_iff {url : String} {checks : List ScriptCheck} {steps : List (Nat × Surroundings.Event)}
    {accepted : List Bool} (sends : a.client.SendsTo Route.checkResults url) :
    Plan.Apart (checks.map (runCheck a)) steps accepted ↔ EachReported a url checks steps accepted := by
  constructor
  · rintro ⟨length, placed, traced⟩
    rw [List.length_map] at length placed
    constructor
    case length => exact length
    case placed => exact placed
    case course =>
      intro i check taken here result
      apply (runCheck_traces a sends).1
      apply traced i _ taken _ result
      rw [List.getElem?_map, here]
      rfl
  · rintro ⟨length, placed, course⟩
    constructor
    case length => rw [length, List.length_map]
    case placed =>
      rw [List.length_map]
      exact placed
    case traced =>
      intro i p taken plan result
      rw [List.getElem?_map] at plan
      obtain ⟨check, here, rfl⟩ := Option.map_eq_some_iff.1 plan
      exact (runCheck_traces a sends).2 (course i check taken here result)

/-- Only a status of success and a body that can be read bring a list. -/
theorem returned_of_read [Wire.Sendable α] {route url : String} {x : Exchange} {list : α}
    (read : (Client.conclude route url x).bind (decoded α) = .ok list) :
    ∃ status body, x = .answered status body ∧ isSuccess status = true ∧ decoded α body = .ok list := by
  cases x with
  | answered status body =>
    rw [Client.conclude] at read
    split at read
    · rename_i success
      exact ⟨status, body, rfl, success, read⟩
    · cases read
  | _ => cases read

theorem running_traces (order : List Nat) (checks : List ScriptCheck) {events : List Surroundings.Event}
    {outcome : Except Chain Nat} :
    Action.Traces (do
      let accepted ← ExceptT.lift (Plan.beside order (checks.map (runCheck a)))
      return accepted.count true) events outcome ↔
    ∃ accepted, (Plan.beside order (checks.map (runCheck a))).Traces events accepted ∧
      outcome = .ok (accepted.count true) := by
  constructor
  · intro traces
    rcases Action.traces_bind.1 traces with ⟨e, failed, -⟩ | ⟨first, accepted, second, rfl, ran, counted⟩
    · obtain ⟨_, -, other⟩ := Action.traces_lift.1 failed
      cases other
    · obtain ⟨_, going, same⟩ := Action.traces_lift.1 ran
      cases same
      obtain ⟨rfl, rfl⟩ := Action.traces_pure.1 counted
      rw [List.append_nil]
      exact ⟨accepted, going, rfl⟩
  · rintro ⟨accepted, going, rfl⟩
    have ran := Action.traces_lift.2 ⟨accepted, going, rfl⟩
    exact Action.traces_bind.2 (.inr ⟨events, accepted, [], (List.append_nil events).symm, ran, .done _⟩)

theorem checksRun_of_running {order : List Nat} {request : Request} {x : Exchange} {list : CheckList}
    {events : List Surroundings.Event} {accepted : List Bool}
    (formed : a.client.prepare .get (Route.checkRunner a.id) none = .ok request)
    (read : (Client.conclude (Route.checkRunner a.id) request.url x).bind (decoded CheckList) = .ok list)
    (going : (Plan.beside order (list.checks.map (runCheck a))).Traces events accepted) :
    ∃ places, ChecksRun a places (⟨.request request, x⟩ :: events) (.ok (accepted.count true)) := by
  obtain ⟨steps, rfl, beside⟩ := Plan.beside_of_traces going
  obtain ⟨url, addressed, sends⟩ := exists_sendsTo (onRoute_checkRunner a.client.baseUrl a.id)
    (onRoute_checkResults a.client.baseUrl) formed
  obtain ⟨status, body, rfl, success, held⟩ := returned_of_read read
  have each := (apart_iff a sends).1 (Plan.beside_iff.1 beside)
  exact ⟨steps.map Prod.fst, .returned formed success held addressed each⟩

theorem checksRun_of_traces {order : List Nat} {events : List Surroundings.Event} {outcome : Except Chain Nat}
    (traces : Action.Traces (runChecks a order) events outcome) : ∃ places, ChecksRun a places events outcome := by
  unfold runChecks at traces
  cases prepared : a.client.prepare .get (Route.checkRunner a.id) none with
  | error e =>
    rcases Action.traces_bind.1 traces with ⟨_, failed, rfl⟩ | ⟨_, _, _, -, fetched, -⟩
    · obtain ⟨rfl, same⟩ := (fetch_unformed a prepared).1 failed
      cases same
      exact ⟨order, .unformed order prepared⟩
    · cases ((fetch_unformed a prepared).1 fetched).2
  | ok request =>
    rcases Action.traces_bind.1 traces with ⟨_, failed, rfl⟩ | ⟨_, list, _, rfl, fetched, running⟩
    · obtain ⟨x, rfl, same⟩ := (fetch_traces a prepared).1 failed
      cases read : (Client.conclude (Route.checkRunner a.id) request.url x).bind (decoded CheckList) with
      | ok list =>
        rw [read] at same
        cases same
      | error e =>
        rw [read] at same
        cases same
        exact ⟨order, .unreturned order prepared read⟩
    · obtain ⟨x, rfl, same⟩ := (fetch_traces a prepared).1 fetched
      obtain ⟨accepted, going, rfl⟩ := (running_traces a order list.checks).1 running
      cases read : (Client.conclude (Route.checkRunner a.id) request.url x).bind (decoded CheckList) with
      | ok list' =>
        rw [read] at same
        cases same
        exact checksRun_of_running a prepared read going
      | error e =>
        rw [read] at same
        cases same

theorem traces_of_checksRun {places : List Nat} {events : List Surroundings.Event} {outcome : Except Chain Nat}
    (run : ChecksRun a places events outcome) : Action.Traces (runChecks a places) events outcome := by
  unfold runChecks
  cases run with
  | unformed order unformed =>
    exact Action.traces_bind.2 (.inl ⟨_, (fetch_unformed a unformed).2 ⟨rfl, rfl⟩, rfl⟩)
  | unreturned order formed failed =>
    refine Action.traces_bind.2 (.inl ⟨_, (fetch_traces a formed).2 ⟨_, rfl, ?_⟩, rfl⟩)
    rw [failed]
    rfl
  | @returned request status body list url steps accepted formed success read addressed each =>
    obtain ⟨url', addressed', sends⟩ := exists_sendsTo (onRoute_checkRunner a.client.baseUrl a.id)
      (onRoute_checkResults a.client.baseUrl) formed
    cases addressed.unique addressed'
    have fetched : Action.Traces (fetch a CheckList (Route.checkRunner a.id))
        [⟨.request request, .answered status body⟩] (.ok list) := by
      refine (fetch_traces a formed).2 ⟨_, rfl, ?_⟩
      rw [Client.conclude, if_pos success, Except.bind, read]
      rfl
    have going := (Plan.beside_iff.2 ((apart_iff a sends).2 each)).traces
    exact (Action.traces_bind_append fetched).2 ((running_traces a _ list.checks).2 ⟨accepted, going, rfl⟩)

theorem eq_of_passes {w after : Working} {past : List Surroundings.Event} (passes : Passes w past after)
    (reports : ∀ e ∈ past, e.1.Reports) : after = w := by
  induction passes with
  | none w => rfl
  | @call w mid after c x past acts _ ih =>
    have here := reports ⟨c, x⟩ List.mem_cons_self
    rw [ih fun e mem => reports e (List.mem_cons_of_mem _ mem)]
    cases c with
    | host c => exact acts
    | request r => exact acts
    | launch l => exact acts
    | _ => exact here.elim

def twinAgent : Agent :=
  { id := "a"
    client := ⟨"http://h", "t"⟩
    binary := ⟨"/opt/agent", "/etc/agent"⟩
    version := ⟨1, 0, 0, [], []⟩ }

def mute : ScriptCheck := ⟨7, ⟨"true", "fish"⟩, [], 120⟩

def loud : ScriptCheck := ⟨7, ⟨"true", "sh"⟩, ["-v"], 5⟩

def twins : List UInt8 :=
  utf8 ("\x7b\"checks\":[\x7b\"id\":7,\"script\":\x7b\"code\":\"true\",\"shell\":\"fish\"\x7d\x7d," ++
    "\x7b\"id\":7,\"script\":\x7b\"code\":\"true\",\"shell\":\"sh\"\x7d,\"script_args\":[\"-v\"],\"timeout\":5\x7d]\x7d")

def twinRequest : Request := ⟨.get, "http://h/api/v3/a/checkrunner/", twinAgent.client.headers, none⟩

def loudOutcome : Outcome := ⟨"done", "", 0, false, 0⟩

def twinUrl : String := "http://h/api/v3/checkrunner/"

end Steward.Agent
