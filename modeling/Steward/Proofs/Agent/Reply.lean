import Steward.Agent.Handler
import Steward.Proofs.Agent.Reporting

/-!
Replies to a command. Whatever is sent through a responder, and in whatever order, it publishes at most
once. Every handler of the table but three has sent when it succeeds, and a failure without a reply is
answered with its text, so a command that has come to its end has been answered once; the other three
answer nothing but their failures.
-/
namespace Steward.Agent

open Steward.Bus Steward.Message Steward.Schedule Steward.Supervision Steward.Web

/-! What is published. -/

/-- The responder of a command, and the messages that were published through it. -/
structure Correspondence where
  responder : Responder
  published : List Delivery

def Correspondence.begin (replyTo : Option String) : Correspondence := ⟨.new replyTo, []⟩

def posted (r : Responder) : (c : Call) → c.Answer → List Delivery
  | .reply payload, .ok true => r.replyTo.toList.map fun subject => ⟨subject, none, payload⟩
  | _, _ => []

/-- The calls of a job, between which others may change the session. The transport is one of `links`. -/
def replyRules (links : Transport → Prop) : Rules Surroundings Correspondence where
  allows _ _ := True
  leads s c x after := ∃ session left, links session.transport ∧
    Acts ⟨session, s.responder⟩ c x ⟨left, after.responder⟩ ∧
    after.published = s.published ++ posted s.responder c x

def Accepting (t : Transport) : Prop := t.publishFault = none

theorem send_cases {r r' : Responder} {t t' : Transport} {payload : Wire.Bytes}
    {x : Except TransportError Bool} (sent : r.send t payload = (r', t', x)) :
    (r.target? = none ∧ r' = r ∧ t' = t ∧ x = .ok false) ∨
    ∃ subject, r.target? = some subject ∧ r' = { r with sent := true } ∧
      ((t.publishFault = none ∧ t' = { t with bus := t.bus.publish ⟨subject, none, payload⟩ } ∧
          x = .ok true) ∨
        ∃ reason, t.publishFault = some reason ∧ t' = t ∧ x = .error (.publish subject reason)) := by
  cases target : r.target? with
  | none =>
    simp only [Responder.send, target] at sent
    cases sent
    exact .inl ⟨rfl, rfl, rfl, rfl⟩
  | some subject =>
    cases fault : t.publishFault with
    | none =>
      simp only [Responder.send, target, Transport.publish, fault] at sent
      cases sent
      exact .inr ⟨subject, rfl, rfl, .inl ⟨rfl, rfl, rfl⟩⟩
    | some reason =>
      simp only [Responder.send, target, Transport.publish, fault] at sent
      cases sent
      exact .inr ⟨subject, rfl, rfl, .inr ⟨reason, rfl, rfl, rfl⟩⟩

theorem replyTo_of_target {r : Responder} {subject : String} (target : r.target? = some subject) :
    r.sent = false ∧ r.replyTo = some subject := by
  unfold Responder.target? at target
  split at target
  · cases target
  · rename_i unsent
    exact ⟨Bool.eq_false_iff.2 unsent, target⟩

theorem acts_responder {w after : Working} {c : Call} {x : c.Answer} (other : ∀ payload, c ≠ .reply payload)
    (acts : Acts w c x after) : after.responder = w.responder := by
  cases c with
  | reply payload => exact absurd rfl (other payload)
  | hasReplied => rw [acts.2]
  | flush => rw [acts.2]
  | tasks c =>
    obtain ⟨_, _, -, rfl⟩ := acts
    rfl
  | hold g =>
    obtain ⟨_, -, rfl⟩ := acts
    rfl
  | release g => rw [show after = _ from acts]
  | beginStop => rw [show after = _ from acts]
  | _ => rw [show after = w from acts]

theorem posted_of_other {r : Responder} {c : Call} (other : ∀ payload, c ≠ .reply payload) (x : c.Answer) :
    posted r c x = [] := by
  cases c with
  | reply payload => exact absurd rfl (other payload)
  | _ => rfl

section Rules
variable {links : Transport → Prop} {s after : Correspondence} {c : Call}

theorem leads_of_other {x : c.Answer} (other : ∀ payload, c ≠ .reply payload)
    (leads : (replyRules links).leads s c x after) : after = s := by
  obtain ⟨session, left, -, acts, log⟩ := leads
  have responder : after.responder = s.responder := acts_responder other acts
  rw [posted_of_other other, List.append_nil] at log
  cases after
  cases responder
  cases log
  rfl

theorem leads_reply {payload : Wire.Bytes} {x : Except TransportError Bool}
    (leads : (replyRules links).leads s (Call.reply payload) x after) :
    (s.responder.target? = none ∧ after = s) ∨
    ∃ subject, s.responder.target? = some subject ∧
      after.responder = { s.responder with sent := true } ∧
      (after.published = s.published ++ [⟨subject, none, payload⟩] ∧ x = .ok true ∨
        after.published = s.published ∧ ∃ t, links t ∧ ¬ Accepting t) := by
  obtain ⟨session, left, link, ⟨r, t, sent, moved⟩, log⟩ := leads
  have responder : after.responder = r := congrArg Working.responder moved
  rcases send_cases sent with ⟨target, same, -, rfl⟩ | ⟨subject, target, spent, taken | ⟨reason, fault, -, rfl⟩⟩
  · refine .inl ⟨target, ?_⟩
    have quiet : after.published = s.published := by rw [log]; exact List.append_nil _
    cases after
    cases responder.trans same
    cases quiet
    rfl
  · obtain ⟨-, -, rfl⟩ := taken
    refine .inr ⟨subject, target, responder.trans spent, .inl ⟨?_, rfl⟩⟩
    rw [log, posted, (replyTo_of_target target).2]
    rfl
  · refine .inr ⟨subject, target, responder.trans spent, .inr ⟨?_, session.transport, link, ?_⟩⟩
    · rw [log]
      exact List.append_nil _
    · unfold Accepting
      rw [fault]
      exact nofun

theorem leads_cases {x : c.Answer} (leads : (replyRules links).leads s c x after) :
    after = s ∨ ∃ payload subject, c = .reply payload ∧ s.responder.target? = some subject ∧
      after.responder = { s.responder with sent := true } ∧
      (after.published = s.published ++ [⟨subject, none, payload⟩] ∨
        after.published = s.published ∧ ∃ t, links t ∧ ¬ Accepting t) := by
  by_cases isReply : ∃ payload, c = .reply payload
  · obtain ⟨payload, rfl⟩ := isReply
    rcases leads_reply leads with ⟨-, same⟩ | ⟨subject, target, spent, ⟨log, -⟩ | refused⟩
    · exact .inl same
    · exact .inr ⟨payload, subject, rfl, target, spent, .inl log⟩
    · exact .inr ⟨payload, subject, rfl, target, spent, .inr refused⟩
  · exact .inl (leads_of_other (fun payload same => isReply ⟨payload, same⟩) leads)

structure Tidy (replyTo : Option String) (s : Correspondence) : Prop where
  addressee : s.responder.replyTo = replyTo
  unsent : s.responder.sent = false → s.published = []
  single : s.published.length ≤ 1
  addressed : ∀ m ∈ s.published, replyTo = some m.subject

theorem tidy_begin (replyTo : Option String) : Tidy replyTo (.begin replyTo) :=
  ⟨rfl, fun _ => rfl, Nat.zero_le 1, fun _ mem => absurd mem List.not_mem_nil⟩

theorem tidy_step {replyTo : Option String} (s : Correspondence) (c : Call) (x : c.Answer)
    (after : Correspondence) (tidy : Tidy replyTo s) (leads : (replyRules links).leads s c x after) :
    Tidy replyTo after := by
  rcases leads_cases leads with rfl | ⟨payload, subject, rfl, target, spent, log | ⟨log, -⟩⟩
  · exact tidy
  all_goals
    obtain ⟨unsent, addressee⟩ := replyTo_of_target target
    have empty := tidy.unsent unsent
    rw [empty] at log
    have kept : after.responder.replyTo = replyTo := by rw [spent]; exact tidy.addressee
    have sent : after.responder.sent = true := by rw [spent]
  · refine ⟨kept, fun other => ?_, ?_, fun m mem => ?_⟩
    · rw [sent] at other
      cases other
    · rw [log]
      exact Nat.le_refl 1
    · rw [log, List.nil_append, List.mem_singleton] at mem
      rw [mem, ← tidy.addressee, addressee]
  · refine ⟨kept, fun _ => log, ?_, fun m mem => ?_⟩
    · rw [log]
      exact Nat.zero_le 1
    · rw [log] at mem
      cases mem

def Delivered (s : Correspondence) : Prop := s.responder.sent = true → s.published ≠ []

theorem delivered_step (s : Correspondence) (c : Call) (x : c.Answer) (after : Correspondence)
    (delivered : Delivered s) (leads : (replyRules Accepting).leads s c x after) : Delivered after := by
  rcases leads_cases leads with rfl | ⟨payload, subject, rfl, target, spent, log | ⟨log, t, link, refuses⟩⟩
  · exact delivered
  · intro _ empty
    rw [log] at empty
    exact List.append_ne_nil_of_right_ne_nil _ (List.cons_ne_nil _ _) empty
  · exact absurd link refuses

theorem length_eq_one {subject : String} (tidy : Tidy (some subject) s) (delivered : Delivered s)
    (answered : s.responder.target? = none) : s.published.length = 1 := by
  have sent : s.responder.sent = true := by
    cases flag : s.responder.sent with
    | true => rfl
    | false =>
      rw [Responder.target?, flag, tidy.addressee] at answered
      cases answered
  exact Nat.le_antisymm tidy.single (List.length_pos_iff.2 (delivered sent))

theorem reaches_anyLink {p rest : Plan Surroundings α}
    (reaches : Plan.Reaches (replyRules links) p s rest after) :
    Plan.Reaches (replyRules fun _ => True) p s rest after := by
  refine reaches.mono fun s c x after leads => ?_
  obtain ⟨session, left, -, acts⟩ := leads
  exact ⟨session, left, trivial, acts⟩

end Rules

/-! The acts on the session of a running agent are among these. -/

theorem acts_transport {w after : Working} {c : Call} {x : c.Answer} (acts : Acts w c x after) :
    after.session.transport.bus =
      (posted w.responder c x).foldl Memory.publish w.session.transport.bus ∧
    after.session.transport.publishFault = w.session.transport.publishFault := by
  cases c with
  | reply payload =>
    obtain ⟨r, t, sent, rfl⟩ := acts
    rcases send_cases sent with ⟨-, -, rfl, rfl⟩ | ⟨subject, target, -, ⟨-, rfl, rfl⟩ | ⟨_, -, rfl, rfl⟩⟩
    · exact ⟨rfl, rfl⟩
    · refine ⟨?_, rfl⟩
      rw [posted, (replyTo_of_target target).2]
      rfl
    · exact ⟨rfl, rfl⟩
  | hasReplied =>
    rw [acts.2]
    exact ⟨rfl, rfl⟩
  | flush =>
    rw [acts.2]
    exact ⟨rfl, rfl⟩
  | tasks c =>
    obtain ⟨_, _, -, rfl⟩ := acts
    exact ⟨rfl, rfl⟩
  | hold g =>
    obtain ⟨_, -, rfl⟩ := acts
    exact ⟨rfl, rfl⟩
  | _ =>
    rw [show after = _ from acts]
    exact ⟨rfl, rfl⟩

/-- What a run of a plan does to the bus are the messages that it publishes. -/
theorem published_of_reaches {plan rest : Plan Surroundings α} {w after : Working}
    {fault : Option String} (link : w.session.transport.publishFault = fault)
    (reaches : Plan.Reaches sessionRules plan w rest after) (published : List Delivery) :
    ∃ more, after.session.transport.bus = more.foldl Memory.publish w.session.transport.bus ∧
      Plan.Reaches (replyRules (·.publishFault = fault)) plan ⟨w.responder, published⟩ rest
        ⟨after.responder, published ++ more⟩ := by
  induction reaches generalizing published with
  | start p w => exact ⟨[], rfl, by rw [List.append_nil]; exact .start _ _⟩
  | @call c next w mid after x rest acts _ ih =>
    obtain ⟨bus, kept⟩ := acts_transport acts
    obtain ⟨more, later, reaches⟩ := ih (kept.trans link) (published ++ posted w.responder c x)
    have leads : (replyRules (·.publishFault = fault)).leads ⟨w.responder, published⟩ c x
        ⟨mid.responder, published ++ posted w.responder c x⟩ := ⟨w.session, mid.session, link, acts, rfl⟩
    refine ⟨posted w.responder c x ++ more, ?_, ?_⟩
    · rw [later, bus, List.foldl_append]
    · rw [← List.append_assoc]
      exact .call leads reaches

/-! Jobs that answer, and jobs that do not. -/

abbrev anyLink : Rules Surroundings Correspondence := replyRules fun _ => True

/-- A job that succeeds has answered, or there is nobody to answer. -/
def Answers (job : Job α) : Prop :=
  ∀ s, Action.Ends anyLink (fun _ after => after.responder.target? = none) (fun _ _ => True) job s

section Jobs
variable {x : Job α} {f : α → Job β}

theorem keeps_true (p : Plan Surroundings α) (s : Correspondence) :
    p.Keeps anyLink (fun _ _ => True) s := by
  induction p generalizing s with
  | done a => exact .done trivial
  | perform c next ih => exact .call trivial fun x after _ => ih x after

theorem keeps_answered (p : Plan Surroundings α) {s : Correspondence}
    (answered : s.responder.target? = none) :
    p.Keeps anyLink (fun _ after => after.responder.target? = none) s := by
  induction p generalizing s with
  | done a => exact .done answered
  | perform c next ih =>
    refine .call trivial fun x after leads => ih x ?_
    rcases leads_cases leads with rfl | ⟨_, _, -, target, -⟩
    · exact answered
    · cases answered.symm.trans target

theorem ends_answered (x : Job α) {s : Correspondence} (answered : s.responder.target? = none) :
    Action.Ends anyLink (fun _ after => after.responder.target? = none)
      (fun _ after => after.responder.target? = none) x s := by
  refine (keeps_answered x.run answered).mono fun outcome after kept => ?_
  cases outcome with
  | ok a => exact kept
  | error e => exact kept

theorem answers_after (later : ∀ a, Answers (f a)) : Answers (x >>= f) := by
  intro s
  refine Action.ends_bind ((keeps_true x.run s).mono fun outcome after _ => ?_)
  cases outcome with
  | ok a => exact later a after
  | error e => trivial

theorem answers_before (first : Answers x) : Answers (x >>= f) := by
  intro s
  refine Action.ends_bind (Action.Ends.mono (first s) (fun a after answered => ?_) fun _ _ _ => trivial)
  exact Action.Ends.mono (ends_answered (f a) answered) (fun _ _ kept => kept) fun _ _ _ => trivial

theorem reply_ends [Wire.Sendable α] (a : α) (s : Correspondence) :
    Action.Ends anyLink (fun _ after => after.responder.target? = none)
      (fun _ after => after.responder.target? = none) (reply a) s := by
  refine Action.ends_bind (ends_call trivial fun x after leads => ends_answered _ ?_)
  rcases leads_reply leads with ⟨target, same⟩ | ⟨_, -, spent, -⟩
  · rw [same]
    exact target
  · rw [spent]
    rfl

theorem answers_reply [Wire.Sendable α] (a : α) : Answers (reply a) := fun s =>
  Action.Ends.mono (reply_ends a s) (fun _ _ answered => answered) fun _ _ _ => trivial

theorem answers_attempt_reply [Wire.Sendable α] (a : α) : Answers (Action.attempt (reply a)) := fun s =>
  Action.ends_attempt (reply_ends a s)

theorem guarded_answers {g : Guard} {work : Job α} (works : Answers work) (s : Correspondence) :
    Action.Ends anyLink (fun result after => result ≠ none → after.responder.target? = none)
      (fun _ _ => True) (guarded g work) s := by
  refine Action.ends_bind (ends_call trivial fun free after _ => ?_)
  cases free with
  | false => exact Action.ends_pure fun other => absurd rfl other
  | true =>
    refine Action.ends_bind (Action.ends_attempt (Action.Ends.mono (works after) ?_ ?_))
    · intro a worked answered
      exact Action.Ends.mono (ends_answered _ answered) (fun _ _ kept _ => kept) fun _ _ _ => trivial
    · intro e worked _
      exact Action.ends_bind (ends_call trivial fun _ _ _ => Action.ends_throw trivial)

/-- Whoever finds the guard held has to be answered by what comes after, everyone else by the work. -/
theorem answers_guarded {g : Guard} {work : Job α} {f : Option α → Job β} (works : Answers work)
    (refused : Answers (f none)) : Answers (guarded g work >>= f) := by
  intro s
  refine Action.ends_bind (Action.Ends.mono (guarded_answers works s) ?_ fun _ _ _ => trivial)
  intro result after answered
  cases result with
  | none => exact refused after
  | some a =>
    exact Action.Ends.mono (ends_answered _ (answered nofun)) (fun _ _ kept => kept)
      fun _ _ _ => trivial

end Jobs

/-! The handlers. -/

theorem reporting_needed {α : Type} (message : String) (part : Option α) :
    Reporting (needed message part) := by
  cases part with
  | none => exact Action.makes_throw _
  | some x => exact Action.makes_pure x

theorem reporting_ends {job : Job α} (reports : Reporting job) (s : Correspondence) :
    Action.Ends anyLink (fun _ after => after = s) (fun _ after => after = s) job s := by
  refine reports.ends (fun _ _ => trivial) fun c report x after leads => ?_
  refine leads_of_other (fun payload same => ?_) leads
  rw [same] at report
  exact report

namespace Handler
variable (a : Agent) (c : Command)

theorem reporting_taskRun : Reporting (taskRun a c) :=
  Action.makes_bind (reporting_needed _ _) fun id =>
    Action.makes_bind (reporting_runTask a id) fun _ => Action.makes_pure _

theorem reporting_installPackageManager : Reporting (installPackageManager a c) :=
  Action.makes_bind (makes_call trivial) fun _ => reporting_post a _ _

/-- The handlers that answer nothing but their failures. -/
def reportingOnly : List String := ["task-run", "sync-info", "install-package-manager"]

theorem answers_runChecks : Answers (Handler.runChecks a c) := by
  refine answers_after fun running => ?_
  cases running with
  | true => exact answers_reply _
  | false => exact answers_before (answers_reply _)

theorem answers_recoverAgent : Answers (recoverAgent a c) := answers_before (answers_reply _)

theorem answers_recoveryCommand : Answers (recoveryCommand a c) :=
  answers_after fun _ => answers_before (answers_reply _)

theorem answers_installPackage : Answers (installPackage a c) :=
  answers_after fun _ => answers_after fun _ => answers_before (answers_reply _)

theorem answers_getOsUpdates : Answers (getOsUpdates a c) :=
  answers_guarded (answers_before (answers_reply _)) (answers_reply _)

theorem answers_installOsUpdates : Answers (installOsUpdates a c) :=
  answers_guarded (answers_before (answers_reply _)) (answers_reply _)

theorem answers_agentSelfUpdate : Answers (agentSelfUpdate a c) :=
  answers_guarded (answers_before (answers_reply _)) (answers_reply _)

theorem answers_agentUninstall : Answers (agentUninstall a c) :=
  answers_before (answers_attempt_reply _)

theorem answers_rebootNow : Answers (rebootNow a c) := answers_before (answers_reply _)

theorem table_answers : ∀ entry ∈ table, entry.1 ∉ reportingOnly → ∀ a c, Answers (entry.2 a c) := by
  unfold table
  simp only [List.forall_mem_cons]
  refine ⟨fun _ _ _ => answers_reply _,
    fun _ _ _ => answers_after fun _ => answers_after fun _ => answers_after fun _ => answers_reply _,
    fun _ _ _ => answers_after fun _ => answers_after fun _ => answers_after fun _ => answers_reply _,
    fun _ _ _ => answers_after fun _ => answers_after fun _ => answers_after fun _ => answers_reply _,
    fun _ _ _ => answers_after fun _ => answers_reply _,
    fun other => absurd (by decide) other,
    fun _ _ _ => answers_after fun _ => answers_after fun _ => answers_reply _,
    fun _ _ _ => answers_after fun _ => answers_after fun _ => answers_reply _,
    fun _ _ _ => answers_after fun _ => answers_after fun _ => answers_after fun _ => answers_reply _,
    fun _ _ _ => answers_after fun _ => answers_after fun _ => answers_reply _,
    fun _ _ _ => answers_after fun _ => answers_after fun _ => answers_reply _,
    fun _ _ _ => answers_after fun _ => answers_after fun _ => answers_after fun _ => answers_reply _,
    fun _ _ _ => answers_after fun _ => answers_after fun _ => answers_after fun _ => answers_reply _,
    fun _ _ _ => answers_after fun _ => answers_after fun _ => answers_after fun _ => answers_reply _,
    fun _ _ _ => answers_after fun _ => answers_reply _,
    fun _ _ _ => answers_after fun _ => answers_reply _,
    fun _ => answers_recoverAgent,
    fun _ => answers_recoveryCommand,
    fun _ _ _ => answers_after fun _ => answers_after fun _ => answers_reply _,
    fun _ => answers_rebootNow,
    fun _ _ _ => answers_after fun _ => answers_reply _,
    fun _ _ _ => answers_after fun _ => answers_reply _,
    fun other => absurd (by decide) other,
    fun _ _ _ => answers_after fun _ => answers_after fun _ => answers_reply _,
    fun _ => answers_runChecks,
    fun _ _ _ => answers_after fun _ => answers_after fun _ => answers_reply _,
    fun other => absurd (by decide) other,
    fun _ => answers_installPackage,
    fun _ => answers_getOsUpdates,
    fun _ => answers_installOsUpdates,
    fun _ => answers_agentSelfUpdate,
    fun _ => answers_agentUninstall, fun _ none => absurd none List.not_mem_nil⟩

theorem reporting_of_listed {name : String} {handler : Handler} (listed : name ∈ reportingOnly)
    (found : table.lookup name = some handler) : Reporting (handler a c) := by
  simp only [reportingOnly, List.mem_cons, List.not_mem_nil, or_false] at listed
  rcases listed with rfl | rfl | rfl
  · cases (show some taskRun = some handler from found)
    exact reporting_taskRun a c
  · cases (show some Handler.syncInfo = some handler from found)
    exact reporting_syncInfo a
  · cases (show some installPackageManager = some handler from found)
    exact reporting_installPackageManager a c

theorem answers_of_unlisted {name : String} {handler : Handler} (unlisted : name ∉ reportingOnly)
    (found : table.lookup name = some handler) : Answers (handler a c) := by
  obtain ⟨before, after, same, -⟩ := List.lookup_eq_some_iff.1 found
  have mem : (name, handler) ∈ table := by
    rw [same]
    exact List.mem_append_right before List.mem_cons_self
  exact table_answers (name, handler) mem unlisted a c

end Handler

/-! Failures. -/

def tellFailure (e : Chain) : Plan Surroundings Bool := do
  if ← ask .hasReplied then return false
  else
    let _ ← (reply e.full).run
    return false

theorem answering_eq (job : Job Unit) : answering job = job.run.bind fun
    | .ok () => .done true
    | .error e => tellFailure e := by
  unfold answering
  refine congrArg job.run.bind (funext fun outcome => ?_)
  cases outcome with
  | ok u => rfl
  | error e => rfl

def failureText (subject : String) (e : Chain) : Delivery := ⟨subject, none, Wire.encode e.full⟩

theorem tellFailure_keeps (e : Chain) (s : Correspondence) :
    (tellFailure e).Keeps (replyRules Accepting) (fun b after => b = false ∧
      after.published = s.published ++ s.responder.target?.toList.map (failureText · e)) s := by
  refine .call trivial fun replied after leads => ?_
  have same := leads_of_other (c := .hasReplied) nofun leads
  obtain ⟨_, _, -, ⟨flag, -⟩, -⟩ := leads
  rw [same]
  cases replied with
  | true =>
    have target : s.responder.target? = none := if_pos flag.symm
    refine .done ⟨rfl, ?_⟩
    rw [target]
    exact (List.append_nil _).symm
  | false =>
    refine .call trivial fun x after leads => ?_
    have told : after.published = s.published ++ s.responder.target?.toList.map (failureText · e) := by
      rcases leads_reply leads with ⟨target, rfl⟩ | ⟨subject, target, -, ⟨log, -⟩ | ⟨-, t, link, refuses⟩⟩
      · rw [target]
        exact (List.append_nil _).symm
      · rw [log, target]
        rfl
      · exact absurd link refuses
    cases x with
    | ok sent => exact .done ⟨rfl, told⟩
    | error refused => exact .done ⟨rfl, told⟩

/-! Commands. -/

/-- A command whose handler came to `outcome` and published `own` was answered once in the end. -/
def AnsweredOnce (subject : String) (outcome : Except Chain Unit) (own published : List Delivery) : Prop :=
  published.length = 1 ∧
    (published = own ∨ ∃ e, outcome = .error e ∧ own = [] ∧ published = [failureText subject e])

def ToldFailure (subject : String) (outcome : Except Chain Unit) (published : List Delivery) : Prop :=
  match outcome with
  | .ok () => published = []
  | .error e => published = [failureText subject e]

section Command
variable {a : Agent} {d : Delivery} {plan : Plan Surroundings Bool}

theorem workOn_eq (found : workOn? Handler.table a d.payload = some plan) :
    ∃ c handler, (Wire.decode? d.payload : Option Command) = some c ∧
      Handler.table.lookup c.name = some handler ∧ plan = answering (handler a c) := by
  obtain ⟨c, decoded, rest⟩ := Option.bind_eq_some_iff.1 found
  obtain ⟨handler, listed, same⟩ := Option.bind_eq_some_iff.1 rest
  exact ⟨c, handler, decoded, listed, (Option.some.inj same).symm⟩

/-- Whatever a plan does with a responder, and wherever it is stopped, it publishes one message at
most, on the reply subject. -/
theorem published_le_one {replyTo : Option String} {rest : Plan Surroundings α} {p : Plan Surroundings α}
    {s : Correspondence} (reaches : Plan.Reaches anyLink p (.begin replyTo) rest s) :
    s.published.length ≤ 1 ∧ ∀ m ∈ s.published, replyTo = some m.subject := by
  have tidy : Tidy replyTo s := reaches.invariant tidy_step (tidy_begin replyTo)
  exact ⟨tidy.single, tidy.addressed⟩

theorem reaches_end {job : Job Unit} {start s : Correspondence} {b : Bool}
    (reaches : Plan.Reaches (replyRules Accepting) (answering job) start (.done b) s) :
    ∃ outcome own, Plan.Reaches (replyRules Accepting) job.run start (.done outcome) own ∧
      match outcome with
      | .ok () => b = true ∧ s = own
      | .error e => b = false ∧
        s.published = own.published ++ own.responder.target?.toList.map (failureText · e) := by
  rw [answering_eq] at reaches
  obtain ⟨outcome, own, first, second⟩ := reaches.of_bind
  refine ⟨outcome, own, first, ?_⟩
  cases outcome with
  | ok u =>
    cases second
    exact ⟨rfl, rfl⟩
  | error e => exact (tellFailure_keeps e own).at_end second

/-- What a command puts on the bus when it is carried out in some world is what it publishes. -/
theorem published_of_run {S : Type} {world : World (StateM S)} {session : Session} {replyTo : Option String}
    {s left : S} {p : Plan Surroundings α} {result : Except Abort α} {after : Working}
    (done : (p.run world.perform).from ⟨session, .new replyTo⟩ s = ((result, after), left)) :
    ∃ rest published, after.session.transport.bus = published.foldl Memory.publish session.transport.bus ∧
      Plan.Reaches (replyRules (·.publishFault = session.transport.publishFault)) p (.begin replyTo) rest
        ⟨after.responder, published⟩ ∧ ∀ x, result = .ok x → rest = .done x := by
  obtain ⟨rest, reaches, ended⟩ := reaches_of_run done
  obtain ⟨published, bus, replies⟩ := published_of_reaches rfl reaches []
  exact ⟨rest, published, bus, replies, ended⟩

/-- A command is answered at most once at any time, and exactly once in the end when its messages are
taken; the reporting commands answer nothing but their failures. -/
theorem answered_once (found : workOn? Handler.table a d.payload = some plan) :
    (∀ rest s, Plan.Reaches anyLink plan (.begin d.reply) rest s →
      s.published.length ≤ 1 ∧ ∀ m ∈ s.published, d.reply = some m.subject) ∧
    (∀ (S : Type) (world : World (StateM S)) session s result after left,
      (plan.run world.perform).from ⟨session, .new d.reply⟩ s = ((result, after), left) →
      ∃ rest published, after.session.transport.bus = published.foldl Memory.publish session.transport.bus ∧
        Plan.Reaches (replyRules (·.publishFault = session.transport.publishFault)) plan (.begin d.reply)
          rest ⟨after.responder, published⟩ ∧ ∀ b, result = .ok b → rest = .done b) ∧
    ∃ c handler, (Wire.decode? d.payload : Option Command) = some c ∧
      Handler.table.lookup c.name = some handler ∧ plan = answering (handler a c) ∧
      ∀ subject, d.reply = some subject → ∀ b s,
        Plan.Reaches (replyRules Accepting) plan (.begin d.reply) (.done b) s →
        ∃ outcome own,
          Plan.Reaches (replyRules Accepting) (handler a c).run (.begin d.reply) (.done outcome) own ∧
          (c.name ∉ Handler.reportingOnly → AnsweredOnce subject outcome own.published s.published) ∧
          (c.name ∈ Handler.reportingOnly → ToldFailure subject outcome s.published) := by
  refine ⟨fun rest s => published_le_one, fun _ _ _ _ _ _ _ => published_of_run, ?_⟩
  obtain ⟨c, handler, decoded, listed, rfl⟩ := workOn_eq found
  refine ⟨c, handler, decoded, listed, rfl, fun subject expected b s reaches => ?_⟩
  obtain ⟨outcome, own, ran, told⟩ := reaches_end reaches
  have weaker := reaches_anyLink ran
  have tidy : Tidy d.reply own := weaker.invariant tidy_step (tidy_begin d.reply)
  rw [expected] at tidy
  have delivered : Delivered own := ran.invariant delivered_step fun sent => by cases sent
  refine ⟨outcome, own, ran, fun unlisted => ?_, fun reporting => ?_⟩
  · have answered := (Handler.answers_of_unlisted a c unlisted listed _).at_end weaker
    cases outcome with
    | ok u =>
      rw [told.2]
      exact ⟨length_eq_one tidy delivered answered, .inl rfl⟩
    | error e =>
      cases target : own.responder.target? with
      | none =>
        have same : s.published = own.published := by
          rw [told.2, target]
          exact List.append_nil _
        rw [same]
        exact ⟨length_eq_one tidy delivered target, .inl rfl⟩
      | some subject =>
        obtain ⟨unsent, addressee⟩ := replyTo_of_target target
        cases addressee.symm.trans tidy.addressee
        have text : s.published = [failureText subject e] := by
          rw [told.2, target, tidy.unsent unsent]
          rfl
        rw [text]
        exact ⟨rfl, .inr ⟨e, rfl, tidy.unsent unsent, rfl⟩⟩
  · have silent := (reporting_ends (Handler.reporting_of_listed a c reporting listed) _).at_end weaker
    cases outcome with
    | ok u =>
      rw [ToldFailure, told.2, show own = _ from silent]
      rfl
    | error e =>
      rw [ToldFailure, told.2, show own = _ from silent, expected]
      rfl

end Command

def pingMessage : Delivery :=
  ⟨"agent", some "replies", [0x81, 0xa4, 0x66, 0x75, 0x6e, 0x63, 0xa4, 0x70, 0x69, 0x6e, 0x67]⟩

def idleAgent : Agent :=
  { id := "a", client := ⟨"http://c", "t"⟩, binary := ⟨"/bin/a", "/etc/a"⟩, version := ⟨1, 0, 0, [], []⟩ }

def idleSession : Session :=
  { store := .empty "FleetAgent_", guards := .free, transport := ⟨.new 16, none, none⟩, stopping := false }

theorem answered_once_ping : ∃ plan s, workOn? Handler.table idleAgent pingMessage.payload = some plan ∧
    Plan.Reaches (replyRules Accepting) plan (.begin pingMessage.reply) (.done true) s ∧
    s.published.length = 1 := by
  have found : workOn? Handler.table idleAgent pingMessage.payload =
      some (answering (Handler.ping idleAgent (.named "ping"))) := by rfl
  have leads : (replyRules Accepting).leads (.begin pingMessage.reply) (Call.reply (Wire.encode "pong"))
      (Except.ok true) ⟨⟨some "replies", true⟩, [⟨"replies", none, Wire.encode "pong"⟩]⟩ :=
    ⟨idleSession, _, rfl, ⟨_, _, rfl, rfl⟩, rfl⟩
  have reaches : Plan.Reaches (replyRules Accepting) (answering (Handler.ping idleAgent (.named "ping")))
      (.begin pingMessage.reply) (.done true) _ := .call leads (.start _ _)
  refine ⟨_, _, found, reaches, ?_⟩
  obtain ⟨-, -, c, handler, decoded, -, -, once⟩ := answered_once found
  obtain ⟨_, _, -, unlisted, -⟩ := once "replies" rfl true _ reaches
  have named : some c.name = some "ping" := by
    rw [← Option.map_some, ← decoded]
    rfl
  refine (unlisted ?_).1
  rw [Option.some.inj named]
  decide

end Steward.Agent
