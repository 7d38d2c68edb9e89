import Steward.Proofs.Agent.SingleFlight
import Steward.Proofs.Agent.Updating

/-!
Self-update and uninstall, the two commands that end the agent. Whatever their calls are answered, the
last calls are a flush, the stop of taking commands and the exit, and they come after the acknowledgment,
the work and the release of the guard. An update that finds its guard held, or that cannot be
acknowledged, does no work and does not end the agent.
-/
namespace Steward.Agent

open Steward.Bus Steward.Message Steward.Update

/-! The course of the two commands. -/

def Call.Updates : Call → Prop
  | .request _ => True
  | .install _ => True
  | _ => False

def Call.Ends : Call → Prop
  | .beginStop => True
  | .exit _ => True
  | _ => False

inductive Telling : List Surroundings.Event → Prop where
  | replied : Telling [⟨.hasReplied, true⟩]
  | told (e : Chain) (x : Except TransportError Bool) :
      Telling [⟨.hasReplied, false⟩, ⟨.reply (Wire.encode e.full), x⟩]

def lastCalls (flushed : Except TransportError Unit) : List Surroundings.Event :=
  [⟨.flush, flushed⟩, ⟨.beginStop, ()⟩, ⟨.exit 0, ()⟩]

inductive UpdateCourse (current : Version) (c : Command) : List Surroundings.Event → Prop where
  | refused {told : List Surroundings.Event} (x : Except TransportError Bool) : (told = [] ∨ Telling told) →
      UpdateCourse current c
        (⟨.hold .selfUpdate, false⟩ :: ⟨.reply (Wire.encode replyUpdateRunning), x⟩ :: told)
  | unacknowledged {told : List Surroundings.Event} (e : TransportError) : Telling told →
      UpdateCourse current c (⟨.hold .selfUpdate, true⟩ :: ⟨.reply (Wire.encode replyOk), .error e⟩ ::
        ⟨.release .selfUpdate, ()⟩ :: told)
  | updated {work : List Surroundings.Event} {outcome : Except Chain UpdateOutcome} (sent : Bool)
      (flushed : Except TransportError Unit) : UpdateRun current c work outcome →
      UpdateCourse current c (⟨.hold .selfUpdate, true⟩ :: ⟨.reply (Wire.encode replyOk), .ok sent⟩ ::
        (work ++ ⟨.release .selfUpdate, ()⟩ :: lastCalls flushed))

inductive UninstallCourse : List Surroundings.Event → Prop where
  | course (x : Except TransportError Bool) (removed : Nat) (y : Except Chain Unit)
      (flushed : Except TransportError Unit) :
      UninstallCourse (⟨.reply (Wire.encode replyOk), x⟩ :: ⟨.tasks .cleanup, removed⟩ ::
        ⟨.host .uninstall, y⟩ :: lastCalls flushed)

theorem tellFailure_traces {e : Chain} {past : List Surroundings.Event} {b : Bool}
    (traces : (tellFailure e).Traces past b) : Telling past := by
  cases traces with
  | call replied rest =>
    cases replied with
    | true =>
      cases rest
      exact .replied
    | false =>
      cases rest with
      | call x rest =>
        cases x <;> cases rest <;> exact .told e _

theorem answering_traces {job : Job Unit} {past : List Surroundings.Event} {b : Bool}
    (traces : (answering job).Traces past b) :
    Action.Traces job past (.ok ()) ∨
    ∃ first e told, past = first ++ told ∧ Action.Traces job first (.error e) ∧ Telling told := by
  rw [answering_eq] at traces
  obtain ⟨first, outcome, second, rfl, before, after⟩ := Plan.traces_bind.1 traces
  cases outcome with
  | ok u =>
    cases after
    rw [List.append_nil]
    exact .inl before
  | error e => exact .inr ⟨first, e, second, rfl, before, tellFailure_traces after⟩

theorem reply_traces [Wire.Sendable α] {a : α} {past : List Surroundings.Event} {outcome : Except Chain Unit}
    (traces : Action.Traces (reply a) past outcome) :
    (∃ sent, past = [⟨.reply (Wire.encode a), .ok sent⟩] ∧ outcome = .ok ()) ∨
    ∃ e, past = [⟨.reply (Wire.encode a), .error e⟩] ∧ ∃ told, outcome = .error told := by
  obtain ⟨x, rest, rfl, ending⟩ := traces_call_bind.1 traces
  rcases Action.traces_ofExcept_bind.1 ending with ⟨e, rfl, rfl, rfl⟩ | ⟨sent, rfl, done⟩
  · exact .inr ⟨e, rfl, _, rfl⟩
  · obtain ⟨rfl, rfl⟩ := Action.traces_pure.1 done
    exact .inl ⟨sent, rfl, rfl⟩

theorem guarded_traces {g : Guard} {work : Job α} {past : List Surroundings.Event}
    {outcome : Except Chain (Option α)} (traces : Action.Traces (guarded g work) past outcome) :
    (past = [⟨.hold g, false⟩] ∧ outcome = .ok none) ∨
    ∃ inner result, past = ⟨.hold g, true⟩ :: (inner ++ [⟨.release g, ()⟩]) ∧
      Action.Traces work inner result ∧ outcome = result.map some := by
  obtain ⟨free, rest, rfl, held⟩ := traces_call_bind.1 traces
  cases free with
  | false =>
    obtain ⟨rfl, rfl⟩ := Action.traces_pure.1 held
    exact .inl ⟨rfl, rfl⟩
  | true =>
    rw [if_pos rfl] at held
    rcases Action.traces_bind.1 held with ⟨e, attempted, -⟩ | ⟨inner, result, last, rfl, attempted, freed⟩
    · obtain ⟨_, -, other⟩ := Action.traces_attempt.1 attempted
      cases other
    · obtain ⟨_, worked, same⟩ := Action.traces_attempt.1 attempted
      cases same
      obtain ⟨_, ending, rfl, ended⟩ := traces_call_bind.1 freed
      refine .inr ⟨inner, result, ?_⟩
      cases result with
      | ok a =>
        obtain ⟨rfl, rfl⟩ := Action.traces_pure.1 ended
        exact ⟨rfl, worked, rfl⟩
      | error e =>
        obtain ⟨rfl, rfl⟩ := Action.traces_throw.1 ended
        exact ⟨rfl, worked, rfl⟩

theorem terminate_traces {past : List Surroundings.Event} {outcome : Except Chain Unit}
    (traces : Action.Traces terminate past outcome) :
    (∃ flushed, past = lastCalls flushed) ∧ outcome = .ok () := by
  obtain ⟨flushed, _, rfl, stopping⟩ := traces_call_bind.1 traces
  obtain ⟨_, _, rfl, exiting⟩ := traces_call_bind.1 stopping
  cases exiting with
  | call _ rest =>
    cases rest
    exact ⟨⟨flushed, rfl⟩, rfl⟩

theorem acknowledged_traces {current : Version} {c : Command} {past : List Surroundings.Event}
    {result : Except Chain (Except Chain UpdateOutcome)}
    (traces : Action.Traces (do
      reply replyOk
      Action.attempt (updateFor current c)) past result) :
    (∃ e failure, past = [⟨.reply (Wire.encode replyOk), .error e⟩] ∧ result = .error failure) ∨
    ∃ sent work outcome, past = ⟨.reply (Wire.encode replyOk), .ok sent⟩ :: work ∧
      UpdateRun current c work outcome ∧ result = .ok outcome := by
  rcases Action.traces_bind.1 traces with ⟨e, replied, rfl⟩ | ⟨first, u, work, rfl, replied, updating⟩
  · rcases reply_traces replied with ⟨_, -, other⟩ | ⟨failure, rfl, -⟩
    · cases other
    · exact .inl ⟨failure, e, rfl, rfl⟩
  · rcases reply_traces replied with ⟨sent, rfl, -⟩ | ⟨_, -, _, other⟩
    · obtain ⟨outcome, updated, rfl⟩ := Action.traces_attempt.1 updating
      exact .inr ⟨sent, work, outcome, rfl, updateRun_of_traces updated, rfl⟩
    · cases other

theorem updateCourse_of_traces {a : Agent} {c : Command} {past : List Surroundings.Event} {b : Bool}
    (traces : (answering (Handler.agentSelfUpdate a c)).Traces past b) :
    UpdateCourse a.version c past := by
  -- `told` is what comes after the handler: nothing, or the telling of its failure
  have course : ∀ {past outcome}, Action.Traces (selfUpdate a.version c) past outcome →
      ∀ told, (outcome = .ok () ∧ told = []) ∨ ((∃ e, outcome = .error e) ∧ Telling told) →
      UpdateCourse a.version c (past ++ told) := by
    intro past outcome traces told ending
    rcases Action.traces_bind.1 traces with ⟨e, began, rfl⟩ | ⟨first, begun, second, rfl, began, rest⟩
    · rcases guarded_traces began with ⟨-, other⟩ | ⟨inner, result, rfl, worked, same⟩
      · cases other
      rcases acknowledged_traces worked with ⟨failure, _, rfl, rfl⟩ | ⟨_, _, _, -, -, rfl⟩
      · rcases ending with ⟨other, -⟩ | ⟨-, telling⟩
        · cases other
        · exact .unacknowledged failure telling
      · cases same
    · rcases guarded_traces began with ⟨rfl, same⟩ | ⟨inner, result, rfl, worked, same⟩
      · cases same
        rcases reply_traces rest with ⟨sent, rfl, rfl⟩ | ⟨failure, rfl, _, rfl⟩
        · rcases ending with ⟨-, rfl⟩ | ⟨⟨_, other⟩, -⟩
          · exact .refused (.ok sent) (.inl rfl)
          · cases other
        · rcases ending with ⟨other, -⟩ | ⟨-, telling⟩
          · cases other
          · exact .refused (.error failure) (.inr telling)
      · rcases acknowledged_traces worked with ⟨_, _, -, rfl⟩ | ⟨sent, work, outcome, rfl, updated, rfl⟩
        · cases same
        cases same
        obtain ⟨⟨flushed, rfl⟩, rfl⟩ := terminate_traces rest
        rcases ending with ⟨-, rfl⟩ | ⟨⟨_, other⟩, -⟩
        · have done := UpdateCourse.updated sent flushed updated
          simpa using done
        · cases other
  rcases answering_traces traces with done | ⟨first, e, told, rfl, failed, telling⟩
  · have ended := course done [] (.inl ⟨rfl, rfl⟩)
    rwa [List.append_nil] at ended
  · exact course failed told (.inr ⟨⟨e, rfl⟩, telling⟩)

theorem uninstallCourse_of_traces {a : Agent} {c : Command} {past : List Surroundings.Event} {b : Bool}
    (traces : (answering (Handler.agentUninstall a c)).Traces past b) : UninstallCourse past := by
  have course : ∀ {past outcome}, Action.Traces uninstall past outcome →
      UninstallCourse past ∧ outcome = .ok () := by
    intro past outcome traces
    rcases Action.traces_bind.1 traces with ⟨e, replied, -⟩ | ⟨first, inner, second, rfl, replied, cleaning⟩
    · obtain ⟨_, -, other⟩ := Action.traces_attempt.1 replied
      cases other
    obtain ⟨result, acknowledged, -⟩ := Action.traces_attempt.1 replied
    obtain ⟨removed, _, rfl, removing⟩ := traces_call_bind.1 cleaning
    obtain ⟨y, _, rfl, ending⟩ := traces_call_bind.1 removing
    obtain ⟨⟨flushed, rfl⟩, ended⟩ := terminate_traces ending
    rcases reply_traces acknowledged with ⟨sent, rfl, -⟩ | ⟨failure, rfl, -⟩
    · exact ⟨.course (.ok sent) removed y flushed, ended⟩
    · exact ⟨.course (.error failure) removed y flushed, ended⟩
  rcases answering_traces traces with done | ⟨first, e, told, rfl, failed, telling⟩
  · exact (course done).1
  · cases (course failed).2

/-! What the courses say. -/

def exitCodes (past : List Surroundings.Event) : List Int :=
  past.filterMap fun event => match event.1 with
    | .exit code => some code
    | _ => none

/-- The update got its guard and was acknowledged. -/
def Begun (past : List Surroundings.Event) : Prop :=
  ∃ sent, [⟨.hold .selfUpdate, true⟩, ⟨.reply (Wire.encode replyOk), .ok sent⟩] <+: past

structure UpdateEnds (current : Version) (c : Command) (past : List Surroundings.Event) : Prop where
  course : UpdateCourse current c past
  once : Begun past → exitCodes past = [0]
  never : ¬ Begun past → ∀ event ∈ past, ¬ event.1.Updates ∧ ¬ event.1.Ends

theorem updates_of_run {current : Version} {c : Command} {work : List Surroundings.Event}
    {outcome : Except Chain UpdateOutcome} (run : UpdateRun current c work outcome) :
    ∀ event ∈ work, event.1.Updates := by
  have request : ∀ {past : List Surroundings.Event}, (∀ event ∈ past, ∃ r, event.1 = .request r) →
      ∀ event ∈ past, event.1.Updates := by
    intro past requests event mem
    obtain ⟨r, same⟩ := requests event mem
    rw [same]
    trivial
  cases run with
  | refused => simp
  | upToDate => simp
  | failed _ _ requests => exact request requests
  | installing x _ _ requests =>
    intro event mem
    rcases List.mem_append.1 mem with before | last
    · exact request requests event before
    · rw [List.mem_singleton.1 last]
      trivial

theorem exitCodes_of_updates {work : List Surroundings.Event} (updates : ∀ event ∈ work, event.1.Updates) :
    exitCodes work = [] := by
  refine List.filterMap_eq_nil_iff.2 fun event mem => ?_
  have update := updates event mem
  obtain ⟨c, x⟩ := event
  cases c <;> first | rfl | exact update.elim

theorem updateEnds_of_course {current : Version} {c : Command} {past : List Surroundings.Event}
    (course : UpdateCourse current c past) : UpdateEnds current c past := by
  refine ⟨course, fun begun => ?_, fun not => ?_⟩
  · obtain ⟨sent, rest, same⟩ := begun
    cases course with
    | refused => cases same
    | unacknowledged => cases same
    | updated sent flushed run =>
      have silent := exitCodes_of_updates (updates_of_run run)
      unfold exitCodes at silent ⊢
      simp only [List.filterMap_cons, List.filterMap_append, silent]
      rfl
  · cases course with
    | refused x told =>
      rcases told with rfl | telling
      · simp [Call.Updates, Call.Ends]
      · cases telling <;> simp [Call.Updates, Call.Ends]
    | unacknowledged e telling => cases telling <;> simp [Call.Updates, Call.Ends]
    | updated sent flushed run => exact absurd ⟨sent, _, rfl⟩ not

theorem exitCodes_of_uninstall {past : List Surroundings.Event} (course : UninstallCourse past) :
    exitCodes past = [0] := by
  cases course
  rfl

/-! Runs of a plan in a world. -/

/-- A call that is never aborted. -/
def Call.Steady : Call → Prop
  | .tasks (.create _) => False
  | _ => True

inductive Passes : Working → List Surroundings.Event → Working → Prop where
  | none (w : Working) : Passes w [] w
  | call {w mid after : Working} {c : Call} {x : c.Answer} {past : List Surroundings.Event} :
      Acts w c x mid → Passes mid past after → Passes w (⟨c, x⟩ :: past) after

section World
variable {S : Type} {w after : Working} {s left : S}

theorem World.perform_completes (world : World (StateM S)) {c : Call} (steady : c.Steady) (w : Working) (s : S) :
    ∃ x after left, (world.perform c).from w s = ((.ok x, after), left) := by
  rcases step : (world.perform c).from w s with ⟨⟨abort | x, after⟩, left⟩
  · exfalso
    cases c with
    | tasks c =>
      rcases World.tasks_of_perform step with ⟨abort, aborted, -, -⟩ | ⟨_, _, _, other, _⟩
      · cases c with
        | create p => exact steady
        | enable name enabled =>
          simp only [TaskCall.perform] at aborted
          split at aborted <;> cases aborted
        | _ => cases aborted
      · cases other
    | _ => cases step
  · exact ⟨x, after, left, rfl⟩

theorem logged_perform (world : World (StateM S)) (c : Surroundings.Call)
    (next : Surroundings.Answer c → Plan Surroundings α) : (Plan.perform c next).logged (m := Performing (StateM S)) world.perform =
      world.perform c >>= fun x => (next x).logged world.perform >>= fun done =>
        pure (done.1, ⟨c, x⟩ :: done.2) := rfl

theorem logged_completes (world : World (StateM S)) {plan : Plan Surroundings α} (makes : plan.Makes Call.Steady)
    (w : Working) (s : S) :
    ∃ a past after left, (plan.logged world.perform).from w s = ((.ok (a, past), after), left) := by
  induction makes generalizing w s with
  | done a => exact ⟨a, [], w, s, rfl⟩
  | @call c next here _ ih =>
    obtain ⟨x, mid, rest, step⟩ := World.perform_completes world here w s
    obtain ⟨a, past, after, left, later⟩ := ih x mid rest
    refine ⟨a, ⟨c, x⟩ :: past, after, left, ?_⟩
    rw [logged_perform, Performing.from_bind, step]
    dsimp only
    rw [Performing.from_bind, later]
    rfl

/-- What is logged is a trace of the plan, and what it did to the work. -/
theorem passes_of_logged {world : World (StateM S)} {plan : Plan Surroundings α} {a : α} {past : List Surroundings.Event}
    (done : (plan.logged world.perform).from w s = ((.ok (a, past), after), left)) :
    plan.Traces past a ∧ Passes w past after := by
  induction plan generalizing w s past with
  | done a =>
    cases done
    exact ⟨.done _, .none _⟩
  | perform c next ih =>
    rw [logged_perform, Performing.from_bind] at done
    rcases step : (world.perform c).from w s with ⟨⟨abort | x, mid⟩, rest⟩
    · rw [step] at done
      cases done
    · rw [step] at done
      dsimp only at done
      rw [Performing.from_bind] at done
      rcases later : ((next x).logged world.perform).from mid rest with ⟨⟨abort | ⟨b, more⟩, last⟩, left'⟩
      · rw [later] at done
        cases done
      · rw [later] at done
        cases done
        obtain ⟨traces, passes⟩ := ih x later
        exact ⟨Plan.Traces.call (I := Surroundings) x traces, .call (World.acts_of_perform step) passes⟩

theorem run_of_logged {world : World (StateM S)} {plan : Plan Surroundings α} {a : α} {past : List Surroundings.Event}
    (done : (plan.logged world.perform).from w s = ((.ok (a, past), after), left)) :
    (plan.run world.perform).from w s = ((.ok a, after), left) := by
  have same := congrArg (fun part : Performing (StateM S) α => part.from w s)
    (Plan.run_eq_logged (I := Surroundings) (m := Performing (StateM S)) world.perform plan)
  refine same.trans ?_
  rw [map_eq_pure_bind, Performing.from_bind, done]
  rfl

end World

theorem passes_append {w after : Working} {first second : List Surroundings.Event}
    (passes : Passes w (first ++ second) after) : ∃ mid, Passes w first mid ∧ Passes mid second after := by
  induction first generalizing w with
  | nil => exact ⟨w, .none w, passes⟩
  | cons event first ih =>
    cases passes with
    | call acts rest =>
      obtain ⟨mid, before, behind⟩ := ih rest
      exact ⟨mid, .call acts before, behind⟩

/-! The guards and the stop. -/

theorem guards_of_works {w after : Working} {past : List Surroundings.Event} (passes : Passes w past after)
    (works : ∀ event ∈ past, event.1.Works) : after.session.guards = w.session.guards := by
  induction passes with
  | none w => rfl
  | @call w mid after c x past acts _ ih =>
    have here := (acts_guards acts).2.2 (works ⟨c, x⟩ List.mem_cons_self)
    rw [ih fun event mem => works event (List.mem_cons_of_mem _ mem), here]

theorem guards_of_bracket {w after : Working} {g : Guard} (inner : List Surroundings.Event)
    {rest : List Surroundings.Event} (passes : Passes w (⟨.hold g, true⟩ :: (inner ++ ⟨.release g, ()⟩ :: rest)) after)
    (works : ∀ event ∈ inner, event.1.Works) (works' : ∀ event ∈ rest, event.1.Works) :
    after.session.guards = w.session.guards := by
  cases passes with
  | call taken passes =>
    obtain ⟨mid, working, freeing⟩ := passes_append passes
    cases freeing with
    | call freed resting =>
      obtain ⟨free, held⟩ := (acts_guards taken).1 g true rfl
      have released := (acts_guards freed).2.1 g rfl
      rw [guards_of_works resting works', released, guards_of_works working works, held]
      -- it was free when it was taken, so freeing it again changes nothing
      refine GuardSet.ext fun other => ?_
      show (if other = g then false else if other = g then true else w.session.guards.isHeld other) = _
      split
      · rename_i same
        rw [same]
        simpa using free
      · rfl

theorem guards_of_refused {w after : Working} {g : Guard} {rest : List Surroundings.Event}
    (passes : Passes w (⟨.hold g, false⟩ :: rest) after) (works : ∀ event ∈ rest, event.1.Works) :
    after.session.guards = w.session.guards := by
  cases passes with
  | call refused resting =>
    obtain ⟨busy, held⟩ := (acts_guards refused).1 g false rfl
    rw [guards_of_works resting works, held, GuardSet.set_of_held (by simpa using busy)]

theorem telling_works {told : List Surroundings.Event} (telling : Telling told) :
    ∀ event ∈ told, event.1.Works := by
  cases telling <;> simp [Call.Works]

theorem updates_works {c : Call} (updates : c.Updates) : c.Works := by
  cases c <;> trivial

theorem guards_of_course {current : Version} {c : Command} {w after : Working}
    {past : List Surroundings.Event} (course : UpdateCourse current c past) (passes : Passes w past after) :
    after.session.guards = w.session.guards := by
  cases course with
  | refused x told =>
    refine guards_of_refused passes ?_
    rcases told with rfl | telling
    · simp [Call.Works]
    · exact List.forall_mem_cons.2 ⟨trivial, telling_works telling⟩
  | unacknowledged e telling =>
    exact guards_of_bracket [_] passes (by simp [Call.Works]) (telling_works telling)
  | updated sent flushed run =>
    refine guards_of_bracket (_ :: _) passes ?_ (by simp [lastCalls, Call.Works])
    exact List.forall_mem_cons.2 ⟨trivial, fun event mem => updates_works (updates_of_run run event mem)⟩

theorem guards_of_uninstall {w after : Working} {past : List Surroundings.Event}
    (course : UninstallCourse past) (passes : Passes w past after) :
    after.session.guards = w.session.guards := by
  cases course
  exact guards_of_works passes (by simp [lastCalls, Call.Works])

theorem acts_stopping {w after : Working} {c : Call} {x : c.Answer} (acts : Acts w c x after) :
    after.session.stopping = true ↔ w.session.stopping = true ∨ c = .beginStop := by
  cases c with
  | reply payload =>
    obtain ⟨_, _, -, rfl⟩ := acts
    simp
  | hasReplied => rw [acts.2]; simp
  | flush => rw [acts.2]; simp
  | tasks c =>
    obtain ⟨_, _, -, rfl⟩ := acts
    simp
  | hold g =>
    obtain ⟨_, -, rfl⟩ := acts
    simp
  | _ =>
    rw [show after = _ from acts]
    simp

theorem stopping_of_passes {w after : Working} {past : List Surroundings.Event} (passes : Passes w past after) :
    after.session.stopping = true ↔ w.session.stopping = true ∨ ∃ event ∈ past, event.1 = .beginStop := by
  induction passes with
  | none w => simp
  | @call w mid after c x past acts _ ih =>
    rw [ih, acts_stopping acts]
    constructor
    · rintro ((before | rfl) | ⟨event, mem, stops⟩)
      · exact .inl before
      · exact .inr ⟨_, List.mem_cons_self, rfl⟩
      · exact .inr ⟨event, List.mem_cons_of_mem _ mem, stops⟩
    · rintro (before | ⟨event, mem, stops⟩)
      · exact .inl (.inl before)
      · rcases List.mem_cons.1 mem with rfl | mem
        · exact .inl (.inr stops)
        · exact .inr ⟨event, mem, stops⟩

/-! Runs to the end. -/

theorem answerable (c : Call) : Nonempty c.Answer := by
  cases c with
  | host c => cases c <;> first | exact ⟨.error []⟩ | exact ⟨false⟩ | exact ⟨.ok⟩ | exact ⟨⟨"", false⟩⟩
  | tasks c => cases c <;> first | exact ⟨.ok ()⟩ | exact ⟨[]⟩ | exact ⟨(0 : Nat)⟩
  | request r => exact ⟨.unreachable⟩
  | launch l => exact ⟨.error (.notFound 0)⟩
  | processes => exact ⟨.error []⟩
  | kill pid => exact ⟨.ok ()⟩
  | install bytes => exact ⟨.ok ()⟩
  | reply payload => exact ⟨.ok true⟩
  | flush => exact ⟨.ok ()⟩
  | hasReplied => exact ⟨true⟩
  | hold g => exact ⟨true⟩
  | _ => exact ⟨()⟩

theorem steady_of_course {current : Version} {c : Command} {past : List Surroundings.Event}
    (course : UpdateCourse current c past) : ∀ event ∈ past, event.1.Steady := by
  have telling : ∀ {told : List Surroundings.Event}, Telling told → ∀ event ∈ told, event.1.Steady := by
    intro told telling
    cases telling <;> simp [Call.Steady]
  have updates : ∀ {c : Call}, c.Updates → c.Steady := by
    intro c updates
    cases c <;> trivial
  cases course with
  | refused x told =>
    rcases told with rfl | told
    · simp [Call.Steady]
    · simpa [Call.Steady] using telling told
  | unacknowledged e told => simpa [Call.Steady] using telling told
  | updated sent flushed run =>
    have working := updates_of_run run
    intro event mem
    simp only [lastCalls, List.mem_cons, List.mem_append, List.not_mem_nil, or_false] at mem
    rcases mem with rfl | rfl | here | rfl | rfl | rfl | rfl
    · trivial
    · trivial
    · exact updates (working event here)
    all_goals trivial

theorem steady_of_uninstall {past : List Surroundings.Event} (course : UninstallCourse past) :
    ∀ event ∈ past, event.1.Steady := by
  cases course
  simp [Call.Steady, lastCalls]

/-- In this world the plan comes to its end, and this holds of its calls and of the work after it. -/
def Concludes {S : Type} (world : World (StateM S)) (plan : Plan Surroundings α) (w : Working) (s : S)
    (holds : List Surroundings.Event → Working → Prop) : Prop :=
  ∃ b past after left, (plan.logged world.perform).from w s = ((.ok (b, past), after), left) ∧
    (plan.run world.perform).from w s = ((.ok b, after), left) ∧ plan.Traces past b ∧ holds past after

theorem concludes_of_makes {S : Type} {world : World (StateM S)} {plan : Plan Surroundings α}
    (makes : plan.Makes Call.Steady) (w : Working) (s : S) {holds : List Surroundings.Event → Working → Prop}
    (course : ∀ past b after, plan.Traces past b → Passes w past after → holds past after) :
    Concludes world plan w s holds := by
  obtain ⟨b, past, after, left, logged⟩ := logged_completes world makes w s
  obtain ⟨traces, passes⟩ := passes_of_logged logged
  exact ⟨b, past, after, left, logged, run_of_logged logged, traces, course past b after traces passes⟩

theorem stops_iff_begun {current : Version} {c : Command} {past : List Surroundings.Event}
    (ends : UpdateEnds current c past) : (∃ event ∈ past, event.1 = .beginStop) ↔ Begun past := by
  constructor
  · rintro ⟨event, mem, stops⟩
    refine Classical.byContradiction fun not => ?_
    have lasting := (ends.never not event mem).2
    rw [stops] at lasting
    exact lasting trivial
  · rintro ⟨sent, rest, same⟩
    cases ends.course with
    | refused => cases same
    | unacknowledged => cases same
    | updated sent flushed run => exact ⟨⟨.beginStop, ()⟩, by simp [lastCalls], rfl⟩

/-- However its calls are answered, a self-update or an uninstall ends the agent last, an update only if it
got its guard and was acknowledged; and in every world both come to their end. -/
theorem ends_last (a : Agent) (c : Command) :
    Handler.table.lookup "agent-self-update" = some Handler.agentSelfUpdate ∧
    Handler.table.lookup "agent-uninstall" = some Handler.agentUninstall ∧
    (∀ past b, (answering (Handler.agentSelfUpdate a c)).Traces past b → UpdateEnds a.version c past) ∧
    (∀ past b, (answering (Handler.agentUninstall a c)).Traces past b →
      UninstallCourse past ∧ exitCodes past = [0]) ∧
    ∀ (S : Type) (world : World (StateM S)) w s,
      Concludes world (answering (Handler.agentSelfUpdate a c)) w s (fun past after =>
        UpdateEnds a.version c past ∧ after.session.guards = w.session.guards ∧
        (after.session.stopping = true ↔ w.session.stopping = true ∨ Begun past)) ∧
      Concludes world (answering (Handler.agentUninstall a c)) w s (fun past after =>
        UninstallCourse past ∧ exitCodes past = [0] ∧ after.session.guards = w.session.guards ∧
        after.session.stopping = true) := by
  have update : ∀ past b, (answering (Handler.agentSelfUpdate a c)).Traces past b →
      UpdateEnds a.version c past := fun past b traces => updateEnds_of_course (updateCourse_of_traces traces)
  have uninstall : ∀ past b, (answering (Handler.agentUninstall a c)).Traces past b →
      UninstallCourse past := fun past b traces => uninstallCourse_of_traces traces
  refine ⟨rfl, rfl, update, fun past b traces => ?_, fun S world w s => ⟨?_, ?_⟩⟩
  · exact ⟨uninstall past b traces, exitCodes_of_uninstall (uninstall past b traces)⟩
  · have makes := Plan.makes_of_traces (I := Surroundings) answerable fun past b traces =>
      steady_of_course (update past b traces).course
    refine concludes_of_makes makes w s ?_
    intro past b after traces passes
    have ends := update past b traces
    refine ⟨ends, guards_of_course ends.course passes, ?_⟩
    rw [stopping_of_passes passes, stops_iff_begun ends]
  · have makes := Plan.makes_of_traces (I := Surroundings) answerable fun past b traces =>
      steady_of_uninstall (uninstall past b traces)
    refine concludes_of_makes makes w s ?_
    intro past b after traces passes
    have course := uninstall past b traces
    refine ⟨course, exitCodes_of_uninstall course, guards_of_uninstall course passes, ?_⟩
    refine (stopping_of_passes passes).2 (.inr ?_)
    cases course
    exact ⟨⟨.beginStop, ()⟩, by simp [lastCalls], rfl⟩

theorem ends_last_noAddress : ∃ past,
    (answering (Handler.agentSelfUpdate idleAgent (.named "agent-self-update"))).Traces past true ∧
    Begun past ∧ exitCodes past = [0] := by
  have traces : (answering (Handler.agentSelfUpdate idleAgent (.named "agent-self-update"))).Traces
      (⟨.hold .selfUpdate, true⟩ :: ⟨.reply (Wire.encode replyOk), .ok true⟩ ::
        ⟨.release .selfUpdate, ()⟩ :: lastCalls (.error (.flush "down"))) true := by
    iterate 6 refine Plan.Traces.call (I := Surroundings) _ ?_
    exact Plan.Traces.done true
  refine ⟨_, traces, ⟨true, _, rfl⟩, ?_⟩
  exact ((ends_last _ _).2.2.1 _ _ traces).once ⟨true, _, rfl⟩

end Steward.Agent
