import Steward.Agent.Session
import Steward.Proofs.Plan

/-!
What the calls of a job do to the session and to the responder of its command, whatever the world
outside answers. Running a job in a world (`World.perform`) is one way to go through these acts.
-/
namespace Steward.Agent

open Steward.Bus Steward.Schedule

/-- A call, answered with `x`, leaves the work in the state `after`. -/
def Acts (w : Working) (c : Call) (x : c.Answer) (after : Working) : Prop :=
  match c, x with
  | .reply payload, x => ∃ r t, w.responder.send w.session.transport payload = (r, t, x) ∧
      after = { session := { w.session with transport := t }, responder := r }
  | .hasReplied, x => x = w.responder.sent ∧ after = w
  | .flush, x => x = w.session.transport.flush ∧ after = w
  | .tasks c, x => ∃ now store, c.perform w.session.store now = .ok (store, x) ∧
      after = { w with session := { w.session with store } }
  | .hold g, x => ∃ guards, w.session.guards.acquire g = (x, guards) ∧
      after = { w with session := { w.session with guards } }
  | .release g, _ => after = { w with session := { w.session with guards := w.session.guards.release g } }
  | .beginStop, _ => after = { w with session := { w.session with stopping := true } }
  | _, _ => after = w

theorem ends_call {rules : Rules Surroundings σ} {s : σ} {c : Call} {ok : c.Answer → σ → Prop}
    {failed : Chain → σ → Prop} (allowed : rules.allows s c)
    (leads : ∀ x after, rules.leads s c x after → ok x after) :
    Action.Ends rules ok failed (call c) s :=
  Action.ends_lift (.call allowed fun x after led => .done (leads x after led))

def sessionRules : Rules Surroundings Working := ⟨fun _ _ => True, Acts⟩

section World
variable {S : Type} {world : World (StateM S)} {w after : Working} {s left : S}

def Performing.from (part : Performing (StateM S) α) (w : Working) (s : S) :
    (Except Abort α × Working) × S :=
  (part.run.run w).run s

theorem Performing.from_bind {part : Performing (StateM S) α} {f : α → Performing (StateM S) β} :
    (part >>= f).from w s = match part.from w s with
      | ((.ok x, after), left) => (f x).from after left
      | ((.error abort, after), left) => ((.error abort, after), left) := by
  unfold Performing.from
  rw [ExceptT.run_bind, StateT.run_bind, StateT.run_bind]
  rcases (part.run.run w).run s with ⟨⟨x | x, after⟩, left⟩
  · rfl
  · rfl

theorem World.tasks_of_perform {c : TaskCall} {result : Except Abort c.Answer}
    (done : (world.perform (.tasks c)).from w s = ((result, after), left)) :
    (∃ abort, c.perform w.session.store world.now = .error abort ∧ result = .error abort ∧ after = w) ∨
    ∃ store x, c.perform w.session.store world.now = .ok (store, x) ∧ result = .ok x ∧
      after = { w with session := { w.session with store } } := by
  have unfolded : (world.perform (.tasks c)).from w s =
      ((World.perform.liftExcept (c.perform w.session.store world.now) >>= fun p => do
        modifySession fun session => { session with store := p.1 }
        return p.2) : Performing (StateM S) c.Answer).from w s := rfl
  rw [unfolded, Performing.from_bind] at done
  cases performed : c.perform w.session.store world.now with
  | error abort =>
    rw [performed] at done
    cases done
    exact .inl ⟨abort, rfl, rfl, rfl⟩
  | ok p =>
    rw [performed] at done
    cases done
    exact .inr ⟨p.1, p.2, rfl, rfl, rfl⟩

theorem World.acts_of_perform {c : Call} {x : c.Answer}
    (done : (world.perform c).from w s = ((.ok x, after), left)) : Acts w c x after := by
  cases c with
  | reply payload =>
    cases done
    exact ⟨_, _, rfl, rfl⟩
  | hasReplied =>
    cases done
    exact ⟨rfl, rfl⟩
  | flush =>
    cases done
    exact ⟨rfl, rfl⟩
  | tasks c =>
    rcases World.tasks_of_perform done with ⟨abort, -, failed, -⟩ | ⟨store, y, performed, same, moved⟩
    · cases failed
    · cases same
      exact ⟨world.now, store, performed, moved⟩
  | hold g =>
    cases done
    exact ⟨_, rfl, rfl⟩
  | release g =>
    cases done
    rfl
  | beginStop =>
    cases done
    rfl
  | _ =>
    cases done
    rfl

theorem World.unchanged_of_abort {c : Call} {abort : Abort}
    (done : (world.perform c).from w s = ((.error abort, after), left)) : after = w := by
  cases c with
  | tasks c =>
    rcases World.tasks_of_perform done with ⟨-, -, -, same⟩ | ⟨_, _, _, other, _⟩
    · exact same
    · cases other
  | _ => cases done

/-- A plan that is run in a world goes through acts, up to its end unless it is aborted. -/
theorem reaches_of_run {plan : Plan Surroundings α} {result : Except Abort α}
    (done : (plan.run world.perform).from w s = ((result, after), left)) :
    ∃ rest, Plan.Reaches sessionRules plan w rest after ∧ ∀ a, result = .ok a → rest = .done a := by
  induction plan generalizing w s with
  | done a =>
    cases done
    exact ⟨.done a, .start _ _, fun b same => by cases same; rfl⟩
  | perform c next ih =>
    have unfolded : Plan.run (m := Performing (StateM S)) world.perform (Plan.perform c next) =
        world.perform c >>= fun x => (next x).run world.perform := rfl
    rw [unfolded, Performing.from_bind] at done
    rcases step : (world.perform c).from w s with ⟨⟨abort | x, mid⟩, midLeft⟩
    · rw [step] at done
      cases done
      have same := World.unchanged_of_abort step
      subst same
      exact ⟨.perform c next, .start _ _, fun a other => by cases other⟩
    · rw [step] at done
      obtain ⟨rest, reaches, ended⟩ := ih x done
      exact ⟨rest, .call (World.acts_of_perform step) reaches, ended⟩

end World
end Steward.Agent
