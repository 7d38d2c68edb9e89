import Steward.Plan

/-!
Reasoning about plans. Rules over some states say which calls may be made in a state, and to which
states a call may lead with the answer it gets. A plan keeps the rules when each call is allowed
whenever it can come to it; what holds at its end is found by going through the plan, as with weakest
preconditions.
-/
namespace Steward

structure Rules (I : Interface) (σ : Type) where
  allows : σ → I.Call → Prop
  leads : σ → (c : I.Call) → I.Answer c → σ → Prop

namespace Plan

variable {I : Interface} {σ α β : Type} {rules other : Rules I σ} {s after : σ}

/-- From this state on the plan keeps the rules, and ends as stated. -/
inductive Keeps (rules : Rules I σ) (ends : α → σ → Prop) : Plan I α → σ → Prop where
  | done {a : α} {s : σ} : ends a s → Keeps rules ends (done a) s
  | call {c : I.Call} {next : I.Answer c → Plan I α} {s : σ} : rules.allows s c →
      (∀ x after, rules.leads s c x after → Keeps rules ends (next x) after) →
      Keeps rules ends (perform c next) s

/-- The plan, begun in one state, can get to where `rest` is left of it in another. -/
inductive Reaches (rules : Rules I σ) : Plan I α → σ → Plan I α → σ → Prop where
  | start (p : Plan I α) (s : σ) : Reaches rules p s p s
  | call {c : I.Call} {next : I.Answer c → Plan I α} {s mid after : σ} {x : I.Answer c}
      {rest : Plan I α} : rules.leads s c x mid → Reaches rules (next x) mid rest after →
      Reaches rules (perform c next) s rest after

inductive Makes (only : I.Call → Prop) : Plan I α → Prop where
  | done (a : α) : Makes only (done a)
  | call {c : I.Call} {next : I.Answer c → Plan I α} : only c → (∀ x, Makes only (next x)) →
      Makes only (perform c next)

theorem bind_done (p : Plan I α) : p.bind done = p := by
  induction p with
  | done a => rfl
  | perform c next ih => exact congrArg (perform c) (funext ih)

theorem bind_assoc {γ : Type} (p : Plan I α) (f : α → Plan I β) (g : β → Plan I γ) :
    (p.bind f).bind g = p.bind fun a => (f a).bind g := by
  induction p with
  | done a => rfl
  | perform c next ih => exact congrArg (perform c) (funext ih)

instance : LawfulMonad (Plan I) :=
  LawfulMonad.mk' (Plan I) bind_done (fun _ _ => rfl) bind_assoc

theorem Keeps.bind {p : Plan I α} {f : α → Plan I β} {ends : β → σ → Prop}
    (keeps : p.Keeps rules (fun a after => (f a).Keeps rules ends after) s) :
    (p.bind f).Keeps rules ends s := by
  induction keeps with
  | done holds => exact holds
  | call allowed _ ih => exact .call allowed ih

theorem Keeps.mono {p : Plan I α} {ends weaker : α → σ → Prop} (keeps : p.Keeps rules ends s)
    (weaken : ∀ a after, ends a after → weaker a after) : p.Keeps rules weaker s := by
  induction keeps with
  | done holds => exact .done (weaken _ _ holds)
  | call allowed _ ih => exact .call allowed ih

theorem makes_bind {only : I.Call → Prop} {p : Plan I α} {f : α → Plan I β} (first : p.Makes only)
    (later : ∀ a, (f a).Makes only) : (p.bind f).Makes only := by
  induction first with
  | done a => exact later a
  | call here _ ih => exact .call here ih

theorem Makes.mono {only more : I.Call → Prop} {p : Plan I α} (makes : p.Makes only)
    (weaken : ∀ c, only c → more c) : p.Makes more := by
  induction makes with
  | done a => exact .done a
  | call here _ ih => exact .call (weaken _ here) ih

theorem makes_mapM {only : I.Call → Prop} {ps : List (Plan I α)} (each : ∀ p ∈ ps, p.Makes only) :
    (ps.mapM id).Makes only := by
  induction ps with
  | nil => exact .done []
  | cons p ps ih =>
    rw [List.mapM_cons]
    apply makes_bind (each p List.mem_cons_self)
    intro a
    apply makes_bind (ih fun q mem => each q (List.mem_cons_of_mem p mem))
    intro as
    exact .done (a :: as)

theorem makes_beside {only : I.Call → Prop} (order : List Nat) {ps : List (Plan I α)}
    (each : ∀ p ∈ ps, p.Makes only) : (beside order ps).Makes only := by
  induction order generalizing ps with
  | nil => exact makes_mapM each
  | cons i order ih =>
    rw [beside]
    split
    · rename_i c next here
      cases each _ (List.mem_of_getElem? here) with
      | call allowed later =>
        apply Makes.call allowed
        intro x
        apply ih
        intro p mem
        rcases List.mem_or_eq_of_mem_set mem with before | rfl
        · exact each p before
        · exact later x
    · exact ih each

theorem Makes.keeps {only : I.Call → Prop} {p : Plan I α} (makes : p.Makes only)
    (allowed : ∀ c, only c → rules.allows s c)
    (stays : ∀ c, only c → ∀ x after, rules.leads s c x after → after = s) :
    p.Keeps rules (fun _ after => after = s) s := by
  induction makes with
  | done a => exact .done rfl
  | call here _ ih =>
    refine .call (allowed _ here) fun x after leads => ?_
    rw [stays _ here x after leads]
    exact ih x

/-- What was to be shown of a plan is still to be shown of the rest. -/
theorem Keeps.of_reaches {p rest : Plan I α} {ends : α → σ → Prop} (keeps : p.Keeps rules ends s)
    (reaches : Reaches rules p s rest after) : rest.Keeps rules ends after := by
  induction reaches with
  | start p s => exact keeps
  | call leads _ ih =>
    cases keeps with
    | call _ later => exact ih (later _ _ leads)

theorem Keeps.at_end {p : Plan I α} {ends : α → σ → Prop} {a : α} (keeps : p.Keeps rules ends s)
    (reaches : Reaches rules p s (.done a) after) : ends a after := by
  cases keeps.of_reaches reaches with
  | done holds => exact holds

theorem Reaches.invariant {p rest : Plan I α} {inv : σ → Prop}
    (step : ∀ s c x after, inv s → rules.leads s c x after → inv after) (before : inv s)
    (reaches : Reaches rules p s rest after) : inv after := by
  induction reaches with
  | start p s => exact before
  | call leads _ ih => exact ih (step _ _ _ _ before leads)

theorem Reaches.mono {p rest : Plan I α}
    (weaken : ∀ s c x after, rules.leads s c x after → other.leads s c x after)
    (reaches : Reaches rules p s rest after) : Reaches other p s rest after := by
  induction reaches with
  | start p s => exact .start p s
  | call leads _ ih => exact .call (weaken _ _ _ _ leads) ih

/-- A plan of two parts that has come to its end has come to the end of the first one before. -/
theorem Reaches.of_bind {p : Plan I α} {f : α → Plan I β} {b : β}
    (reaches : Reaches rules (p.bind f) s (done b) after) :
    ∃ a mid, Reaches rules p s (done a) mid ∧ Reaches rules (f a) mid (done b) after := by
  induction p generalizing s with
  | done a => exact ⟨a, s, .start _ s, reaches⟩
  | perform c next ih =>
    cases reaches with
    | call leads later =>
      obtain ⟨a, mid, first, second⟩ := ih _ later
      exact ⟨a, mid, .call leads first, second⟩

end Plan

namespace Action

variable {I : Interface} {σ α β : Type} {rules : Rules I σ} {s : σ}
  {ok : α → σ → Prop} {failed : Chain → σ → Prop}

def ending (ok : α → σ → Prop) (failed : Chain → σ → Prop) : Except Chain α → σ → Prop
  | .ok a, s => ok a s
  | .error e, s => failed e s

def Ends (rules : Rules I σ) (ok : α → σ → Prop) (failed : Chain → σ → Prop) (x : Action I α) (s : σ) :
    Prop :=
  Plan.Keeps rules (ending ok failed) (ExceptT.run x) s

theorem ends_pure {a : α} (holds : ok a s) : Ends rules ok failed (pure a) s := .done holds

theorem ends_throw {e : Chain} (holds : failed e s) :
    Ends rules ok failed (throw e : Action I α) s := .done holds

theorem ends_bind {x : Action I α} {f : α → Action I β} {ok : β → σ → Prop}
    (first : Ends rules (fun a after => Ends rules ok failed (f a) after) failed x s) :
    Ends rules ok failed (x >>= f) s := by
  refine Plan.Keeps.bind (Plan.Keeps.mono first fun outcome after holds => ?_)
  cases outcome with
  | ok a => exact holds
  | error e => exact .done holds

theorem ends_lift {p : Plan I α} (keeps : p.Keeps rules ok s) :
    Ends rules ok failed (ExceptT.lift p) s :=
  Plan.Keeps.bind (keeps.mono fun _ _ holds => .done holds)

theorem ends_attempt {x : Action I α} {ok : Except Chain α → σ → Prop}
    (ends : Ends rules (fun a => ok (.ok a)) (fun e => ok (.error e)) x s) :
    Ends rules ok failed (attempt x) s := by
  refine ends_lift (Plan.Keeps.mono ends fun outcome after holds => ?_)
  cases outcome with
  | ok a => exact holds
  | error e => exact holds

theorem Ends.mono {x : Action I α} {weakOk : α → σ → Prop} {weakFailed : Chain → σ → Prop}
    (ends : Ends rules ok failed x s) (weaken : ∀ a after, ok a after → weakOk a after)
    (weakenFailed : ∀ e after, failed e after → weakFailed e after) :
    Ends rules weakOk weakFailed x s := by
  refine Plan.Keeps.mono ends fun outcome after holds => ?_
  cases outcome with
  | ok a => exact weaken a after holds
  | error e => exact weakenFailed e after holds

def Makes (only : I.Call → Prop) (x : Action I α) : Prop := Plan.Makes only (ExceptT.run x)

section Makes
variable {only more : I.Call → Prop}

theorem makes_pure (a : α) : Makes only (pure a : Action I α) := .done _

theorem makes_throw (e : Chain) : Makes only (throw e : Action I α) := .done _

theorem makes_bind {x : Action I α} {f : α → Action I β} (first : Makes only x)
    (later : ∀ a, Makes only (f a)) : Makes only (x >>= f) := by
  refine Plan.makes_bind first fun outcome => ?_
  cases outcome with
  | ok a => exact later a
  | error e => exact .done _

theorem makes_lift {p : Plan I α} (makes : p.Makes only) : Makes only (ExceptT.lift p : Action I α) :=
  Plan.makes_bind makes fun _ => .done _

theorem makes_attempt {x : Action I α} (makes : Makes only x) : Makes only (attempt x) := makes_lift makes

theorem makes_ofExcept (chain : ε → Chain) (x : Except ε α) :
    Makes only (ofExcept chain x : Action I α) := by
  cases x with
  | ok a => exact makes_pure a
  | error e => exact makes_throw (chain e)

theorem Makes.mono {x : Action I α} (makes : Makes only x) (weaken : ∀ c, only c → more c) :
    Makes more x :=
  Plan.Makes.mono makes weaken

theorem Makes.ends {x : Action I α} (makes : Makes only x) (allowed : ∀ c, only c → rules.allows s c)
    (stays : ∀ c, only c → ∀ y after, rules.leads s c y after → after = s) :
    Ends rules (fun _ after => after = s) (fun _ after => after = s) x s := by
  refine (Plan.Makes.keeps makes allowed stays).mono fun outcome after same => ?_
  cases outcome with
  | ok a => exact same
  | error e => exact same

end Makes
end Action
end Steward
