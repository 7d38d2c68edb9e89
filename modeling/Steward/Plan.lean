/-!
Plans: what is to be done, as a tree of calls to the surroundings. A plan either is done, or performs
a call and goes on as the answer says. `Plan.run` carries a plan out with given answers; `Plan.runTo`
stops in front of the first call of some kind and hands back the rest of the plan.

An action is a plan that may fail with a chain of messages, the outermost first.
-/
namespace Steward

/-- The calls that can be made, and what each is answered with. -/
structure Interface where
  Call : Type
  Answer : Call → Type

inductive Plan (I : Interface) (α : Type) where
  | done (a : α)
  | perform (c : I.Call) (next : I.Answer c → Plan I α)

namespace Plan

variable {I : Interface} {α β : Type}

def bind : Plan I α → (α → Plan I β) → Plan I β
  | done a, f => f a
  | perform c next, f => perform c fun x => (next x).bind f

instance : Monad (Plan I) where
  pure := done
  bind := bind

/-- A single call, answered. -/
def ask (c : I.Call) : Plan I (I.Answer c) := perform c done

def run {m : Type → Type} [Monad m] (answer : (c : I.Call) → m (I.Answer c)) : Plan I α → m α
  | done a => pure a
  | perform c next => do
    let x ← answer c
    (next x).run answer

def runTo {m : Type → Type} [Monad m] (stopsAt : I.Call → Bool)
    (answer : (c : I.Call) → m (I.Answer c)) : Plan I α → m (Plan I α)
  | done a => pure (done a)
  | perform c next =>
    if stopsAt c then pure (perform c next)
    else do
      let x ← answer c
      (next x).runTo stopsAt answer

/-- Plans side by side: the next call is made by the plan at the next place of `order`, and what is left to
do when `order` ends is done plan by plan. A place whose plan has nothing to call is passed over. -/
def beside : (order : List Nat) → List (Plan I α) → Plan I (List α)
  | [], ps => ps.mapM id
  | i :: order, ps =>
    match ps[i]? with
    | some (perform c next) => perform c fun x => beside order (ps.set i (next x))
    | _ => beside order ps

end Plan

/-- The messages of a failure, each caused by the next. -/
abbrev Chain := List String

/-- The message without its causes. -/
def Chain.outermost (c : Chain) : String := c.headD ""

/-- The message with all its causes. -/
def Chain.full (c : Chain) : String := ": ".intercalate c

/-- A plan that may fail. -/
abbrev Action (I : Interface) := ExceptT Chain (Plan I)

namespace Action

variable {I : Interface} {α : Type}

/-- The result of an action, failed or not. -/
def attempt (a : Action I α) : Action I (Except Chain α) := ExceptT.lift (ExceptT.run a)

def fail (message : String) : Action I α := throw [message]

def ofExcept (chain : ε → Chain) : Except ε α → Action I α
  | .ok a => pure a
  | .error e => throw (chain e)

end Action
end Steward
