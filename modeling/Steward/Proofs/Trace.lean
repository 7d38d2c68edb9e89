import Steward.Proofs.Plan

/-!
Traces of plans. A trace has the calls of one run with their answers, the oldest first. The rules below
take a trace of a plan apart in the way in which the plan is built. `Plan.logged` carries a plan out as
`Plan.run` does and keeps the trace.
-/
namespace Steward

abbrev Interface.Event (I : Interface) := (c : I.Call) × I.Answer c

namespace Plan

variable {I : Interface} {α β : Type}

/-- With these calls and answers the plan comes to its end. -/
inductive Traces : Plan I α → List I.Event → α → Prop where
  | done (a : α) : Traces (done a) [] a
  | call {c : I.Call} {next : I.Answer c → Plan I α} {past : List I.Event} {a : α} (x : I.Answer c) :
      Traces (next x) past a → Traces (perform c next) (⟨c, x⟩ :: past) a

theorem traces_bind {p : Plan I α} {f : α → Plan I β} {past : List I.Event} {b : β} :
    (p.bind f).Traces past b ↔
      ∃ first a second, past = first ++ second ∧ p.Traces first a ∧ (f a).Traces second b := by
  constructor
  · intro traces
    induction p generalizing past with
    | done a => exact ⟨[], a, past, rfl, .done a, traces⟩
    | perform c next ih =>
      cases traces with
      | call x rest =>
        obtain ⟨first, a, second, same, before, after⟩ := ih x rest
        exact ⟨⟨c, x⟩ :: first, a, second, congrArg (⟨c, x⟩ :: ·) same, .call x before, after⟩
  · rintro ⟨first, a, second, rfl, before, after⟩
    induction before with
    | done a => exact after
    | call x _ ih => exact .call x (ih after)

theorem traces_bind_append {p : Plan I α} {f : α → Plan I β} {first second : List I.Event} {a : α} {b : β}
    (before : p.Traces first a) : (p.bind f).Traces (first ++ second) b ↔ (f a).Traces second b := by
  induction before with
  | done a => exact Iff.rfl
  | call x _ ih =>
    rw [← ih]
    constructor
    · intro traces
      cases traces with
      | call x rest => exact rest
    · intro traces
      exact .call x traces

theorem exists_trace (answerable : ∀ c, Nonempty (I.Answer c)) (p : Plan I α) :
    ∃ past a, p.Traces past a := by
  induction p with
  | done a => exact ⟨[], a, .done a⟩
  | perform c next ih =>
    obtain ⟨x⟩ := answerable c
    obtain ⟨past, a, traces⟩ := ih x
    exact ⟨⟨c, x⟩ :: past, a, .call x traces⟩

/-- What holds of the calls of every trace holds of all calls that the plan can come to. -/
theorem makes_of_traces (answerable : ∀ c, Nonempty (I.Answer c)) {only : I.Call → Prop} {p : Plan I α}
    (traced : ∀ past a, p.Traces past a → ∀ e ∈ past, only e.1) : p.Makes only := by
  induction p with
  | done a => exact .done a
  | perform c next ih =>
    constructor
    · obtain ⟨past, a, traces⟩ := exists_trace answerable (perform c next)
      cases traces with
      | call x rest => exact traced _ a (.call x rest) _ List.mem_cons_self
    · intro x
      refine ih x fun past a traces e mem => ?_
      exact traced _ a (.call x traces) e (List.mem_cons_of_mem _ mem)

theorem Makes.of_traces {only : I.Call → Prop} {p : Plan I α} {past : List I.Event} {a : α}
    (makes : p.Makes only) (traces : p.Traces past a) : ∀ e ∈ past, only e.1 := by
  induction traces with
  | done a => exact fun e mem => nomatch mem
  | call x _ ih =>
    cases makes with
    | call allowed later =>
      intro e mem
      rcases List.mem_cons.1 mem with rfl | behind
      · exact allowed
      · exact ih (later x) e behind

def logged {m : Type → Type} [Monad m] (answer : (c : I.Call) → m (I.Answer c)) :
    Plan I α → m (α × List I.Event)
  | done a => pure (a, [])
  | perform c next => do
    let x ← answer c
    let (a, past) ← (next x).logged answer
    pure (a, ⟨c, x⟩ :: past)

theorem run_eq_logged {m : Type → Type} [Monad m] [LawfulMonad m]
    (answer : (c : I.Call) → m (I.Answer c)) (p : Plan I α) :
    p.run answer = Prod.fst <$> p.logged answer := by
  induction p with
  | done a => simp [run, logged]
  | perform c next ih => simp [run, logged, ih]

end Plan

namespace Action

variable {I : Interface} {α β : Type} {past : List I.Event}

abbrev Traces (x : Action I α) (past : List I.Event) (outcome : Except Chain α) : Prop :=
  Plan.Traces (ExceptT.run x) past outcome

theorem traces_pure {a : α} {outcome : Except Chain α} :
    Traces (pure a : Action I α) past outcome ↔ past = [] ∧ outcome = .ok a := by
  constructor
  · intro traces
    cases traces
    exact ⟨rfl, rfl⟩
  · rintro ⟨rfl, rfl⟩
    exact .done _

theorem traces_throw {e : Chain} {outcome : Except Chain α} :
    Traces (throw e : Action I α) past outcome ↔ past = [] ∧ outcome = .error e := by
  constructor
  · intro traces
    cases traces
    exact ⟨rfl, rfl⟩
  · rintro ⟨rfl, rfl⟩
    exact .done _

theorem traces_bind {x : Action I α} {f : α → Action I β} {outcome : Except Chain β} :
    Traces (x >>= f) past outcome ↔
      (∃ e, Traces x past (.error e) ∧ outcome = .error e) ∨
      ∃ first a second, past = first ++ second ∧ Traces x first (.ok a) ∧ Traces (f a) second outcome := by
  constructor
  · intro traces
    obtain ⟨first, result, second, same, before, after⟩ := Plan.traces_bind.1 traces
    cases result with
    | ok a => exact .inr ⟨first, a, second, same, before, after⟩
    | error e =>
      cases after
      rw [List.append_nil] at same
      rw [same]
      exact .inl ⟨e, before, rfl⟩
  · rintro (⟨e, before, rfl⟩ | ⟨first, a, second, same, before, after⟩)
    · exact Plan.traces_bind.2 ⟨past, .error e, [], (List.append_nil past).symm, before, .done _⟩
    · exact Plan.traces_bind.2 ⟨first, .ok a, second, same, before, after⟩

theorem traces_bind_append {x : Action I α} {f : α → Action I β} {first second : List I.Event} {a : α}
    {outcome : Except Chain β} (before : Traces x first (.ok a)) :
    Traces (x >>= f) (first ++ second) outcome ↔ Traces (f a) second outcome :=
  Plan.traces_bind_append before

theorem traces_lift {p : Plan I α} {outcome : Except Chain α} :
    Traces (ExceptT.lift p) past outcome ↔ ∃ a, p.Traces past a ∧ outcome = .ok a := by
  constructor
  · intro traces
    obtain ⟨first, a, second, same, before, after⟩ := Plan.traces_bind.1 traces
    cases after
    rw [List.append_nil] at same
    rw [same]
    exact ⟨a, before, rfl⟩
  · rintro ⟨a, before, rfl⟩
    exact Plan.traces_bind.2 ⟨past, a, [], (List.append_nil past).symm, before, .done _⟩

theorem traces_attempt {x : Action I α} {outcome : Except Chain (Except Chain α)} :
    Traces (attempt x) past outcome ↔ ∃ inner, Traces x past inner ∧ outcome = .ok inner := traces_lift

theorem traces_ofExcept {chain : ε → Chain} {x : Except ε α} {outcome : Except Chain α} :
    Traces (ofExcept chain x : Action I α) past outcome ↔ past = [] ∧ outcome = x.mapError chain := by
  cases x with
  | ok a => exact traces_pure
  | error e => exact traces_throw

theorem ofExcept_bind (chain : ε → Chain) (x : Except ε α) (f : α → Except ε β) :
    (ofExcept chain x >>= fun a => ofExcept chain (f a) : Action I β) = ofExcept chain (x.bind f) := by
  cases x with
  | ok a => rfl
  | error e => rfl

theorem ofExcept_map (chain : ε → Chain) (x : Except ε α) (f : α → β) :
    (ofExcept chain x >>= fun a => pure (f a) : Action I β) = ofExcept chain (x.map f) := by
  cases x with
  | ok a => rfl
  | error e => rfl

theorem traces_ofExcept_bind {chain : ε → Chain} {x : Except ε α} {f : α → Action I β}
    {outcome : Except Chain β} :
    Traces (ofExcept chain x >>= f) past outcome ↔
      (∃ e, x = .error e ∧ past = [] ∧ outcome = .error (chain e)) ∨
      ∃ a, x = .ok a ∧ Traces (f a) past outcome := by
  cases x with
  | ok a =>
    constructor
    · intro traces
      exact .inr ⟨a, rfl, traces⟩
    · rintro (⟨e, other, -⟩ | ⟨b, same, traces⟩)
      · cases other
      · cases same
        exact traces
  | error e =>
    constructor
    · intro traces
      obtain ⟨none, failed⟩ := traces_throw.1 traces
      exact .inl ⟨e, rfl, none, failed⟩
    · rintro (⟨e', same, none, failed⟩ | ⟨b, other, -⟩)
      · cases same
        exact traces_throw.2 ⟨none, failed⟩
      · cases other

end Action
end Steward
