import Steward.Proofs.Trace

/-!
Plans carried out side by side. Their calls mix in any way; what each plan calls and comes to is what it
would call and come to on its own.
-/
namespace Steward.Plan

variable {I : Interface} {α β : Type} {ps : List (Plan I α)} {past : List (Nat × I.Event)} {as : List α}

/-- With these calls and answers all of the plans come to their ends. A call has the place of its plan in
front of it and stands where its answer comes. -/
inductive Beside : List (Plan I α) → List (Nat × I.Event) → List α → Prop where
  | done (as : List α) : Beside (as.map done) [] as
  | call {ps : List (Plan I α)} {i : Nat} {c : I.Call} {next : I.Answer c → Plan I α}
      {past : List (Nat × I.Event)} {as : List α} (here : ps[i]? = some (perform c next)) (x : I.Answer c) :
      Beside (ps.set i (next x)) past as → Beside ps ((i, ⟨c, x⟩) :: past) as

def own (i : Nat) (past : List (Nat × I.Event)) : List I.Event :=
  past.filterMap fun e => if e.1 = i then some e.2 else none

theorem own_cons_self (i : Nat) (e : I.Event) (past : List (Nat × I.Event)) :
    own i ((i, e) :: past) = e :: own i past := by
  rw [own, List.filterMap_cons, if_pos rfl]
  rfl

theorem own_cons_other {i j : Nat} (other : j ≠ i) (e : I.Event) (past : List (Nat × I.Event)) :
    own i ((j, e) :: past) = own i past := by
  rw [own, List.filterMap_cons, if_neg other]
  rfl

/-- Every plan comes to its own end by its own calls. -/
structure Apart (ps : List (Plan I α)) (past : List (Nat × I.Event)) (as : List α) : Prop where
  length : as.length = ps.length
  placed : ∀ e ∈ past, e.1 < ps.length
  traced : ∀ (i : Nat) (p : Plan I α) (a : α), ps[i]? = some p → as[i]? = some a → p.Traces (own i past) a

theorem apart_done (as : List α) : Apart (as.map (done (I := I))) [] as := by
  constructor
  case length => rw [List.length_map]
  case placed => nofun
  case traced =>
    intro i p a plan result
    rw [List.getElem?_map, result] at plan
    cases plan
    exact .done a

theorem Apart.call {i : Nat} {c : I.Call} {next : I.Answer c → Plan I α}
    (here : ps[i]? = some (perform c next)) (x : I.Answer c) (apart : Apart (ps.set i (next x)) past as) :
    Apart ps ((i, ⟨c, x⟩) :: past) as := by
  obtain ⟨inside, -⟩ := List.getElem?_eq_some_iff.1 here
  constructor
  case length => rw [apart.length, List.length_set]
  case placed =>
    intro e mem
    rcases List.mem_cons.1 mem with rfl | later
    · exact inside
    · have placed := apart.placed e later
      rwa [List.length_set] at placed
  case traced =>
    intro j p a plan result
    by_cases same : i = j
    · subst same
      rw [here] at plan
      cases plan
      rw [own_cons_self]
      exact .call x (apart.traced i (next x) a (List.getElem?_set_self inside) result)
    · rw [own_cons_other same]
      apply apart.traced j p a _ result
      rwa [List.getElem?_set_ne same]

theorem apart_of_beside (beside : Beside ps past as) : Apart ps past as := by
  induction beside with
  | done as => exact apart_done as
  | call here x _ ih => exact ih.call here x

theorem Apart.exists_result {i : Nat} (apart : Apart ps past as) (inside : i < ps.length) :
    ∃ p a, ps[i]? = some p ∧ as[i]? = some a ∧ p.Traces (own i past) a := by
  have answered : i < as.length := by
    rw [apart.length]
    exact inside
  refine ⟨ps[i], as[i], List.getElem?_eq_getElem inside, List.getElem?_eq_getElem answered, ?_⟩
  exact apart.traced i ps[i] as[i] (List.getElem?_eq_getElem inside) (List.getElem?_eq_getElem answered)

theorem Apart.over (apart : Apart ps [] as) : ps = as.map done := by
  apply List.ext_getElem?
  intro i
  rw [List.getElem?_map]
  by_cases inside : i < ps.length
  · obtain ⟨p, a, plan, result, traces⟩ := apart.exists_result inside
    cases traces
    rw [plan, result]
    rfl
  · have outside := Nat.le_of_not_lt inside
    rw [List.getElem?_eq_none outside, List.getElem?_eq_none (apart.length ▸ outside)]
    rfl

theorem Apart.next {i : Nat} {e : I.Event} (apart : Apart ps ((i, e) :: past) as) :
    ∃ next, ps[i]? = some (perform e.1 next) ∧ Apart (ps.set i (next e.2)) past as := by
  obtain ⟨p, a, plan, result, traces⟩ := apart.exists_result (apart.placed (i, e) List.mem_cons_self)
  rw [own_cons_self] at traces
  cases traces with
  | call x rest =>
    rename_i c next
    refine ⟨next, plan, ?_⟩
    constructor
    case length => rw [apart.length, List.length_set]
    case placed =>
      intro e mem
      rw [List.length_set]
      exact apart.placed e (List.mem_cons_of_mem _ mem)
    case traced =>
      intro j q b plan' result'
      by_cases same : i = j
      · subst same
        rw [List.getElem?_set_self (apart.placed _ List.mem_cons_self)] at plan'
        rw [result] at result'
        cases plan'
        cases result'
        exact rest
      · rw [List.getElem?_set_ne same] at plan'
        have traces := apart.traced j q b plan' result'
        rwa [own_cons_other same] at traces

theorem beside_of_apart (apart : Apart ps past as) : Beside ps past as := by
  induction past generalizing ps with
  | nil =>
    rw [apart.over]
    exact .done as
  | cons e past ih =>
    obtain ⟨next, here, rest⟩ := apart.next
    exact .call here e.2.2 (ih rest)

theorem beside_iff : Beside ps past as ↔ Apart ps past as := ⟨apart_of_beside, beside_of_apart⟩

/-! One after the other is one way of going side by side. -/

theorem Beside.behind (beside : Beside ps past as) (a : α) :
    Beside (Plan.done a :: ps) (past.map fun e => (e.1 + 1, e.2)) (a :: as) := by
  induction beside with
  | done as => exact .done (a :: as)
  | call here x _ ih => exact .call (i := _ + 1) here x ih

theorem Beside.first {p : Plan I α} {a : α} {events : List I.Event} (traces : p.Traces events a)
    (beside : Beside ps past as) :
    Beside (p :: ps) (events.map (0, ·) ++ past.map fun e => (e.1 + 1, e.2)) (a :: as) := by
  induction traces with
  | done a => exact beside.behind a
  | call x _ ih => exact .call rfl x ih

theorem beside_of_mapM {events : List I.Event} (traces : (ps.mapM id).Traces events as) :
    ∃ past, past.map Prod.snd = events ∧ Beside ps past as := by
  induction ps generalizing events as with
  | nil =>
    cases traces
    exact ⟨[], rfl, .done []⟩
  | cons p ps ih =>
    rw [List.mapM_cons] at traces
    obtain ⟨first, a, rest, rfl, before, after⟩ := traces_bind.1 traces
    obtain ⟨second, more, none, rfl, others, ending⟩ := traces_bind.1 after
    cases ending
    obtain ⟨past, same, beside⟩ := ih others
    refine ⟨_, ?_, beside.first before⟩
    rw [List.map_append, List.map_map, List.map_map, List.append_nil, ← same]
    simp [Function.comp_def]

theorem mapM_done (as : List α) : (as.map (done (I := I))).mapM id = done as := by
  induction as with
  | nil => rfl
  | cons a as ih =>
    rw [List.map_cons, List.mapM_cons, ih]
    rfl

/-! In every order plans go side by side, and every way of going side by side has its order. -/

theorem beside_of_traces {order : List Nat} {events : List I.Event}
    (traces : (beside order ps).Traces events as) : ∃ past, past.map Prod.snd = events ∧ Beside ps past as := by
  induction order generalizing ps events with
  | nil => exact beside_of_mapM traces
  | cons i order ih =>
    rw [beside] at traces
    split at traces
    · rename_i c next here
      cases traces with
      | call x rest =>
        obtain ⟨past, same, beside⟩ := ih rest
        refine ⟨(i, ⟨c, x⟩) :: past, ?_, .call here x beside⟩
        rw [List.map_cons, same]
    · exact ih traces

theorem Beside.traces (going : Beside ps past as) :
    (beside (past.map Prod.fst) ps).Traces (past.map Prod.snd) as := by
  induction going with
  | done as =>
    rw [List.map_nil, List.map_nil, beside, mapM_done]
    exact .done as
  | call here x _ ih =>
    rw [List.map_cons, List.map_cons, beside, here]
    exact .call x ih

end Steward.Plan
