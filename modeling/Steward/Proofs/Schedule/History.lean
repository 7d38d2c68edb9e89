import Mathlib.Data.List.Induction
import Steward.Proofs.Schedule.Tables

/-!
The history of a name. Behind any requests it is what was recorded under the name since the last attempt
to remove it, the newest record first and no more than fifty, each as it is kept. Requests about other
names, and those about the task itself, have no part in it.
-/
namespace Steward.Schedule
open Steward.Calendar

namespace Request

def recordOf (name : String) : Request → Option RunRecord
  | .recordResult record => if record.taskName = name then some record else none
  | _ => none

def removes (name : String) : Request → Bool
  | .remove gone => gone == name
  | _ => false

def bearsOn (name : String) (q : Request) : Bool := (q.recordOf name).isSome || q.removes name

end Request

/-- What was recorded under the name since it was last to be removed, newest first. -/
def recordsSince (name : String) (requests : List Request) : List RunRecord :=
  (requests.reverse.takeWhile fun q => !q.removes name).filterMap (·.recordOf name)

section Since
variable (name : String) (requests : List Request) (q : Request)

theorem recordsSince_concat : recordsSince name (requests ++ [q]) =
    if q.removes name then [] else (q.recordOf name).toList ++ recordsSince name requests := by
  rw [recordsSince, List.reverse_append, List.reverse_singleton, List.singleton_append,
    List.takeWhile_cons]
  cases q.removes name with
  | true => rfl
  | false =>
    simp only [Bool.not_false, if_true, Bool.false_eq_true, if_false, List.filterMap_cons]
    cases q.recordOf name <;> rfl

theorem recordsSince_filter :
    recordsSince name (requests.filter (·.bearsOn name)) = recordsSince name requests := by
  induction requests using List.reverseRecOn with
  | nil => rfl
  | append_singleton requests q ih =>
    rw [List.filter_append, recordsSince_concat]
    cases bears : q.bearsOn name with
    | true =>
      rw [List.filter_cons_of_pos bears, List.filter_nil, recordsSince_concat, ih]
    | false =>
      obtain ⟨silent, keeps⟩ := Bool.or_eq_false_iff.1 bears
      have none := Option.not_isSome_iff_eq_none.1 (ne_true_of_eq_false silent)
      rw [List.filter_cons_of_neg (ne_true_of_eq_false bears), List.filter_nil, List.append_nil, ih,
        keeps, none]
      rfl

end Since

namespace Register

def afterAll (r : Register) (requests : List Request) : Register := requests.foldl after r

theorem afterAll_concat (r : Register) (requests : List Request) (q : Request) :
    r.afterAll (requests ++ [q]) = (r.afterAll requests).after q := List.foldl_append

/-- A request changes the records of a name by recording or removing it, and in no other way. -/
theorem records_after (r : Register) (q : Request) (name : String) :
    (r.after q).records name =
      if q.removes name then []
      else match q.recordOf name with
        | some record => (record.stored :: r.records name).take 50
        | none => r.records name := by
  cases q with
  | insert task next =>
    rw [after]
    split <;> rfl
  | recordResult record =>
    show (if name = record.taskName then (record.stored :: r.records name).take 50
      else r.records name) = match if record.taskName = name then some record else none with
        | some record => (record.stored :: r.records name).take 50
        | none => r.records name
    by_cases own : record.taskName = name
    · rw [if_pos own.symm, if_pos own]
    · rw [if_neg fun same => own same.symm, if_neg own]
  | remove gone =>
    by_cases own : gone = name
    · rw [Request.removes, beq_iff_eq.2 own]
      exact if_pos own.symm
    · rw [Request.removes, beq_eq_false_iff_ne.2 own]
      exact if_neg fun same => own same.symm
  | get _ => rfl
  | all => rfl
  | setEnabled _ _ _ => rfl
  | setSchedule _ _ _ => rfl
  | history _ _ => rfl

theorem records_afterAll (name : String) (requests : List Request) :
    (empty.afterAll requests).records name =
      ((recordsSince name requests).map RunRecord.stored).take 50 := by
  induction requests using List.reverseRecOn with
  | nil => rfl
  | append_singleton requests q ih =>
    rw [afterAll_concat, records_after, recordsSince_concat, ih]
    split
    · rfl
    · cases q.recordOf name with
      | none => rfl
      -- what was cut off before would be cut off now
      | some record =>
        show (record.stored :: List.take 50 _).take 50 = (record.stored :: _).take 50
        rw [List.take_succ_cons, List.take_succ_cons, List.take_take]
        rfl

theorem Conducts.last {r : Register} {requests : List Request} {q : Request} {answers : List Answer}
    (conducts : r.Conducts (requests ++ [q]) answers) :
    ∃ before a, answers = before ++ [a] ∧ (r.afterAll requests).Answers q a := by
  induction requests generalizing r answers with
  | nil =>
    cases conducts with
    | answer here further =>
      cases further
      exact ⟨[], _, rfl, here⟩
  | cons first rest ih =>
    cases conducts with
    | @answer _ _ given _ _ here further =>
      obtain ⟨before, a, rfl, last⟩ := ih further
      exact ⟨given :: before, a, rfl, last⟩

end Register

theorem getLast?_answers (requests : List Request) (q : Request) :
    ∃ a, (Register.empty.afterAll requests).Answers q a ∧
      (Facility.empty.answers (requests ++ [q])).getLast? = some a ∧
      (Tables.empty.answers (requests ++ [q])).getLast? = some (some a) := by
  have bounded : Register.empty.Bounded := fun _ => Nat.zero_le 50
  have facility : Register.empty.Conducts (requests ++ [q]) (Facility.empty.answers (requests ++ [q])) :=
    @Facility.conducts_answers .empty bounded (requests ++ [q])
  obtain ⟨answers, read, conducted⟩ := Tables.shows_empty.conducts bounded (requests ++ [q])
  obtain ⟨before, a, shape, last⟩ := facility.last
  refine ⟨a, last, ?_, ?_⟩
  · rw [shape]
    exact List.getLast?_concat
  · rw [read, conducted.unique facility, shape, List.map_append]
    exact List.getLast?_concat

/-- The history of a name is what was recorded under it since it was last to be removed: newest first, as
much as is asked for and fifty records at most, each unchanged but for the fraction of its second and a
duration too long to be kept. All other requests could be left out. -/
theorem history_newest_fifty (requests : List Request) (name : String) (limit : UInt64) :
    let kept (record : RunRecord) : RunRecord := { record with
      startedAt := record.startedAt.wholeSeconds
      durationMs := if record.durationMs.toNat < 0x8000000000000000 then record.durationMs else 0 }
    let newest := ((recordsSince name requests).take (min limit.toNat 50)).map kept
    (Facility.empty.answers (requests ++ [.history name limit])).getLast? = some (.records newest) ∧
    (Tables.empty.answers (requests ++ [.history name limit])).getLast? =
      some (some (.records newest)) ∧
    (Facility.empty.answers (requests.filter (·.bearsOn name) ++ [.history name limit])).getLast? =
      some (.records newest) := by
  have kept (requests : List Request) : ((Register.empty.afterAll requests).records name).take
      limit.toNat = ((recordsSince name requests).take (min limit.toNat 50)).map RunRecord.stored := by
    rw [Register.records_afterAll, List.take_take, List.map_take]
  obtain ⟨a, answered, facility, tables⟩ := getLast?_answers requests (.history name limit)
  obtain ⟨b, again, filtered, -⟩ :=
    getLast?_answers (requests.filter (·.bearsOn name)) (.history name limit)
  have told : a = .records _ := answered
  have toldAgain : b = .records _ := again
  rw [kept] at told toldAgain
  rw [recordsSince_filter] at toldAgain
  exact ⟨told ▸ facility, told ▸ tables, toldAgain ▸ filtered⟩

end Steward.Schedule
