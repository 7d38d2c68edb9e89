import Steward.Proofs.Schedule.Facility
import Steward.Schedule.Store

/-!
The store while nothing fails: then each of its calls is the operation of its facility.
-/
namespace Steward.Schedule
open Steward.Calendar

namespace Store

def Healthy (s : Store) : Prop := s.faults = .none

section
variable {s : Store} (healthy : s.Healthy)
include healthy

theorem connect_eq : s.connect = .ok () := by
  rw [connect, show s.faults = .none from healthy]
  rfl

theorem call_eq (c : Call) (name : String) : s.call c name = .ok () := by
  rw [call, show s.faults = .none from healthy]
  rfl

theorem entries_eq : s.entries = .ok s.facility.entries := by
  simp only [entries, connect_eq healthy, call_eq healthy]
  rfl

theorem create_eq (task : Task) (now : Instant) :
    s.create task now = (s.facility.insert task (initialFire task.trigger now)).map
      fun f => { s with facility := f } := by
  simp only [create, connect_eq healthy, call_eq healthy]
  cases s.facility.insert task (initialFire task.trigger now) <;> rfl

theorem delete_eq (name : String) :
    s.delete name =
      ({ s with facility := (s.facility.remove name).1 }, (s.facility.remove name).2) := by
  simp only [delete, connect_eq healthy, call_eq healthy]
  rfl

theorem setSchedule_eq (name : String) (last next : Option Instant) :
    s.setSchedule name last next = (s.facility.setSchedule name last next).map
      fun f => { s with facility := f } := by
  simp only [setSchedule, connect_eq healthy, call_eq healthy]
  cases s.facility.setSchedule name last next <;> rfl

theorem recordResult_eq (r : RunRecord) :
    s.recordResult r = .ok { s with facility := s.facility.recordResult r } := by
  simp only [recordResult, connect_eq healthy, call_eq healthy]
  rfl

theorem delete_spec (name : String) :
    (s.delete name).1.Healthy ∧ ∀ n,
      (s.delete name).1.facility.get? n = (if n = name then none else s.facility.get? n) ∧
      (s.delete name).1.facility.runsOf n = if n = name then [] else s.facility.runsOf n := by
  rw [delete_eq healthy]
  exact ⟨healthy, fun n => ⟨Facility.get?_remove _ name n, Facility.runsOf_remove _ name n⟩⟩

theorem create_spec {task : Task} {now : Instant} {after : Store}
    (done : s.create task now = .ok after) :
    s.facility.get? task.name = none ∧ after.Healthy ∧ ∀ n,
      after.facility.get? n = (if n = task.name then
        some ⟨task, .fresh (initialFire task.trigger now)⟩ else s.facility.get? n) ∧
      after.facility.runsOf n = s.facility.runsOf n := by
  rw [create_eq healthy] at done
  have absent : s.facility.get? task.name = none := by
    have fails := (s.facility.insert_eq_error_iff task (initialFire task.trigger now)).2
    cases found : s.facility.get? task.name with
    | none => rfl
    | some e =>
      obtain ⟨error, failed⟩ := fails (by rw [found]; rfl)
      rw [failed] at done
      cases done
  cases inserted : s.facility.insert task (initialFire task.trigger now) with
  | error e =>
    rw [inserted] at done
    cases done
  | ok f =>
    rw [inserted] at done
    cases done
    exact ⟨absent, healthy,
      fun n => ⟨Facility.get?_insert inserted n, Facility.runsOf_insert inserted n⟩⟩

theorem enable_spec {name : String} {flag : Bool} {now : Instant} {after : Store}
    (done : s.enable name flag now = .ok after) :
    after.Healthy ∧ ∃ next, ∀ n,
      after.facility.get? n = (if n = name then
        (s.facility.get? n).map (·.withEnabled flag next) else s.facility.get? n) ∧
      after.facility.runsOf n = s.facility.runsOf n := by
  simp only [enable, connect_eq healthy, call_eq healthy, bind, Except.bind] at done
  cases found : s.facility.get? name with
  | none =>
    rw [found] at done
    cases done
  | some e =>
    have present : s.facility.contains name = true := by rw [Facility.contains_eq, found]; rfl
    simp only [found, Facility.setEnabled, present, if_true, pure, Except.pure, Except.ok.injEq] at done
    subst done
    let change (x : Entry) := x.withEnabled flag (nextAfterEnable e flag now)
    exact ⟨healthy, nextAfterEnable e flag now, fun n =>
      ⟨s.facility.get?_modify name n change fun _ => rfl,
        s.facility.runsOf_modify name n change fun _ => rfl⟩⟩

theorem setSchedule_spec {e : Entry} (registered : s.facility.get? e.name = some e)
    (last next : Option Instant) :
    ∃ f, s.setSchedule e.name last next = .ok { s with facility := f } ∧
      (∀ n, f.get? n = if n = e.name then some (e.withSchedule last next) else s.facility.get? n) ∧
      ∀ n, f.runsOf n = s.facility.runsOf n := by
  obtain ⟨f, done, entry, runs⟩ := Facility.setSchedule_spec registered last next
  refine ⟨f, ?_, entry, runs⟩
  rw [setSchedule_eq healthy, done]
  rfl

theorem removeEach_spec (names : List String) :
    (s.removeEach names).1.Healthy ∧ ∀ n,
      (s.removeEach names).1.facility.get? n = (if n ∈ names then none else s.facility.get? n) ∧
      (s.removeEach names).1.facility.runsOf n = if n ∈ names then [] else s.facility.runsOf n := by
  induction names generalizing s with
  | nil => exact ⟨healthy, fun n => ⟨by simp [removeEach], by simp [removeEach]⟩⟩
  | cons name rest ih =>
    simp only [removeEach, call_eq healthy]
    obtain ⟨still, views⟩ := @ih { s with facility := (s.facility.remove name).1 } healthy
    refine ⟨still, fun n => ?_⟩
    rw [(views n).1, (views n).2, Facility.get?_remove, Facility.runsOf_remove]
    by_cases here : n = name <;> by_cases later : n ∈ rest <;> simp [here, later]

theorem cleanup_eq : s.cleanup = s.removeEach (s.list.filter s.owns) := by
  simp only [cleanup, list, entries_eq healthy]

end
end Store
end Steward.Schedule
