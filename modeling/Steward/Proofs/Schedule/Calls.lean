import Steward.Proofs.Schedule.Store
import Steward.Schedule.Runner

/-!
Calls on a store of which any may fail. A call that answers has met no failure, so it has done what the
facility does; one that fails has done nothing. The lemmas say it in terms of what each name is mapped
to, and ask nothing of the store.
-/
namespace Steward.Schedule
open Steward.Calendar

namespace Facility

theorem get?_setSchedule {f after : Facility} {name : String} {last next : Option Instant}
    (done : f.setSchedule name last next = .ok after) (n : String) : after.get? n =
      if n = name then (f.get? n).map (·.withSchedule last next) else f.get? n := by
  simp only [setSchedule] at done
  split at done
  · cases done
    exact f.get?_modify name n (·.withSchedule last next) (Entry.name_withSchedule · last next)
  · cases done

theorem get?_setEnabled {f after : Facility} {name : String} {flag : Bool} {next : Option Instant}
    (done : f.setEnabled name flag next = .ok after) (n : String) : after.get? n =
      if n = name then (f.get? n).map (·.withEnabled flag next) else f.get? n := by
  simp only [setEnabled] at done
  split at done
  · cases done
    exact f.get?_modify name n (·.withEnabled flag next) (Entry.name_withEnabled · flag next)
  · cases done

end Facility

namespace Store

section
variable {α : Type} {s after : Store} {c : Call} {name : String} {rest : Except TaskError α} {x : α}

theorem ok_of_call (done : (do s.call c name; rest) = .ok x) : rest = .ok x := by
  cases called : s.call c name with
  | error e => simp [called, bind, Except.bind] at done
  | ok _ => simpa [called, bind, Except.bind] using done

theorem ok_of_connect (done : (do s.connect; rest) = .ok x) : rest = .ok x := by
  cases connected : s.connect with
  | error e => simp [connected, bind, Except.bind] at done
  | ok _ => simpa [connected, bind, Except.bind] using done

theorem ok_of_facility {result : Except TaskError Facility}
    (done : (do let f ← result; return { s with facility := f }) = .ok after) :
    result = .ok after.facility ∧ after = { s with facility := after.facility } := by
  cases result with
  | error e => simp [bind, Except.bind] at done
  | ok f =>
    cases done
    exact ⟨rfl, rfl⟩

end

variable {s after : Store}

theorem create_ok {task : Task} {now : Instant} (done : s.create task now = .ok after) :
    s.facility.get? task.name = none ∧ after = { s with facility := after.facility } ∧
      ∀ n, after.facility.get? n = if n = task.name then
        some ⟨task, .fresh (initialFire task.trigger now)⟩ else s.facility.get? n := by
  obtain ⟨inserted, same⟩ := ok_of_facility (ok_of_call (ok_of_connect done))
  refine ⟨?_, same, Facility.get?_insert inserted⟩
  cases found : s.facility.get? task.name with
  | none => rfl
  | some e =>
    obtain ⟨error, failed⟩ := (s.facility.insert_eq_error_iff task
      (initialFire task.trigger now)).2 (by rw [found]; rfl)
    rw [failed] at inserted
    cases inserted

theorem enable_ok {name : String} {flag : Bool} {now : Instant}
    (done : s.enable name flag now = .ok after) :
    ∃ e, s.facility.get? name = some e ∧ after = { s with facility := after.facility } ∧
      ∀ n, after.facility.get? n = if n = name then
        some (e.withEnabled flag (nextAfterEnable e flag now)) else s.facility.get? n := by
  have found := ok_of_call (ok_of_connect done)
  split at found
  · cases found
  · rename_i e registered
    obtain ⟨changed, same⟩ := ok_of_facility (ok_of_call found)
    refine ⟨e, registered, same, fun n => ?_⟩
    rw [Facility.get?_setEnabled changed]
    split
    · rename_i here
      rw [here, registered]
      rfl
    · rfl

theorem setSchedule_ok {name : String} {last next : Option Instant}
    (done : s.setSchedule name last next = .ok after) :
    after = { s with facility := after.facility } ∧ ∀ n, after.facility.get? n =
      if n = name then (s.facility.get? n).map (·.withSchedule last next)
      else s.facility.get? n := by
  obtain ⟨changed, same⟩ := ok_of_facility (ok_of_call (ok_of_connect done))
  exact ⟨same, Facility.get?_setSchedule changed⟩

theorem recordResult_cases (s : Store) (r : RunRecord) :
    Runner.orKeep s (s.recordResult r) = s ∨
      Runner.orKeep s (s.recordResult r) = { s with facility := s.facility.recordResult r } := by
  cases done : s.recordResult r with
  | error e => exact .inl rfl
  | ok after =>
    cases ok_of_call (ok_of_connect done)
    exact .inr rfl

theorem get?_recordResult_cases (s : Store) (r : RunRecord) (n : String) :
    (Runner.orKeep s (s.recordResult r)).facility.get? n = s.facility.get? n ∨
      n = r.taskName ∧ (Runner.orKeep s (s.recordResult r)).facility.get? n =
        (s.facility.get? n).map (·.withResult r) := by
  rcases s.recordResult_cases r with lost | recorded
  · exact .inl (congrArg (·.facility.get? n) lost)
  · have view := (congrArg (·.facility.get? n) recorded).trans (s.facility.get?_recordResult r n)
    by_cases here : n = r.taskName
    · rw [if_pos here] at view
      exact .inr ⟨here, view⟩
    · rw [if_neg here] at view
      exact .inl view

theorem delete_cases (s : Store) (name : String) :
    (∃ e, s.delete name = (s, .error e)) ∨
      s.delete name = ({ s with facility := (s.facility.remove name).1 }, (s.facility.remove name).2) := by
  simp only [delete]
  split
  · exact .inl ⟨_, rfl⟩
  · exact .inr rfl

/-- What no operation on a store changes. -/
def setting (s : Store) : String × Faults := (s.ownedStart, s.faults)

theorem setting_eq {s after : Store} (same : after = { s with facility := after.facility }) :
    after.setting = s.setting := by
  rw [same]
  rfl

theorem setting_recordResult (s : Store) (r : RunRecord) :
    (Runner.orKeep s (s.recordResult r)).setting = s.setting := by
  rcases s.recordResult_cases r with same | recorded
  · rw [same]
  · rw [recorded]
    rfl

theorem setting_delete (s : Store) (name : String) : (s.delete name).1.setting = s.setting := by
  rcases s.delete_cases name with ⟨error, failed⟩ | removed
  · rw [failed]
  · rw [removed]
    rfl

theorem removeEach_cases (s : Store) (names : List String) :
    (s.removeEach names).1 = { s with facility := (s.removeEach names).1.facility } ∧
      ∀ n, (s.removeEach names).1.facility.get? n = s.facility.get? n ∨
        n ∈ names ∧ (s.removeEach names).1.facility.get? n = none := by
  induction names generalizing s with
  | nil => exact ⟨rfl, fun n => .inl rfl⟩
  | cons name rest ih =>
    simp only [removeEach]
    split
    · obtain ⟨same, views⟩ := ih s
      refine ⟨same, fun n => (views n).imp_right fun gone => ?_⟩
      exact ⟨List.mem_cons_of_mem name gone.1, gone.2⟩
    · obtain ⟨same, views⟩ := ih { s with facility := (s.facility.remove name).1 }
      refine ⟨same, fun n => ?_⟩
      have removed := s.facility.get?_remove name n
      rcases views n with kept | ⟨later, gone⟩
      · by_cases here : n = name
        · rw [if_pos here] at removed
          exact .inr ⟨here ▸ List.mem_cons_self, kept.trans removed⟩
        · rw [if_neg here] at removed
          exact .inl (kept.trans removed)
      · exact .inr ⟨List.mem_cons_of_mem name later, gone⟩

theorem cleanup_cases (s : Store) :
    s.cleanup.1 = { s with facility := s.cleanup.1.facility } ∧
      ∀ n, s.cleanup.1.facility.get? n = s.facility.get? n ∨
        s.owns n = true ∧ s.cleanup.1.facility.get? n = none := by
  simp only [cleanup]
  split
  · exact ⟨rfl, fun n => .inl rfl⟩
  · rename_i es read
    obtain ⟨same, views⟩ := removeEach_cases s ((es.map Entry.name).filter s.owns)
    exact ⟨same, fun n => (views n).imp_right fun gone => ⟨(List.mem_filter.1 gone.1).2, gone.2⟩⟩

end Store
end Steward.Schedule
