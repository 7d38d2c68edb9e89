import Steward.Proofs.Schedule.Calls

/-!
Removing the agent's own tasks. The tasks that go are those whose names start with the store's prefix
and whose removal does not fail, wherever they stand among the others; all else stays as it was.
-/
namespace Steward.Schedule
open Steward.Calendar

namespace Facility

theorem history_remove (f : Facility) (name n : String) (limit : Nat) :
    (f.remove name).1.history n limit = if n = name then [] else f.history n limit := by
  simp only [history_eq, runsOf_remove]
  by_cases here : n = name
  · simp [here]
  · simp [here]

theorem contains_iff (f : Facility) (name : String) :
    f.contains name = true ↔ name ∈ f.entries.map Entry.name := by
  simp only [contains, List.any_eq_true, beq_iff_eq, List.mem_map]

theorem nodup_names (f : Facility) : (f.entries.map Entry.name).Nodup := by
  refine List.pairwise_map.2 (f.ascending.imp fun less same => ?_)
  rw [same] at less
  exact String.lt_irrefl _ less

end Facility

namespace Store

theorem owns_iff (s : Store) (name : String) :
    s.owns name = true ↔ ∃ rest, name = s.ownedStart ++ rest := by
  simp only [owns, List.isPrefixOf_iff_prefix]
  constructor
  · rintro ⟨rest, joined⟩
    refine ⟨.ofList rest, String.toList_inj.1 ?_⟩
    rw [String.toList_append, String.toList_ofList, joined]
  · rintro ⟨rest, rfl⟩
    rw [String.toList_append]
    exact List.prefix_append _ _

def removable (s : Store) (name : String) : Bool := (s.faults.refuses .remove name).isNone

theorem call_remove_eq (s : Store) (name : String) :
    (s.call .remove name = .ok () ∧ s.removable name = true) ∨
      ∃ e, s.call .remove name = .error e ∧ s.removable name = false := by
  simp only [call, removable]
  cases s.faults.refuses .remove name with
  | none => exact .inl ⟨rfl, rfl⟩
  | some reason => exact .inr ⟨_, rfl, rfl⟩

/-- `names` are removed as far as that does not fail, and `count` were. -/
structure Removed (s : Store) (names : List String) (after : Store) (count : Nat) : Prop where
  setting : after = { s with facility := after.facility }
  entries : after.facility.entries =
    s.facility.entries.filter fun e => !(names.contains e.name && s.removable e.name)
  history : ∀ n limit, after.facility.history n limit =
    if n ∈ names ∧ s.removable n = true then [] else s.facility.history n limit
  count : count = (names.filter s.removable).length

theorem removeEach_removed (s : Store) (names : List String) (distinct : names.Nodup)
    (registered : ∀ name ∈ names, s.facility.contains name = true) :
    s.Removed names (s.removeEach names).1 (s.removeEach names).2 := by
  induction names generalizing s with
  | nil =>
    refine ⟨rfl, ?_, fun n limit => ?_, rfl⟩
    · exact (List.filter_eq_self.2 fun _ _ => rfl).symm
    · simp only [removeEach, List.not_mem_nil, false_and, if_false]
  | cons name rest ih =>
    obtain ⟨fresh, distinctRest⟩ := List.nodup_cons.1 distinct
    rcases s.call_remove_eq name with ⟨allowed, unlocked⟩ | ⟨e, denied, locked⟩
    · let next : Store := { s with facility := (s.facility.remove name).1 }
      have same (n : String) : next.removable n = s.removable n := rfl
      have still : ∀ n ∈ rest, next.facility.contains n = true := by
        intro n mem
        have other : n ≠ name := fun same => fresh (same ▸ mem)
        have before := registered n (List.mem_cons_of_mem name mem)
        rw [Facility.contains_eq] at before ⊢
        rw [Facility.get?_remove, if_neg other]
        exact before
      have done := ih next distinctRest still
      have found : (s.facility.remove name).2.isOk = true := by
        simp only [Facility.remove, registered name List.mem_cons_self]
        rfl
      have run : s.removeEach (name :: rest) =
          ((next.removeEach rest).1, (next.removeEach rest).2 + 1) := by
        simp only [removeEach, allowed, found, if_true]
        rfl
      rw [run]
      refine ⟨done.setting, ?_, fun n limit => ?_, ?_⟩
      · have left : next.facility.entries = s.facility.entries.filter (·.name != name) := rfl
        rw [done.entries, left, List.filter_filter]
        refine List.filter_congr fun e _ => ?_
        rw [same]
        by_cases here : e.name = name
        · simp [here, unlocked]
        · simp [here]
      · rw [done.history, same, Facility.history_remove]
        by_cases here : n = name
        · simp [here, unlocked]
        · simp [here]
      · rw [done.count, List.filter_cons, if_pos unlocked, List.length_cons]
        rfl
    · have run : s.removeEach (name :: rest) = s.removeEach rest := by
        simp only [removeEach, denied]
      have done := ih s distinctRest fun n mem => registered n (List.mem_cons_of_mem name mem)
      rw [run]
      refine ⟨done.setting, ?_, fun n limit => ?_, ?_⟩
      · rw [done.entries]
        refine List.filter_congr fun e _ => ?_
        by_cases here : e.name = name
        · simp [here, locked]
        · simp [here]
      · rw [done.history]
        by_cases here : n = name
        · simp [here, locked]
        · simp [here]
      · rw [done.count, List.filter_cons, if_neg (by simp [locked])]

def clears (s : Store) (name : String) : Bool := s.owns name && s.removable name

/-- What a cleanup leaves behind when it could read the tasks, and that it removed `count` of them. -/
structure Cleaned (s after : Store) (count : Nat) : Prop where
  setting : after = { s with facility := after.facility }
  list : after.list = s.list.filter fun name => !s.clears name
  state : ∀ name, after.facility.get? name =
    if s.clears name = true then none else s.facility.get? name
  /-- A name that no task has keeps the records that it may have. -/
  history : ∀ name limit, after.facility.history name limit =
    if name ∈ s.list ∧ s.clears name = true then [] else s.facility.history name limit
  count : count = (s.list.filter s.clears).length

theorem entries_eq_ok_iff (s : Store) (es : List Entry) :
    s.entries = .ok es ↔ s.connect = .ok () ∧ s.call .all "" = .ok () ∧ es = s.facility.entries := by
  unfold entries
  cases s.connect with
  | error e => simp [bind, Except.bind]
  | ok _ =>
    cases s.call .all "" with
    | error e => simp [bind, Except.bind]
    | ok _ => simp [bind, Except.bind, pure, Except.pure, eq_comm]

theorem list_eq {s : Store} {es : List Entry} (read : s.entries = .ok es) :
    s.list = s.facility.entries.map Entry.name := by
  rw [list, read, ((s.entries_eq_ok_iff es).1 read).2.2]

theorem get?_of_kept {f after : Facility} {gone : String → Bool}
    (kept : after.entries = f.entries.filter fun e => !gone e.name) (name : String) :
    after.get? name = if gone name = true then none else f.get? name := by
  ext e
  rw [Facility.get?_eq_some_iff, kept, List.mem_filter]
  by_cases here : gone name = true
  · simp only [here, if_true, reduceCtorEq, iff_false]
    rintro ⟨⟨_, kept⟩, rfl⟩
    simp [here] at kept
  · simp only [here, Bool.false_eq_true, if_false, Facility.get?_eq_some_iff]
    constructor
    · rintro ⟨⟨mem, _⟩, named⟩
      exact ⟨mem, named⟩
    · rintro ⟨mem, rfl⟩
      exact ⟨⟨mem, by simp [here]⟩, rfl⟩

theorem cleanup_cleaned {s : Store} {es : List Entry} (read : s.entries = .ok es) :
    s.Cleaned s.cleanup.1 s.cleanup.2 := by
  have listed := list_eq read
  obtain ⟨connected, called, same⟩ := (s.entries_eq_ok_iff es).1 read
  have run : s.cleanup = s.removeEach (s.list.filter s.owns) := by
    rw [cleanup, read, listed, same]
  have distinct : (s.list.filter s.owns).Nodup := by
    rw [listed]
    exact s.facility.nodup_names.filter _
  have registered : ∀ name ∈ s.list.filter s.owns, s.facility.contains name = true := by
    intro name mem
    rw [Facility.contains_iff, ← listed]
    exact (List.mem_filter.1 mem).1
  have removed := s.removeEach_removed (s.list.filter s.owns) distinct registered
  rw [← run] at removed
  have entries : s.cleanup.1.facility.entries =
      s.facility.entries.filter fun e => !s.clears e.name := by
    rw [removed.entries]
    refine List.filter_congr fun e mem => ?_
    have there : e.name ∈ s.list := by
      rw [listed]
      exact List.mem_map_of_mem mem
    simp [clears, there]
  have readAfter : s.cleanup.1.entries = .ok s.cleanup.1.facility.entries := by
    rw [entries_eq_ok_iff, removed.setting]
    exact ⟨connected, called, rfl⟩
  refine ⟨removed.setting, ?_, get?_of_kept entries, fun name limit => ?_, ?_⟩
  · rw [list_eq readAfter, listed, entries, List.filter_map]
    rfl
  · rw [removed.history]
    simp only [List.mem_filter, clears, Bool.and_eq_true, and_assoc]
  · rw [removed.count, List.filter_filter]
    refine congrArg List.length (List.filter_congr fun name _ => ?_)
    exact Bool.and_comm _ _

/-- A cleanup removes exactly the tasks with the store's prefix whose removal does not fail, each with
its history, and counts them; when the tasks cannot be read it does nothing. -/
theorem cleanup_removes_owned (s : Store) :
    (∀ name, s.owns name = true ↔ ∃ rest, name = s.ownedStart ++ rest) ∧
    (∀ name, s.removable name = true ↔ s.call .remove name = .ok ()) ∧
    (∀ error, s.entries = .error error → s.cleanup = (s, 0)) ∧
    ∀ es, s.entries = .ok es → s.Cleaned s.cleanup.1 s.cleanup.2 := by
  refine ⟨s.owns_iff, fun name => ?_, fun error failed => ?_, fun es => cleanup_cleaned⟩
  · rcases s.call_remove_eq name with ⟨allowed, unlocked⟩ | ⟨e, denied, locked⟩
    · simp [allowed, unlocked]
    · simp [denied, locked]
  · rw [cleanup, failed]

def idleEntry (name : String) : Entry :=
  ⟨{ name, action := .reboot, trigger := .manual, enabled := true, deleteAfter := false
     parallel := false, runAsapAfterMissed := false }, .fresh none⟩

def lockedStore : Store where
  facility :=
    { entries := [idleEntry "FleetAgent_a", idleEntry "FleetAgent_b", idleEntry "FleetAgent_c",
        idleEntry "backup", idleEntry "xFleetAgent_c"]
      runs := []
      ascending := by
        unfold Ascending
        decide }
  ownedStart := "FleetAgent_"
  faults :=
    ⟨none, fun c name => if c = .remove ∧ name = "FleetAgent_b" then some "task is locked" else none⟩

theorem cleanup_removes_owned_locked :
    lockedStore.entries = .ok lockedStore.facility.entries ∧
    lockedStore.cleanup.1.list = ["FleetAgent_b", "backup", "xFleetAgent_c"] ∧
    lockedStore.cleanup.2 = 2 := by
  have read : lockedStore.entries = .ok lockedStore.facility.entries := rfl
  obtain ⟨-, -, -, cleaned⟩ := cleanup_removes_owned lockedStore
  have left := cleaned _ read
  refine ⟨read, left.list.trans ?_, left.count.trans ?_⟩
  · decide
  · decide

end Store
end Steward.Schedule
