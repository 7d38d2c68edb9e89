import Steward.Schedule.Facility

/-!
The facility read by name. Seen through `get?` and `runsOf` it is two maps, from names to entries and
from names to records, and every operation changes them at one name only.
-/
namespace Steward.Schedule
open Steward.Calendar

theorem eq_of_name_eq {es : List Entry} (order : Ascending es) {a b : Entry} (memA : a ∈ es)
    (memB : b ∈ es) (same : a.name = b.name) : a = b := by
  induction es with
  | nil => cases memA
  | cons e es ih =>
    obtain ⟨first, rest⟩ := List.pairwise_cons.1 order
    rcases List.mem_cons.1 memA with headA | tailA <;> rcases List.mem_cons.1 memB with headB | tailB
    · rw [headA, headB]
    · exact absurd (headA ▸ same ▸ first b tailB) (String.lt_irrefl _)
    · exact absurd (headB ▸ same ▸ first a tailA) (String.lt_irrefl _)
    · exact ih rest tailA tailB

theorem filter_keepNewest_self (name : String) (k : Nat) (rs : List RunRecord) :
    (keepNewest name k rs).filter (·.taskName == name) =
      (rs.filter (·.taskName == name)).take k := by
  induction rs generalizing k with
  | nil => simp [keepNewest]
  | cons r rs ih =>
    by_cases owned : r.taskName = name
    · cases k <;> simp only [keepNewest, owned, if_true, beq_self_eq_true, List.filter_cons, ih,
        List.take_zero, List.take_succ_cons]
    · simp [keepNewest, owned, ih]

theorem filter_keepNewest_other {name n : String} (other : n ≠ name) (k : Nat) (rs : List RunRecord) :
    (keepNewest name k rs).filter (·.taskName == n) = rs.filter (·.taskName == n) := by
  induction rs generalizing k with
  | nil => simp [keepNewest]
  | cons r rs ih =>
    by_cases owned : r.taskName = name
    · cases k <;> simp [keepNewest, owned, ih, Ne.symm other]
    · simp [keepNewest, owned, ih, List.filter_cons]

namespace Facility

/-- The records of one name, newest first. -/
def runsOf (f : Facility) (name : String) : List RunRecord := f.runs.filter (·.taskName == name)

theorem history_eq (f : Facility) (name : String) (limit : Nat) :
    f.history name limit =
      if limit < 0x8000000000000000 then (f.runsOf name).take limit else f.runsOf name := rfl

theorem runsOf_eq_nil_iff (f : Facility) (name : String) :
    f.runsOf name = [] ↔ ∀ limit, f.history name limit = [] := by
  constructor
  · intro none limit
    rw [history_eq, none]
    simp
  · intro none
    have newest := none 1
    rw [history_eq, if_pos (by decide), List.take_eq_nil_iff] at newest
    exact newest.resolve_left (by decide)

theorem get?_eq_some_iff (f : Facility) (name : String) (e : Entry) :
    f.get? name = some e ↔ e ∈ f.entries ∧ e.name = name := by
  constructor
  · intro found
    exact ⟨List.mem_of_find?_eq_some found, by simpa using List.find?_some found⟩
  · rintro ⟨mem, rfl⟩
    cases found : f.get? e.name with
    | none => exact absurd (List.find?_eq_none.1 found e mem) (by simp)
    | some x =>
      have same : x.name = e.name := by simpa using List.find?_some found
      rw [eq_of_name_eq f.ascending (List.mem_of_find?_eq_some found) mem same]

theorem get?_eq_none_iff (f : Facility) (name : String) :
    f.get? name = none ↔ ∀ e ∈ f.entries, e.name ≠ name := by
  simp [get?]

theorem get?_name_of_mem {f : Facility} {e : Entry} (mem : e ∈ f.entries) :
    f.get? e.name = some e :=
  (f.get?_eq_some_iff e.name e).2 ⟨mem, rfl⟩

theorem contains_eq (f : Facility) (name : String) : f.contains name = (f.get? name).isSome := by
  cases found : f.get? name with
  | none => simpa [contains] using (f.get?_eq_none_iff name).1 found
  | some e =>
    obtain ⟨mem, same⟩ := (f.get?_eq_some_iff name e).1 found
    exact List.any_eq_true.2 ⟨e, mem, by simp [same]⟩

theorem get?_modify (f : Facility) (name n : String) (change : Entry → Entry)
    (same : ∀ e, (change e).name = e.name) :
    (f.modify name change same).get? n =
      if n = name then (f.get? n).map change else f.get? n := by
  have keeps (e : Entry) : (if e.name = name then change e else e).name = e.name := by
    split <;> simp [same]
  ext e
  simp only [get?_eq_some_iff, modify, List.mem_map]
  by_cases here : n = name
  · subst here
    simp only [if_true, Option.map_eq_some_iff, get?_eq_some_iff]
    constructor
    · rintro ⟨⟨x, mem, rfl⟩, named⟩
      rw [keeps] at named
      exact ⟨x, ⟨mem, named⟩, by rw [if_pos named]⟩
    · rintro ⟨x, ⟨mem, named⟩, rfl⟩
      exact ⟨⟨x, mem, by rw [if_pos named]⟩, by rw [same, named]⟩
  · simp only [here, if_false, get?_eq_some_iff]
    constructor
    · rintro ⟨⟨x, mem, rfl⟩, named⟩
      rw [keeps] at named
      rw [if_neg (named ▸ here)]
      exact ⟨mem, named⟩
    · rintro ⟨mem, named⟩
      exact ⟨⟨e, mem, by rw [if_neg (named ▸ here)]⟩, named⟩

theorem runsOf_modify (f : Facility) (name n : String) (change : Entry → Entry)
    (same : ∀ e, (change e).name = e.name) : (f.modify name change same).runsOf n = f.runsOf n := rfl

theorem setSchedule_spec {f : Facility} {e : Entry} (registered : f.get? e.name = some e)
    (last next : Option Instant) :
    ∃ after, f.setSchedule e.name last next = .ok after ∧
      (∀ n, after.get? n = if n = e.name then some (e.withSchedule last next) else f.get? n) ∧
      ∀ n, after.runsOf n = f.runsOf n := by
  have present : f.contains e.name = true := by rw [contains_eq, registered]; rfl
  refine ⟨f.modify e.name (·.withSchedule last next) (Entry.name_withSchedule · last next),
    if_pos present, fun n => ?_, fun n => runsOf_modify _ _ n _ _⟩
  rw [get?_modify]
  split
  · rename_i here
    rw [here, registered]
    rfl
  · rfl

theorem get?_insert {f after : Facility} {task : Task} {next : Option Instant}
    (done : f.insert task next = .ok after) (n : String) :
    after.get? n = if n = task.name then some ⟨task, .fresh next⟩ else f.get? n := by
  simp only [insert] at done
  split at done
  · cases done
  · rename_i absent
    cases done
    ext e
    rw [get?_eq_some_iff, mem_insertEntry]
    by_cases here : n = task.name
    · simp only [here, if_true, Option.some.injEq]
      constructor
      · rintro ⟨rfl | old, named⟩
        · rfl
        · exact absurd named (absent_of_contains absent e old)
      · rintro rfl
        exact ⟨.inl rfl, rfl⟩
    · simp only [here, if_false, get?_eq_some_iff]
      constructor
      · rintro ⟨rfl | old, named⟩
        · exact absurd named.symm here
        · exact ⟨old, named⟩
      · rintro ⟨old, named⟩
        exact ⟨.inr old, named⟩

theorem insert_eq_error_iff (f : Facility) (task : Task) (next : Option Instant) :
    (∃ e, f.insert task next = .error e) ↔ (f.get? task.name).isSome = true := by
  rw [← contains_eq]
  simp only [insert]
  split <;> simp_all

theorem runsOf_insert {f after : Facility} {task : Task} {next : Option Instant}
    (done : f.insert task next = .ok after) (n : String) : after.runsOf n = f.runsOf n := by
  simp only [insert] at done
  split at done
  · cases done
  · cases done
    rfl

theorem get?_remove (f : Facility) (name n : String) :
    (f.remove name).1.get? n = if n = name then none else f.get? n := by
  ext e
  rw [get?_eq_some_iff]
  simp only [remove, List.mem_filter, bne_iff_ne, ne_eq]
  by_cases here : n = name
  · simp only [here, if_true, reduceCtorEq, iff_false]
    rintro ⟨⟨_, other⟩, named⟩
    exact other named
  · simp only [here, if_false, get?_eq_some_iff]
    constructor
    · rintro ⟨⟨mem, _⟩, named⟩
      exact ⟨mem, named⟩
    · rintro ⟨mem, named⟩
      exact ⟨⟨mem, named ▸ here⟩, named⟩

theorem runsOf_remove (f : Facility) (name n : String) :
    (f.remove name).1.runsOf n = if n = name then [] else f.runsOf n := by
  simp only [runsOf, remove, List.filter_filter]
  split
  · rename_i here
    simp [here]
  · rename_i here
    refine List.filter_congr fun r _ => ?_
    by_cases owned : r.taskName = n
    · simp [owned, here]
    · simp [owned]

theorem get?_recordResult (f : Facility) (r : RunRecord) (n : String) :
    (f.recordResult r).get? n =
      if n = r.taskName then (f.get? n).map (·.withResult r) else f.get? n :=
  f.get?_modify r.taskName n (·.withResult r) (fun _ => rfl)

theorem runsOf_recordResult (f : Facility) (r : RunRecord) (n : String) :
    (f.recordResult r).runsOf n =
      if n = r.taskName then (r.stored :: f.runsOf n).take historyLimit else f.runsOf n := by
  simp only [runsOf, recordResult]
  split
  · rename_i here
    rw [here, filter_keepNewest_self]
    simp [RunRecord.stored]
  · rename_i here
    rw [filter_keepNewest_other here]
    simp [RunRecord.stored, Ne.symm here]

end Facility
end Steward.Schedule
