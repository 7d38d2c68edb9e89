import Steward.Schedule.Payload
import Steward.Schedule.Record

/-!
The task facility: the registered tasks in ascending order of their names, each name once, and the
records of runs, newest first. Of each name the newest fifty records are kept. Records outlive
neither the removal of their task nor an attempt to remove it, but they may be added for a name that
is not registered.
-/
namespace Steward.Schedule

open Steward.Calendar

/-- Records kept of each name. -/
def historyLimit : Nat := 50

/-- Puts an entry in front of the first one with a greater name. -/
def insertEntry (e : Entry) : List Entry → List Entry
  | [] => [e]
  | x :: xs => if e.name < x.name then e :: x :: xs else x :: insertEntry e xs

/-- Drops all records of `name` but the first `n`. -/
def keepNewest (name : String) : Nat → List RunRecord → List RunRecord
  | _, [] => []
  | n, r :: rs =>
    if r.taskName = name then
      match n with
      | 0 => keepNewest name 0 rs
      | n + 1 => r :: keepNewest name n rs
    else r :: keepNewest name n rs

theorem lt_of_not_lt_of_ne {a b : String} (h : ¬ a < b) (ne : a ≠ b) : b < a := by
  rcases Classical.em (b < a) with lt | notLt
  · exact lt
  · exact absurd (String.le_antisymm (String.not_lt.1 notLt) (String.not_lt.1 h)) ne

theorem mem_insertEntry {e x : Entry} {es : List Entry} :
    x ∈ insertEntry e es ↔ x = e ∨ x ∈ es := by
  induction es with
  | nil => simp [insertEntry]
  | cons y ys ih =>
    by_cases h : e.name < y.name
    · simp [insertEntry, h]
    · simp only [insertEntry, h, if_false, List.mem_cons, ih]
      constructor
      · rintro (h | h | h) <;> simp [h]
      · rintro (h | h | h) <;> simp [h]

/-- Each name is below the names behind it. -/
def Ascending (es : List Entry) : Prop := es.Pairwise fun a b => a.name < b.name

theorem ascending_insertEntry {e : Entry} {es : List Entry} (order : Ascending es)
    (absent : ∀ x ∈ es, x.name ≠ e.name) : Ascending (insertEntry e es) := by
  induction es with
  | nil => simp [insertEntry, Ascending]
  | cons y ys ih =>
    obtain ⟨first, rest⟩ := List.pairwise_cons.1 order
    by_cases h : e.name < y.name
    · simp only [insertEntry, h, if_true]
      refine List.pairwise_cons.2 ⟨fun x mem => ?_, order⟩
      rcases List.mem_cons.1 mem with rfl | old
      · exact h
      · exact String.lt_trans h (first x old)
    · simp only [insertEntry, h, if_false]
      refine List.pairwise_cons.2
        ⟨fun x mem => ?_, ih rest fun x mem => absent x (List.mem_cons_of_mem y mem)⟩
      rcases mem_insertEntry.1 mem with rfl | old
      · exact lt_of_not_lt_of_ne h (absent y List.mem_cons_self).symm
      · exact first x old

theorem ascending_map {f : Entry → Entry} {es : List Entry} (same : ∀ e, (f e).name = e.name)
    (order : Ascending es) : Ascending (es.map f) := by
  simpa [Ascending, List.pairwise_map, same] using order

theorem ascending_filter {p : Entry → Bool} {es : List Entry} (order : Ascending es) :
    Ascending (es.filter p) := order.filter p

structure Facility where
  entries : List Entry
  /-- Newest first. -/
  runs : List RunRecord
  ascending : Ascending entries

namespace Facility

def empty : Facility := ⟨[], [], List.Pairwise.nil⟩

def get? (f : Facility) (name : String) : Option Entry := f.entries.find? (·.name == name)

def contains (f : Facility) (name : String) : Bool := f.entries.any (·.name == name)

theorem absent_of_contains {f : Facility} {name : String} (h : ¬ f.contains name) :
    ∀ x ∈ f.entries, x.name ≠ name := by
  intro x mem same
  exact h (List.any_eq_true.2 ⟨x, mem, by simp [same]⟩)

/-- Changes the entry of one name, which keeps its name. -/
def modify (f : Facility) (name : String) (change : Entry → Entry)
    (same : ∀ e, (change e).name = e.name) : Facility :=
  { f with
    entries := f.entries.map fun e => if e.name = name then change e else e
    ascending := ascending_map (fun e => by split <;> simp [same]) f.ascending }

def insert (f : Facility) (task : Task) (next : Option Instant) : Except TaskError Facility :=
  if h : f.contains task.name then .error (.alreadyExists task.name)
  else .ok
    { f with
      entries := insertEntry ⟨task, .fresh next⟩ f.entries
      ascending := ascending_insertEntry f.ascending (absent_of_contains h) }

def setEnabled (f : Facility) (name : String) (enabled : Bool) (next : Option Instant) :
    Except TaskError Facility :=
  if f.contains name then .ok (f.modify name (·.withEnabled enabled next) (fun _ => rfl))
  else .error (.notFound name)

/-- Notes that the task fired, or was passed over when `last` is absent, and when it fires next. -/
def setSchedule (f : Facility) (name : String) (last next : Option Instant) :
    Except TaskError Facility :=
  if f.contains name then .ok (f.modify name (·.withSchedule last next) (fun _ => rfl))
  else .error (.notFound name)

/-- Adds a record to the history, and its result to the entry of its name if there is one. -/
def recordResult (f : Facility) (r : RunRecord) : Facility :=
  { f.modify r.taskName (·.withResult r) (fun _ => rfl) with
    runs := keepNewest r.taskName historyLimit (r.stored :: f.runs) }

/-- The newest records of a name. A limit that does not fit a signed word is none. -/
def history (f : Facility) (name : String) (limit : Nat) : List RunRecord :=
  let records := f.runs.filter (·.taskName == name)
  if limit < 0x8000000000000000 then records.take limit else records

/-- The facility without the task and its history, and whether the task was there. -/
def remove (f : Facility) (name : String) : Facility × Except TaskError Unit :=
  ({ entries := f.entries.filter (·.name != name)
     runs := f.runs.filter (·.taskName != name)
     ascending := ascending_filter f.ascending },
   if f.contains name then .ok () else .error (.notFound name))

end Facility
end Steward.Schedule
