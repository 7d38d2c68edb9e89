import Steward.Proofs.Schedule.Facility
import Steward.Proofs.Text.ByteOrder
import Steward.Schedule.Session

/-!
The task facility as a map. A `Register` holds under each name at most one task with the state of its
runs, and the records kept of them, newest first. `after` says what a request changes and `Answers`
what it is answered; a session goes from one register to the next. The answers of a session are
determined, and they are those of the facility.
-/
namespace Steward.Schedule
open Steward.Calendar Steward.Text

@[ext]
structure Register where
  entry : String → Option Entry
  records : String → List RunRecord

namespace Register

def empty : Register := ⟨fun _ => none, fun _ => []⟩

def change (r : Register) (name : String) (f : Entry → Entry) : Register :=
  { r with entry := fun n => if n = name then (r.entry n).map f else r.entry n }

def add (r : Register) (e : Entry) : Register :=
  { r with entry := fun n => if n = e.name then some e else r.entry n }

/-- A new record goes in front, and the newest fifty stay. -/
def note (r : Register) (name : String) (record : RunRecord) : Register :=
  { r with
    records := fun n => if n = name then (record :: r.records n).take 50 else r.records n }

def drop (r : Register) (name : String) : Register :=
  { entry := fun n => if n = name then none else r.entry n
    records := fun n => if n = name then [] else r.records n }

/-- What a request changes. Times are kept to the second. -/
def after (r : Register) : Request → Register
  | .insert task next =>
    if (r.entry task.name).isSome then r
    else r.add
      { task := task
        state :=
          { nextRunAt := next.map Instant.wholeSeconds, lastRunAt := none, lastStatus := none
            lastDurationMs := none, lastError := none } }
  | .get _ => r
  | .all => r
  | .setEnabled name enabled next => r.change name fun e =>
      { task := { e.task with enabled := enabled }
        state := { e.state with nextRunAt := next.map Instant.wholeSeconds } }
  | .setSchedule name last next => r.change name fun e =>
      { e with
        state := { e.state with
          nextRunAt := next.map Instant.wholeSeconds
          lastRunAt := match last with
            | some t => some t.wholeSeconds
            | none => e.state.lastRunAt } }
  | .recordResult record =>
    let kept := { record with
      startedAt := record.startedAt.wholeSeconds
      durationMs := if record.durationMs.toNat < 0x8000000000000000 then record.durationMs else 0 }
    (r.change record.taskName fun e =>
      { e with
        state := { e.state with
          lastStatus := some record.status
          lastDurationMs := some kept.durationMs
          lastError := record.error } }).note record.taskName kept
  | .history _ _ => r
  | .remove name => r.drop name

/-- The entries of a register in the order of the bytes of their names. -/
structure Lists (r : Register) (es : List Entry) : Prop where
  ascending : es.Pairwise fun a b => utf8 a.name < utf8 b.name
  mem_iff : ∀ e, e ∈ es ↔ r.entry e.name = some e

def found (r : Register) (name : String) : Answer :=
  if (r.entry name).isSome then .done else .failed (.notFound name)

def Answers (r : Register) : Request → Answer → Prop
  | .insert task _, answer =>
    answer = if (r.entry task.name).isSome then .failed (.alreadyExists task.name) else .done
  | .get name, answer => answer = .entry (r.entry name)
  | .all, answer => ∃ es, r.Lists es ∧ answer = .entries es
  | .setEnabled name _ _, answer => answer = r.found name
  | .setSchedule name _ _, answer => answer = r.found name
  | .recordResult _, answer => answer = .done
  | .history name limit, answer => answer = .records ((r.records name).take limit.toNat)
  | .remove name, answer => answer = r.found name

inductive Conducts : Register → List Request → List Answer → Prop
  | done (r : Register) : Conducts r [] []
  | answer {r : Register} {q : Request} {a : Answer} {rest : List Request} {answers : List Answer}
      (here : r.Answers q a) (further : Conducts (r.after q) rest answers) :
      Conducts r (q :: rest) (a :: answers)

theorem change_absent {r : Register} {name : String} (absent : r.entry name = none)
    (f : Entry → Entry) : r.change name f = r := by
  refine Register.ext (funext fun n => ?_) rfl
  show (if n = name then (r.entry n).map f else r.entry n) = r.entry n
  split
  · rename_i here
    rw [here, absent]
    rfl
  · rfl

def Bounded (r : Register) : Prop := ∀ name, (r.records name).length ≤ 50

theorem bounded_after {r : Register} (bounded : r.Bounded) (q : Request) : (r.after q).Bounded := by
  intro name
  cases q with
  | insert task next =>
    rw [after]
    split
    · exact bounded name
    · exact bounded name
  | recordResult record =>
    show (if name = _ then (_ :: r.records name).take 50 else r.records name).length ≤ 50
    split
    · exact List.length_take_le 50 _
    · exact bounded name
  | remove gone =>
    show (if name = gone then [] else r.records name).length ≤ 50
    split
    · exact Nat.zero_le 50
    · exact bounded name
  | _ => exact bounded name

theorem Lists.nodup {r : Register} {es : List Entry} (lists : r.Lists es) : es.Nodup := by
  refine lists.ascending.imp ?_
  intro a b less same
  rw [same] at less
  exact List.lt_irrefl _ less

theorem Lists.unique {r : Register} {es fs : List Entry} (first : r.Lists es) (second : r.Lists fs) :
    es = fs := by
  have perm : es.Perm fs := (List.perm_ext_iff_of_nodup first.nodup second.nodup).2 fun e =>
    (first.mem_iff e).trans (second.mem_iff e).symm
  refine perm.eq_of_pairwise ?_ first.ascending second.ascending
  intro a b _ _ less more
  exact absurd (List.lt_trans less more) (List.lt_irrefl _)

theorem Answers.unique {r : Register} {q : Request} {a b : Answer} (first : r.Answers q a)
    (second : r.Answers q b) : a = b := by
  cases q with
  | all =>
    obtain ⟨es, listed, rfl⟩ := first
    obtain ⟨fs, listed', rfl⟩ := second
    rw [listed.unique listed']
  | _ => exact first.trans second.symm

theorem Conducts.unique {r : Register} {requests : List Request} {first second : List Answer}
    (one : r.Conducts requests first) (other : r.Conducts requests second) : first = second := by
  induction one generalizing second with
  | done r =>
    cases other
    rfl
  | answer here further ih =>
    cases other with
    | answer here' further' => rw [here.unique here', ih further']

end Register

namespace Facility

def register (f : Facility) : Register := ⟨f.get?, f.runsOf⟩

theorem lists_entries (f : Facility) : f.register.Lists f.entries := by
  constructor
  · refine f.ascending.imp ?_
    intro a b less
    exact (lt_iff_utf8_lt a.name b.name).1 less
  · intro e
    constructor
    · exact get?_name_of_mem
    · intro found
      exact ((f.get?_eq_some_iff e.name e).1 found).1

theorem history_of_bounded {f : Facility} (bounded : f.register.Bounded) (name : String)
    (limit : Nat) : f.history name limit = (f.runsOf name).take limit := by
  rw [history_eq]
  split
  · rfl
  · have short : (f.runsOf name).length ≤ 50 := bounded name
    rw [List.take_of_length_le (by omega)]

theorem answers_serve {f : Facility} (bounded : f.register.Bounded) (q : Request) :
    f.register.Answers q (f.serve q).1 := by
  have changed (name : String) (after : Facility) :
      (f.settle (if f.contains name then .ok after else .error (.notFound name))).1 =
        f.register.found name := by
    rw [contains_eq, Register.found]
    cases present : (f.get? name).isSome <;> simp [register, settle, present]
  cases q with
  | insert task next =>
    show (f.settle (f.insert task next)).1 = if (f.get? task.name).isSome then _ else _
    rw [insert, ← contains_eq]
    split <;> simp_all [settle]
  | get name => rfl
  | all => exact ⟨f.entries, f.lists_entries, rfl⟩
  | setEnabled name enabled next => exact changed name _
  | setSchedule name last next => exact changed name _
  | recordResult record => rfl
  | history name limit => exact congrArg Answer.records (history_of_bounded bounded name limit.toNat)
  | remove name =>
    show Answer.ofResult (f.remove name).2 = f.register.found name
    rw [← changed name f, remove]
    cases f.contains name <;> rfl

theorem register_modify (f : Facility) (name : String) (change : Entry → Entry)
    (same : ∀ e, (change e).name = e.name) :
    (f.modify name change same).register = f.register.change name change :=
  Register.ext (funext fun n => f.get?_modify name n change same) rfl

theorem register_settle_modify (f : Facility) (name : String) (change : Entry → Entry)
    (same : ∀ e, (change e).name = e.name) :
    (f.settle (if f.contains name then .ok (f.modify name change same)
      else .error (.notFound name))).2.register = f.register.change name change := by
  rw [contains_eq]
  cases present : f.get? name with
  | some e => exact f.register_modify name change same
  | none => exact (Register.change_absent present change).symm

theorem register_insert (f : Facility) (task : Task) (next : Option Instant) :
    (f.settle (f.insert task next)).2.register = f.register.after (.insert task next) := by
  rw [Register.after]
  cases done : f.insert task next with
  | ok after =>
    have absent : ¬(f.register.entry task.name).isSome = true := by
      intro present
      obtain ⟨e, failed⟩ := (f.insert_eq_error_iff task next).2 present
      rw [done] at failed
      cases failed
    rw [if_neg absent]
    exact Register.ext (funext (get?_insert done)) (funext (runsOf_insert done))
  | error e =>
    have present : (f.register.entry task.name).isSome = true :=
      (f.insert_eq_error_iff task next).1 ⟨e, done⟩
    rw [if_pos present]
    rfl

/-- Every request changes the facility as it changes the register. -/
theorem register_serve (f : Facility) (q : Request) :
    (f.serve q).2.register = f.register.after q := by
  cases q with
  | insert task next => exact f.register_insert task next
  | get name => rfl
  | all => rfl
  | setEnabled name enabled next => exact f.register_settle_modify name _ _
  | setSchedule name last next =>
    refine (f.register_settle_modify name _ _).trans ?_
    cases last with
    | none => rfl
    | some last => rfl
  | recordResult record =>
    exact Register.ext (funext (f.get?_recordResult record)) (funext (f.runsOf_recordResult record))
  | history name limit => rfl
  | remove name => exact Register.ext (funext (f.get?_remove name)) (funext (f.runsOf_remove name))

theorem conducts_answers {f : Facility} (bounded : f.register.Bounded) (requests : List Request) :
    f.register.Conducts requests (f.answers requests) := by
  induction requests generalizing f with
  | nil => exact .done f.register
  | cons q rest ih =>
    refine .answer (answers_serve bounded q) ?_
    rw [← f.register_serve q]
    apply ih
    rw [f.register_serve q]
    exact Register.bounded_after bounded q

end Facility
end Steward.Schedule
