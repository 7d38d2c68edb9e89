import Steward.Proofs.Schedule.Register
import Steward.Proofs.Schedule.Row
import Steward.Schedule.Tables

/-!
The tables of the task facility show a register: each task row reads as the entry under its name, and
the run rows of a name read as its records, the last one first. Every request leaves it so and is
answered as the register says, so no row ever becomes unreadable.
-/
namespace Steward.Schedule
open Steward.Calendar Steward.Text

theorem mapM_eq_some {f : α → Option β} {xs : List α} {ys : List β} (each : xs.map f = ys.map some) :
    xs.mapM f = some ys := by
  induction xs generalizing ys with
  | nil =>
    cases ys with
    | nil => rfl
    | cons y ys => cases each
  | cons x xs ih =>
    cases ys with
    | nil => cases each
    | cons y ys =>
      obtain ⟨head, tail⟩ := List.cons.inj each
      rw [List.mapM_cons, head, ih tail]
      rfl

theorem utf8_le_iff (a b : String) : utf8 a ≤ utf8 b ↔ a ≤ b := by
  have less : b < a ↔ utf8 b < utf8 a := lt_iff_utf8_lt b a
  rw [← String.not_lt, less]
  rfl

theorem mapM_read? {rows : List TaskRow} (reads : ∀ row ∈ rows, ∃ e, row.read? = some e) :
    ∃ es, rows.mapM TaskRow.read? = some es ∧ es.map Entry.name = rows.map TaskRow.name ∧
      ∀ e, e ∈ es ↔ ∃ row ∈ rows, row.read? = some e := by
  induction rows with
  | nil => exact ⟨[], rfl, rfl, fun e => by simp⟩
  | cons row rows ih =>
    obtain ⟨e, read⟩ := reads row List.mem_cons_self
    obtain ⟨es, all, names, mem_iff⟩ := ih fun x mem => reads x (List.mem_cons_of_mem row mem)
    refine ⟨e :: es, ?_, ?_, ?_⟩
    · rw [List.mapM_cons, read, all]
      rfl
    · rw [List.map_cons, List.map_cons, names, row.name_of_read? read]
    · intro x
      rw [List.mem_cons, mem_iff]
      constructor
      · rintro (rfl | ⟨y, mem, readY⟩)
        · exact ⟨row, List.mem_cons_self, read⟩
        · exact ⟨y, List.mem_cons_of_mem row mem, readY⟩
      · rintro ⟨y, mem, readY⟩
        rcases List.mem_cons.1 mem with rfl | old
        · exact .inl (Option.some.inj (readY.symm.trans read))
        · exact .inr ⟨y, old, readY⟩

theorem filter_numbered_take {rows : List RunRow} (distinct : rows.Pairwise fun a b => a.id ≠ b.id)
    (k : Nat) : (rows.filter fun row => ((rows.take k).map (·.id)).contains row.id) = rows.take k := by
  have whole := distinct
  rw [← List.take_append_drop k rows] at whole
  obtain ⟨-, -, apart⟩ := List.pairwise_append.1 whole
  have kept : ∀ row ∈ rows.take k, ((rows.take k).map (·.id)).contains row.id = true := by
    intro row mem
    exact List.contains_iff_mem.2 (List.mem_map_of_mem mem)
  have gone : ∀ row ∈ rows.drop k, ¬((rows.take k).map (·.id)).contains row.id = true := by
    intro row mem listed
    obtain ⟨first, front, same⟩ := List.mem_map.1 (List.contains_iff_mem.1 listed)
    exact apart first front row mem same
  calc rows.filter (fun row => ((rows.take k).map (·.id)).contains row.id)
      = (rows.take k ++ rows.drop k).filter
          (fun row => ((rows.take k).map (·.id)).contains row.id) := by rw [List.take_append_drop]
    _ = rows.take k := by
      rw [List.filter_append, List.filter_eq_self.2 kept, List.filter_eq_nil_iff.2 gone,
        List.append_nil]

namespace Tables

def runsOf (t : Tables) (name : String) : List RunRow := t.runs.filter (·.taskName == name)

structure Shows (t : Tables) (r : Register) : Prop where
  distinct : t.tasks.Pairwise fun a b => a.name ≠ b.name
  reads : ∀ row ∈ t.tasks, ∃ e, row.read? = some e ∧ r.entry row.name = some e
  rows : ∀ name e, r.entry name = some e → ∃ row ∈ t.tasks, row.name = name
  numbered : t.runs.Pairwise fun a b => a.id < b.id
  unused : ∀ row ∈ t.runs, row.id < t.nextId
  records : ∀ name, (t.runsOf name).reverse.map RunRow.record? = (r.records name).map some

theorem shows_empty : empty.Shows .empty where
  distinct := List.Pairwise.nil
  reads := fun _ mem => absurd mem List.not_mem_nil
  rows := fun _ _ held => nomatch held
  numbered := List.Pairwise.nil
  unused := fun _ mem => absurd mem List.not_mem_nil
  records := fun _ => rfl

/-- With ascending numbers the newest run is the last one. -/
theorem newest_eq {t : Tables} (numbered : t.runs.Pairwise fun a b => a.id < b.id) (name : String) :
    t.newest name = (t.runsOf name).reverse := by
  have descending : (t.runsOf name).reverse.Pairwise fun a b => b.id < a.id :=
    List.pairwise_reverse.2 (numbered.filter _)
  have perm : (t.newest name).Perm (t.runsOf name).reverse :=
    (List.mergeSort_perm _ _).trans (List.reverse_perm _).symm
  have sorted : (t.newest name).Pairwise fun a b => b.id ≤ a.id := by
    refine (List.pairwise_mergeSort ?_ ?_ _).imp ?_
    · intro a b c first second
      have := of_decide_eq_true first
      have := of_decide_eq_true second
      exact decide_eq_true (by omega)
    · intro a b
      rw [← Bool.decide_or]
      exact decide_eq_true (Nat.le_total _ _)
    · intro a b le
      exact of_decide_eq_true le
  have distinct : (t.newest name).Pairwise fun a b => a.id ≠ b.id :=
    (perm.pairwise_iff Ne.symm).2 (descending.imp fun less => (Nat.ne_of_lt less).symm)
  have strict : (t.newest name).Pairwise fun a b => b.id < a.id :=
    (sorted.and distinct).imp fun both => Nat.lt_of_le_of_ne both.1 both.2.symm
  refine perm.eq_of_pairwise ?_ strict descending
  intro a b _ _ less more
  exact absurd (Nat.lt_trans less more) (Nat.lt_irrefl _)

/-- Trimming a name leaves its newest runs, and all runs of other names. -/
theorem runsOf_trim {t : Tables} (numbered : t.runs.Pairwise fun a b => a.id < b.id) (name n : String) :
    (t.trim name).runsOf n =
      if n = name then ((t.runsOf n).reverse.take historyLimit).reverse else t.runsOf n := by
  rw [runsOf, trim, newest_eq numbered, List.filter_filter]
  split
  · rename_i here
    have distinct : (t.runsOf name).reverse.Pairwise fun a b => a.id ≠ b.id :=
      List.pairwise_reverse.2 ((numbered.filter _).imp fun less => (Nat.ne_of_lt less).symm)
    have front := filter_numbered_take distinct historyLimit
    rw [here]
    generalize ((t.runsOf name).reverse.take historyLimit).map (·.id) = kept at front ⊢
    rw [← front, List.filter_reverse, List.reverse_reverse, runsOf, List.filter_filter]
    refine List.filter_congr fun row _ => ?_
    cases row.taskName == name <;> simp
  · rename_i other
    refine List.filter_congr fun row _ => ?_
    by_cases owned : row.taskName = n
    · simp [owned, other]
    · simp [owned]

namespace Shows
variable {t : Tables} {r : Register} (shows : t.Shows r)
include shows

theorem has_eq (name : String) : t.has name = (r.entry name).isSome := by
  cases held : r.entry name with
  | none =>
    refine List.any_eq_false.2 fun row mem same => ?_
    obtain ⟨e, -, entry⟩ := shows.reads row mem
    rw [eq_of_beq same, held] at entry
    cases entry
  | some e =>
    obtain ⟨row, mem, named⟩ := shows.rows name e held
    exact List.any_eq_true.2 ⟨row, mem, beq_iff_eq.2 named⟩

theorem found_eq (name : String) : Answer.ofResult (t.found name) = r.found name := by
  rw [found, shows.has_eq, Register.found]
  cases (r.entry name).isSome <;> rfl

theorem get?_eq (name : String) : t.get? name = some (r.entry name) := by
  rw [get?]
  split
  · rename_i row here
    have same := List.find?_some here
    have named : row.name = name := eq_of_beq same
    obtain ⟨e, read, entry⟩ := shows.reads row (List.mem_of_find?_eq_some here)
    rw [read, ← named, entry]
    rfl
  · rename_i none
    cases held : r.entry name with
    | none => rfl
    | some e =>
      obtain ⟨row, mem, named⟩ := shows.rows name e held
      exact absurd (beq_iff_eq.2 named) (List.find?_eq_none.1 none row mem)

theorem all?_eq : ∃ es, t.all? = some es ∧ r.Lists es := by
  let rows := t.tasks.mergeSort fun a b => decide (utf8 a.name ≤ utf8 b.name)
  have perm : rows.Perm t.tasks := List.mergeSort_perm _ _
  have sorted : rows.Pairwise fun a b => a.name ≤ b.name := by
    refine (List.pairwise_mergeSort ?_ ?_ _).imp ?_
    · intro a b c first second
      have low := (utf8_le_iff a.name b.name).1 (of_decide_eq_true first)
      have high := (utf8_le_iff b.name c.name).1 (of_decide_eq_true second)
      exact decide_eq_true ((utf8_le_iff a.name c.name).2 (String.le_trans low high))
    · intro a b
      rw [← Bool.decide_or]
      exact decide_eq_true ((String.le_total a.name b.name).imp (utf8_le_iff _ _).2 (utf8_le_iff _ _).2)
    · intro a b le
      exact (utf8_le_iff a.name b.name).1 (of_decide_eq_true le)
  have distinct : rows.Pairwise fun a b => a.name ≠ b.name :=
    (perm.pairwise_iff Ne.symm).2 shows.distinct
  have reads : ∀ row ∈ rows, ∃ e, row.read? = some e := by
    intro row mem
    obtain ⟨e, read, -⟩ := shows.reads row (perm.mem_iff.1 mem)
    exact ⟨e, read⟩
  obtain ⟨es, all, names, mem_iff⟩ := mapM_read? reads
  refine ⟨es, all, ?_, ?_⟩
  · have ascending : (rows.map TaskRow.name).Pairwise fun a b => utf8 a < utf8 b := by
      refine List.pairwise_map.2 ((sorted.and distinct).imp ?_)
      intro a b both
      exact (lt_iff_utf8_lt _ _).1 (lt_of_not_lt_of_ne (String.not_lt.2 both.1) both.2.symm)
    rw [← names] at ascending
    have byName := List.pairwise_map.1 ascending
    exact byName
  · intro e
    rw [mem_iff]
    constructor
    · rintro ⟨row, mem, read⟩
      obtain ⟨x, readX, held⟩ := shows.reads row (perm.mem_iff.1 mem)
      rw [row.name_of_read? read, held]
      exact readX.symm.trans read
    · intro held
      obtain ⟨row, mem, named⟩ := shows.rows e.name e held
      obtain ⟨x, readX, heldX⟩ := shows.reads row mem
      rw [named, held] at heldX
      exact ⟨row, perm.mem_iff.2 mem, readX.trans heldX.symm⟩

/-- A change of the rows of a name that is one of the entry read from each. -/
theorem update (change : TaskRow → TaskRow) (f : Entry → Entry)
    (same : ∀ row, (change row).name = row.name)
    (reads : ∀ row e, row.read? = some e → (change row).read? = some (f e)) (name : String) :
    (t.update name change).Shows (r.change name f) := by
  have keeps (row : TaskRow) : (if row.name = name then change row else row).name = row.name := by
    split
    · exact same row
    · rfl
  refine ⟨List.pairwise_map.2 ?_, ?_, ?_, shows.numbered, shows.unused, shows.records⟩
  · refine shows.distinct.imp ?_
    intro a b apart
    rw [keeps, keeps]
    exact apart
  · intro row mem
    obtain ⟨before, old, rfl⟩ := List.mem_map.1 mem
    obtain ⟨e, read, held⟩ := shows.reads before old
    rw [keeps]
    by_cases here : before.name = name
    · refine ⟨f e, ?_, ?_⟩
      · rw [if_pos here]
        exact reads before e read
      · show (if before.name = name then (r.entry before.name).map f else _) = _
        rw [if_pos here, held]
        rfl
    · refine ⟨e, ?_, ?_⟩
      · rw [if_neg here]
        exact read
      · show (if before.name = name then _ else r.entry before.name) = _
        rw [if_neg here, held]
  · intro n e held
    have before : ∃ old, r.entry n = some old := by
      have held' : (if n = name then (r.entry n).map f else r.entry n) = some e := held
      split at held'
      · obtain ⟨old, entry, -⟩ := Option.map_eq_some_iff.1 held'
        exact ⟨old, entry⟩
      · exact ⟨e, held'⟩
    obtain ⟨old, entry⟩ := before
    obtain ⟨row, mem, named⟩ := shows.rows n old entry
    exact ⟨_, List.mem_map_of_mem mem, (keeps row).trans named⟩

theorem insert {row : TaskRow} {e : Entry} (read : row.read? = some e) (absent : r.entry e.name = none) :
    { t with tasks := t.tasks ++ [row] }.Shows (r.add e) := by
  have named : e.name = row.name := row.name_of_read? read
  have apart : ∀ old ∈ t.tasks, old.name ≠ e.name := by
    intro old mem same
    obtain ⟨x, -, held⟩ := shows.reads old mem
    rw [same, absent] at held
    cases held
  refine ⟨List.pairwise_append.2 ⟨shows.distinct, List.pairwise_singleton _ _, ?_⟩, ?_, ?_,
    shows.numbered, shows.unused, shows.records⟩
  · intro old mem new here
    rw [List.mem_singleton.1 here, ← named]
    exact apart old mem
  · intro x mem
    rcases List.mem_append.1 mem with old | new
    · obtain ⟨y, readY, held⟩ := shows.reads x old
      exact ⟨y, readY, (if_neg (apart x old)).trans held⟩
    · rw [List.mem_singleton.1 new]
      exact ⟨e, read, if_pos named.symm⟩
  · intro n x held
    by_cases here : n = e.name
    · exact ⟨row, List.mem_append_right _ List.mem_cons_self, (here.trans named).symm⟩
    · obtain ⟨old, mem, same⟩ := shows.rows n x ((if_neg here).symm.trans held)
      exact ⟨old, List.mem_append_left _ mem, same⟩

theorem history?_eq (bounded : r.Bounded) (name : String) (limit : UInt64) :
    t.history? name limit.toInt64 = some ((r.records name).take limit.toNat) := by
  have records := shows.records name
  have short := bounded name
  rw [history?, newest_eq shows.numbered]
  by_cases fits : limit.toNat < 0x8000000000000000
  · have word : limit.toInt64.toNatClampNeg = limit.toNat := by
      rw [Int64.toNatClampNeg, toInt64_eq, if_pos fits, Int.toNat_natCast]
    rw [if_neg fun negative => (toInt64_lt_zero_iff limit).1 negative fits, word]
    apply mapM_eq_some
    rw [List.map_take, records, List.map_take]
  · rw [if_pos ((toInt64_lt_zero_iff limit).2 fits), List.take_of_length_le (by omega)]
    exact mapM_eq_some records

theorem note (record : RunRecord) :
    (trim { t with runs := t.runs ++ [RunRow.ofRecord t.nextId record], nextId := t.nextId + 1 }
      record.taskName).Shows (r.note record.taskName record.stored) := by
  let row := RunRow.ofRecord t.nextId record
  let runs := t.runs ++ [row]
  have numbered : runs.Pairwise fun a b => a.id < b.id := by
    refine List.pairwise_append.2 ⟨shows.numbered, List.pairwise_singleton _ _, ?_⟩
    intro old mem new here
    rw [List.mem_singleton.1 here]
    exact shows.unused old mem
  have unused : ∀ x ∈ runs, x.id < t.nextId + 1 := by
    intro x mem
    rcases List.mem_append.1 mem with old | new
    · exact Nat.lt_succ_of_lt (shows.unused x old)
    · rw [List.mem_singleton.1 new]
      exact Nat.lt_succ_self t.nextId
  refine ⟨shows.distinct, shows.reads, shows.rows, numbered.filter _, ?_, ?_⟩
  · intro x mem
    exact unused x (List.mem_filter.1 mem).1
  · intro n
    rw [runsOf_trim numbered]
    have records := shows.records n
    by_cases here : n = record.taskName
    · have own : (row.taskName == n) = true := beq_iff_eq.2 here.symm
      have last : (t.runs ++ [row]).filter (·.taskName == n) = t.runsOf n ++ [row] := by
        rw [List.filter_append, List.filter_cons, own]
        rfl
      have kept : (r.note record.taskName record.stored).records n =
          (record.stored :: r.records n).take 50 := if_pos here
      rw [if_pos here, kept, List.reverse_reverse]
      show (((t.runs ++ [row]).filter (·.taskName == n)).reverse.take 50).map _ = _
      rw [last, List.map_take, List.map_take, List.reverse_append, List.reverse_singleton,
        List.singleton_append, List.map_cons, records, RunRow.record?_ofRecord, List.map_cons]
    · have own : (row.taskName == n) = false := beq_false_of_ne fun same => here same.symm
      have old : (t.runs ++ [row]).filter (·.taskName == n) = t.runsOf n := by
        rw [List.filter_append, List.filter_cons, own]
        exact List.append_nil _
      have kept : (r.note record.taskName record.stored).records n = r.records n := if_neg here
      rw [if_neg here, kept]
      show ((t.runs ++ [row]).filter (·.taskName == n)).reverse.map _ = _
      rw [old, records]

theorem remove (name : String) : (t.remove name).Shows (r.drop name) := by
  refine ⟨shows.distinct.filter _, ?_, ?_, shows.numbered.filter _, ?_, ?_⟩
  · intro row mem
    obtain ⟨old, other⟩ := List.mem_filter.1 mem
    obtain ⟨e, read, held⟩ := shows.reads row old
    exact ⟨e, read, (if_neg (bne_iff_ne.1 other)).trans held⟩
  · intro n e held
    have held' : (if n = name then none else r.entry n) = some e := held
    split at held'
    · cases held'
    · rename_i other
      obtain ⟨row, mem, named⟩ := shows.rows n e held'
      exact ⟨row, List.mem_filter.2 ⟨mem, bne_iff_ne.2 (named ▸ other)⟩, named⟩
  · intro row mem
    exact shows.unused row (List.mem_filter.1 mem).1
  · intro n
    show ((t.runs.filter (·.taskName != name)).filter (·.taskName == n)).reverse.map _ =
      (if n = name then [] else r.records n).map some
    rw [List.filter_filter]
    split
    · rename_i here
      have none : t.runs.filter (fun row => row.taskName == n && row.taskName != name) = [] := by
        refine List.filter_eq_nil_iff.2 ?_
        intro row _ both
        rw [Bool.and_eq_true, beq_iff_eq, bne_iff_ne] at both
        exact both.2 (both.1.trans here)
      rw [none]
      rfl
    · rename_i other
      have same : t.runs.filter (fun row => row.taskName == n && row.taskName != name) = t.runsOf n := by
        refine List.filter_congr fun row _ => ?_
        by_cases owned : row.taskName = n
        · simp [owned, other]
        · simp [owned]
      rw [same]
      exact shows.records n

theorem serve (bounded : r.Bounded) (q : Request) :
    ∃ a, (t.serve q).1 = some a ∧ r.Answers q a ∧ (t.serve q).2.Shows (r.after q) := by
  cases q with
  | insert task next =>
    have present := shows.has_eq task.name
    show ∃ a, some (Answer.ofResult (t.insert task next).1) = some a ∧ _ ∧ (t.insert task next).2.Shows _
    rw [Tables.insert, Register.after, present]
    cases held : r.entry task.name with
    | some e => exact ⟨_, rfl, by rw [Register.Answers, held]; rfl, shows⟩
    | none =>
      exact ⟨_, rfl, by rw [Register.Answers, held]; rfl,
        shows.insert (TaskRow.read?_ofTask task next) held⟩
  | get name => exact ⟨.entry (r.entry name), by rw [Tables.serve, shows.get?_eq]; rfl, rfl, shows⟩
  | all =>
    obtain ⟨es, all, lists⟩ := shows.all?_eq
    exact ⟨.entries es, by rw [Tables.serve, all]; rfl, ⟨es, lists, rfl⟩, shows⟩
  | setEnabled name enabled next =>
    have changed := shows.update (·.withEnabled enabled next) (·.withEnabled enabled next)
      (fun _ => rfl) (fun _ _ read => TaskRow.read?_withEnabled read enabled next) name
    exact ⟨_, rfl, shows.found_eq name, changed⟩
  | setSchedule name last next =>
    refine ⟨_, rfl, shows.found_eq name, ?_⟩
    have changed := shows.update (·.withSchedule last next) (·.withSchedule last next)
      (fun _ => rfl) (fun _ _ read => TaskRow.read?_withSchedule read last next) name
    cases last with
    | none => exact changed
    | some last => exact changed
  | recordResult record =>
    have changed := shows.update (·.withResult record) (·.withResult record)
      (fun _ => rfl) (fun _ _ read => TaskRow.read?_withResult read record) record.taskName
    exact ⟨_, rfl, rfl, changed.note record⟩
  | history name limit =>
    exact ⟨_, congrArg (Option.map Answer.records) (shows.history?_eq bounded name limit), rfl, shows⟩
  | remove name => exact ⟨_, rfl, shows.found_eq name, shows.remove name⟩

theorem conducts (bounded : r.Bounded) (requests : List Request) :
    ∃ answers, t.answers requests = answers.map some ∧ r.Conducts requests answers := by
  induction requests generalizing t r with
  | nil => exact ⟨[], rfl, .done r⟩
  | cons q rest ih =>
    obtain ⟨a, served, here, after⟩ := shows.serve bounded q
    obtain ⟨answers, read, further⟩ := ih after (Register.bounded_after bounded q)
    refine ⟨a :: answers, ?_, .answer here further⟩
    rw [Tables.answers, served, read]
    rfl

end Shows
end Tables

/-- Whatever is asked of an empty facility one after another, it answers as the map from names does,
in the only way the map allows, and reads every answer back from its tables. -/
theorem facility_answers_as_map (requests : List Request) :
    Register.empty.Conducts requests (Facility.empty.answers requests) ∧
      (∀ answers, Register.empty.Conducts requests answers →
        answers = Facility.empty.answers requests) ∧
      Tables.empty.answers requests = (Facility.empty.answers requests).map some := by
  have bounded : Register.empty.Bounded := fun _ => Nat.zero_le 50
  have facility : Register.empty.Conducts requests (Facility.empty.answers requests) :=
    @Facility.conducts_answers .empty bounded requests
  have only (answers : List Answer) (conducted : Register.empty.Conducts requests answers) :
      answers = Facility.empty.answers requests := conducted.unique facility
  obtain ⟨answers, read, conducted⟩ := Tables.shows_empty.conducts bounded requests
  rw [only answers conducted] at read
  exact ⟨facility, only, read⟩

end Steward.Schedule
