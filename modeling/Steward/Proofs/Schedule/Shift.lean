import Steward.Proofs.Schedule.Course

/-!
What one event can do to the task of one name. A task comes by registration and goes by removal. In
between its definition keeps its trigger, and its schedule is moved only by enabling and disabling it and
by its own fate in a tick. That fate is met or, when a call fails or the tick is aborted before, nothing
is done; other names have no part in it.
-/
namespace Steward.Schedule
open Steward.Calendar

structure Timing where
  task : Task
  next : Option Instant
  last : Option Instant

def Entry.timing (e : Entry) : Timing := ⟨e.task, e.state.nextRunAt, e.state.lastRunAt⟩

@[simp] theorem Entry.timing_withResult (e : Entry) (r : RunRecord) :
    (e.withResult r).timing = e.timing := rfl

theorem timing_eq_of_result {x y : Option Entry} {p : Prop} {r : RunRecord}
    (cases : y = x ∨ p ∧ y = x.map (·.withResult r)) : y.map Entry.timing = x.map Entry.timing := by
  rcases cases with rfl | ⟨-, rfl⟩
  · rfl
  · cases x <;> rfl

theorem TickReport.mem_names_note (report : TickReport) (name n : String) (fate verdict : Fate) :
    n ∈ (report.note name fate).names verdict ↔
      n ∈ report.names verdict ∨ n = name ∧ fate = verdict ∧ verdict ≠ .untouched := by
  by_cases told : verdict = .untouched
  · simp [told, names]
  · rw [names_note report name told fate]
    by_cases here : fate = verdict <;> simp [told, here]

theorem settledEntry_task {e left : Entry} {now : Instant} {next : Option Instant} {verdict : Fate}
    (settled : settledEntry e now next verdict = some left) : left.task = e.task := by
  cases verdict <;> cases settled <;> rfl

theorem settledEntry_next {e left : Entry} {now : Instant} {next : Option Instant} {verdict : Fate}
    (settled : settledEntry e now next verdict = some left) :
    left.timing.next = e.timing.next ∨ left.timing.next = next.map Instant.wholeSeconds := by
  cases verdict with
  | reclaimed => cases settled
  | untouched =>
    cases settled
    exact .inl rfl
  | missed =>
    cases settled
    exact .inr rfl
  | skipped =>
    cases settled
    exact .inr rfl
  | launched =>
    cases settled
    exact .inr rfl

namespace Runner

def timing (r : Runner) (n : String) : Option Timing := (r.store.facility.get? n).map Entry.timing

def pending (r : Runner) (n : String) : Option Instant := (r.timing n).bind Timing.next

def flightsOf (r : Runner) (n : String) : Nat := (r.inFlight.map Run.name).count n

section Visit
variable {r : Runner} {report : TickReport} {e : Entry} {now : Instant} {x : Runner × TickReport}

theorem visit_cases (done : r.visit report e now = .ok x) :
    (r.fateOf now e = .reclaimed ∧ x = r.reclaim report e.name) ∨
    (r.fateOf now e = .untouched ∧ x = (r, report)) ∨
    ∃ firing, firing ≠ .notDue ∧ r.fateOf now e = firing.fate ∧
      x = r.handle report e.task firing now := by
  have inside := (visit_completes_iff r now report e).1 ⟨x, done⟩
  obtain ⟨reclaim, computed, points⟩ := reclaimAt_eq e.task inside
  have expiry := any_reclaim_iff points now
  have judgement := fate_eq e (r.running.count e.name) now
  simp only [visit, computed, bind, Except.bind, pure, Except.pure] at done
  split at done
  · rename_i passed
    rw [if_pos (expiry.1 passed)] at judgement
    exact .inl ⟨judgement, (Except.ok.inj done).symm⟩
  · rename_i lasting
    rw [if_neg (mt expiry.2 lasting)] at judgement
    split at done
    · rename_i idle
      rw [idle] at judgement
      exact .inr (.inl ⟨judgement, (Except.ok.inj done).symm⟩)
    · rename_i acts
      exact .inr (.inr ⟨_, acts, judgement, (Except.ok.inj done).symm⟩)

structure Visited (r : Runner) (report : TickReport) (e : Entry) (now : Instant) (verdict : Fate)
    (x : Runner × TickReport) : Prop where
  report : x.2 = report.note e.name verdict
  others : ∀ n, n ≠ e.name → x.1.store.facility.get? n = r.store.facility.get? n
  timing : x.1.timing e.name =
    (settledEntry e now (nextFireAfter e.task.trigger now) verdict).map Entry.timing
  count : ∀ n, x.1.running.count n =
    r.running.count n + if n = e.name ∧ verdict = .launched then 1 else 0
  flights : ∀ n, x.1.flightsOf n = r.flightsOf n + if n = e.name ∧ verdict = .launched then 1 else 0

theorem handle_setting (r : Runner) (report : TickReport) (task : Task) (firing : Firing)
    (now : Instant) : (r.handle report task firing now).1.store.setting = r.store.setting := by
  cases moved : r.store.setSchedule task.name (if firing = .run then some now else none)
      (nextFireAfter task.trigger now) with
  | error error => simp only [handle, moved]
  | ok s =>
    have same := Store.setting_eq (Store.setSchedule_ok moved).1
    simp only [handle, moved]
    cases firing with
    | skipRunning =>
      exact (Store.setting_recordResult s (skippedRecord task.name now)).trans same
    | run => exact same
    | notDue => exact same
    | missed => exact same

theorem visit_setting (done : r.visit report e now = .ok x) :
    x.1.store.setting = r.store.setting := by
  rcases visit_cases done with ⟨-, rfl⟩ | ⟨-, rfl⟩ | ⟨firing, -, -, rfl⟩
  · exact Store.setting_delete r.store e.name
  · rfl
  · exact handle_setting r report e.task firing now

variable (registered : r.store.facility.get? e.name = some e)
include registered

theorem visited_untouched : r.Visited report e now .untouched (r, report) := by
  refine ⟨rfl, fun n _ => rfl, ?_, fun n => by simp, fun n => by simp⟩
  simp [timing, registered, settledEntry]

theorem reclaim_visited : r.Visited report e now .untouched (r.reclaim report e.name) ∨
    r.Visited report e now .reclaimed (r.reclaim report e.name) := by
  rcases r.store.delete_cases e.name with ⟨error, failed⟩ | removed
  · left
    simp only [reclaim, failed, Except.isOk, Except.toBool, Bool.false_eq_true, if_false]
    exact visited_untouched registered
  · right
    have present : (r.store.facility.remove e.name).2 = .ok () := by
      simp [Facility.remove, Facility.contains_eq, registered]
    simp only [reclaim, removed, present, Except.isOk, Except.toBool, if_true]
    refine ⟨rfl, fun n other => ?_, ?_, fun n => by simp, fun n => by simp [flightsOf]⟩
    · exact (Facility.get?_remove _ e.name n).trans (if_neg other)
    · have gone := (Facility.get?_remove r.store.facility e.name e.name).trans (if_pos rfl)
      simp [timing, gone, settledEntry]

theorem handle_visited_of_moved {firing : Firing} (acts : firing ≠ .notDue) {s : Store}
    (moved : r.store.setSchedule e.task.name (if firing = .run then some now else none)
      (nextFireAfter e.task.trigger now) = .ok s) :
    r.Visited report e now firing.fate (r.handle report e.task firing now) := by
  obtain ⟨-, views⟩ := Store.setSchedule_ok moved
  have others (n : String) (other : n ≠ e.name) :
      s.facility.get? n = r.store.facility.get? n := (views n).trans (if_neg other)
  have own := (views e.name).trans (if_pos rfl)
  rw [registered] at own
  simp only [handle, moved]
  cases firing with
  | notDue => exact absurd rfl acts
  | run =>
    refine ⟨rfl, others, ?_, fun n => ?_, fun n => ?_⟩
    · simp [timing, start, own, settledEntry, Firing.fate, Entry.timing, Entry.withSchedule]
    · simp [start, Tally.count_add, Run.name, Entry.name, Firing.fate]
    · simp [start, flightsOf, Run.name, Entry.name, Firing.fate, List.count_singleton,
        @eq_comm _ n]
  | skipRunning =>
    have results (n : String) := s.get?_recordResult_cases (skippedRecord e.task.name now) n
    refine ⟨rfl, fun n other => ?_, ?_, fun n => by simp [Firing.fate],
      fun n => by simp [Firing.fate, flightsOf]⟩
    · rcases results n with same | ⟨own, -⟩
      · exact same.trans (others n other)
      · exact absurd own other
    · refine (timing_eq_of_result (results e.name)).trans ?_
      simp [own, settledEntry, Firing.fate, Entry.timing, Entry.withSchedule]
  | missed =>
    refine ⟨rfl, others, ?_, fun n => by simp [Firing.fate],
      fun n => by simp [Firing.fate, flightsOf]⟩
    simp [timing, own, settledEntry, Firing.fate, Entry.timing, Entry.withSchedule]

theorem handle_visited {firing : Firing} (acts : firing ≠ .notDue) :
    r.Visited report e now .untouched (r.handle report e.task firing now) ∨
      r.Visited report e now firing.fate (r.handle report e.task firing now) := by
  cases moved : r.store.setSchedule e.task.name (if firing = .run then some now else none)
      (nextFireAfter e.task.trigger now) with
  | error error =>
    left
    simp only [handle, moved]
    exact visited_untouched registered
  | ok s => exact .inr (handle_visited_of_moved registered acts moved)

theorem visit_visited (done : r.visit report e now = .ok x) :
    ∃ verdict, (verdict = .untouched ∨ verdict = r.fateOf now e) ∧ r.Visited report e now verdict x := by
  rcases visit_cases done with ⟨judged, rfl⟩ | ⟨judged, rfl⟩ | ⟨firing, acts, judged, rfl⟩
  · rcases @reclaim_visited r report e now registered with failed | removed
    · exact ⟨.untouched, .inl rfl, failed⟩
    · exact ⟨.reclaimed, .inr judged.symm, removed⟩
  · exact ⟨.untouched, .inl rfl, visited_untouched registered⟩
  · rcases @handle_visited r report e now registered firing acts with failed | settled
    · exact ⟨.untouched, .inl rfl, failed⟩
    · exact ⟨firing.fate, .inr judged.symm, settled⟩

end Visit

/-- Two states with their reports tell the same of a name. -/
structure Agree (n : String) (a b : Runner × TickReport) : Prop where
  entry : b.1.store.facility.get? n = a.1.store.facility.get? n
  count : b.1.running.count n = a.1.running.count n
  flights : b.1.flightsOf n = a.1.flightsOf n
  named : ∀ verdict, n ∈ b.2.names verdict ↔ n ∈ a.2.names verdict

/-- The task of `e` has met its fate between the two states, or was left alone. -/
structure Met (e : Entry) (now : Instant) (verdict : Fate) (a b : Runner × TickReport) : Prop where
  judged : verdict = .untouched ∨ verdict = a.1.fateOf now e
  timing : b.1.timing e.name =
    (settledEntry e now (nextFireAfter e.task.trigger now) verdict).map Entry.timing
  count : b.1.running.count e.name =
    a.1.running.count e.name + if verdict = .launched then 1 else 0
  flights : b.1.flightsOf e.name = a.1.flightsOf e.name + if verdict = .launched then 1 else 0
  named : ∀ v, e.name ∈ b.2.names v ↔ e.name ∈ a.2.names v ∨ verdict = v ∧ v ≠ .untouched

theorem agree_refl (n : String) (a : Runner × TickReport) : Agree n a a :=
  ⟨rfl, rfl, rfl, fun _ => Iff.rfl⟩

theorem Agree.trans {n : String} {a b c : Runner × TickReport} (first : Agree n a b)
    (rest : Agree n b c) : Agree n a c :=
  ⟨rest.entry.trans first.entry, rest.count.trans first.count, rest.flights.trans first.flights,
    fun verdict => (rest.named verdict).trans (first.named verdict)⟩

section
variable {e : Entry} {now : Instant} {verdict : Fate} {a b c : Runner × TickReport}

theorem met_untouched (registered : a.1.store.facility.get? e.name = some e) :
    Met e now .untouched a a := by
  refine ⟨.inl rfl, ?_, by simp, by simp, by simp⟩
  simp [timing, registered, settledEntry]

theorem Met.agree (met : Met e now verdict a b) (rest : Agree e.name b c) :
    Met e now verdict a c := by
  refine ⟨met.judged, ?_, rest.count.trans met.count, rest.flights.trans met.flights,
    fun v => (rest.named v).trans (met.named v)⟩
  exact (congrArg (Option.map Entry.timing) rest.entry).trans met.timing

theorem Agree.met (first : Agree e.name a b) (met : Met e now verdict b c) :
    Met e now verdict a c := by
  have sameFate : b.1.fateOf now e = a.1.fateOf now e := by
    rw [fateOf, fateOf, first.count]
  refine ⟨sameFate ▸ met.judged, met.timing, ?_, ?_, fun v => ?_⟩
  · rw [met.count, first.count]
  · rw [met.flights, first.flights]
  · rw [met.named, first.named]

theorem Visited.agree {r : Runner} {report : TickReport} {x : Runner × TickReport}
    (visited : r.Visited report e now verdict x) {n : String} (other : n ≠ e.name) :
    Agree n (r, report) x := by
  refine ⟨visited.others n other, ?_, ?_, fun v => ?_⟩
  · simp [visited.count, other]
  · simp [visited.flights, other]
  · simp [visited.report, TickReport.mem_names_note, other]

theorem Visited.met {r : Runner} {report : TickReport} {x : Runner × TickReport}
    (visited : r.Visited report e now verdict x)
    (judged : verdict = .untouched ∨ verdict = r.fateOf now e) : Met e now verdict (r, report) x := by
  refine ⟨judged, visited.timing, ?_, ?_, fun v => ?_⟩
  · simp [visited.count]
  · simp [visited.flights]
  · simp [visited.report, TickReport.mem_names_note]

end

section Tick
variable {r : Runner} {report : TickReport} {es : List Entry} {now : Instant}

/-- What a visit does under its own name leaves the entries behind it as they were. -/
theorem registered_of_visited {e : Entry} {verdict : Fate} {x : Runner × TickReport}
    (order : Ascending (e :: es)) (registered : ∀ y ∈ e :: es, r.store.facility.get? y.name = some y)
    (visited : r.Visited report e now verdict x) :
    ∀ y ∈ es, y.name ≠ e.name ∧ x.1.store.facility.get? y.name = some y := by
  intro y mem
  have ahead := (List.pairwise_cons.1 order).1 y mem
  have apart : y.name ≠ e.name := fun same => absurd (same ▸ ahead) (String.lt_irrefl _)
  exact ⟨apart, (visited.others y.name apart).trans (registered y (List.mem_cons_of_mem e mem))⟩

theorem visitUntilAbort_agree {n : String} (order : Ascending es)
    (registered : ∀ y ∈ es, r.store.facility.get? y.name = some y) (absent : ∀ y ∈ es, y.name ≠ n) :
    Agree n (r, report) (r.visitUntilAbort report now es) := by
  induction es generalizing r report with
  | nil => exact agree_refl n _
  | cons e es ih =>
    simp only [visitUntilAbort]
    cases done : r.visit report e now with
    | error abort => exact agree_refl n _
    | ok x =>
      obtain ⟨verdict, -, visited⟩ := visit_visited (registered e List.mem_cons_self) done
      have first := visited.agree (absent e List.mem_cons_self).symm
      have still := registered_of_visited order registered visited
      exact first.trans (ih (List.pairwise_cons.1 order).2 (fun y mem => (still y mem).2)
        fun y mem => absent y (List.mem_cons_of_mem e mem))

theorem visitUntilAbort_met {e : Entry} (order : Ascending es)
    (registered : ∀ y ∈ es, r.store.facility.get? y.name = some y) (mem : e ∈ es) :
    ∃ verdict, Met e now verdict (r, report) (r.visitUntilAbort report now es) := by
  induction es generalizing r report with
  | nil => cases mem
  | cons y es ih =>
    simp only [visitUntilAbort]
    cases done : r.visit report y now with
    | error abort => exact ⟨.untouched, met_untouched (registered e mem)⟩
    | ok x =>
      obtain ⟨verdict, judged, visited⟩ := visit_visited (registered y List.mem_cons_self) done
      have still := registered_of_visited order registered visited
      have rest := (List.pairwise_cons.1 order).2
      rcases List.mem_cons.1 mem with rfl | later
      -- the entry comes up now, and the visits behind it have other names
      · refine ⟨verdict, (visited.met judged).agree ?_⟩
        exact visitUntilAbort_agree rest (fun z inside => (still z inside).2)
          fun z inside => (still z inside).1
      -- it comes up later, and this visit tells the same of it
      · obtain ⟨verdict, met⟩ := @ih x.1 x.2 rest (fun z inside => (still z inside).2) later
        exact ⟨verdict, (visited.agree (still e later).1).met met⟩

theorem entries_ok {s : Store} (read : s.entries = .ok es) : es = s.facility.entries :=
  (Except.ok.inj (Store.ok_of_call (Store.ok_of_connect read))).symm

theorem tickUntilAbort_agree {n : String} (absent : r.store.facility.get? n = none) :
    Agree n (r, .empty) (r.tickUntilAbort now) := by
  simp only [tickUntilAbort]
  split
  · exact agree_refl n _
  · rename_i es read
    rw [entries_ok read]
    exact visitUntilAbort_agree r.store.facility.ascending
      (fun y mem => Facility.get?_name_of_mem mem) ((Facility.get?_eq_none_iff _ n).1 absent)

theorem tickUntilAbort_met {e : Entry} (registered : r.store.facility.get? e.name = some e) :
    ∃ verdict, Met e now verdict (r, .empty) (r.tickUntilAbort now) := by
  simp only [tickUntilAbort]
  split
  · exact ⟨.untouched, met_untouched registered⟩
  · rename_i es read
    rw [entries_ok read]
    exact visitUntilAbort_met r.store.facility.ascending
      (fun y mem => Facility.get?_name_of_mem mem) ((Facility.get?_eq_some_iff _ _ e).1 registered).1

/-- A tick starts with an empty report, so what it lists as launched it has launched. -/
theorem mem_launches_of_met {e : Entry} {verdict : Fate}
    (met : Met e now verdict (r, .empty) (r.tickUntilAbort now)) :
    e.name ∈ r.launches (.step (.tick now)) ↔ verdict = .launched := by
  refine (met.named .launched).trans ?_
  simp [TickReport.names, TickReport.empty]

theorem not_mem_launches_of_agree {n : String}
    (agree : Agree n (r, .empty) (r.tickUntilAbort now)) : n ∉ r.launches (.step (.tick now)) :=
  fun listed => List.not_mem_nil ((agree.named .launched).1 listed)

end Tick

theorem perform_setting (r : Runner) (step : Step) :
    (r.perform (.step step)).store.setting = r.store.setting := by
  cases step with
  | create task now =>
    cases created : r.store.create task now with
    | error e => simp only [perform, created, orKeep, withStore]
    | ok s =>
      simp only [perform, created, orKeep, withStore]
      exact Store.setting_eq (Store.create_ok created).2.1
  | delete name => exact Store.setting_delete r.store name
  | cleanup => exact Store.setting_eq r.store.cleanup_cases.1
  | enable name flag now =>
    cases changed : r.store.enable name flag now with
    | error e => simp only [perform, changed, orKeep, withStore]
    | ok s =>
      obtain ⟨-, -, same, -⟩ := Store.enable_ok changed
      simp only [perform, changed, orKeep, withStore]
      exact Store.setting_eq same
  | tick now =>
    exact tickUntilAbort_invariant (p := fun after => after.store.setting = r.store.setting)
      (fun _ _ _ _ same done => (visit_setting done).trans same) rfl
  | complete place outcome durationMs =>
    cases flying : r.inFlight[place]? with
    | none => simp only [perform, flying]
    | some run =>
      simp only [perform, flying]
      exact Store.setting_recordResult r.store (run.record outcome durationMs)

theorem after_setting (r : Runner) (steps : List Step) :
    (r.after (steps.map .step)).store.setting = r.store.setting := by
  induction steps generalizing r with
  | nil => rfl
  | cons step rest ih => exact (ih (r.perform (.step step))).trans (r.perform_setting step)

def Registers (r : Runner) (event : Event) (task : Task) (now : Instant) : Prop :=
  event = .step (.create task now) ∧ ∃ s, r.store.create task now = .ok s

theorem found_of_registers {r : Runner} {event : Event} {task : Task} {now : Instant}
    (registers : r.Registers event task now) : (r.perform event).store.facility.get? task.name =
      some ⟨task, .fresh (initialFire task.trigger now)⟩ := by
  obtain ⟨rfl, s, created⟩ := registers
  obtain ⟨-, -, views⟩ := Store.create_ok created
  simp only [perform, created, orKeep, withStore, views task.name, if_true]

theorem create_mem_of_registers {r : Runner} {events : List Event} {m : Runner × Event}
    (mem : m ∈ r.moments events) {task : Task} {now : Instant} (registers : m.1.Registers m.2 task now) :
    .step (.create task now) ∈ events :=
  registers.1 ▸ mem_of_mem_moments mem

inductive Shift (r : Runner) (n : String) (event : Event) : Prop
  | kept (same : (r.perform event).timing n = r.timing n) (idle : n ∉ r.launches event)
  | registered (task : Task) (now : Instant) (registers : r.Registers event task now)
      (named : task.name = n)
      (fresh : (r.perform event).timing n =
        some (Entry.timing ⟨task, .fresh (initialFire task.trigger now)⟩))
      (idle : n ∉ r.launches event)
  | removed (cause : event = .step (.delete n) ∨ event = .step .cleanup ∧ r.store.owns n = true)
      (gone : (r.perform event).timing n = none) (idle : n ∉ r.launches event)
  | switched (e : Entry) (flag : Bool) (now : Instant) (cause : event = .step (.enable n flag now))
      (found : r.store.facility.get? n = some e)
      (moved : (r.perform event).timing n =
        some (e.withEnabled flag (Store.nextAfterEnable e flag now)).timing)
      (idle : n ∉ r.launches event)
  | fated (e : Entry) (now : Instant) (cause : event = .step (.tick now))
      (found : r.store.facility.get? n = some e)
      (moved : (r.perform event).timing n = (settledEntry e now (nextFireAfter e.task.trigger now)
        (fate (r.running.count n) now e)).map Entry.timing)
      (started : n ∈ r.launches event ↔ fate (r.running.count n) now e = .launched)

theorem create_shift (r : Runner) (n : String) (task : Task) (now : Instant) :
    r.Shift n (.step (.create task now)) := by
  cases created : r.store.create task now with
  | error e =>
    refine .kept ?_ List.not_mem_nil
    simp only [perform, created, orKeep, withStore]
  | ok s =>
    obtain ⟨-, -, views⟩ := Store.create_ok created
    have view := views n
    by_cases here : n = task.name
    · rw [if_pos here] at view
      refine .registered task now ⟨rfl, s, created⟩ here.symm ?_ List.not_mem_nil
      simp only [perform, created, orKeep, withStore, timing, view, Option.map_some]
    · rw [if_neg here] at view
      refine .kept ?_ List.not_mem_nil
      simp only [perform, created, orKeep, withStore, timing, view]

theorem delete_shift (r : Runner) (n name : String) : r.Shift n (.step (.delete name)) := by
  rcases r.store.delete_cases name with ⟨error, failed⟩ | removed
  · refine .kept ?_ List.not_mem_nil
    simp only [perform, failed, withStore]
  · have view := r.store.facility.get?_remove name n
    by_cases here : n = name
    · rw [if_pos here] at view
      refine .removed (.inl (here ▸ rfl)) ?_ List.not_mem_nil
      simp only [perform, removed, withStore, timing, view, Option.map_none]
    · rw [if_neg here] at view
      refine .kept ?_ List.not_mem_nil
      simp only [perform, removed, withStore, timing, view]

theorem cleanup_shift (r : Runner) (n : String) : r.Shift n (.step .cleanup) := by
  rcases r.store.cleanup_cases.2 n with same | ⟨owned, gone⟩
  · refine .kept ?_ List.not_mem_nil
    simp only [perform, withStore, timing, same]
  · refine .removed (.inr ⟨rfl, owned⟩) ?_ List.not_mem_nil
    simp only [perform, withStore, timing, gone, Option.map_none]

theorem enable_shift (r : Runner) (n name : String) (flag : Bool) (now : Instant) :
    r.Shift n (.step (.enable name flag now)) := by
  cases changed : r.store.enable name flag now with
  | error e =>
    refine .kept ?_ List.not_mem_nil
    simp only [perform, changed, orKeep, withStore]
  | ok s =>
    obtain ⟨e, found, -, views⟩ := Store.enable_ok changed
    have view := views n
    by_cases here : n = name
    · rw [if_pos here] at view
      refine .switched e flag now (here ▸ rfl) (here ▸ found) ?_ List.not_mem_nil
      simp only [perform, changed, orKeep, withStore, timing, view, Option.map_some]
    · rw [if_neg here] at view
      refine .kept ?_ List.not_mem_nil
      simp only [perform, changed, orKeep, withStore, timing, view]

theorem tick_shift (r : Runner) (n : String) (now : Instant) : r.Shift n (.step (.tick now)) := by
  cases found : r.store.facility.get? n with
  | none =>
    have agree := @tickUntilAbort_agree r now n found
    refine .kept ?_ ?_
    · exact congrArg (Option.map Entry.timing) agree.entry
    · exact not_mem_launches_of_agree agree
  | some e =>
    obtain ⟨mem, rfl⟩ := (Facility.get?_eq_some_iff _ n e).1 found
    obtain ⟨verdict, met⟩ := @tickUntilAbort_met r now e found
    have started := mem_launches_of_met met
    rcases met.judged with rfl | rfl
    · refine .kept ?_ (mt started.1 (by decide))
      refine met.timing.trans ?_
      simp [timing, found, settledEntry]
    · exact .fated e now rfl found met.timing started

theorem result_shift (r : Runner) (n : String) {event : Event} (record : RunRecord)
    (idle : r.launches event = [])
    (store : (r.perform event).store = orKeep r.store (r.store.recordResult record)) :
    r.Shift n event := by
  refine .kept ?_ (idle ▸ List.not_mem_nil)
  rw [timing, store]
  exact timing_eq_of_result (r.store.get?_recordResult_cases record n)

theorem perform_shift (r : Runner) (n : String) (event : Event) : r.Shift n event := by
  cases event with
  | step step =>
    cases step with
    | create task now => exact create_shift r n task now
    | delete name => exact delete_shift r n name
    | cleanup => exact cleanup_shift r n
    | enable name flag now => exact enable_shift r n name flag now
    | tick now => exact tick_shift r n now
    | complete place outcome durationMs =>
      cases flying : r.inFlight[place]? with
      | none => exact .kept (by simp only [perform, flying]) List.not_mem_nil
      | some run =>
        refine result_shift r n (run.record outcome durationMs) rfl ?_
        simp only [perform, flying]
        rfl
  | fail faults => exact .kept rfl List.not_mem_nil
  | late record => exact result_shift r n record rfl rfl
  | restart => exact .kept rfl List.not_mem_nil

theorem timing_of_found {r : Runner} {n : String} {e : Entry}
    (found : r.store.facility.get? n = some e) : r.timing n = some e.timing := by
  rw [timing, found]
  rfl

theorem pending_of_found {r : Runner} {n : String} {e : Entry}
    (found : r.store.facility.get? n = some e) : r.pending n = e.state.nextRunAt := by
  rw [pending, timing_of_found found]
  rfl

def Carries (r : Runner) (n : String) (p : Task → Prop) : Prop := ∀ x, r.timing n = some x → p x.task

theorem perform_carries {r : Runner} {n : String} {event : Event} {p : Task → Prop}
    (steady : ∀ task flag, p task → p { task with enabled := flag }) (carries : r.Carries n p)
    (registers : ∀ task now, r.Registers event task now → task.name = n → p task) :
    (r.perform event).Carries n p := by
  intro x left
  cases perform_shift r n event with
  | kept same _ => exact carries x (same.symm.trans left)
  | registered task now here named fresh _ =>
    cases fresh.symm.trans left
    exact registers task now here named
  | removed _ gone _ => cases gone.symm.trans left
  | switched e flag now _ found moved _ =>
    cases moved.symm.trans left
    exact steady e.task flag (carries e.timing (timing_of_found found))
  | fated e now _ found moved _ =>
    obtain ⟨y, settled, rfl⟩ := Option.map_eq_some_iff.1 (moved.symm.trans left)
    have kept : y.timing.task = e.timing.task := settledEntry_task settled
    exact kept ▸ carries e.timing (timing_of_found found)

theorem carries_of_unrepeated {r : Runner} {n : String} {event : Event} {p : Task → Prop}
    (steady : ∀ task flag, p task → p { task with enabled := flag }) (carries : r.Carries n p)
    (unrepeated : ∀ other now, r.Registers event other now → other.name ≠ n) :
    (r.perform event).Carries n p :=
  perform_carries steady carries fun other now here named => absurd named (unrepeated other now here)

theorem fate_of_mem_launches {r : Runner} {n : String} {event : Event} (listed : n ∈ r.launches event) :
    ∃ e now, event = .step (.tick now) ∧ r.store.facility.get? n = some e ∧
      fate (r.running.count n) now e = .launched := by
  cases perform_shift r n event with
  | fated e now cause found _ started => exact ⟨e, now, cause, found, started.1 listed⟩
  | kept _ idle => exact absurd listed idle
  | registered _ _ _ _ _ idle => exact absurd listed idle
  | removed _ _ idle => exact absurd listed idle
  | switched _ _ _ _ _ _ idle => exact absurd listed idle

end Runner
end Steward.Schedule
