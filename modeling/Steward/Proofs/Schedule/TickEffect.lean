import Steward.Proofs.Schedule.Tick
import Steward.Proofs.Text.ByteOrder

/-!
What a tick reports and what it leaves behind, for any number of tasks. The lists and the table are read
off the state in which the tick begins: every name gets the fate that the rules give its entry there.
-/
namespace Steward.Schedule
open Steward.Calendar

section Fates
variable (running : Nat) (now : Instant) (e : Entry)

theorem fate_eq_reclaimed_iff : fate running now e = .reclaimed ↔ Expired e now := by
  unfold fate
  split_ifs <;> simp_all

theorem fate_eq_missed_iff :
    fate running now e = .missed ↔ ¬ Expired e now ∧ Due e now ∧ TooLate e now := by
  unfold fate
  split_ifs <;> simp_all

theorem fate_eq_skipped_iff : fate running now e = .skipped ↔
    ¬ Expired e now ∧ Due e now ∧ ¬ TooLate e now ∧ Blocked e running := by
  unfold fate
  split_ifs <;> simp_all

theorem fate_eq_launched_iff : fate running now e = .launched ↔
    ¬ Expired e now ∧ Due e now ∧ ¬ TooLate e now ∧ ¬ Blocked e running := by
  unfold fate
  split_ifs <;> simp_all

end Fates

/-- The names that a report gives a fate; it says nothing of the untouched ones. -/
def TickReport.names (report : TickReport) : Fate → List String
  | .reclaimed => report.reclaimed
  | .untouched => []
  | .missed => report.missed
  | .skipped => report.skipped
  | .launched => report.launched

theorem TickReport.names_note (report : TickReport) (name : String) {verdict : Fate}
    (told : verdict ≠ .untouched) (fate : Fate) :
    (report.note name fate).names verdict =
      report.names verdict ++ if fate = verdict then [name] else [] := by
  cases verdict <;> cases fate <;> simp [note, names] at told ⊢

namespace Runner

theorem names_noted (fates : Entry → Fate) (report : TickReport) (es : List Entry) {verdict : Fate}
    (told : verdict ≠ .untouched) :
    (noted fates report es).names verdict =
      report.names verdict ++ (es.filter fun e => fates e = verdict).map Entry.name := by
  induction es generalizing report with
  | nil => simp [noted]
  | cons e es ih =>
    rw [noted, List.foldl_cons, ← noted, ih, TickReport.names_note _ _ told]
    by_cases here : fates e = verdict <;> simp [here]

/-- The effect of a tick. What may fire next is the first occurrence after `now`, and a time that goes
to the table is stored in whole seconds. -/
structure TickEffect (r : Runner) (now : Instant) (after : Runner) (report : TickReport) : Prop where
  reclaimed_iff : ∀ n, n ∈ report.reclaimed ↔
    ∃ e, r.store.facility.get? n = some e ∧ Expired e now
  missed_iff : ∀ n, n ∈ report.missed ↔
    ∃ e, r.store.facility.get? n = some e ∧ ¬ Expired e now ∧ Due e now ∧ TooLate e now
  skipped_iff : ∀ n, n ∈ report.skipped ↔
    ∃ e, r.store.facility.get? n = some e ∧ ¬ Expired e now ∧ Due e now ∧ ¬ TooLate e now ∧
      Blocked e (r.running.count n)
  launched_iff : ∀ n, n ∈ report.launched ↔
    ∃ e, r.store.facility.get? n = some e ∧ ¬ Expired e now ∧ Due e now ∧ ¬ TooLate e now ∧
      ¬ Blocked e (r.running.count n)
  ascending : ∀ verdict, (report.names verdict).Pairwise fun a b => Text.utf8 a < Text.utf8 b
  disjoint : ∀ v w n, n ∈ report.names v → n ∈ report.names w → v = w
  entry : ∀ n e, r.store.facility.get? n = some e → ∃ next, FiresNext e.task.trigger now next ∧
    after.store.facility.get? n = settledEntry e now next (fate (r.running.count n) now e)
  runs : ∀ n e, r.store.facility.get? n = some e → after.store.facility.runsOf n =
    settledRuns n now (r.store.facility.runsOf n) (fate (r.running.count n) now e)
  forgotten : ∀ n ∈ report.reclaimed, after.store.facility.get? n = none ∧
    ∀ limit, after.store.facility.history n limit = []
  others : ∀ n, r.store.facility.get? n = none →
    after.store.facility.get? n = none ∧ after.store.facility.runsOf n = r.store.facility.runsOf n
  store : after.store = { r.store with facility := after.store.facility }
  count : ∀ n, after.running.count n = r.running.count n + if n ∈ report.launched then 1 else 0
  inFlight : ∃ started : List Run, after.inFlight = r.inFlight ++ started ∧
    started.map Run.name = report.launched ∧
    ∀ run ∈ started, run.startedAt = now ∧
      (r.store.facility.get? run.name).map Entry.task = some run.task

section
variable {r after : Runner} {now : Instant}

def reportOf (r : Runner) (now : Instant) : TickReport :=
  noted (r.fateOf now) .empty r.store.facility.entries

theorem names_reportOf (verdict : Fate) (told : verdict ≠ .untouched) :
    (r.reportOf now).names verdict =
      (r.store.facility.entries.filter fun e => r.fateOf now e = verdict).map Entry.name := by
  rw [reportOf, names_noted _ _ _ told]
  cases verdict <;> rfl

theorem mem_names_reportOf (verdict : Fate) (n : String) :
    n ∈ (r.reportOf now).names verdict ↔ verdict ≠ .untouched ∧
      ∃ e, r.store.facility.get? n = some e ∧ fate (r.running.count n) now e = verdict := by
  by_cases told : verdict = .untouched
  · simp [told, TickReport.names]
  · simp only [names_reportOf verdict told, told, List.mem_map, List.mem_filter, ne_eq,
      not_false_eq_true, true_and, decide_eq_true_iff, Facility.get?_eq_some_iff]
    constructor
    · rintro ⟨e, ⟨mem, judged⟩, rfl⟩
      exact ⟨e, ⟨mem, rfl⟩, judged⟩
    · rintro ⟨e, ⟨mem, rfl⟩, judged⟩
      exact ⟨e, ⟨mem, judged⟩, rfl⟩

theorem ascending_names_reportOf (verdict : Fate) :
    ((r.reportOf now).names verdict).Pairwise fun a b => Text.utf8 a < Text.utf8 b := by
  by_cases told : verdict = .untouched
  · simp [told, TickReport.names]
  · rw [names_reportOf verdict told, List.pairwise_map]
    refine List.Pairwise.imp ?_ (ascending_filter r.store.facility.ascending)
    exact fun less => (Text.lt_iff_utf8_lt _ _).1 less

theorem get?_of_settled (settled : r.Settled now r.store.facility.entries after) (n : String) :
    after.store.facility.get? n = (r.store.facility.get? n).bind fun e =>
      settledEntry e now (nextFireAfter e.task.trigger now) (fate (r.running.count n) now e) := by
  cases found : r.store.facility.get? n with
  | none =>
    have absent := (Facility.get?_eq_none_iff _ n).1 found
    rw [(settled.others n absent).1, found]
    rfl
  | some e =>
    obtain ⟨mem, rfl⟩ := (Facility.get?_eq_some_iff _ n e).1 found
    exact settled.entry e mem

theorem runsOf_of_settled (settled : r.Settled now r.store.facility.entries after) (n : String) :
    after.store.facility.runsOf n =
      if n ∈ (r.reportOf now).reclaimed then []
      else if n ∈ (r.reportOf now).skipped then
        ((skippedRecord n now).stored :: r.store.facility.runsOf n).take historyLimit
      else r.store.facility.runsOf n := by
  have reclaimed := @mem_names_reportOf r now .reclaimed n
  have skipped := @mem_names_reportOf r now .skipped n
  simp only [TickReport.names] at reclaimed skipped
  cases found : r.store.facility.get? n with
  | none =>
    have absent := (Facility.get?_eq_none_iff _ n).1 found
    rw [(settled.others n absent).2]
    simp [reclaimed, skipped, found]
  | some e =>
    obtain ⟨mem, rfl⟩ := (Facility.get?_eq_some_iff _ n e).1 found
    rw [settled.runs e mem, fateOf]
    cases judged : fate (r.running.count e.name) now e <;>
      simp [reclaimed, skipped, found, judged, settledRuns]

theorem nodup_names_reportOf (verdict : Fate) : ((r.reportOf now).names verdict).Nodup := by
  refine List.Pairwise.imp ?_ (@ascending_names_reportOf r now verdict)
  rintro a b less rfl
  exact List.lt_irrefl _ less

theorem launched_reportOf :
    (r.reportOf now).launched = (r.launchedOf now r.store.facility.entries).map Entry.name :=
  names_reportOf .launched (by decide)

theorem tickEffect_of_settled (settled : r.Settled now r.store.facility.entries after) :
    TickEffect r now after (r.reportOf now) := by
  have registered {n : String} {e : Entry} (found : r.store.facility.get? n = some e) :
      e ∈ r.store.facility.entries ∧ e.name = n := (Facility.get?_eq_some_iff _ n e).1 found
  constructor
  · intro n
    simpa [TickReport.names, fate_eq_reclaimed_iff] using @mem_names_reportOf r now .reclaimed n
  · intro n
    simpa [TickReport.names, fate_eq_missed_iff] using @mem_names_reportOf r now .missed n
  · intro n
    simpa [TickReport.names, fate_eq_skipped_iff] using @mem_names_reportOf r now .skipped n
  · intro n
    simpa [TickReport.names, fate_eq_launched_iff] using @mem_names_reportOf r now .launched n
  · exact ascending_names_reportOf
  · intro v w n inV inW
    obtain ⟨-, e, found, rfl⟩ := (mem_names_reportOf v n).1 inV
    obtain ⟨-, x, again, rfl⟩ := (mem_names_reportOf w n).1 inW
    rw [Option.some.inj (found.symm.trans again)]
  · intro n e found
    obtain ⟨mem, rfl⟩ := registered found
    exact ⟨_, nextFireAfter_firesNext e.task.trigger now, settled.entry e mem⟩
  · intro n e found
    obtain ⟨mem, rfl⟩ := registered found
    exact settled.runs e mem
  · intro n listed
    obtain ⟨-, e, found, doomed⟩ := (mem_names_reportOf .reclaimed n).1 listed
    obtain ⟨mem, rfl⟩ := registered found
    have entry := settled.entry e mem
    have runs := settled.runs e mem
    rw [show r.fateOf now e = .reclaimed from doomed] at entry runs
    exact ⟨entry, (Facility.runsOf_eq_nil_iff _ _).1 runs⟩
  · intro n missing
    have absent := (Facility.get?_eq_none_iff _ n).1 missing
    exact ⟨(settled.others n absent).1.trans missing, (settled.others n absent).2⟩
  · have faults := settled.faults
    have ownedStart := settled.ownedStart
    cases store : after.store
    simp_all
  · intro n
    rw [settled.count, launched_reportOf, List.Nodup.count]
    rw [← launched_reportOf]
    exact nodup_names_reportOf .launched
  · refine ⟨_, settled.inFlight, ?_, ?_⟩
    · rw [launched_reportOf, List.map_map]
      rfl
    · intro run started
      obtain ⟨e, launched, rfl⟩ := List.mem_map.1 started
      have mem := (List.mem_filter.1 launched).1
      refine ⟨rfl, ?_⟩
      rw [show Run.name ⟨e.task, now⟩ = e.name from rfl, Facility.get?_name_of_mem mem]
      rfl

theorem tick_settled (healthy : r.store.Healthy)
    (inside : ∀ e ∈ r.store.facility.entries, Reclaimable e.task) :
    ∃ after, r.tick now = .ok (after, r.reportOf now) ∧
      r.Settled now r.store.facility.entries after := by
  obtain ⟨after, run, settled⟩ := visitAll_settled healthy r.store.facility.ascending
    (fun e mem => Facility.get?_name_of_mem mem) inside .empty now
  refine ⟨after, ?_, settled⟩
  simp only [tick, Store.entries_eq healthy]
  exact run

theorem tick_effect (healthy : r.store.Healthy)
    (inside : ∀ e ∈ r.store.facility.entries, Reclaimable e.task) :
    ∃ after report, r.tick now = .ok (after, report) ∧ TickEffect r now after report := by
  obtain ⟨after, run, settled⟩ := tick_settled healthy inside
  exact ⟨after, r.reportOf now, run, tickEffect_of_settled settled⟩

end

def noon : Instant := ⟨.epoch, ⟨43200000000000, by decide⟩⟩

def atNoon : Runner := .ofStore
  { facility :=
      { entries :=
          [⟨⟨"FleetAgent_a", .reboot, .once .earliest (some .earliest), true, true, false, false⟩,
            .fresh none⟩,
           ⟨⟨"FleetAgent_b", .reboot, .weekly .all noon, true, false, false, false⟩, .fresh (some noon)⟩]
        runs := []
        ascending := by
          unfold Ascending
          decide }
    ownedStart := "FleetAgent_"
    faults := .none }

theorem reclaimable_atNoon : ∀ e ∈ atNoon.store.facility.entries, Reclaimable e.task := by
  simp only [atNoon, ofStore, List.mem_cons, List.not_mem_nil, or_false, forall_eq_or_imp, forall_eq]
  refine ⟨fun _ boundary mem => ?_, fun owned => absurd owned (by decide)⟩
  cases mem
  decide

theorem tick_effect_atNoon : atNoon.store.Healthy ∧
    (∀ e ∈ atNoon.store.facility.entries, Reclaimable e.task) ∧
    ∃ after report, atNoon.tick noon = .ok (after, report) ∧ TickEffect atNoon noon after report ∧
      report = ⟨["FleetAgent_b"], [], [], ["FleetAgent_a"]⟩ := by
  obtain ⟨after, report, run, effect⟩ := @tick_effect atNoon noon rfl reclaimable_atNoon
  refine ⟨rfl, reclaimable_atNoon, after, report, run, effect, ?_⟩
  have found : (atNoon.tick noon).toOption.map Prod.snd =
    some ⟨["FleetAgent_b"], [], [], ["FleetAgent_a"]⟩ := by decide
  rw [run] at found
  exact Option.some.inj found

end Runner
end Steward.Schedule
