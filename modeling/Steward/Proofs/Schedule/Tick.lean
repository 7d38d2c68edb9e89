import Steward.Proofs.Schedule.Fate
import Steward.Proofs.Schedule.Occurrence
import Steward.Proofs.Schedule.Store

/-!
One tick over the whole table. A visit settles one entry by its fate and touches nothing under other
names, so the visits of a tick do not disturb one another although each works on what the earlier ones
have left: a fate can be read off the state in which the tick began.
-/
namespace Steward.Schedule
open Steward.Calendar

theorem Tally.count_cons (m n : String) (k : Nat) (rest : Tally) :
    Tally.count ((m, k) :: rest) n = if n = m then k else Tally.count rest n := by
  by_cases here : n = m
  · simp [Tally.count, here]
  · simp [Tally.count, List.lookup_cons, here, beq_eq_false_iff_ne.2 here]

theorem Tally.count_add (t : Tally) (name n : String) :
    (Tally.add name t).count n = t.count n + if n = name then 1 else 0 := by
  induction t with
  | nil =>
    simp only [Tally.add, Tally.count_cons]
    simp [Tally.count]
  | cons pair rest ih =>
    obtain ⟨m, k⟩ := pair
    by_cases owned : m = name
    · simp only [Tally.add, owned, if_true, Tally.count_cons]
      split <;> simp
    · simp only [Tally.add, owned, if_false, Tally.count_cons, ih]
      split
      · rename_i here
        simp [here, owned]
      · rfl

def settledEntry (e : Entry) (now : Instant) (next : Option Instant) : Fate → Option Entry
  | .reclaimed => none
  | .untouched => some e
  | .missed => some { e with state := { e.state with nextRunAt := next.map .wholeSeconds } }
  | .skipped => some { e with state := { e.state with
      nextRunAt := next.map .wholeSeconds, lastStatus := some .skipped, lastDurationMs := some 0,
      lastError := some "previous instance still running" } }
  | .launched => some { e with state := { e.state with
      nextRunAt := next.map .wholeSeconds, lastRunAt := some now.wholeSeconds } }

theorem settledEntry_eq_none_iff (e : Entry) (now : Instant) (next : Option Instant) (verdict : Fate) :
    settledEntry e now next verdict = none ↔ verdict = .reclaimed := by
  cases verdict <;> simp [settledEntry]

theorem settledEntry_advances (e : Entry) (now : Instant) (next : Option Instant) {verdict : Fate}
    (kept : verdict ≠ .reclaimed) (acted : verdict ≠ .untouched) :
    ∃ left, settledEntry e now next verdict = some left ∧
      left.state.nextRunAt = next.map .wholeSeconds := by
  cases verdict with
  | reclaimed => exact absurd rfl kept
  | untouched => exact absurd rfl acted
  | missed => exact ⟨_, rfl, rfl⟩
  | skipped => exact ⟨_, rfl, rfl⟩
  | launched => exact ⟨_, rfl, rfl⟩

def settledRuns (name : String) (now : Instant) (runs : List RunRecord) : Fate → List RunRecord
  | .reclaimed => []
  | .skipped => ((Runner.skippedRecord name now).stored :: runs).take historyLimit
  | .untouched => runs
  | .missed => runs
  | .launched => runs

def TickReport.note (report : TickReport) (name : String) : Fate → TickReport
  | .reclaimed => { report with reclaimed := report.reclaimed ++ [name] }
  | .untouched => report
  | .missed => { report with missed := report.missed ++ [name] }
  | .skipped => { report with skipped := report.skipped ++ [name] }
  | .launched => { report with launched := report.launched ++ [name] }

namespace Runner

def fateOf (r : Runner) (now : Instant) (e : Entry) : Fate := fate (r.running.count e.name) now e

def launchedOf (r : Runner) (now : Instant) (es : List Entry) : List Entry :=
  es.filter fun e => r.fateOf now e = .launched

/-- The state after the entries of `es` have been settled, and nothing else has been done. -/
structure Settled (r : Runner) (now : Instant) (es : List Entry) (after : Runner) : Prop where
  faults : after.store.faults = r.store.faults
  ownedStart : after.store.ownedStart = r.store.ownedStart
  entry : ∀ e ∈ es, after.store.facility.get? e.name =
    settledEntry e now (nextFireAfter e.task.trigger now) (r.fateOf now e)
  runs : ∀ e ∈ es, after.store.facility.runsOf e.name =
    settledRuns e.name now (r.store.facility.runsOf e.name) (r.fateOf now e)
  others : ∀ n, (∀ e ∈ es, e.name ≠ n) → after.store.facility.get? n = r.store.facility.get? n ∧
    after.store.facility.runsOf n = r.store.facility.runsOf n
  count : ∀ n, after.running.count n =
    r.running.count n + ((r.launchedOf now es).map Entry.name).count n
  inFlight : after.inFlight = r.inFlight ++ (r.launchedOf now es).map fun e => ⟨e.task, now⟩

theorem settled_nil (r : Runner) (now : Instant) : r.Settled now [] r := by
  constructor <;> simp [launchedOf]

theorem fate_eq (e : Entry) (running : Nat) (now : Instant) :
    fate running now e = if Expired e now then .reclaimed
      else (evaluate e.task e.state.nextRunAt running now).fate := by
  rw [fate, fate_evaluate]

theorem delete_ok {r : Runner} {e : Entry} (healthy : r.store.Healthy)
    (registered : r.store.facility.get? e.name = some e) :
    r.store.delete e.name =
      ({ r.store with facility := (r.store.facility.remove e.name).1 }, .ok ()) := by
  rw [Store.delete_eq healthy]
  simp [Facility.remove, Facility.contains_eq, registered]

theorem settled_one {r after : Runner} {e : Entry} {now : Instant} {verdict : Fate}
    (judged : r.fateOf now e = verdict) (faults : after.store.faults = r.store.faults)
    (ownedStart : after.store.ownedStart = r.store.ownedStart)
    (entry : ∀ n, after.store.facility.get? n = if n = e.name then
      settledEntry e now (nextFireAfter e.task.trigger now) verdict else r.store.facility.get? n)
    (runs : ∀ n, after.store.facility.runsOf n = if n = e.name then
      settledRuns n now (r.store.facility.runsOf n) verdict else r.store.facility.runsOf n)
    (count : ∀ n, after.running.count n =
      r.running.count n + if verdict = .launched ∧ n = e.name then 1 else 0)
    (inFlight : after.inFlight = r.inFlight ++ if verdict = .launched then [⟨e.task, now⟩] else []) :
    r.Settled now [e] after := by
  refine ⟨faults, ownedStart, ?_, ?_, ?_, ?_, ?_⟩
  · simp [entry, judged]
  · simp [runs, judged]
  · intro n other
    have apart : n ≠ e.name := fun same => other e (by simp) same.symm
    simp [entry, runs, apart]
  · intro n
    by_cases started : verdict = .launched
    · simp [count, launchedOf, judged, started, List.count_singleton, @eq_comm _ n]
    · simp [count, launchedOf, judged, started]
  · by_cases started : verdict = .launched <;> simp [inFlight, launchedOf, judged, started]

theorem reclaim_settled {r : Runner} {e : Entry} {now : Instant} (healthy : r.store.Healthy)
    (registered : r.store.facility.get? e.name = some e) (doomed : r.fateOf now e = .reclaimed)
    (report : TickReport) :
    ∃ after, r.reclaim report e.name = (after, report.note e.name .reclaimed) ∧
      r.Settled now [e] after := by
  rw [Runner.reclaim, delete_ok healthy registered]
  refine ⟨_, rfl, settled_one doomed rfl rfl (fun n => ?_) (fun n => ?_) (by simp) (by simp)⟩
  · exact Facility.get?_remove _ e.name n
  · exact Facility.runsOf_remove _ e.name n

section Handle
variable {r : Runner} {e : Entry} {now : Instant} (healthy : r.store.Healthy)
  (registered : r.store.facility.get? e.name = some e) (report : TickReport)
include healthy registered

theorem run_settled (judged : r.fateOf now e = .launched) :
    ∃ after, r.handle report e.task .run now = (after, report.note e.name .launched) ∧
      r.Settled now [e] after := by
  obtain ⟨f, done, entry, runs⟩ := Store.setSchedule_spec healthy registered (some now)
    (nextFireAfter e.task.trigger now)
  simp only [handle, if_true, show e.task.name = e.name from rfl, done]
  refine ⟨_, rfl, settled_one judged rfl rfl entry (fun n => ?_) (fun n => ?_) rfl⟩
  · refine (runs n).trans ?_
    simp [settledRuns]
  · simp [Runner.start, Tally.count_add, Run.name, Entry.name]

theorem skip_settled (judged : r.fateOf now e = .skipped) :
    ∃ after, r.handle report e.task .skipRunning now = (after, report.note e.name .skipped) ∧
      r.Settled now [e] after := by
  obtain ⟨f, done, entry, runs⟩ := Store.setSchedule_spec healthy registered none
    (nextFireAfter e.task.trigger now)
  have recorded := Store.recordResult_eq (show Store.Healthy { r.store with facility := f } from healthy)
    (skippedRecord e.name now)
  simp only [handle, reduceCtorEq, if_false, show e.task.name = e.name from rfl, done, recorded]
  refine ⟨_, rfl, settled_one judged rfl rfl (fun n => ?_) (fun n => ?_) (by simp) (by simp)⟩
  · refine (Facility.get?_recordResult f (skippedRecord e.name now) n).trans ?_
    rw [entry n]
    by_cases here : n = e.name
    · simp [here, skippedRecord, settledEntry, Entry.withSchedule, Entry.withResult, storedDuration]
    · simp [here, skippedRecord]
  · refine (Facility.runsOf_recordResult f (skippedRecord e.name now) n).trans ?_
    rw [runs n]
    by_cases here : n = e.name
    · simp [here, skippedRecord, settledRuns]
    · simp [here, skippedRecord]

theorem miss_settled (judged : r.fateOf now e = .missed) :
    ∃ after, r.handle report e.task .missed now = (after, report.note e.name .missed) ∧
      r.Settled now [e] after := by
  obtain ⟨f, done, entry, runs⟩ := Store.setSchedule_spec healthy registered none
    (nextFireAfter e.task.trigger now)
  simp only [handle, reduceCtorEq, if_false, show e.task.name = e.name from rfl, done]
  refine ⟨_, rfl, settled_one judged rfl rfl entry (fun n => ?_) (by simp) (by simp)⟩
  simpa [settledRuns] using runs n

theorem handle_settled {firing : Firing} (judged : r.fateOf now e = firing.fate)
    (acts : firing ≠ .notDue) :
    ∃ after, r.handle report e.task firing now = (after, report.note e.name firing.fate) ∧
      r.Settled now [e] after := by
  cases firing with
  | notDue => exact absurd rfl acts
  | run => exact run_settled healthy registered report judged
  | skipRunning => exact skip_settled healthy registered report judged
  | missed => exact miss_settled healthy registered report judged

end Handle

theorem visit_settled {r : Runner} {e : Entry} (healthy : r.store.Healthy)
    (registered : r.store.facility.get? e.name = some e) (inside : Reclaimable e.task)
    (report : TickReport) (now : Instant) :
    ∃ after, r.visit report e now = .ok (after, report.note e.name (r.fateOf now e)) ∧
      r.Settled now [e] after := by
  obtain ⟨reclaim, computed, points⟩ := reclaimAt_eq e.task inside
  have expiry := any_reclaim_iff points now
  have judgement := fate_eq e (r.running.count e.name) now
  simp only [visit, computed, bind, Except.bind, pure, Except.pure]
  by_cases expired : Expired e now
  · rw [if_pos expired] at judgement
    obtain ⟨after, done, settled⟩ := reclaim_settled healthy registered judgement report
    refine ⟨after, ?_, settled⟩
    rw [if_pos (expiry.2 expired), done, fateOf, judgement]
  · rw [if_neg expired] at judgement
    rw [if_neg (mt expiry.1 expired)]
    by_cases idle : evaluate e.task e.state.nextRunAt (r.running.count e.name) now = .notDue
    · rw [if_pos idle]
      rw [idle] at judgement
      refine ⟨r, by rw [fateOf, judgement]; rfl, settled_one judgement rfl rfl ?_ ?_ ?_ ?_⟩
      · intro n
        split
        · rename_i here
          rw [here, registered]
          rfl
        · rfl
      · simp [Firing.fate, settledRuns]
      · simp [Firing.fate]
      · simp [Firing.fate]
    · rw [if_neg idle]
      obtain ⟨after, done, settled⟩ := handle_settled healthy registered report judgement idle
      exact ⟨after, by rw [done, fateOf, judgement], settled⟩

theorem fateOf_eq_of_settled {r mid : Runner} {now : Instant} {e x : Entry}
    (first : r.Settled now [e] mid) (apart : x.name ≠ e.name) :
    mid.fateOf now x = r.fateOf now x := by
  have none : ((r.launchedOf now [e]).map Entry.name).count x.name = 0 := by
    refine List.count_eq_zero.2 fun listed => ?_
    obtain ⟨y, launched, same⟩ := List.mem_map.1 listed
    have alone : y = e := List.mem_singleton.1 (List.mem_filter.1 launched).1
    exact apart (same.symm.trans (by rw [alone]))
  rw [fateOf, fateOf, first.count, none, Nat.add_zero]

theorem settled_cons {r mid after : Runner} {now : Instant} {e : Entry} {es : List Entry}
    (first : r.Settled now [e] mid) (rest : mid.Settled now es after)
    (apart : ∀ x ∈ es, x.name ≠ e.name) : r.Settled now (e :: es) after := by
  have sameFate : ∀ x ∈ es, mid.fateOf now x = r.fateOf now x := fun x mem =>
    fateOf_eq_of_settled first (apart x mem)
  have sameLaunches : mid.launchedOf now es = r.launchedOf now es :=
    List.filter_congr fun x mem => by rw [sameFate x mem]
  have split : r.launchedOf now (e :: es) = r.launchedOf now [e] ++ r.launchedOf now es :=
    List.filter_append [e] es
  have keeps := rest.others e.name apart
  constructor
  · exact rest.faults.trans first.faults
  · exact rest.ownedStart.trans first.ownedStart
  · intro x mem
    rcases List.mem_cons.1 mem with rfl | mem
    · exact keeps.1.trans (first.entry x (by simp))
    · rw [rest.entry x mem, sameFate x mem]
  · intro x mem
    rcases List.mem_cons.1 mem with rfl | mem
    · exact keeps.2.trans (first.runs x (by simp))
    · have untouched := first.others x.name (by simpa using (apart x mem).symm)
      rw [rest.runs x mem, sameFate x mem, untouched.2]
  · intro n other
    have early := first.others n (by simpa using other e (by simp))
    have late := rest.others n fun x mem => other x (List.mem_cons_of_mem e mem)
    exact ⟨late.1.trans early.1, late.2.trans early.2⟩
  · intro n
    rw [rest.count, first.count, sameLaunches, split, List.map_append, List.count_append, Nat.add_assoc]
  · rw [rest.inFlight, first.inFlight, sameLaunches, split, List.map_append, List.append_assoc]

def noted (fates : Entry → Fate) (report : TickReport) (es : List Entry) : TickReport :=
  es.foldl (fun report e => report.note e.name (fates e)) report

theorem noted_congr {f g : Entry → Fate} {es : List Entry} (same : ∀ e ∈ es, f e = g e)
    (report : TickReport) : noted f report es = noted g report es := by
  induction es generalizing report with
  | nil => rfl
  | cons e es ih =>
    simp only [noted, List.foldl_cons, same e List.mem_cons_self] at ih ⊢
    exact ih (fun x mem => same x (List.mem_cons_of_mem e mem)) _

theorem visitAll_settled {r : Runner} {es : List Entry} (healthy : r.store.Healthy)
    (order : Ascending es) (registered : ∀ e ∈ es, r.store.facility.get? e.name = some e)
    (inside : ∀ e ∈ es, Reclaimable e.task) (report : TickReport) (now : Instant) :
    ∃ after, r.visitAll report now es = .ok (after, noted (r.fateOf now) report es) ∧
      r.Settled now es after := by
  induction es generalizing r report with
  | nil => exact ⟨r, rfl, settled_nil r now⟩
  | cons e es ih =>
    obtain ⟨ahead, order⟩ := List.pairwise_cons.1 order
    have apart : ∀ x ∈ es, x.name ≠ e.name := fun x mem same =>
      absurd (same ▸ ahead x mem) (String.lt_irrefl _)
    -- The rest is visited in the state that the first visit left, where its entries are still those
    -- of the list.
    obtain ⟨mid, visited, first⟩ := visit_settled healthy (registered e (by simp))
      (inside e (by simp)) report now
    have still : mid.store.Healthy := first.faults.trans healthy
    have left : ∀ x ∈ es, mid.store.facility.get? x.name = some x := fun x mem =>
      (first.others x.name (by simpa using (apart x mem).symm)).1.trans
        (registered x (List.mem_cons_of_mem e mem))
    obtain ⟨after, run, rest⟩ := ih still order left
      (fun x mem => inside x (List.mem_cons_of_mem e mem)) (report.note e.name (r.fateOf now e))
    refine ⟨after, ?_, settled_cons first rest apart⟩
    simp only [visitAll, visited, bind, Except.bind, run]
    rw [noted_congr fun x mem => fateOf_eq_of_settled first (apart x mem)]
    rfl

end Runner
end Steward.Schedule
