import Steward.Proofs.Calendar.Existing
import Steward.Proofs.Schedule.Once

/-!
Rest between ticks. A tick leaves nothing behind that another tick at the same instant would act on, but
for tasks whose calls the store refuses, and on those it would again do nothing. The sleep is worked out
from the same two questions that a tick asks of each entry, whether it has expired and whether it is due:
as long as the sleep lasts both are answered no. What accepted tasks wait for lies on whole seconds, so
after a tick on a whole second the sleep lasts for a second at least.
-/
namespace Steward.Schedule
open Steward.Calendar

def Stirs (e : Entry) (now : Instant) : Prop := Expired e now ∨ Due e now

/-! Times on whole seconds. -/

structure Trigger.OnSecond (trigger : Trigger) : Prop where
  start : trigger.startBoundary.wholeSeconds = trigger.startBoundary
  expiry : ∀ boundary ∈ trigger.boundary?, boundary.wholeSeconds = boundary

structure Timing.OnSecond (x : Timing) : Prop where
  trigger : x.task.trigger.OnSecond
  next : ∀ t ∈ x.next, t.wholeSeconds = t

section Accepted
variable {p : Payload} {since : Instant}

theorem whole_of_ofHourMinute? {hour minute : Nat} {date : Date} {time : TimeOfDay}
    (read : TimeOfDay.ofHourMinute? hour minute = some time) :
    Instant.wholeSeconds ⟨date, time⟩ = ⟨date, time⟩ := by
  obtain ⟨-, -, minutes⟩ := (TimeOfDay.ofHourMinute?_eq_some_iff hour minute time).1 read
  rw [Instant.wholeSeconds_eq_self_iff]
  simp only [Instant.toNanos, minutes, nanosPerDay_eq, nanosPerSecond_eq]
  omega

theorem whole_of_timeOfDay {time : TimeOfDay} (read : p.timeOfDay = .ok time) (date : Date) :
    Instant.wholeSeconds ⟨date, time⟩ = ⟨date, time⟩ := by
  unfold Payload.timeOfDay at read
  split at read
  · rename_i found
    cases read
    exact whole_of_ofHourMinute? found
  · cases read

theorem whole_of_startInstant {start : Instant} (read : p.startInstant = .ok start) :
    start.wholeSeconds = start := by
  cases dated : p.date with
  | error e => simp [Payload.startInstant, dated, bind, Except.bind] at read
  | ok date =>
    cases timed : p.timeOfDay with
    | error e => simp [Payload.startInstant, dated, timed, bind, Except.bind] at read
    | ok time =>
      simp only [Payload.startInstant, dated, timed, bind, Except.bind, pure, Except.pure,
        Except.ok.injEq] at read
      rw [← read]
      exact whole_of_timeOfDay timed date

theorem startBoundary_of_readTrigger {trigger : Trigger} (read : p.readTrigger since = .ok (.ok trigger)) :
    trigger.startBoundary.wholeSeconds = trigger.startBoundary := by
  unfold Payload.readTrigger at read
  split at read
  · split at read
    · cases read
    · rename_i start dated
      cases expiry : p.expiry start with
      | error abort => simp [expiry, Except.map] at read
      | ok boundary =>
        simp only [expiry, Except.map, Except.ok.injEq] at read
        rw [← read]
        exact whole_of_startInstant dated
  · dsimp only at read
    split at read
    · cases read
    · cases timed : p.timeOfDay with
      | error e => simp [timed, Except.map] at read
      | ok time =>
        simp only [timed, Except.map, Except.ok.injEq] at read
        rw [← read]
        exact whole_of_timeOfDay timed since.date
  · cases read
    decide
  · cases read
  · cases read

theorem onSecond_of_ofPayload {task : Task} (accepted : Task.ofPayload p since = .ok (.ok task)) :
    task.trigger.OnSecond := by
  obtain ⟨read, -⟩ := ofPayload_accepts accepted
  refine ⟨startBoundary_of_readTrigger read, fun boundary mem => ?_⟩
  have bounded := boundary?_of_readTrigger p since read
  split at bounded
  · obtain ⟨start, expiry, dated, some, distance⟩ := bounded
    have whole := (start.wholeSeconds_eq_self_iff).1 (whole_of_startInstant dated)
    rw [some] at mem
    cases mem
    rw [Instant.wholeSeconds_eq_self_iff, distance]
    simp only [onceExpiryMinutes, nanosPerSecond_eq]
    omega
  · rw [bounded] at mem
    cases mem

end Accepted

theorem wholeSeconds_of_stored {next : Option Instant} :
    ∀ t ∈ next.map Instant.wholeSeconds, t.wholeSeconds = t := by
  intro t mem
  obtain ⟨u, -, rfl⟩ := Option.map_eq_some_iff.1 mem
  exact u.wholeSeconds_wholeSeconds

theorem settledEntry_onSecond {e left : Entry} {now : Instant} {next : Option Instant} {verdict : Fate}
    (before : e.timing.OnSecond)
    (settled : settledEntry e now (next : Option Instant) verdict = some left) :
    left.timing.OnSecond := by
  have same := settledEntry_task settled
  refine ⟨?_, ?_⟩
  · show left.task.trigger.OnSecond
    rw [same]
    exact before.trigger
  · rcases settledEntry_next settled with kept | moved
    · rw [kept]
      exact before.next
    · rw [moved]
      exact wholeSeconds_of_stored

namespace Runner

def OnSecond (r : Runner) : Prop := ∀ n x, r.timing n = some x → x.OnSecond

theorem perform_onSecond {r : Runner} {event : Event} (before : r.OnSecond)
    (accepted : ∀ task now, event = .step (.create task now) → task.trigger.OnSecond) :
    (r.perform event).OnSecond := by
  intro n x found
  cases perform_shift r n event with
  | kept same _ => exact before n x (same.symm.trans found)
  | registered task now registers _ fresh _ =>
    cases fresh.symm.trans found
    exact ⟨accepted task now registers.1, wholeSeconds_of_stored⟩
  | removed _ gone _ => cases gone.symm.trans found
  | switched e flag now _ registered moved _ =>
    cases moved.symm.trans found
    exact ⟨(before n e.timing (timing_of_found registered)).trigger, wholeSeconds_of_stored⟩
  | fated e now _ registered moved _ =>
    obtain ⟨left, settled, rfl⟩ := Option.map_eq_some_iff.1 (moved.symm.trans found)
    exact settledEntry_onSecond (before n e.timing (timing_of_found registered)) settled

theorem after_onSecond {r : Runner} {events : List Event} (before : r.OnSecond)
    (accepted : ∀ task now, .step (.create task now) ∈ events → task.trigger.OnSecond) :
    (r.after events).OnSecond := by
  have step (r : Runner) (event : Event) (before : r.OnSecond)
      (here : ∀ task now, event = .step (.create task now) → task.trigger.OnSecond) :
      (r.perform event).OnSecond := perform_onSecond before here
  refine after_of_perform step before fun event mem task now cause => ?_
  exact accepted task now (cause ▸ mem)

end Runner

/-! Calls that the store refuses. -/

def Faults.Denies (f : Faults) (c : Call) (name : String) : Prop :=
  f.offline.isSome = true ∨ (f.refuses c name).isSome = true

section
variable {s : Store} {c : Call} {name : String}

theorem Store.call_of_denied (denied : s.faults.Denies c name) :
    (∃ e, s.connect = .error e) ∨ s.connect = .ok () ∧ ∃ e, s.call c name = .error e := by
  unfold Store.connect Store.call
  cases down : s.faults.offline with
  | some reason => exact .inl ⟨_, rfl⟩
  | none =>
    refine .inr ⟨rfl, ?_⟩
    rcases denied with offline | refused
    · rw [down] at offline
      cases offline
    · obtain ⟨reason, here⟩ := Option.isSome_iff_exists.1 refused
      rw [here]
      exact ⟨_, rfl⟩

theorem Store.call_of_allowed (allowed : ¬ s.faults.Denies c name) :
    s.connect = .ok () ∧ s.call c name = .ok () := by
  unfold Faults.Denies at allowed
  rw [not_or] at allowed
  have online := Option.not_isSome_iff_eq_none.1 allowed.1
  have accepted := Option.not_isSome_iff_eq_none.1 allowed.2
  unfold Store.connect Store.call
  rw [online, accepted]
  exact ⟨rfl, rfl⟩

theorem Store.delete_of_denied (denied : s.faults.Denies .remove name) :
    ∃ e, s.delete name = (s, .error e) := by
  unfold Store.delete
  rcases Store.call_of_denied denied with ⟨e, failed⟩ | ⟨connected, e, failed⟩
  · exact ⟨e, by simp [failed, bind, Except.bind]⟩
  · exact ⟨e, by simp [connected, failed, bind, Except.bind]⟩

theorem Store.delete_of_allowed (allowed : ¬ s.faults.Denies .remove name) :
    s.delete name = ({ s with facility := (s.facility.remove name).1 }, (s.facility.remove name).2) := by
  obtain ⟨connected, accepted⟩ := Store.call_of_allowed allowed
  unfold Store.delete
  simp [connected, accepted, bind, Except.bind]

theorem Store.setSchedule_of_denied (denied : s.faults.Denies .setSchedule name)
    (last next : Option Instant) : ∃ e, s.setSchedule name last next = .error e := by
  unfold Store.setSchedule
  rcases Store.call_of_denied denied with ⟨e, failed⟩ | ⟨connected, e, failed⟩
  · exact ⟨e, by simp [failed, bind, Except.bind]⟩
  · exact ⟨e, by simp [connected, failed, bind, Except.bind]⟩

theorem Store.setSchedule_of_allowed (allowed : ¬ s.faults.Denies .setSchedule name)
    (present : s.facility.contains name = true) (last next : Option Instant) :
    ∃ after, s.setSchedule name last next = .ok after := by
  obtain ⟨connected, accepted⟩ := Store.call_of_allowed allowed
  unfold Store.setSchedule Facility.setSchedule
  simp [connected, accepted, present, bind, Except.bind, pure, Except.pure]

end

/-- What a tick would have to do about the entry is refused by the store. -/
def Stuck (f : Faults) (e : Entry) (now : Instant) : Prop :=
  if Expired e now then f.Denies .remove e.name else f.Denies .setSchedule e.name

def AtRest (f : Faults) (e : Entry) (now : Instant) : Prop := Stirs e now → Stuck f e now

theorem fate_eq_untouched_iff (running : Nat) (now : Instant) (e : Entry) :
    fate running now e = .untouched ↔ ¬ Stirs e now := by
  unfold fate Stirs
  split_ifs <;> simp_all

theorem due_of_firing {e : Entry} {now : Instant} {running : Nat} {firing : Firing}
    (acts : firing ≠ .notDue) (judged : fate running now e = firing.fate) :
    ¬ Expired e now ∧ Due e now := by
  have lasting : ¬ Expired e now := by
    intro expired
    have doomed := judged.symm.trans ((fate_eq_reclaimed_iff running now e).2 expired)
    cases firing <;> cases doomed
  have stirs : Stirs e now := by
    by_contra idle
    have quiet := judged.symm.trans ((fate_eq_untouched_iff running now e).2 idle)
    cases firing with
    | notDue => exact acts rfl
    | run => cases quiet
    | skipRunning => cases quiet
    | missed => cases quiet
  exact ⟨lasting, stirs.resolve_left lasting⟩

theorem not_due_of_advanced {e left : Entry} {now : Instant} (whole : e.task.trigger.OnSecond)
    (next : left.state.nextRunAt = (nextFireAfter e.task.trigger now).map .wholeSeconds) :
    ¬ Due left now := by
  rintro ⟨-, t, pending, passed⟩
  rw [next] at pending
  have first := nextFireAfter_firesNext e.task.trigger now
  cases trigger : e.task.trigger with
  | once start expiry =>
    rw [trigger] at pending
    cases pending
  | manual =>
    rw [trigger] at pending
    cases pending
  | weekly days start =>
    obtain ⟨u, fires, rfl⟩ := Option.map_eq_some_iff.1 pending
    rw [fires, trigger] at first
    obtain ⟨occurs, ahead⟩ := first.1
    have start := whole.start
    rw [trigger] at start
    rw [occurs.wholeSeconds_eq start] at passed
    exact absurd ahead (Int.not_lt.2 passed)

namespace Runner

section Idle
variable {r : Runner} {now : Instant}

theorem visit_of_atRest {e : Entry} (inside : Reclaimable e.task) (resting : AtRest r.store.faults e now)
    (report : TickReport) : r.visit report e now = .ok (r, report) := by
  obtain ⟨x, done⟩ := (visit_completes_iff r now report e).2 inside
  rw [done]
  rcases visit_cases done with ⟨judged, rfl⟩ | ⟨-, rfl⟩ | ⟨firing, acts, judged, rfl⟩
  · have expired := (fate_eq_reclaimed_iff _ now e).1 judged
    have stuck := resting (.inl expired)
    rw [Stuck, if_pos expired] at stuck
    obtain ⟨error, failed⟩ := Store.delete_of_denied stuck
    simp [reclaim, failed, Except.isOk, Except.toBool]
  · rfl
  · obtain ⟨lasting, due⟩ := due_of_firing acts judged
    have stuck := resting (.inr due)
    rw [Stuck, if_neg lasting] at stuck
    obtain ⟨error, failed⟩ := @Store.setSchedule_of_denied r.store e.task.name stuck
      (if firing = .run then some now else none) (nextFireAfter e.task.trigger now)
    simp only [handle, failed]

theorem visitAll_of_atRest {es : List Entry} (inside : ∀ e ∈ es, Reclaimable e.task)
    (resting : ∀ e ∈ es, AtRest r.store.faults e now) (report : TickReport) :
    r.visitAll report now es = .ok (r, report) := by
  induction es with
  | nil => rfl
  | cons e es ih =>
    obtain ⟨firstInside, laterInside⟩ := List.forall_mem_cons.1 inside
    obtain ⟨firstResting, laterResting⟩ := List.forall_mem_cons.1 resting
    have first := visit_of_atRest firstInside firstResting report
    simp only [visitAll, first, bind, Except.bind]
    exact ih laterInside laterResting

theorem tick_of_atRest (inside : ∀ e ∈ r.store.facility.entries, Reclaimable e.task)
    (resting : ∀ e ∈ r.store.facility.entries, AtRest r.store.faults e now) :
    r.tick now = .ok (r, .empty) := by
  unfold tick
  split
  · rfl
  · rename_i es read
    rw [entries_ok read]
    exact visitAll_of_atRest inside resting .empty

end Idle

section Leftovers
variable {r : Runner} {report : TickReport} {now : Instant} {x : Runner × TickReport}

theorem visit_atRest {e left : Entry} (registered : r.store.facility.get? e.name = some e)
    (whole : e.task.trigger.OnSecond) (done : r.visit report e now = .ok x)
    (found : x.1.store.facility.get? e.name = some left) : AtRest r.store.faults left now := by
  intro stirs
  rcases visit_cases done with ⟨judged, rfl⟩ | ⟨judged, rfl⟩ | ⟨firing, acts, judged, rfl⟩
  · have expired := (fate_eq_reclaimed_iff _ now e).1 judged
    by_cases denied : r.store.faults.Denies .remove e.name
    · obtain ⟨error, failed⟩ := Store.delete_of_denied denied
      simp only [reclaim, failed] at found
      cases registered.symm.trans found
      rwa [Stuck, if_pos expired]
    · have gone := r.store.facility.get?_remove e.name e.name
      rw [if_pos rfl] at gone
      simp only [reclaim, Store.delete_of_allowed denied] at found
      cases gone.symm.trans found
  · cases registered.symm.trans found
    exact absurd stirs ((fate_eq_untouched_iff _ now e).1 judged)
  · obtain ⟨lasting, due⟩ := due_of_firing acts judged
    by_cases denied : r.store.faults.Denies .setSchedule e.name
    · obtain ⟨error, failed⟩ := @Store.setSchedule_of_denied r.store e.task.name denied
        (if firing = .run then some now else none) (nextFireAfter e.task.trigger now)
      simp only [handle, failed] at found
      cases registered.symm.trans found
      rwa [Stuck, if_neg lasting]
    · have present : r.store.facility.contains e.name = true := by
        rw [Facility.contains_eq, registered]
        rfl
      obtain ⟨s, moved⟩ := Store.setSchedule_of_allowed denied present
        (if firing = .run then some now else none) (nextFireAfter e.task.trigger now)
      have visited := @handle_visited_of_moved r report e now registered firing acts s moved
      have kept : firing.fate ≠ .reclaimed := by cases firing <;> decide
      have acted : firing.fate ≠ .untouched := by
        cases firing with
        | notDue => exact absurd rfl acts
        | run => decide
        | skipRunning => decide
        | missed => decide
      obtain ⟨settled, entry, advanced⟩ := settledEntry_advances e now
        (nextFireAfter e.task.trigger now) kept acted
      have timing := visited.timing
      rw [entry, timing_of_found found] at timing
      have same : left.timing = settled.timing := Option.some.inj timing
      have task : left.task = e.task := (congrArg Timing.task same).trans (settledEntry_task entry)
      have next := (congrArg Timing.next same).trans advanced
      rcases stirs with expired | due
      · rw [Expired, task] at expired
        exact absurd expired lasting
      · exact absurd due (not_due_of_advanced whole next)

theorem visitAll_atRest {es : List Entry} (order : Ascending es)
    (registered : ∀ e ∈ es, r.store.facility.get? e.name = some e)
    (whole : ∀ e ∈ es, e.task.trigger.OnSecond) (done : r.visitAll report now es = .ok x) :
    ∀ e ∈ es, ∀ left, x.1.store.facility.get? e.name = some left →
      AtRest r.store.faults left now := by
  induction es generalizing r report with
  | nil => exact fun _ mem => absurd mem List.not_mem_nil
  | cons e es ih =>
    cases visited : r.visit report e now with
    | error abort => simp [visitAll, visited, bind, Except.bind] at done
    | ok mid =>
      simp only [visitAll, visited, bind, Except.bind] at done
      obtain ⟨verdict, -, effect⟩ := visit_visited (registered e List.mem_cons_self) visited
      have still := registered_of_visited order registered effect
      have rest := (List.pairwise_cons.1 order).2
      have faults : mid.1.store.faults = r.store.faults := congrArg Prod.snd (visit_setting visited)
      intro y mem left found
      rcases List.mem_cons.1 mem with rfl | later
      -- the visits behind this one have other names and leave what it left
      · have agree := @visitUntilAbort_agree mid.1 mid.2 es now y.name rest
          (fun z inside => (still z inside).2) fun z inside => (still z inside).1
        rw [visitUntilAbort_of_visitAll done] at agree
        exact visit_atRest (registered y List.mem_cons_self) (whole y List.mem_cons_self) visited
          (agree.entry.symm.trans found)
      · rw [← faults]
        exact ih rest (fun z inside => (still z inside).2)
          (fun z inside => whole z (List.mem_cons_of_mem e inside)) done y later left found

end Leftovers

section Tick
variable {r after : Runner} {now : Instant} {report : TickReport}

theorem tick_faults (done : r.tick now = .ok (after, report)) :
    after.store.faults = r.store.faults := by
  have same := perform_setting r (.tick now)
  rw [perform, tickUntilAbort_of_tick done] at same
  exact congrArg Prod.snd same

theorem registered_before_tick (done : r.tick now = .ok (after, report)) {left : Entry}
    (mem : left ∈ after.store.facility.entries) :
    ∃ e, r.store.facility.get? left.name = some e ∧ left.task = e.task := by
  have found := Facility.get?_name_of_mem mem
  cases before : r.store.facility.get? left.name with
  | none =>
    have agree := @tickUntilAbort_agree r now left.name before
    rw [tickUntilAbort_of_tick done] at agree
    cases (found.symm.trans agree.entry).trans before
  | some e =>
    obtain ⟨-, named⟩ := (Facility.get?_eq_some_iff _ _ e).1 before
    rw [← named] at before found
    obtain ⟨verdict, met⟩ := @tickUntilAbort_met r now e before
    rw [tickUntilAbort_of_tick done] at met
    obtain ⟨settled, entry, same⟩ := Option.map_eq_some_iff.1
      (met.timing.symm.trans (timing_of_found found))
    exact ⟨e, rfl, (congrArg Timing.task same).symm.trans (settledEntry_task entry)⟩

theorem whole_of_mem (whole : r.OnSecond) {e : Entry} (mem : e ∈ r.store.facility.entries) :
    e.timing.OnSecond :=
  whole e.name e.timing (timing_of_found (Facility.get?_name_of_mem mem))

theorem atRest_after_tick (whole : r.OnSecond) {es : List Entry} (read : r.store.entries = .ok es)
    (done : r.tick now = .ok (after, report)) :
    ∀ left ∈ after.store.facility.entries, AtRest after.store.faults left now := by
  intro left mem
  rw [tick_faults done]
  obtain ⟨e, before, -⟩ := registered_before_tick done mem
  obtain ⟨inside, named⟩ := (Facility.get?_eq_some_iff _ _ e).1 before
  simp only [tick, read, entries_ok read] at done
  exact visitAll_atRest r.store.facility.ascending (fun y mem => Facility.get?_name_of_mem mem)
    (fun y mem => (whole_of_mem whole mem).trigger) done e inside left
    (named ▸ Facility.get?_name_of_mem mem)

theorem reclaimable_after_tick (inside : ∀ e ∈ r.store.facility.entries, Reclaimable e.task)
    (done : r.tick now = .ok (after, report)) :
    ∀ left ∈ after.store.facility.entries, Reclaimable left.task := by
  intro left mem
  obtain ⟨e, before, task⟩ := registered_before_tick done mem
  rw [task]
  exact inside e ((Facility.get?_eq_some_iff _ _ e).1 before).1

/-- A tick repeated at once finds nothing to do. -/
theorem tick_again (whole : r.OnSecond)
    (inside : ∀ e ∈ r.store.facility.entries, Reclaimable e.task)
    (done : r.tick now = .ok (after, report)) : after.tick now = .ok (after, .empty) := by
  cases read : r.store.entries with
  | error e =>
    have same : r.tick now = .ok (r, .empty) := by simp only [tick, read]
    cases done.symm.trans same
    exact same
  | ok es => exact tick_of_atRest (reclaimable_after_tick inside done) (atRest_after_tick whole read done)

end Tick

/-! How long nothing can happen. -/

theorem soonest_eq_none_iff (times : List Instant) : soonest times = none ↔ times = [] := by
  cases times <;> simp [soonest]

theorem earlier_le (t u : Instant) : Instant.earlier t u ≤ t ∧ Instant.earlier t u ≤ u := by
  unfold Instant.earlier
  simp only [Instant.le_def, Instant.lt_def]
  split <;> omega

theorem earlier_mem (t u : Instant) : Instant.earlier t u = t ∨ Instant.earlier t u = u := by
  unfold Instant.earlier
  split
  · exact .inr rfl
  · exact .inl rfl

theorem foldl_earlier (t : Instant) (times : List Instant) :
    times.foldl Instant.earlier t ∈ t :: times ∧ ∀ u ∈ t :: times, times.foldl Instant.earlier t ≤ u := by
  induction times generalizing t with
  | nil => simp [Instant.le_def]
  | cons u us ih =>
    obtain ⟨mem, least⟩ := ih (Instant.earlier t u)
    obtain ⟨first, rest⟩ := List.forall_mem_cons.1 least
    obtain ⟨lowT, lowU⟩ := earlier_le t u
    refine ⟨?_, ?_⟩
    · rcases List.mem_cons.1 mem with here | later
      · rw [List.foldl_cons, here]
        rcases earlier_mem t u with same | same <;> simp [same]
      · exact List.mem_cons_of_mem t (List.mem_cons_of_mem u later)
    · rw [List.forall_mem_cons, List.forall_mem_cons]
      exact ⟨Int.le_trans first lowT, Int.le_trans first lowU, rest⟩

theorem soonest_isLeast {times : List Instant} {t : Instant} (found : soonest times = some t) :
    t ∈ times ∧ ∀ u ∈ times, t ≤ u := by
  cases times with
  | nil => cases found
  | cons u us =>
    cases found
    exact foldl_earlier u us

theorem whole_of_reclaim {t : Task} {reclaim : Option Instant} (whole : t.trigger.OnSecond)
    (points : reclaim.map Instant.toNanos = if t.deleteAfter then
      t.trigger.boundary?.map fun b => b.toNanos + reclaimDelay else none) :
    ∀ at_ ∈ reclaim, at_.wholeSeconds = at_ := by
  rintro at_ rfl
  split at points
  · obtain ⟨boundary, mem, distance⟩ := Option.map_eq_some_iff.1 points.symm
    have start := (boundary.wholeSeconds_eq_self_iff).1 (whole.expiry boundary mem)
    rw [Instant.wholeSeconds_eq_self_iff, ← distance, reclaimDelay]
    simp only [deleteExpiredAfterMinutes, nanosPerSecond_eq]
    omega
  · cases points

/-- The instants that an entry waits for are those from which on a tick has to act on it. -/
theorem wakeTimes_spec {e : Entry} (inside : Reclaimable e.task) :
    ∃ times, wakeTimes e = .ok times ∧ (∀ t, Stirs e t ↔ ∃ wake ∈ times, wake ≤ t) ∧
      (e.timing.OnSecond → ∀ wake ∈ times, wake.wholeSeconds = wake) := by
  obtain ⟨reclaim, computed, points⟩ := reclaimAt_eq e.task inside
  let next := if e.task.enabled then e.state.nextRunAt else none
  have pending (t : Instant) : t ∈ next ↔ e.task.enabled = true ∧ t ∈ e.state.nextRunAt := by
    simp only [next]
    split <;> simp_all
  refine ⟨next.toList ++ reclaim.toList, ?_, fun t => ?_, fun whole wake mem => ?_⟩
  · unfold wakeTimes
    rw [computed]
    rfl
  · have removal : Expired e t ↔ ∃ at_ ∈ reclaim, at_ ≤ t := by
      rw [← any_reclaim_iff points t]
      cases reclaim <;> simp
    simp only [Stirs, removal, Due, List.mem_append, Option.mem_toList]
    constructor
    · rintro (⟨wake, mem, passed⟩ | ⟨enabled, wake, mem, passed⟩)
      · exact ⟨wake, .inr mem, passed⟩
      · exact ⟨wake, .inl ((pending wake).2 ⟨enabled, mem⟩), passed⟩
    · rintro ⟨wake, waits | mem, passed⟩
      · obtain ⟨enabled, mem⟩ := (pending wake).1 waits
        exact .inr ⟨enabled, wake, mem, passed⟩
      · exact .inl ⟨wake, mem, passed⟩
  · simp only [List.mem_append, Option.mem_toList] at mem
    rcases mem with fires | removed
    · exact whole.next wake ((pending wake).1 fires).2
    · exact whole_of_reclaim whole.trigger points wake removed

theorem allWakeTimes_spec {es : List Entry} (inside : ∀ e ∈ es, Reclaimable e.task) :
    ∃ times, es.mapM wakeTimes = .ok times ∧
      (∀ t, (∃ e ∈ es, Stirs e t) ↔ ∃ wake ∈ times.flatten, wake ≤ t) ∧
      ((∀ e ∈ es, e.timing.OnSecond) → ∀ wake ∈ times.flatten, wake.wholeSeconds = wake) := by
  induction es with
  | nil => exact ⟨[], rfl, by simp, by simp⟩
  | cons e es ih =>
    obtain ⟨first, later⟩ := List.forall_mem_cons.1 inside
    obtain ⟨own, computed, stirs, whole⟩ := wakeTimes_spec first
    obtain ⟨others, rest, stirsLater, wholeLater⟩ := ih later
    refine ⟨own :: others, ?_, fun t => ?_, fun onSecond wake mem => ?_⟩
    · rw [List.mapM_cons, computed, rest]
      rfl
    · rw [List.exists_mem_cons_iff, stirs t, stirsLater t]
      simp only [List.flatten_cons, List.mem_append, or_and_right, exists_or]
    · obtain ⟨firstWhole, laterWhole⟩ := List.forall_mem_cons.1 onSecond
      rcases List.mem_append.1 mem with here | there
      · exact whole firstWhole wake here
      · exact wholeLater laterWhole wake there

section Sleep
variable {r : Runner} {now : Instant}

theorem lt_of_millisUntil {t u : Instant} {ms : Nat} (short : ms ≤ millisUntil t now)
    (early : u.toNanos < now.toNanos + ms * nanosPerMilli) (later : now ≤ u) : u < t := by
  have cut := Nat.div_mul_le_self (t.since now).toNat nanosPerMilli
  have scaled := Nat.mul_le_mul_right nanosPerMilli short
  rw [millisUntil] at scaled
  rw [Instant.le_def] at later
  rw [Instant.lt_def]
  simp only [Instant.since] at cut scaled
  omega

/-- The sleep is a minute at most, and while it lasts no entry has to be acted on. -/
theorem sleepMs_spec {es : List Entry} (read : r.store.entries = .ok es)
    (inside : ∀ e ∈ es, Reclaimable e.task) :
    ∃ ms, r.sleepMs now = .ok ms ∧ ms ≤ maxSleepMs ∧
      (∀ t, now ≤ t → t.toNanos < now.toNanos + ms * nanosPerMilli → ∀ e ∈ es, ¬ Stirs e t) ∧
      ((∀ e ∈ es, e.timing.OnSecond) → (∀ e ∈ es, ¬ Stirs e now) → now.wholeSeconds = now →
        1000 ≤ ms) := by
  obtain ⟨times, computed, stirs, whole⟩ := allWakeTimes_spec inside
  simp only [sleepMs, read, computed, bind, Except.bind]
  cases found : soonest times.flatten with
  | none =>
    have empty := (soonest_eq_none_iff _).1 found
    refine ⟨maxSleepMs, rfl, Nat.le_refl _, fun t _ _ e mem stirring => ?_, fun _ _ _ => by decide⟩
    obtain ⟨wake, member, -⟩ := (stirs t).1 ⟨e, mem, stirring⟩
    rw [empty] at member
    cases member
  | some first =>
    obtain ⟨member, least⟩ := soonest_isLeast found
    refine ⟨min (millisUntil first now) maxSleepMs, rfl, Nat.min_le_right _ _, ?_, ?_⟩
    · intro t later early e mem stirring
      obtain ⟨wake, waits, passed⟩ := (stirs t).1 ⟨e, mem, stirring⟩
      have ahead := lt_of_millisUntil (Nat.min_le_left (millisUntil first now) maxSleepMs) early later
      exact absurd (Int.lt_of_lt_of_le ahead (least wake waits)) (Int.not_lt.2 passed)
    · intro onSecond quiet wholeNow
      have ahead : now < first := by
        by_contra passed
        obtain ⟨e, mem, stirring⟩ := (stirs now).2 ⟨first, member, Int.not_lt.1 passed⟩
        exact quiet e mem stirring
      have wholeFirst := (first.wholeSeconds_eq_self_iff).1 (whole onSecond first member)
      rw [Instant.wholeSeconds_eq_self_iff] at wholeNow
      rw [Instant.lt_def] at ahead
      have second : 1000 ≤ millisUntil first now := by
        rw [millisUntil, Nat.le_div_iff_mul_le (by decide)]
        simp only [Instant.since, nanosPerMilli]
        omega
      exact Nat.le_min.2 ⟨second, by decide⟩

/-- The sleep from this instant on can be worked out, unless the calendar ends before some task is
removed; it lasts a minute at most, and no tick in it would do anything. -/
structure SleepsSafely (r : Runner) (now : Instant) : Prop where
  completes : (∀ e ∈ r.store.facility.entries, Reclaimable e.task) → ∃ ms, r.sleepMs now = .ok ms
  short : ∀ ms, r.sleepMs now = .ok ms → ms ≤ 60000
  quiet : ∀ ms, r.sleepMs now = .ok ms → ∀ t, now ≤ t →
    t.toNanos < now.toNanos + ms * nanosPerMilli → r.tick t = .ok (r, .empty)

theorem sleepsSafely (r : Runner) (now : Instant) : r.SleepsSafely now := by
  cases read : r.store.entries with
  | error e =>
    have sleeps : r.sleepMs now = .ok maxSleepMs := by simp only [sleepMs, read]
    refine ⟨fun _ => ⟨_, sleeps⟩, fun ms computed => ?_, fun _ _ t _ _ => by simp only [tick, read]⟩
    cases computed.symm.trans sleeps
    decide
  | ok es =>
    have completes := sleepMs_completes_iff (r := r) now read
    rw [entries_ok read] at completes
    refine ⟨completes.2, fun ms sleeps => ?_, fun ms sleeps t later early => ?_⟩
    all_goals
      have inside := completes.1 ⟨ms, sleeps⟩
      obtain ⟨same, computed, short, quiet, -⟩ :=
        @sleepMs_spec r now es read (entries_ok read ▸ inside)
      cases sleeps.symm.trans computed
    · exact short
    · rw [entries_ok read] at quiet
      exact tick_of_atRest inside fun e mem stirs => absurd stirs (quiet t later early e mem)

/-- Directly after a tick the sleep can be worked out, and from a whole second on it lasts a second,
unless the store has refused to settle an entry. -/
theorem sleepMs_after_tick {after : Runner} {report : TickReport} (whole : r.OnSecond)
    (inside : ∀ e ∈ r.store.facility.entries, Reclaimable e.task)
    (done : r.tick now = .ok (after, report)) :
    ∃ ms, after.sleepMs now = .ok ms ∧ (now.wholeSeconds = now →
      (∀ left ∈ after.store.facility.entries, ¬ Stuck after.store.faults left now) → 1000 ≤ ms) := by
  cases read : r.store.entries with
  | error e =>
    have same : r.tick now = .ok (r, .empty) := by simp only [tick, read]
    cases done.symm.trans same
    exact ⟨maxSleepMs, by simp only [sleepMs, read], fun _ _ => by decide⟩
  | ok es =>
    have insideAfter := reclaimable_after_tick inside done
    have resting := atRest_after_tick whole read done
    have wholeAfter : ∀ left ∈ after.store.facility.entries, left.timing.OnSecond := by
      have step := @perform_onSecond r (.step (.tick now)) whole fun _ _ other => by cases other
      rw [perform, tickUntilAbort_of_tick done] at step
      exact fun left mem => whole_of_mem step mem
    cases readAfter : after.store.entries with
    | error e => exact ⟨maxSleepMs, by simp only [sleepMs, readAfter], fun _ _ => by decide⟩
    | ok left =>
      rw [← entries_ok readAfter] at insideAfter resting wholeAfter ⊢
      obtain ⟨ms, computed, -, -, long⟩ := @sleepMs_spec after now left readAfter insideAfter
      refine ⟨ms, computed, fun wholeNow settled => long wholeAfter (fun e mem stirs => ?_) wholeNow⟩
      exact settled e mem (resting e mem stirs)

theorem not_stuck_of_healthy {s : Store} (healthy : s.Healthy) (e : Entry) (now : Instant) :
    ¬ Stuck s.faults e now := by
  rw [show s.faults = .none from healthy]
  unfold Stuck Faults.Denies
  split <;> simp [Faults.none]

theorem sleepMs_after_tick_of_healthy {after : Runner} {report : TickReport} (whole : r.OnSecond)
    (healthy : r.store.Healthy) (inside : ∀ e ∈ r.store.facility.entries, Reclaimable e.task)
    (wholeNow : now.wholeSeconds = now) (done : r.tick now = .ok (after, report)) :
    ∃ ms, after.sleepMs now = .ok ms ∧ 1000 ≤ ms := by
  obtain ⟨ms, computed, long⟩ := sleepMs_after_tick whole inside done
  have stillHealthy : after.store.Healthy := (tick_faults done).trans healthy
  exact ⟨ms, computed, long wholeNow fun left _ => not_stuck_of_healthy stillHealthy left now⟩

end Sleep

/-- Between ticks the runner neither spins nor oversleeps. -/
theorem neither_spins_nor_oversleeps (ownedStart : String) {events : List Event}
    (accepted : ∀ task now, .step (.create task now) ∈ events →
      ∃ p since, Task.ofPayload p since = .ok (.ok task)) :
    let r := (ofStore (.empty ownedStart)).after events
    (∀ now, (∀ e ∈ r.store.facility.entries, Reclaimable e.task) →
      ∃ after report ms, r.tick now = .ok (after, report) ∧ after.tick now = .ok (after, .empty) ∧
        after.sleepMs now = .ok ms ∧ (now.wholeSeconds = now →
          (∀ left ∈ after.store.facility.entries, ¬ Stuck after.store.faults left now) → 1000 ≤ ms) ∧
        (now.wholeSeconds = now → r.store.Healthy → 1000 ≤ ms)) ∧
    ∀ (other : Runner) now, other.SleepsSafely now := by
  have whole : ((ofStore (.empty ownedStart)).after events).OnSecond := by
    refine after_onSecond (fun n x found => by cases found) fun task now mem => ?_
    obtain ⟨p, since, read⟩ := accepted task now mem
    exact onSecond_of_ofPayload read
  refine ⟨fun now inside => ?_, sleepsSafely⟩
  have completes : ∃ x, ((ofStore (.empty ownedStart)).after events).tick now = .ok x := by
    cases read : ((ofStore (.empty ownedStart)).after events).store.entries with
    | error e =>
      simp only [tick, read]
      exact ⟨_, rfl⟩
    | ok es => exact (tick_completes_iff now read).2 (entries_ok read ▸ inside)
  obtain ⟨⟨after, report⟩, done⟩ := completes
  obtain ⟨ms, computed, long⟩ := sleepMs_after_tick whole inside done
  refine ⟨after, report, ms, done, tick_again whole inside done, computed, long, fun wholeNow healthy => ?_⟩
  obtain ⟨ms', computed', second⟩ := sleepMs_after_tick_of_healthy whole healthy inside wholeNow done
  cases computed.symm.trans computed'
  exact second

theorem neither_spins_atNoon :
    let r := (ofStore (.empty "FleetAgent_")).after [.step (.create dailyReboot noon)]
    Task.ofPayload { Payload.named "FleetAgent_b" with
      kind := "reboot", trigger := "weekly", enabled := true, weekdays := 127, hour := 12 } noon =
        .ok (.ok dailyReboot) ∧
    (∀ e ∈ r.store.facility.entries, Reclaimable e.task) ∧ noon.wholeSeconds = noon ∧
    ∃ after report ms, r.tick noon = .ok (after, report) ∧ report.launched = ["FleetAgent_b"] ∧
      after.tick noon = .ok (after, .empty) ∧ after.sleepMs noon = .ok ms ∧ 1000 ≤ ms ∧
      after.SleepsSafely noon := by
  have read : Task.ofPayload { Payload.named "FleetAgent_b" with
      kind := "reboot", trigger := "weekly", enabled := true, weekdays := 127, hour := 12 } noon =
        .ok (.ok dailyReboot) := by decide
  have inside : ∀ e ∈ ((ofStore (.empty "FleetAgent_")).after
      [.step (.create dailyReboot noon)]).store.facility.entries, Reclaimable e.task := by
    intro e mem owned
    rw [List.mem_singleton.1 mem] at owned
    exact absurd owned (by decide)
  have accepted : ∀ task now, .step (.create task now) ∈ [Event.step (.create dailyReboot noon)] →
      ∃ p since, Task.ofPayload p since = .ok (.ok task) := by
    intro task now mem
    obtain ⟨rfl, rfl⟩ : task = dailyReboot ∧ now = noon := by simpa using mem
    exact ⟨_, _, read⟩
  obtain ⟨settles, safe⟩ := neither_spins_nor_oversleeps "FleetAgent_" accepted
  obtain ⟨after, report, ms, done, again, computed, -, second⟩ := settles noon inside
  refine ⟨read, inside, rfl, after, report, ms, done, ?_, again, computed, second rfl rfl, safe after noon⟩
  · have launched : (((ofStore (.empty "FleetAgent_")).after
        [.step (.create dailyReboot noon)]).tick noon).map (·.2.launched) = .ok ["FleetAgent_b"] := by
      decide
    rw [done] at launched
    exact Except.ok.inj launched

end Runner
end Steward.Schedule
