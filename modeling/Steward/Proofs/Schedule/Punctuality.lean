import Mathlib.Data.List.Chain
import Mathlib.Data.List.Induction
import Steward.Proofs.Schedule.CalendarEnd
import Steward.Proofs.Schedule.Sequence

/-!
A weekly task while ticks follow one another by two minutes at most. The stored firing is always the
first occurrence that no tick has reached yet. Two occurrences are a day apart, so a tick reaches one at
most and is in time for it: it launches the task, or passes it over for a run that is still active. What
can come between is only a tick that aborts, because the removal of another task is off the calendar.
-/
namespace Steward.Schedule
open Steward.Calendar

/-- From one tick to the next the clock does not go back, and goes on by two minutes at most. -/
def Near (a b : Instant) : Prop := a ≤ b ∧ b.toNanos ≤ a.toNanos + missedTolerance

instance (a b : Instant) : Decidable (Near a b) := inferInstanceAs (Decidable (_ ∧ _))

def Step.tick? : Step → Option Instant
  | .tick now => some now
  | _ => none

def ticks (steps : List Step) : List Instant := steps.filterMap Step.tick?

def Step.Spares (ownedStart n : String) : Step → Prop
  | .create task _ => task.name ≠ n
  | .delete name => name ≠ n
  | .cleanup => (Store.empty ownedStart).owns n = false
  | .enable name _ _ => name ≠ n
  | .tick _ => True
  | .complete _ _ _ => True

/-- An occurrence since the registration that none of the earlier ticks has reached. -/
structure Outstanding (days : Weekdays) (start since : Instant) (earlier : List Instant) (t : Instant) :
    Prop where
  occurs : Occurrence days start t
  registered : since ≤ t
  ahead : ∀ u ∈ earlier, u < t

/-- The tick at `now` is the first one at or after the occurrence `t`. -/
structure FallsTo (days : Weekdays) (start since : Instant) (earlier : List Instant)
    (now t : Instant) : Prop extends Outstanding days start since earlier t where
  passed : t ≤ now

structure Follows (since : Instant) (earlier : List Instant) (now : Instant) : Prop where
  past : ∀ u ∈ since :: earlier, u ≤ now
  recent : ∃ u ∈ since :: earlier, now.toNanos ≤ u.toNanos + missedTolerance

theorem follows_of_chain {since now : Instant} {earlier : List Instant}
    (near : (since :: (earlier ++ [now])).IsChain Near) : Follows since earlier now := by
  induction earlier generalizing since with
  | nil =>
    have one := (List.isChain_cons_cons.1 near).1
    exact ⟨List.forall_mem_singleton.2 one.1, since, List.mem_cons_self, one.2⟩
  | cons u rest ih =>
    obtain ⟨one, others⟩ := List.isChain_cons_cons.1 near
    obtain ⟨past, last, mem, recent⟩ := ih others
    have low : since ≤ now := Int.le_trans one.1 (past u List.mem_cons_self)
    exact ⟨List.forall_mem_cons.2 ⟨low, past⟩, last, List.mem_cons_of_mem since mem, recent⟩

theorem isFirst_of_subset {p q : Instant → Prop} {next : Option Instant} (first : IsFirst p next)
    (subset : ∀ t, q t → p t) (still : ∀ t ∈ next, q t) : IsFirst q next := by
  cases next with
  | none => exact fun t holds => first t (subset t holds)
  | some t => exact ⟨still t rfl, fun u holds => first.2 (subset u holds)⟩

section Judgement
variable {days : Weekdays} {start since now t u : Instant} {earlier : List Instant}

theorem Outstanding.low (out : Outstanding days start since earlier t) (mem : u ∈ since :: earlier) :
    u ≤ t := by
  rcases List.mem_cons.1 mem with rfl | before
  · exact out.registered
  · exact Int.le_of_lt (out.ahead u before)

theorem FallsTo.recent (falls : FallsTo days start since earlier now t)
    (follows : Follows since earlier now) : now.toNanos ≤ t.toNanos + missedTolerance := by
  obtain ⟨-, last, mem, recent⟩ := follows
  have low := falls.low mem
  rw [Instant.le_def] at low
  omega

theorem FallsTo.eq_of_le (first : FallsTo days start since earlier now t)
    (second : FallsTo days start since earlier now u) (follows : Follows since earlier now)
    (low : t ≤ u) : t = u := by
  have late := tooLate_iff_ne first.occurs second.occurs low (second.recent follows) second.passed
  by_contra differs
  exact absurd (late.2 differs) (Int.not_lt.2 (first.recent follows))

/-- What fires behind a tick is the first occurrence that neither it nor an earlier one has reached. -/
theorem isFirst_after (follows : Follows since earlier now) :
    IsFirst (Outstanding days start since (earlier ++ [now]))
      (weeklyOccurrence days start now false) := by
  obtain ⟨early, behind⟩ := List.forall_mem_cons.1 follows.past
  refine isFirst_of_subset (weeklyOccurrence_isFirst days start now false) ?_ ?_
  · exact fun t out => ⟨out.occurs, out.ahead now (List.mem_append_right _ List.mem_cons_self)⟩
  · intro t stored
    obtain ⟨occurs, beyond⟩ := occurrence_of_weeklyOccurrence stored
    refine ⟨occurs, Int.le_trans early (Int.le_of_lt beyond), fun u mem => ?_⟩
    rcases List.mem_append.1 mem with before | here
    · exact Int.lt_of_le_of_lt (behind u before) beyond
    · exact List.mem_singleton.1 here ▸ beyond

variable {next : Option Instant} (first : IsFirst (Outstanding days start since earlier) next)
include first

theorem exists_fallsTo_iff :
    (∃ t, FallsTo days start since earlier now t) ↔ ∃ p ∈ next, p ≤ now := by
  cases next with
  | none =>
    refine ⟨fun ⟨t, falls⟩ => absurd falls.toOutstanding (first t), ?_⟩
    rintro ⟨p, stored, -⟩
    cases stored
  | some p =>
    constructor
    · rintro ⟨t, falls⟩
      exact ⟨p, rfl, Int.le_trans (first.2 falls.toOutstanding) falls.passed⟩
    · rintro ⟨q, same, passed⟩
      cases same
      exact ⟨p, first.1, passed⟩

theorem next_eq_of_fallsTo (falls : FallsTo days start since earlier now t)
    (follows : Follows since earlier now) : next = some t := by
  cases next with
  | none => exact absurd falls.toOutstanding (first t)
  | some p =>
    have low : p ≤ t := first.2 falls.toOutstanding
    have own : FallsTo days start since earlier now p := ⟨first.1, Int.le_trans low falls.passed⟩
    rw [own.eq_of_le falls follows low]

theorem isFirst_of_not_fallsTo (idle : ¬ ∃ t, FallsTo days start since earlier now t) :
    IsFirst (Outstanding days start since (earlier ++ [now])) next := by
  refine isFirst_of_subset first (fun t out => ?_) (fun t stored => ?_)
  · exact ⟨out.occurs, out.registered, fun u mem => out.ahead u (List.mem_append_left _ mem)⟩
  · have out : Outstanding days start since earlier t := by
      cases stored
      exact first.1
    refine ⟨out.occurs, out.registered, fun u mem => ?_⟩
    rcases List.mem_append.1 mem with before | here
    · exact out.ahead u before
    · rw [List.mem_singleton.1 here, Instant.lt_def]
      by_contra late
      exact idle ⟨t, out, Int.not_lt.1 late⟩

end Judgement

/-- The task waits for the first occurrence that no tick has reached. -/
structure Timing.Awaits (x : Timing) (days : Weekdays) (start since : Instant)
    (earlier : List Instant) : Prop where
  trigger : x.task.trigger = .weekly days start
  enabled : x.task.enabled = true
  next : IsFirst (Outstanding days start since earlier) x.next

section Fates
variable {e : Entry} {days : Weekdays} {start since now t : Instant} {earlier : List Instant}
  (awaits : e.timing.Awaits days start since earlier)
include awaits

theorem due_iff_fallsTo : Due e now ↔ ∃ t, FallsTo days start since earlier now t :=
  (and_iff_right awaits.enabled).trans (exists_fallsTo_iff awaits.next).symm

theorem fate_of_not_fallsTo (idle : ¬ ∃ t, FallsTo days start since earlier now t) (running : Nat) :
    fate running now e = .untouched := by
  rw [fate, if_neg (not_expired_of_weekly awaits.trigger now), if_pos (mt (due_iff_fallsTo awaits).1 idle)]

theorem fate_of_fallsTo (falls : FallsTo days start since earlier now t)
    (follows : Follows since earlier now) (running : Nat) :
    fate running now e = .launched ∨ fate running now e = .skipped ∧ 0 < running := by
  have stored : e.state.nextRunAt = some t := next_eq_of_fallsTo awaits.next falls follows
  have weekly : e.task.trigger = .weekly days start := awaits.trigger
  have recent := falls.recent follows
  have timely : ¬ TooLate e now := by
    rintro (⟨boundary, ends, -⟩ | ⟨-, p, late, passed⟩)
    · simp [weekly, Trigger.boundary?] at ends
    · cases late.symm.trans stored
      omega
  have due := (due_iff_fallsTo awaits).2 ⟨t, falls⟩
  by_cases blocked : Blocked e running
  · exact .inr ⟨(fate_eq_skipped_iff running now e).2
      ⟨not_expired_of_weekly weekly now, due, timely, blocked⟩, blocked.1⟩
  · exact .inl ((fate_eq_launched_iff running now e).2
      ⟨not_expired_of_weekly weekly now, due, timely, blocked⟩)

end Fates

namespace Runner

structure Punctual (r : Runner) (n : String) (days : Weekdays) (start since : Instant)
    (earlier : List Instant) (now : Instant) : Prop where
  handled : ∀ t, FallsTo days start since earlier now t →
    ∃ after report, r.tick now = .ok (after, report) ∧ r.pending n = some t ∧
      (n ∈ report.launched ∨ n ∈ report.skipped ∧ 0 < r.running.count n)
  nothing_else : ∀ after report, r.tick now = .ok (after, report) →
    n ∉ report.missed ∧ n ∉ report.reclaimed ∧
      (n ∈ report.launched ∨ n ∈ report.skipped → ∃ t, FallsTo days start since earlier now t)

section
variable {r : Runner} {n : String} {days : Weekdays} {start since now : Instant}
  {earlier : List Instant} (healthy : r.store.Healthy)

def AwaitsOn (r : Runner) (n : String) (days : Weekdays) (start since : Instant)
    (earlier : List Instant) : Prop :=
  ∃ e, r.store.facility.get? n = some e ∧ e.timing.Awaits days start since earlier

theorem awaitsOn_of_timing {x : Timing} (timing : r.timing n = some x)
    (awaits : x.Awaits days start since earlier) : r.AwaitsOn n days start since earlier := by
  obtain ⟨e, found, rfl⟩ := Option.map_eq_some_iff.1 timing
  exact ⟨e, found, awaits⟩

include healthy

theorem punctual_of_awaitsOn (awaits : r.AwaitsOn n days start since earlier)
    (follows : Follows since earlier now) (inside : (∃ t, FallsTo days start since earlier now t) →
      ∀ e ∈ r.store.facility.entries, Reclaimable e.task) :
    r.Punctual n days start since earlier now := by
  obtain ⟨e, found, awaits⟩ := awaits
  have named (verdict : Fate) := @mem_names_reportOf r now verdict n
  simp only [found, Option.some.injEq, exists_eq_left'] at named
  constructor
  · intro t falls
    obtain ⟨after, run, -⟩ := @tick_settled r now healthy (inside ⟨t, falls⟩)
    have stored := next_eq_of_fallsTo awaits.next falls follows
    refine ⟨after, r.reportOf now, run, (pending_of_found found).trans stored, ?_⟩
    rcases fate_of_fallsTo awaits falls follows (r.running.count n) with launched | ⟨skipped, some⟩
    · exact .inl ((named .launched).2 ⟨by decide, launched⟩)
    · exact .inr ⟨(named .skipped).2 ⟨by decide, skipped⟩, some⟩
  · intro after report run
    have whole := (tick_completes_iff now (Store.entries_eq healthy)).1 ⟨_, run⟩
    obtain ⟨again, same, -⟩ := @tick_settled r now healthy whole
    cases run.symm.trans same
    by_cases falls : ∃ t, FallsTo days start since earlier now t
    · obtain ⟨t, falls⟩ := falls
      have judged := fate_of_fallsTo awaits falls follows (r.running.count n)
      refine ⟨fun missed => ?_, fun reclaimed => ?_, fun _ => ⟨t, falls⟩⟩
      · have verdict := ((named .missed).1 missed).2
        simp [verdict] at judged
      · have verdict := ((named .reclaimed).1 reclaimed).2
        simp [verdict] at judged
    · have judged := fate_of_not_fallsTo awaits falls (r.running.count n)
      have absent (verdict : Fate) : n ∉ (r.reportOf now).names verdict := fun listed =>
        ((named verdict).1 listed).1 (((named verdict).1 listed).2.symm.trans judged)
      exact ⟨absent .missed, absent .reclaimed, fun listed =>
        listed.elim (fun here => absurd here (absent .launched)) fun here => absurd here (absent .skipped)⟩

theorem tick_awaitsOn (whole : start.wholeSeconds = start)
    (awaits : r.AwaitsOn n days start since earlier) (follows : Follows since earlier now)
    (inside : (∃ t, FallsTo days start since earlier now t) →
      ∀ e ∈ r.store.facility.entries, Reclaimable e.task) :
    (r.perform (.step (.tick now))).AwaitsOn n days start since (earlier ++ [now]) := by
  obtain ⟨e, found, awaits⟩ := awaits
  by_cases falls : ∃ t, FallsTo days start since earlier now t
  -- the schedule has to move, so the tick has to complete
  · obtain ⟨after, run, settled⟩ := @tick_settled r now healthy (inside falls)
    have reached : (r.perform (.step (.tick now))) = after :=
      congrArg Prod.fst (tickUntilAbort_of_tick run)
    obtain ⟨kept, acted⟩ := fate_of_due (not_expired_of_weekly awaits.trigger now)
      ((due_iff_fallsTo awaits).2 falls) (r.running.count n)
    obtain ⟨left, entry, advanced⟩ := settledEntry_advances e now
      (nextFireAfter e.task.trigger now) kept acted
    have task := settledEntry_task entry
    have view := get?_of_settled settled n
    rw [found, Option.bind_some, entry] at view
    refine ⟨left, reached ▸ view, ?_, ?_, ?_⟩
    · exact (congrArg Task.trigger task).trans awaits.trigger
    · exact (congrArg Task.enabled task).trans awaits.enabled
    · have trigger : e.task.trigger = .weekly days start := awaits.trigger
      rw [trigger] at advanced
      have next := advanced.trans (weeklyOccurrence_wholeSeconds days whole now false)
      rw [show left.timing.next = _ from next]
      exact isFirst_after follows
  -- nothing is due, so it does not matter whether the tick reaches the task
  · have still : e.timing.Awaits days start since (earlier ++ [now]) :=
      ⟨awaits.trigger, awaits.enabled, isFirst_of_not_fallsTo awaits.next falls⟩
    refine awaitsOn_of_timing ?_ still
    cases perform_shift r n (.step (.tick now)) with
    | kept same _ => exact same.trans (timing_of_found found)
    | fated x at_ cause again moved _ =>
      cases cause
      cases found.symm.trans again
      rw [fate_of_not_fallsTo awaits falls] at moved
      exact moved
    | registered _ _ registers _ _ _ => exact absurd registers.1 nofun
    | removed cause _ _ => exact absurd cause (by simp)
    | switched _ _ _ cause _ _ _ => exact absurd cause nofun

end

section Session

def session (ownedStart : String) (steps : List Step) : Runner :=
  (ofStore (.empty ownedStart)).after (steps.map .step)

variable {ownedStart : String} {before steps done : List Step}

theorem session_concat (ownedStart : String) (steps : List Step) (step : Step) :
    session ownedStart (steps ++ [step]) = (session ownedStart steps).perform (.step step) := by
  rw [session, List.map_append, after_append]
  rfl

theorem setting_session (ownedStart : String) (steps : List Step) :
    (session ownedStart steps).store.setting = (ownedStart, .none) :=
  (ofStore (.empty ownedStart)).after_setting steps

theorem healthy_session (ownedStart : String) (steps : List Step) :
    (session ownedStart steps).store.Healthy :=
  congrArg Prod.snd (setting_session ownedStart steps)

variable {n : String} {days : Weekdays} {start since now : Instant} {earlier : List Instant}

theorem step_awaitsOn {step : Step} (awaits : (session ownedStart done).AwaitsOn n days start since earlier)
    (idle : step.tick? = none) (spared : step.Spares ownedStart n) :
    (session ownedStart (done ++ [step])).AwaitsOn n days start since earlier := by
  rw [session_concat]
  obtain ⟨e, found, awaits⟩ := awaits
  cases perform_shift (session ownedStart done) n (.step step) with
  | kept same _ => exact awaitsOn_of_timing (same.trans (timing_of_found found)) awaits
  | registered task _ registers named _ _ =>
    cases registers.1
    exact absurd named spared
  | removed cause _ _ =>
    rcases cause with same | ⟨same, owned⟩
    · cases same
      exact absurd rfl spared
    · cases same
      have owner : (session ownedStart done).store.ownedStart = ownedStart :=
        congrArg Prod.fst (setting_session ownedStart done)
      rw [Store.owns, owner] at owned
      cases owned.symm.trans (show _ = false from spared)
  | switched _ _ _ cause _ _ _ =>
    cases cause
    exact absurd rfl spared
  | fated _ _ cause _ _ _ =>
    cases cause
    cases idle

variable {task : Task}

theorem create_awaitsOn (created : ∃ s, (session ownedStart before).store.create task since = .ok s)
    (weekly : task.trigger = .weekly days start) (enabled : task.enabled = true)
    (whole : start.wholeSeconds = start) :
    (session ownedStart (before ++ [.create task since])).AwaitsOn task.name days start since [] := by
  have found := found_of_registers ⟨rfl, created⟩
  rw [session_concat]
  refine ⟨⟨task, .fresh (initialFire task.trigger since)⟩, found, weekly, enabled, ?_⟩
  have next := weeklyOccurrence_wholeSeconds days whole since true
  rw [weekly, show Timing.next _ = _ from next]
  refine isFirst_of_subset (weeklyOccurrence_isFirst days start since true)
    (fun t out => ⟨out.occurs, out.registered⟩) fun t stored => ?_
  obtain ⟨occurs, reached⟩ := occurrence_of_weeklyOccurrence stored
  exact ⟨occurs, reached, by simp⟩

theorem ticks_concat (steps : List Step) (step : Step) :
    ticks (steps ++ [step]) = ticks steps ++ step.tick?.toList := by
  rw [ticks, List.filterMap_append]
  cases read : step.tick? <;> simp [ticks, read]

theorem follows_of_early (near : (since :: ticks steps).IsChain Near)
    (early : done ++ [.tick now] <+: steps) : Follows since (ticks done) now := by
  obtain ⟨rest, rfl⟩ := early
  have split : since :: ticks (done ++ [.tick now] ++ rest) =
      (since :: (ticks done ++ [now])) ++ ticks rest := by
    simp [ticks, Step.tick?]
  exact follows_of_chain (split ▸ near).left_of_append

variable (created : ∃ s, (session ownedStart before).store.create task since = .ok s)
  (weekly : task.trigger = .weekly days start) (enabled : task.enabled = true)
  (whole : start.wholeSeconds = start) (spared : ∀ step ∈ steps, step.Spares ownedStart task.name)
  (near : (since :: ticks steps).IsChain Near)
include created weekly enabled whole spared near

theorem session_awaitsOn (inside : ∀ done now, done ++ [.tick now] <+: steps →
      (∃ t, FallsTo days start since (ticks done) now t) →
        ∀ e ∈ (session ownedStart (before ++ .create task since :: done)).store.facility.entries,
          Reclaimable e.task) (early : done <+: steps) :
    (session ownedStart (before ++ .create task since :: done)).AwaitsOn task.name days start since
      (ticks done) := by
  induction done using List.reverseRecOn with
  | nil => exact create_awaitsOn created weekly enabled whole
  | append_singleton done step ih =>
    have awaits := ih ((List.prefix_append done [step]).trans early)
    have mem : step ∈ steps := early.subset (List.mem_append_right done List.mem_cons_self)
    rw [ticks_concat, ← List.cons_append, ← List.append_assoc]
    cases read : step.tick? with
    | none =>
      rw [Option.toList_none, List.append_nil]
      exact step_awaitsOn awaits read (spared step mem)
    | some now =>
      obtain rfl : step = .tick now := by
        cases step <;> simp_all [Step.tick?]
      rw [session_concat]
      exact tick_awaitsOn (healthy_session ownedStart _) whole awaits (follows_of_early near early)
        (inside done now early)

/-- From its registration on every tick is punctual for a weekly task, exactly if no firing falls to a
tick that meets a task whose removal is off the calendar. -/
theorem punctual_iff_reclaimable :
    (∀ done now, done ++ [.tick now] <+: steps →
      (session ownedStart (before ++ .create task since :: done)).Punctual task.name days start since
        (ticks done) now) ↔
    ∀ done now, done ++ [.tick now] <+: steps →
      (∃ t, FallsTo days start since (ticks done) now t) →
        ∀ e ∈ (session ownedStart (before ++ .create task since :: done)).store.facility.entries,
          Reclaimable e.task := by
  constructor
  · rintro punctual done now early ⟨t, falls⟩
    obtain ⟨after, report, run, -⟩ := (punctual done now early).handled t falls
    exact (tick_completes_iff now (Store.entries_eq (healthy_session ownedStart _))).1 ⟨_, run⟩
  · intro inside done now early
    have awaits := session_awaitsOn created weekly enabled whole spared near inside
      ((List.prefix_append done [.tick now]).trans early)
    exact punctual_of_awaitsOn (healthy_session ownedStart _) awaits (follows_of_early near early)
      (inside done now early)

end Session

def minuteToNoon : Instant := ⟨.epoch, ⟨43140000000000, by decide⟩⟩

theorem fallsTo_noon : FallsTo .all noon minuteToNoon [] noon noon where
  occurs := occurrence_noon
  registered := by decide
  ahead := by simp
  passed := by decide

theorem punctual_minuteToNoon :
    (∃ s, (session "FleetAgent_" []).store.create dailyReboot minuteToNoon = .ok s) ∧
    dailyReboot.trigger = .weekly .all noon ∧ dailyReboot.enabled = true ∧ noon.wholeSeconds = noon ∧
    (∀ step ∈ [Step.tick noon], step.Spares "FleetAgent_" dailyReboot.name) ∧
    (minuteToNoon :: ticks [.tick noon]).IsChain Near ∧ FallsTo .all noon minuteToNoon [] noon noon ∧
    (session "FleetAgent_" [.create dailyReboot minuteToNoon]).Punctual dailyReboot.name .all noon
      minuteToNoon [] noon := by
  have created : ∃ s, (session "FleetAgent_" []).store.create dailyReboot minuteToNoon = .ok s :=
    ⟨_, rfl⟩
  have spared : ∀ step ∈ [Step.tick noon], step.Spares "FleetAgent_" dailyReboot.name := by
    simp [Step.Spares]
  have near : (minuteToNoon :: ticks [.tick noon]).IsChain Near := by decide
  refine ⟨created, rfl, rfl, rfl, spared, near, fallsTo_noon, ?_⟩
  refine (@punctual_iff_reclaimable "FleetAgent_" [] [.tick noon] .all noon minuteToNoon dailyReboot
    created rfl rfl rfl spared near).2 ?_ [] noon (List.prefix_refl _)
  intro done now early _ e mem owned
  have empty : done = [] := by
    have short := early.length_le
    rw [List.length_append] at short
    exact List.eq_nil_of_length_eq_zero (by simpa using short)
  subst empty
  rw [List.mem_singleton.1 mem] at owned
  exact absurd owned (by decide)

theorem noon_aborted :
    Task.ofPayload (lastEvening 40) minuteToNoon = .ok (.ok lastReboot) ∧
    Task.ofPayload { Payload.named "FleetAgent_b" with
      kind := "reboot", trigger := "weekly", enabled := true, weekdays := 127, hour := 12 }
        minuteToNoon = .ok (.ok dailyReboot) ∧
    (∃ s, (session "FleetAgent_" [.create lastReboot minuteToNoon]).store.create dailyReboot
      minuteToNoon = .ok s) ∧
    (minuteToNoon :: ticks [.tick noon]).IsChain Near ∧ FallsTo .all noon minuteToNoon [] noon noon ∧
    (session "FleetAgent_" [.create lastReboot minuteToNoon, .create dailyReboot minuteToNoon]).tick
      noon = .error .offCalendar ∧
    ¬ (session "FleetAgent_" [.create lastReboot minuteToNoon, .create dailyReboot minuteToNoon]).Punctual
      dailyReboot.name .all noon minuteToNoon [] noon := by
  refine ⟨by decide, by decide, ⟨_, rfl⟩, by decide, fallsTo_noon, by rfl, fun punctual => ?_⟩
  obtain ⟨after, report, run, -⟩ := punctual.handled noon fallsTo_noon
  cases run

end Runner
end Steward.Schedule
