import Steward.Proofs.Schedule.TickEffect

/-!
Late firings of a weekly task without catch-up. Lateness is measured from the stored firing, the oldest
one that was not handled. Two occurrences are a day apart and the tolerance is two minutes, so a firing
that is hardly late is handled if it is the stored one, and is lost if an older one is stored.
-/
namespace Steward.Schedule
open Steward.Calendar

theorem toNanos_eq_of_time {t u : Instant} (time : t.time = u.time) :
    u.toNanos = t.toNanos + (u.date.number - t.date.number) * nanosPerDay := by
  simp only [Instant.toNanos, time, nanosPerDay_eq]
  omega

namespace Occurrence
variable {days : Weekdays} {start t u now : Instant}

theorem day_le_of_lt (first : Occurrence days start t) (second : Occurrence days start u)
    (less : t < u) : t.toNanos + nanosPerDay ≤ u.toNanos := by
  have distance := toNanos_eq_of_time (first.time.trans second.time.symm)
  rw [Instant.lt_def] at less
  simp only [nanosPerDay_eq] at distance ⊢
  omega

theorem lt_wholeSeconds (first : Occurrence days start t) (second : Occurrence days start u)
    (passed : t ≤ now) (ahead : now < u) : t < u.wholeSeconds := by
  rw [Instant.le_def] at passed
  rw [Instant.lt_def] at ahead
  have less : t < u := Int.lt_of_le_of_lt passed ahead
  have day := first.day_le_of_lt second less
  have fraction := u.toNanos_wholeSeconds
  have bound : u.time.nanos % nanosPerSecond < nanosPerSecond := Nat.mod_lt _ (by decide)
  rw [Instant.lt_def]
  rw [nanosPerDay_eq] at day
  rw [nanosPerSecond_eq] at fraction bound
  omega

end Occurrence

theorem not_expired_of_weekly {e : Entry} {days : Weekdays} {start : Instant}
    (weekly : e.task.trigger = .weekly days start) (now : Instant) : ¬ Expired e now := by
  simp [Expired, weekly, Trigger.boundary?]

theorem fate_of_due {e : Entry} {now : Instant} (lasting : ¬ Expired e now) (due : Due e now)
    (running : Nat) : fate running now e ≠ .reclaimed ∧ fate running now e ≠ .untouched := by
  rw [fate, if_neg lasting, if_neg (not_not_intro due)]
  split_ifs <;> decide

section Weekly
variable {e : Entry} {days : Weekdays} {start next t now : Instant}

theorem fate_of_weekly (weekly : e.task.trigger = .weekly days start) (enabled : e.task.enabled = true)
    (patient : e.task.runAsapAfterMissed = false) (pending : e.state.nextRunAt = some next)
    (passed : next ≤ now) (running : Nat) :
    fate running now e = if next.toNanos + missedTolerance < now.toNanos then .missed
      else if Blocked e running then .skipped else .launched := by
  have lasting : ¬ Expired e now := by simp [Expired, weekly, Trigger.boundary?]
  have due : Due e now := ⟨enabled, next, pending, passed⟩
  have late : TooLate e now ↔ next.toNanos + missedTolerance < now.toNanos := by
    simp [TooLate, weekly, Trigger.boundary?, patient, pending]
  rw [fate, if_neg lasting, if_neg (not_not_intro due)]
  exact if_congr late rfl rfl

/-- Among the occurrences up to now the stored one is in time exactly if it is the latest. -/
theorem tooLate_iff_ne (expected : Occurrence days start next) (occurs : Occurrence days start t)
    (low : next ≤ t) (recent : now.toNanos ≤ t.toNanos + missedTolerance) (passed : t ≤ now) :
    next.toNanos + missedTolerance < now.toNanos ↔ next ≠ t := by
  rw [Instant.le_def] at low passed
  have tolerance : missedTolerance = 120000000000 := by decide
  constructor
  · rintro late rfl
    omega
  · intro differs
    have less : next < t := by
      rw [Instant.lt_def]
      have apart := mt Instant.eq_of_toNanos_eq differs
      omega
    have day := expected.day_le_of_lt occurs less
    rw [nanosPerDay_eq] at day
    omega

variable {r after : Runner}

theorem settled_past (settled : r.Settled now r.store.facility.entries after)
    (mem : e ∈ r.store.facility.entries) (weekly : e.task.trigger = .weekly days start)
    (kept : r.fateOf now e ≠ .reclaimed) (acted : r.fateOf now e ≠ .untouched)
    (occurs : Occurrence days start t) (passed : t ≤ now) :
    ∃ left, after.store.facility.get? e.name = some left ∧
      ∀ further ∈ left.state.nextRunAt, t < further := by
  obtain ⟨left, entry, advanced⟩ := settledEntry_advances e now
    (nextFireAfter e.task.trigger now) kept acted
  refine ⟨left, (settled.entry e mem).trans entry, ?_⟩
  intro further stored
  obtain ⟨ahead, fires, rfl⟩ := Option.map_eq_some_iff.1 (advanced.symm.trans stored)
  have first := nextFireAfter_firesNext e.task.trigger now
  rw [fires, weekly] at first
  exact occurs.lt_wholeSeconds first.1.1 passed first.1.2

/-- A firing `t` that is at most two minutes old is handled exactly if it is the stored one. -/
theorem late_firing_iff (healthy : r.store.Healthy)
    (inside : ∀ e ∈ r.store.facility.entries, Reclaimable e.task)
    (registered : r.store.facility.get? e.name = some e)
    (weekly : e.task.trigger = .weekly days start) (enabled : e.task.enabled = true)
    (patient : e.task.runAsapAfterMissed = false) (pending : e.state.nextRunAt = some next)
    (expected : Occurrence days start next) (occurs : Occurrence days start t)
    (low : next ≤ t) (passed : t ≤ now) (recent : now.toNanos ≤ t.toNanos + missedTolerance) :
    ∃ after report, r.tick now = .ok (after, report) ∧
      ((e.name ∈ report.launched ∨
        e.name ∈ report.skipped ∧ Blocked e (r.running.count e.name)) ↔ next = t) ∧
      (e.name ∈ report.missed ↔ next ≠ t) ∧
      ∃ left, after.store.facility.get? e.name = some left ∧
        ∀ further ∈ left.state.nextRunAt, t < further := by
  obtain ⟨after, run, settled⟩ := @Runner.tick_settled r now healthy inside
  have judged := fate_of_weekly weekly enabled patient pending (Int.le_trans low passed)
    (r.running.count e.name)
  simp only [tooLate_iff_ne expected occurs low recent passed] at judged
  have named (verdict : Fate) := @Runner.mem_names_reportOf r now verdict e.name
  simp only [registered, Option.some.injEq, exists_eq_left', judged] at named
  refine ⟨after, r.reportOf now, run, ?_, ?_, ?_⟩
  · have launched := named .launched
    have skipped := named .skipped
    simp only [TickReport.names] at launched skipped
    rw [launched, skipped]
    by_cases latest : next = t
    · by_cases blocked : Blocked e (r.running.count e.name) <;> simp [latest, blocked]
    · simp [latest]
  · have missed := named .missed
    simp only [TickReport.names] at missed
    rw [missed]
    by_cases latest : next = t
    · by_cases blocked : Blocked e (r.running.count e.name) <;> simp [latest, blocked]
    · simp [latest]
  · obtain ⟨mem, -⟩ := (Facility.get?_eq_some_iff _ _ e).1 registered
    have acted : r.fateOf now e ≠ .reclaimed ∧ r.fateOf now e ≠ .untouched := by
      rw [Runner.fateOf, judged]
      split_ifs <;> decide
    exact settled_past settled mem weekly acted.1 acted.2 occurs passed

end Weekly

def dailyReboot : Task :=
  { name := "FleetAgent_b", action := .reboot, trigger := .weekly .all Runner.noon, enabled := true
    deleteAfter := false, parallel := false, runAsapAfterMissed := false }

def dailyEntry : Entry := ⟨dailyReboot, .fresh (some Runner.noon)⟩

def dailyRunner : Runner :=
  .ofStore ⟨⟨[dailyEntry], [], List.pairwise_singleton _ _⟩, "FleetAgent_", .none⟩

def secondNoon (seconds : Fin 3600) : Instant :=
  ⟨⟨1, by decide, by decide⟩, ⟨(43200 + seconds) * nanosPerSecond, by
    rw [nanosPerDay_eq, nanosPerSecond_eq]
    omega⟩⟩

def nextNoon : Instant := secondNoon 0

def pastNextNoon : Instant := secondNoon 60

theorem occurrence_noon : Occurrence .all Runner.noon Runner.noon := ⟨by decide, by decide, by decide⟩

theorem occurrence_secondNoon : Occurrence .all Runner.noon (secondNoon 0) :=
  ⟨by decide, by decide, by decide⟩

theorem reclaimable_dailyRunner : ∀ e ∈ dailyRunner.store.facility.entries, Reclaimable e.task := by
  intro e mem owned
  rw [List.mem_singleton.1 mem] at owned
  exact absurd owned (by decide)

theorem late_firing_secondNoon :
    dailyRunner.store.Healthy ∧ (∀ e ∈ dailyRunner.store.facility.entries, Reclaimable e.task) ∧
    dailyRunner.store.facility.get? dailyEntry.name = some dailyEntry ∧
    Occurrence .all Runner.noon Runner.noon ∧ Occurrence .all Runner.noon (secondNoon 0) ∧
    ∃ after report, dailyRunner.tick (secondNoon 60) = .ok (after, report) ∧
      ((dailyEntry.name ∈ report.launched ∨ dailyEntry.name ∈ report.skipped ∧
        Blocked dailyEntry (dailyRunner.running.count dailyEntry.name)) ↔
          Runner.noon = secondNoon 0) := by
  obtain ⟨after, report, run, handled, -⟩ := @late_firing_iff dailyEntry .all Runner.noon Runner.noon
    (secondNoon 0) (secondNoon 60) dailyRunner rfl reclaimable_dailyRunner rfl rfl rfl rfl rfl
    occurrence_noon occurrence_secondNoon (by decide) (by decide) (by decide)
  exact ⟨rfl, reclaimable_dailyRunner, rfl, occurrence_noon, occurrence_secondNoon, after, report, run,
    handled⟩

/-- The second firing is a minute old and is given up because the first one was never handled. -/
theorem secondNoon_missed :
    Task.ofPayload { Payload.named "FleetAgent_b" with
      kind := "reboot", trigger := "weekly", enabled := true, weekdays := 127, hour := 12 } Runner.noon =
        .ok (.ok dailyReboot) ∧
    dailyEntry.state.nextRunAt = some Runner.noon ∧ Occurrence .all Runner.noon Runner.noon ∧
    Occurrence .all Runner.noon (secondNoon 0) ∧ Runner.noon ≤ secondNoon 0 ∧
    secondNoon 0 ≤ secondNoon 60 ∧
    (secondNoon 60).toNanos ≤ (secondNoon 0).toNanos + missedTolerance ∧
    (dailyRunner.tick (secondNoon 60)).map Prod.snd = .ok ⟨[], [], ["FleetAgent_b"], []⟩ :=
  ⟨by decide, rfl, occurrence_noon, occurrence_secondNoon, by decide, by decide, by decide, by decide⟩

end Steward.Schedule
