import Steward.Proofs.Schedule.Rest
import Steward.Proofs.Schedule.Sequence

/-!
Enabling and disabling a task. Only its flag and the firing that is stored for it change, and as stored
firings have no fraction, a disabled task keeps its own. The firing of a weekly task does not depend on
when it was worked out: as long as it lies ahead, switching the task off and on stores it again.
-/
namespace Steward.Schedule
open Steward.Calendar

/-! What one call changes. -/

namespace Store
variable {s : Store} {name : String} {e : Entry} {flag : Bool} {now : Instant}

structure Answers (s : Store) (name : String) : Prop where
  get : ¬ s.faults.Denies .get name
  setEnabled : ¬ s.faults.Denies .setEnabled name

/-- The store is the same but for the flag and the stored firing of one task. -/
structure Switched (s after : Store) (name : String) (flag : Bool) (next : Option Instant) : Prop where
  setting : after.setting = s.setting
  runs : after.facility.runs = s.facility.runs
  entries : after.facility.entries = s.facility.entries.map fun e =>
    if e.name = name then
      { e with task := { e.task with enabled := flag }, state := { e.state with nextRunAt := next } }
    else e

theorem enable_of_missing (answers : s.Answers name) (missing : s.facility.get? name = none) :
    s.enable name flag now = .error (.notFound name) := by
  obtain ⟨connected, read⟩ := call_of_allowed answers.get
  simp only [enable, connected, read, missing, bind, Except.bind]

theorem enable_of_found (answers : s.Answers name) (found : s.facility.get? name = some e) :
    ∃ after, s.enable name flag now = .ok after ∧
      s.Switched after name flag ((nextAfterEnable e flag now).map .wholeSeconds) := by
  obtain ⟨connected, read⟩ := call_of_allowed answers.get
  obtain ⟨-, written⟩ := call_of_allowed answers.setEnabled
  have present : s.facility.contains name = true := by
    rw [Facility.contains_eq, found]
    rfl
  let f := s.facility.modify name (·.withEnabled flag (nextAfterEnable e flag now)) fun _ => rfl
  have done : s.enable name flag now = .ok { s with facility := f } := by
    simp only [enable, connected, read, written, found, Facility.setEnabled, present, if_true, bind,
      Except.bind, pure, Except.pure, f]
  exact ⟨{ s with facility := f }, done, rfl, rfl, rfl⟩

end Store

/-- What is to be stored for a task that is enabled: of a manual task nothing, nor of a once task that has
run; the start of one that has not; and the first occurrence from now on of a weekly one. -/
def FiresFrom (e : Entry) (now : Instant) (next : Option Instant) : Prop :=
  match e.task.trigger with
  | .manual => next = none
  | .once start _ => next = if e.state.lastRunAt.isSome then none else some start
  | .weekly days start => IsFirst (fun t => Occurrence days start t ∧ now ≤ t) next

section Next
variable (e : Entry) (now : Instant)

theorem nextAfterEnable_firesFrom : FiresFrom e now (Store.nextAfterEnable e true now) := by
  unfold FiresFrom Store.nextAfterEnable
  cases e.task.trigger with
  | manual => rfl
  | once start expiry => rfl
  | weekly days start => exact weeklyOccurrence_isFirst days start now true

theorem nextAfterEnable_onSecond (whole : e.task.trigger.OnSecond) :
    (Store.nextAfterEnable e true now).map .wholeSeconds = Store.nextAfterEnable e true now := by
  have start := whole.start
  unfold Store.nextAfterEnable
  cases trigger : e.task.trigger with
  | manual => rfl
  | once boundary expiry =>
    rw [trigger] at start
    show Option.map _ (if e.state.lastRunAt.isSome then none else some boundary) =
      if e.state.lastRunAt.isSome then none else some boundary
    split
    · rfl
    · exact congrArg some start
  | weekly days boundary =>
    rw [trigger] at start
    exact weeklyOccurrence_wholeSeconds days start now true

end Next

/-! The firing that is stored for a weekly task. -/

/-- An occurrence that was the first from an earlier instant on is the first from now on, unless it has
passed. -/
theorem weeklyOccurrence_later {days : Weekdays} {start t now first : Instant} {inclusive : Bool}
    (found : weeklyOccurrence days start t inclusive = some first)
    (earlier : ∀ u, now ≤ u → Reaches inclusive t u) (ahead : now ≤ first) :
    weeklyOccurrence days start now true = some first := by
  have least := weeklyOccurrence_isFirst days start t inclusive
  have again := weeklyOccurrence_isFirst days start now true
  rw [found] at least
  cases next : weeklyOccurrence days start now true with
  | none =>
    rw [next] at again
    exact absurd ⟨least.1.1, ahead⟩ (again first)
  | some u =>
    rw [next] at again
    obtain ⟨occurs, reached⟩ := again.1
    have before : u ≤ first := again.2 ⟨least.1.1, ahead⟩
    have behind : first ≤ u := least.2 ⟨occurs, earlier u reached⟩
    exact congrArg some (Instant.eq_of_toNanos_eq (Int.le_antisymm before behind))

/-- What is stored for a weekly task, if it still lies ahead, would be stored again now. -/
def Timing.Lasts (now : Instant) (x : Timing) : Prop :=
  ∀ days start, x.task.trigger = .weekly days start → ∀ p ∈ x.next, now ≤ p →
    (weeklyOccurrence days start now true).map .wholeSeconds = some p

theorem lasts_of_stored {x : Timing} {t now : Instant} (inclusive : Bool)
    (stored : ∀ days start, x.task.trigger = .weekly days start →
      x.next = (weeklyOccurrence days start t inclusive).map .wholeSeconds)
    (earlier : ∀ u, now ≤ u → Reaches inclusive t u) : x.Lasts now := by
  intro days start trigger p next ahead
  rw [stored days start trigger] at next
  obtain ⟨first, found, rfl⟩ := Option.map_eq_some_iff.1 next
  have still : now ≤ first := Int.le_trans ahead first.wholeSeconds_le
  rw [weeklyOccurrence_later found earlier still]
  rfl

def Event.Precedes (now : Instant) : Event → Prop
  | .step (.tick t) => t < now
  | .step (.create _ t) => t ≤ now
  | .step (.enable _ _ t) => t ≤ now
  | _ => True

namespace Runner

def StoredWhole (r : Runner) : Prop := ∀ n x, r.timing n = some x → ∀ t ∈ x.next, t.wholeSeconds = t

def StoredLasts (r : Runner) (now : Instant) : Prop := ∀ n x, r.timing n = some x → x.Lasts now

section Event
variable {r : Runner} {event : Event} {now : Instant}

theorem perform_storedWhole (before : r.StoredWhole) : (r.perform event).StoredWhole := by
  intro n x found
  cases perform_shift r n event with
  | kept same _ => exact before n x (same.symm.trans found)
  | registered task t _ _ fresh _ =>
    cases fresh.symm.trans found
    exact wholeSeconds_of_stored
  | removed _ gone _ => cases gone.symm.trans found
  | switched e flag t _ _ moved _ =>
    cases moved.symm.trans found
    exact wholeSeconds_of_stored
  | fated e t _ registered moved _ =>
    obtain ⟨left, settled, rfl⟩ := Option.map_eq_some_iff.1 (moved.symm.trans found)
    rcases settledEntry_next settled with kept | next
    · rw [kept]
      exact before n e.timing (timing_of_found registered)
    · rw [next]
      exact wholeSeconds_of_stored

theorem perform_storedLasts (before : r.StoredLasts now) (passed : event.Precedes now) :
    (r.perform event).StoredLasts now := by
  intro n x found
  cases perform_shift r n event with
  | kept same _ => exact before n x (same.symm.trans found)
  | registered task t registers _ fresh _ =>
    cases fresh.symm.trans found
    rw [registers.1] at passed
    refine lasts_of_stored true (fun days start trigger => ?_)
      fun u later => Int.le_trans passed later
    exact congrArg (fun x => (initialFire x t).map Instant.wholeSeconds) trigger
  | removed _ gone _ => cases gone.symm.trans found
  | switched e flag t cause registered moved _ =>
    cases moved.symm.trans found
    have old := before n e.timing (timing_of_found registered)
    cases flag with
    | false =>
      -- the firing is stored a second time, and has no fraction to lose
      intro days start trigger p next ahead
      obtain ⟨q, stored, rfl⟩ := Option.map_eq_some_iff.1 next
      have still : now ≤ q := Int.le_trans ahead q.wholeSeconds_le
      have again := old days start trigger q stored still
      obtain ⟨first, -, rfl⟩ := Option.map_eq_some_iff.1 again
      rw [again, Instant.wholeSeconds_wholeSeconds]
    | true =>
      rw [cause] at passed
      refine lasts_of_stored true (fun days start trigger => ?_)
        fun u later => Int.le_trans passed later
      have weekly : e.task.trigger = .weekly days start := trigger
      show (Store.nextAfterEnable e true t).map Instant.wholeSeconds = _
      simp only [Store.nextAfterEnable, weekly]
      rfl
  | fated e t cause registered moved _ =>
    obtain ⟨left, settled, rfl⟩ := Option.map_eq_some_iff.1 (moved.symm.trans found)
    have same : left.timing.task = e.timing.task := settledEntry_task settled
    rcases settledEntry_next settled with kept | next
    · have old := before n e.timing (timing_of_found registered)
      unfold Timing.Lasts at old ⊢
      rw [same, kept]
      exact old
    · rw [cause] at passed
      refine lasts_of_stored false (fun days start trigger => ?_)
        fun u later => Int.lt_of_lt_of_le passed later
      rw [same] at trigger
      rw [next, show e.task.trigger = .weekly days start from trigger]
      rfl

end Event

section Course
variable (ownedStart : String) {events : List Event} {now : Instant}

theorem after_storedWhole (events : List Event) :
    ((ofStore (.empty ownedStart)).after events).StoredWhole := by
  have step (r : Runner) (event : Event) (before : r.StoredWhole) (_ : True) :
      (r.perform event).StoredWhole := perform_storedWhole before
  refine after_of_perform step ?_ fun _ _ => trivial
  intro n x found
  cases found

theorem after_storedLasts (passed : ∀ event ∈ events, event.Precedes now) :
    ((ofStore (.empty ownedStart)).after events).StoredLasts now := by
  have step (r : Runner) (event : Event) (before : r.StoredLasts now) (here : event.Precedes now) :
      (r.perform event).StoredLasts now := perform_storedLasts before here
  refine after_of_perform step ?_ passed
  intro n x found
  cases found

end Course

section Switches
variable {r : Runner} {n : String} {days : Weekdays} {start now p : Instant}

theorem pending_of_switch (weekly : r.Carries n fun t => t.trigger = .weekly days start)
    (lasts : r.StoredLasts now) (stored : r.pending n = some p) (ahead : now ≤ p) (flag : Bool) :
    (r.perform (.step (.enable n flag now))).pending n = some p := by
  cases perform_shift r n (.step (.enable n flag now)) with
  | kept same _ => exact (congrArg (·.bind Timing.next) same).trans stored
  | registered _ _ registers _ _ _ => cases registers.1
  | removed cause _ _ =>
    rcases cause with other | ⟨other, -⟩
    · cases other
    · cases other
  | fated _ _ cause _ _ _ => cases cause
  | switched e again t cause found moved _ =>
    obtain ⟨-, rfl, rfl⟩ : n = n ∧ flag = again ∧ now = t := by simpa using cause
    have trigger : e.task.trigger = .weekly days start := weekly e.timing (timing_of_found found)
    have held : e.state.nextRunAt = some p := (pending_of_found found).symm.trans stored
    have next := lasts n e.timing (timing_of_found found) days start trigger p held ahead
    refine (congrArg (·.bind Timing.next) moved).trans ?_
    show (Store.nextAfterEnable e flag now).map Instant.wholeSeconds = some p
    cases flag with
    | true =>
      simp only [Store.nextAfterEnable, trigger]
      exact next
    | false =>
      obtain ⟨first, -, rfl⟩ := Option.map_eq_some_iff.1 next
      simp only [Store.nextAfterEnable, held]
      exact congrArg some first.wholeSeconds_wholeSeconds

theorem pending_of_switches (weekly : r.Carries n fun t => t.trigger = .weekly days start)
    (lasts : r.StoredLasts now) (stored : r.pending n = some p) (ahead : now ≤ p) (flags : List Bool) :
    (r.after (flags.map fun flag => .step (.enable n flag now))).pending n = some p := by
  induction flags generalizing r with
  | nil => exact stored
  | cons flag rest ih =>
    have same := pending_of_switch weekly lasts stored ahead flag
    have still := perform_storedLasts lasts (show (Event.step (.enable n flag now)).Precedes now from
      Int.le_refl _)
    refine ih (carries_of_unrepeated (fun _ _ fires => fires) weekly fun other t registers => ?_) still same
    cases registers.1

end Switches

structure Enables (r : Runner) (name : String) (flag : Bool) (now : Instant) : Prop where
  missing : r.store.Answers name →
    (r.store.enable name flag now = .error (.notFound name) ↔ r.store.facility.get? name = none)
  failed : ∀ error, r.store.enable name flag now = .error error →
    r.perform (.step (.enable name flag now)) = r
  found : r.store.Answers name → ∀ e, r.store.facility.get? name = some e →
    ∃ after next, r.store.enable name flag now = .ok after ∧
      r.perform (.step (.enable name flag now)) = r.withStore after ∧
      r.store.Switched after name flag next ∧ (flag = false → next = e.state.nextRunAt) ∧
      (flag = true → ∃ fires, FiresFrom e now fires ∧ next = fires.map .wholeSeconds ∧
        (e.task.trigger.OnSecond → next = fires))

theorem enables_of_storedWhole {r : Runner} (whole : r.StoredWhole) (name : String) (flag : Bool)
    (now : Instant) : r.Enables name flag now := by
  refine ⟨fun answers => ?_, fun error failed => ?_, fun answers e found => ?_⟩
  · constructor
    · intro failed
      cases found : r.store.facility.get? name with
      | none => rfl
      | some e =>
        obtain ⟨after, done, -⟩ := Store.enable_of_found answers found
        rw [failed] at done
        cases done
    · exact Store.enable_of_missing answers
  · simp only [perform, failed, orKeep, withStore]
  · obtain ⟨after, done, switched⟩ := Store.enable_of_found answers found
    refine ⟨after, _, done, by simp only [perform, done, orKeep], switched, ?_, ?_⟩
    · rintro rfl
      show e.state.nextRunAt.map Instant.wholeSeconds = e.state.nextRunAt
      cases stored : e.state.nextRunAt with
      | none => rfl
      | some t => exact congrArg some (whole name e.timing (timing_of_found found) t stored)
    · rintro rfl
      exact ⟨_, nextAfterEnable_firesFrom e now, rfl, nextAfterEnable_onSecond e now⟩

/-- In every state that a runner comes to, enabling a task changes its flag and its stored firing only.
A weekly task that is switched off and on, as often as it may be, before its firing has passed, keeps that
firing. -/
theorem enabling_changes_only (ownedStart : String) (events : List Event) (name : String) (now : Instant) :
    let r := (ofStore (.empty ownedStart)).after events
    (∀ flag, r.Enables name flag now) ∧
    ((∀ event ∈ events, event.Precedes now) → ∀ e days start p,
      r.store.facility.get? name = some e → e.task.trigger = .weekly days start →
      e.state.nextRunAt = some p → now ≤ p → ∀ flags : List Bool,
        (r.after (flags.map fun flag => .step (.enable name flag now))).pending name = some p) := by
  have whole := after_storedWhole ownedStart events
  refine ⟨fun flag => enables_of_storedWhole whole name flag now, ?_⟩
  intro passed e days start p found trigger stored ahead flags
  have weekly : ((ofStore (.empty ownedStart)).after events).Carries name
      fun t => t.trigger = .weekly days start := by
    intro x left
    cases (timing_of_found found).symm.trans left
    exact trigger
  exact pending_of_switches weekly (after_storedLasts ownedStart passed)
    ((pending_of_found found).trans stored) ahead flags

theorem enabling_changes_only_nextNoon :
    let events : List Event := [.step (.create dailyReboot noon), .step (.tick noon)]
    let r := (ofStore (.empty "FleetAgent_")).after events
    (∀ event ∈ events, event.Precedes nextNoon) ∧ r.pending "FleetAgent_b" = some nextNoon ∧
      (r.after [.step (.enable "FleetAgent_b" false nextNoon),
        .step (.enable "FleetAgent_b" true nextNoon)]).pending "FleetAgent_b" = some nextNoon := by
  have passed : ∀ event ∈ [Event.step (.create dailyReboot noon), .step (.tick noon)],
      event.Precedes nextNoon := by
    intro event mem
    rcases List.mem_pair.1 mem with rfl | rfl
    · show noon ≤ nextNoon
      decide
    · show noon < nextNoon
      decide
  obtain ⟨-, keeps⟩ := enabling_changes_only "FleetAgent_"
    [.step (.create dailyReboot noon), .step (.tick noon)] "FleetAgent_b" nextNoon
  exact ⟨passed, by decide, keeps passed _ .all noon nextNoon rfl rfl rfl (by decide) [false, true]⟩

theorem halfSecond_lt : 43200500000000 < nanosPerDay := by decide

def lateReboot : Task :=
  { dailyReboot with trigger := .once ⟨.epoch, ⟨43200500000000, halfSecond_lt⟩⟩ none }

/-- Registered and enabled, it is to run at noon, and not at its start. -/
theorem lateReboot_truncated :
    let r := (ofStore (.empty "FleetAgent_")).after
      [.step (.create lateReboot noon), .step (.enable "FleetAgent_b" true noon)]
    r.pending "FleetAgent_b" = some noon ∧ lateReboot.trigger.startBoundary ≠ noon := by
  decide

end Runner
end Steward.Schedule
