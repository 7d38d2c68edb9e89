import Steward.Proofs.Schedule.Lateness
import Steward.Proofs.Schedule.Shift

/-!
A task that fires once. Its launch leaves it spent: nothing is pending and its last run is noted. Of the
two, the note of the run is what enabling it later goes by, so a spent task stays spent whatever comes:
ticks at any instants, enabling and disabling, results, calls that fail and restarts. Only a new
registration of the name can fire again.
-/
namespace Steward.Schedule
open Steward.Calendar

def Task.FiresOnce (t : Task) : Prop := ∃ start expiry, t.trigger = .once start expiry

namespace Runner

/-- The task of the name, if it is still there, has run and is to fire no more. -/
def SpentOn (r : Runner) (n : String) : Prop :=
  ∀ x, r.timing n = some x → x.next = none ∧ x.last ≠ none

theorem not_launched_of_spentOn {r : Runner} {n : String} {event : Event} (spent : r.SpentOn n) :
    n ∉ r.launches event := by
  intro listed
  obtain ⟨e, now, -, found, launched⟩ := fate_of_mem_launches listed
  obtain ⟨-, ⟨-, next, pending, -⟩, -⟩ := (fate_eq_launched_iff _ now e).1 launched
  obtain ⟨idle, -⟩ := spent e.timing (timing_of_found found)
  cases idle.symm.trans pending

section
variable {r : Runner} {n : String} {event : Event} (once : r.Carries n Task.FiresOnce)
include once

theorem spentOn_of_launched (listed : n ∈ r.launches event) : (r.perform event).SpentOn n := by
  intro x left
  cases perform_shift r n event with
  | fated e now _ found moved started =>
    obtain ⟨start, expiry, trigger⟩ := once e.timing (timing_of_found found)
    have never : nextFireAfter e.task.trigger now = none := congrArg (nextFireAfter · now) trigger
    rw [started.1 listed, never] at moved
    cases moved.symm.trans left
    exact ⟨rfl, nofun⟩
  | kept _ idle => exact absurd listed idle
  | registered _ _ _ _ _ idle => exact absurd listed idle
  | removed _ _ idle => exact absurd listed idle
  | switched _ _ _ _ _ _ idle => exact absurd listed idle

/-- Neither enabling it nor a tick brings a spent task back. -/
theorem perform_spentOn (spent : r.SpentOn n)
    (unrepeated : ∀ other now, r.Registers event other now → other.name ≠ n) :
    (r.perform event).SpentOn n := by
  intro x left
  cases perform_shift r n event with
  | kept same _ => exact spent x (same.symm.trans left)
  | registered task now here named _ _ => exact absurd named (unrepeated task now here)
  | removed _ gone _ => cases gone.symm.trans left
  | switched e flag now _ found moved _ =>
    obtain ⟨start, expiry, trigger⟩ := once e.timing (timing_of_found found)
    obtain ⟨idle, ran⟩ := spent e.timing (timing_of_found found)
    have stays : Store.nextAfterEnable e flag now = none := by
      cases flag with
      | false => exact idle
      | true =>
        have noted : e.state.lastRunAt.isSome = true := Option.isSome_iff_ne_none.2 ran
        simp [Store.nextAfterEnable, show e.task.trigger = _ from trigger, noted]
    rw [stays] at moved
    cases moved.symm.trans left
    exact ⟨rfl, ran⟩
  | fated e now _ found moved _ =>
    obtain ⟨idle, ran⟩ := spent e.timing (timing_of_found found)
    have still : ¬ Due e now := by
      rintro ⟨-, next, pending, -⟩
      cases idle.symm.trans pending
    by_cases expired : Expired e now
    · rw [fate, if_pos expired] at moved
      cases moved.symm.trans left
    · rw [fate, if_neg expired, if_pos still] at moved
      cases moved.symm.trans left
      exact ⟨idle, ran⟩

end

section
variable {r : Runner} {n : String} {events : List Event} (once : r.Carries n Task.FiresOnce)
  (unrepeated : ∀ m ∈ r.moments events, ∀ other now, m.1.Registers m.2 other now → other.name ≠ n)
include once unrepeated

theorem after_spentOn (spent : r.SpentOn n) :
    r.launchesOf n events = [] ∧ (r.after events).SpentOn n := by
  induction events generalizing r with
  | nil => exact ⟨rfl, spent⟩
  | cons event rest ih =>
    obtain ⟨first, later⟩ := List.forall_mem_cons.1 unrepeated
    have carries := carries_of_unrepeated (fun _ _ fires => fires) once first
    obtain ⟨silent, still⟩ := ih carries later (perform_spentOn once spent first)
    have idle : n ∉ r.launches event := not_launched_of_spentOn spent
    exact ⟨(launchesOf_cons_of_not_mem idle rest).trans silent, still⟩

theorem launchesOf_of_once : (r.launchesOf n events).length ≤ 1 ∧
    (r.launchesOf n events ≠ [] → (r.after events).SpentOn n) := by
  induction events generalizing r with
  | nil => exact ⟨Nat.zero_le 1, fun some => absurd rfl some⟩
  | cons event rest ih =>
    obtain ⟨first, later⟩ := List.forall_mem_cons.1 unrepeated
    have carries := carries_of_unrepeated (fun _ _ fires => fires) once first
    by_cases listed : n ∈ r.launches event
    · obtain ⟨silent, still⟩ := after_spentOn carries later (spentOn_of_launched once listed)
      rw [launchesOf_cons_of_mem listed, silent]
      exact ⟨Nat.le_refl 1, fun _ => still⟩
    · rw [launchesOf_cons_of_not_mem listed]
      exact ih carries later

end

/-- From a registration on, until the name is registered again, a task that fires once is launched at
most once, and after that no firing of it is pending. -/
theorem once_launched_le_one {r : Runner} {event : Event} {task : Task} {now start : Instant}
    {expiry : Option Instant} (registers : r.Registers event task now)
    (once : task.trigger = .once start expiry) {events : List Event}
    (unrepeated : ∀ m ∈ (r.perform event).moments events,
      ∀ other at_, m.1.Registers m.2 other at_ → other.name ≠ task.name) :
    ((r.perform event).launchesOf task.name events).length ≤ 1 ∧
      ((r.perform event).launchesOf task.name events ≠ [] →
        ∀ e, ((r.perform event).after events).store.facility.get? task.name = some e →
          e.state.nextRunAt = none) := by
  have fresh : (r.perform event).Carries task.name Task.FiresOnce := by
    intro x left
    cases (timing_of_found (found_of_registers registers)).symm.trans left
    exact ⟨start, expiry, once⟩
  obtain ⟨single, spent⟩ := launchesOf_of_once fresh unrepeated
  exact ⟨single, fun launched e found => (spent launched e.timing (timing_of_found found)).1⟩

def singleReboot : Task := { dailyReboot with trigger := .once noon none }

/-- Its firing, after which the agent restarts, the clock goes back and the task is enabled anew. -/
def enabledAgain : List Event :=
  [.step (.tick noon), .restart, .step (.enable "FleetAgent_b" false noon),
    .step (.enable "FleetAgent_b" true .longAgo), .step (.tick noon), .step (.tick nextNoon)]

theorem once_launched_enabledAgain :
    let r := ofStore (.empty "FleetAgent_")
    let event := Event.step (.create singleReboot noon)
    r.Registers event singleReboot noon ∧ singleReboot.trigger = .once noon none ∧
      ((r.perform event).launchesOf singleReboot.name enabledAgain).length ≤ 1 ∧
      ((r.perform event).launchesOf singleReboot.name enabledAgain).map Prod.snd =
        [.step (.tick noon)] := by
  have registers : (ofStore (.empty "FleetAgent_")).Registers
      (.step (.create singleReboot noon)) singleReboot noon := ⟨rfl, _, rfl⟩
  refine ⟨registers, rfl, (once_launched_le_one registers rfl ?_).1, by rfl⟩
  intro m mem other at_ again
  have here := create_mem_of_registers mem again
  simp [enabledAgain] at here

end Runner
end Steward.Schedule
