import Steward.Proofs.Calendar.Existing
import Steward.Proofs.Schedule.Rest

/-!
Validation of payloads, against what a payload has to say. A part of a payload is either read as what it
describes or refused because it describes nothing, and the first part that is refused is reported. A task
that was accepted knows its first firing, which for a weekly one comes within seven days.
-/
namespace Steward.Schedule
open Steward.Calendar Steward.Text

/-! Months and weekdays. -/

/-- The number of the English month of that name, in any case and with blanks around it; any other name is
one of January. -/
def NamesMonth (name : String) (month : Nat) : Prop :=
  1 ≤ month ∧ monthNames[month - 1]? = some (lower (trim name)) ∨
    lower (trim name) ∉ monthNames ∧ month = 1

theorem nodup_monthNames : monthNames.Nodup := by decide

theorem namesMonth_iff (name : String) (month : Nat) :
    NamesMonth name month ↔ monthNumber name = month := by
  unfold monthNumber NamesMonth
  cases found : monthNames.findIdx? (· == lower (trim name)) with
  | none =>
    have absent : lower (trim name) ∉ monthNames := fun mem => by
      have differs := List.findIdx?_eq_none_iff.1 found _ mem
      rw [beq_self_eq_true] at differs
      cases differs
    constructor
    · rintro (⟨-, named⟩ | ⟨-, rfl⟩)
      · exact absurd (List.mem_of_getElem? named) absent
      · rfl
    · rintro rfl
      exact .inr ⟨absent, rfl⟩
  | some i =>
    obtain ⟨inside, same, -⟩ := List.findIdx?_eq_some_iff_getElem.1 found
    have named : monthNames[i]? = some (lower (trim name)) := by
      rw [List.getElem?_eq_getElem inside, beq_iff_eq.1 same]
    constructor
    · rintro (⟨positive, again⟩ | ⟨absent, -⟩)
      · have index : i = month - 1 :=
          (List.getElem?_inj inside nodup_monthNames).1 (named.trans again.symm)
        show i + 1 = month
        omega
      · exact absurd (List.mem_of_getElem? named) absent
    · rintro rfl
      exact .inl ⟨Nat.succ_pos i, named⟩

theorem contains_ofBits (bits : UInt16) (day : Nat) :
    (Weekdays.ofBits bits).contains day = (decide (day < 7) && bits.toNat.testBit day) := by
  have mask : (Weekdays.ofBits bits).mask.toNat = (bits.toNat &&& 2 ^ 7 - 1) % 2 ^ 8 := rfl
  rw [Weekdays.contains, mask, Nat.testBit_mod_two_pow, Nat.testBit_and, Nat.testBit_two_pow_sub_one]
  by_cases inWeek : day < 7
  · have inByte : day < 8 := Nat.lt_succ_of_lt inWeek
    simp only [inWeek, inByte, decide_true, Bool.and_true, Bool.true_and]
  · simp only [inWeek, decide_false, Bool.and_false, Bool.false_and]

theorem isEmpty_ofBits_iff (bits : UInt16) : (Weekdays.ofBits bits).isEmpty = true ↔
    ¬ ∃ day < 7, bits.toNat.testBit day = true := by
  constructor
  · rintro empty ⟨day, inWeek, selected⟩
    have none := not_contains_of_isEmpty empty day
    rw [contains_ofBits, selected, decide_eq_true inWeek] at none
    cases none
  · intro none
    have zero : (Weekdays.ofBits bits).mask.toNat = 0 := by
      refine Nat.eq_of_testBit_eq fun day => ?_
      have bit := contains_ofBits bits day
      rw [Weekdays.contains] at bit
      rw [bit, Nat.zero_testBit]
      by_contra both
      obtain ⟨inWeek, selected⟩ := Bool.and_eq_true_iff.1 (eq_true_of_ne_false both)
      exact none ⟨day, of_decide_eq_true inWeek, selected⟩
    exact beq_iff_eq.2 (UInt8.toNat_inj.1 zero)

/-! What a payload has to say. -/

namespace Payload
variable (p : Payload) (now : Instant)

def Timed : Prop := p.hour.toNat < 24 ∧ p.minute.toNat < 60

def Dated : Prop :=
  firstYear ≤ p.year.toInt ∧ p.year.toInt ≤ lastYear ∧
    ∃ month, NamesMonth p.month month ∧ Date.Exists p.year.toInt month p.day.toNat

inductive TriggerValid : Prop
  | once (kind : p.trigger = "once") (dated : p.Dated) (timed : p.Timed)
  | weekly (kind : p.trigger = "weekly") (selected : ∃ day < 7, p.weekdays.toNat.testBit day = true)
      (timed : p.Timed)
  | manual (kind : p.trigger = "manual")

inductive ActionValid : Prop
  | internal (kind : p.kind = "rmm" ∨ p.kind = "agent-internal")
  | reboot (kind : p.kind = "schedreboot" ∨ p.kind = "reboot")
  | custom (kind : p.kind = "custom") (path : isBlankText p.path = false)

structure Valid : Prop where
  named : isBlankText p.name = false
  trigger : p.TriggerValid
  action : p.ActionValid

inductive TriggerFaulty : TriggerFault → Prop
  | missing (kind : p.trigger = "") : TriggerFaulty .missing
  | unknownKind (kind : p.trigger ∉ ["once", "weekly", "manual", ""]) :
      TriggerFaulty (.unknownKind p.trigger)
  | noWeekday (kind : p.trigger = "weekly") (none : ¬ ∃ day < 7, p.weekdays.toNat.testBit day = true) :
      TriggerFaulty .noWeekday
  | badTime (faulty : ¬ p.Timed) : TriggerFaulty (.badTime p.hour.toNat p.minute.toNat)
  | badDate {month : Nat} (named : NamesMonth p.month month) (faulty : ¬ p.Dated) :
      TriggerFaulty (.badDate p.year.toInt month p.day.toNat)

inductive ActionFaulty : ActionFault → Prop
  | noPath (kind : p.kind = "custom") (blank : isBlankText p.path = true) : ActionFaulty .noPath
  | unknownType (kind : p.kind ∉ ["rmm", "agent-internal", "schedreboot", "reboot", "custom"]) :
      ActionFaulty (.unknownType p.kind)

/-- The error is about the first part that is not valid, and says what is wrong with it. -/
inductive Blames : TaskError → Prop
  | name (blank : isBlankText p.name = true) : Blames (.invalidAction .emptyName)
  | trigger {fault : TriggerFault} (named : isBlankText p.name = false) (faulty : ¬ p.TriggerValid)
      (told : p.TriggerFaulty fault) : Blames (.invalidTrigger fault)
  | action {fault : ActionFault} (named : isBlankText p.name = false) (triggers : p.TriggerValid)
      (faulty : ¬ p.ActionValid) (told : p.ActionFaulty fault) : Blames (.invalidAction fault)

theorem triggerValid_once_iff (once : p.trigger = "once") : p.TriggerValid ↔ p.Dated ∧ p.Timed := by
  constructor
  · rintro (⟨-, dated, timed⟩ | ⟨other, -⟩ | other)
    · exact ⟨dated, timed⟩
    · exact absurd (once.symm.trans other) (by decide)
    · exact absurd (once.symm.trans other) (by decide)
  · rintro ⟨dated, timed⟩
    exact .once once dated timed

theorem triggerValid_weekly_iff (weekly : p.trigger = "weekly") :
    p.TriggerValid ↔ (∃ day < 7, p.weekdays.toNat.testBit day = true) ∧ p.Timed := by
  constructor
  · rintro (⟨other, -⟩ | ⟨-, selected, timed⟩ | other)
    · exact absurd (weekly.symm.trans other) (by decide)
    · exact ⟨selected, timed⟩
    · exact absurd (weekly.symm.trans other) (by decide)
  · rintro ⟨selected, timed⟩
    exact .weekly weekly selected timed

theorem kind_of_triggerValid (valid : p.TriggerValid) :
    p.trigger = "once" ∨ p.trigger = "weekly" ∨ p.trigger = "manual" := by
  cases valid with
  | once kind => exact .inl kind
  | weekly kind => exact .inr (.inl kind)
  | manual kind => exact .inr (.inr kind)

theorem kind_of_actionValid (valid : p.ActionValid) :
    ((p.kind = "rmm" ∨ p.kind = "agent-internal") ∨ p.kind = "schedreboot" ∨ p.kind = "reboot") ∨
      p.kind = "custom" ∧ isBlankText p.path = false := by
  cases valid with
  | internal kind => exact .inl (.inl kind)
  | reboot kind => exact .inl (.inr kind)
  | custom kind path => exact .inr ⟨kind, path⟩

/-! What a task is that a payload describes. -/

def TellsTime (time : TimeOfDay) : Prop :=
  time.nanos = (p.hour.toNat * 60 + p.minute.toNat) * 60 * nanosPerSecond

structure TellsDate (date : Date) : Prop where
  year : date.year = p.year.toInt
  month : NamesMonth p.month date.month
  day : date.day = p.day.toNat

inductive TellsTrigger : Trigger → Prop
  | once {start : Instant} {expiry : Option Instant} (kind : p.trigger = "once")
      (date : p.TellsDate start.date) (time : p.TellsTime start.time)
      (ends : expiry.map Instant.toNanos =
        if p.deleteAfter then some (start.toNanos + 10 * 60 * nanosPerSecond) else none) :
      TellsTrigger (.once start expiry)
  | weekly {days : Weekdays} {start : Instant} (kind : p.trigger = "weekly")
      (selected : ∀ day, days.contains day = (decide (day < 7) && p.weekdays.toNat.testBit day))
      (date : start.date = now.date) (time : p.TellsTime start.time) : TellsTrigger (.weekly days start)
  | manual (kind : p.trigger = "manual") : TellsTrigger .manual

inductive TellsAction : Action → Prop
  | internal (kind : p.kind = "rmm" ∨ p.kind = "agent-internal") : TellsAction (.agentInternal p.pk)
  | reboot (kind : p.kind = "schedreboot" ∨ p.kind = "reboot") : TellsAction .reboot
  | custom (kind : p.kind = "custom") : TellsAction (.custom p.path p.workdir p.args)

structure Describes (task : Task) : Prop where
  name : task.name = p.name
  action : p.TellsAction task.action
  trigger : p.TellsTrigger now task.trigger
  enabled : task.enabled = p.enabled
  deleteAfter : task.deleteAfter = p.deleteAfter
  parallel : task.parallel = p.parallel
  runAsapAfterMissed : task.runAsapAfterMissed = p.runAsapAfterMissed

end Payload

def Judged (valid : Prop) (tells : α → Prop) (blames : TaskError → Prop) : Except TaskError α → Prop
  | .ok a => valid ∧ tells a
  | .error e => ¬ valid ∧ blames e

section Reading
variable (p : Payload) (now : Instant)

def AboutTrigger (e : TaskError) : Prop := ∃ fault, p.TriggerFaulty fault ∧ e = .invalidTrigger fault

def AboutAction (e : TaskError) : Prop := ∃ fault, p.ActionFaulty fault ∧ e = .invalidAction fault

theorem timeOfDay_judged : Judged p.Timed p.TellsTime (AboutTrigger p) p.timeOfDay := by
  unfold Payload.timeOfDay
  cases made : TimeOfDay.ofHourMinute? p.hour.toNat p.minute.toNat with
  | some time =>
    obtain ⟨hours, minutes, nanos⟩ := (TimeOfDay.ofHourMinute?_eq_some_iff _ _ time).1 made
    exact ⟨⟨hours, minutes⟩, nanos⟩
  | none =>
    have faulty : ¬ p.Timed := by
      rintro ⟨hours, minutes⟩
      have small : (p.hour.toNat * 60 + p.minute.toNat) * 60 * nanosPerSecond < nanosPerDay := by
        rw [nanosPerDay_eq, nanosPerSecond_eq]
        omega
      have again := (TimeOfDay.ofHourMinute?_eq_some_iff _ _ ⟨_, small⟩).2 ⟨hours, minutes, rfl⟩
      rw [made] at again
      cases again
    exact ⟨faulty, _, .badTime faulty, rfl⟩

theorem date_judged : Judged p.Dated p.TellsDate (AboutTrigger p) p.date := by
  have exists_iff := @Date.exists_ofYearMonthDay?_iff p.year.toInt (monthNumber p.month) p.day.toNat
  unfold Payload.date
  cases made : Date.ofYearMonthDay? p.year.toInt (monthNumber p.month) p.day.toNat with
  | some date =>
    obtain ⟨low, high, existing⟩ := exists_iff.1 ⟨date, made⟩
    obtain ⟨year, month, day⟩ := (Date.ofYearMonthDay?_eq_some_iff date).1 made
    have named := (namesMonth_iff p.month date.month).2 month.symm
    exact ⟨⟨low, high, _, (namesMonth_iff _ _).2 rfl, existing⟩, year, named, day⟩
  | none =>
    have faulty : ¬ p.Dated := by
      rintro ⟨low, high, month, named, existing⟩
      cases (namesMonth_iff _ _).1 named
      obtain ⟨date, again⟩ := exists_iff.2 ⟨low, high, existing⟩
      rw [made] at again
      cases again
    exact ⟨faulty, _, .badDate ((namesMonth_iff _ _).2 rfl) faulty, rfl⟩

theorem startInstant_judged : Judged (p.Dated ∧ p.Timed)
    (fun start => p.TellsDate start.date ∧ p.TellsTime start.time) (AboutTrigger p) p.startInstant := by
  have dated := date_judged p
  have timed := timeOfDay_judged p
  unfold Payload.startInstant
  cases date : p.date with
  | error e =>
    rw [date] at dated
    exact ⟨fun both => dated.1 both.1, dated.2⟩
  | ok day =>
    rw [date] at dated
    cases time : p.timeOfDay with
    | error e =>
      rw [time] at timed
      exact ⟨fun both => timed.1 both.2, timed.2⟩
    | ok clock =>
      rw [time] at timed
      exact ⟨⟨dated.1, timed.1⟩, dated.2, timed.2⟩

theorem expiry_told {start : Instant} (once : p.trigger = "once") (read : p.startInstant = .ok start)
    (inside : ¬ p.RunsOff onceExpiryMinutes) :
    ∃ expiry, p.expiry start = .ok expiry ∧ expiry.map Instant.toNanos =
      if p.deleteAfter then some (start.toNanos + 10 * 60 * nanosPerSecond) else none := by
  cases owned : p.deleteAfter with
  | false =>
    refine ⟨none, ?_, rfl⟩
    rw [Payload.expiry, owned]
    rfl
  | true =>
    rw [expiry_eq p start owned]
    cases moved : start.plusMinutes? onceExpiryMinutes with
    | none =>
      have behind := (start.plusMinutes?_eq_none_iff onceExpiryMinutes).1 moved
      exact absurd ⟨once, owned, start, read, behind⟩ inside
    | some boundary =>
      have distance := (start.plusMinutes?_eq_some_iff boundary onceExpiryMinutes).1 moved
      exact ⟨some boundary, rfl, congrArg some distance⟩

theorem readTrigger_judged (inside : ¬ p.RunsOff onceExpiryMinutes) :
    ∃ answer, p.readTrigger now = .ok answer ∧
      Judged p.TriggerValid (p.TellsTrigger now) (AboutTrigger p) answer := by
  unfold Payload.readTrigger
  split
  · rename_i once
    have valid := p.triggerValid_once_iff once
    have judged := startInstant_judged p
    cases read : p.startInstant with
    | error e =>
      rw [read] at judged
      exact ⟨_, rfl, mt valid.1 judged.1, judged.2⟩
    | ok start =>
      rw [read] at judged
      obtain ⟨both, date, time⟩ := judged
      obtain ⟨expiry, bounded, ends⟩ := expiry_told p once read inside
      refine ⟨.ok (.once start expiry), ?_, valid.2 both, .once once date time ends⟩
      simp only [bounded, Except.map]
  · rename_i weekly
    have valid := p.triggerValid_weekly_iff weekly
    have judged := timeOfDay_judged p
    have empty := isEmpty_ofBits_iff p.weekdays
    dsimp only
    split
    · rename_i none
      have noDay := empty.1 none
      exact ⟨_, rfl, fun held => noDay (valid.1 held).1, _, .noWeekday weekly noDay, rfl⟩
    · rename_i some
      have selected := not_not.1 (mt empty.2 some)
      cases read : p.timeOfDay with
      | error e =>
        rw [read] at judged
        exact ⟨_, rfl, fun held => judged.1 (valid.1 held).2, judged.2⟩
      | ok time =>
        rw [read] at judged
        exact ⟨_, rfl, valid.2 ⟨selected, judged.1⟩,
          .weekly weekly (contains_ofBits p.weekdays) rfl judged.2⟩
  · rename_i manual
    exact ⟨_, rfl, .manual manual, .manual manual⟩
  · rename_i empty
    refine ⟨_, rfl, fun held => ?_, _, .missing empty, rfl⟩
    have kind := p.kind_of_triggerValid held
    rw [empty] at kind
    revert kind
    decide
  · rename_i notOnce notWeekly notManual notEmpty
    have unknown : p.trigger ∉ ["once", "weekly", "manual", ""] := by
      simp only [List.mem_cons, List.not_mem_nil, or_false, not_or]
      exact ⟨notOnce, notWeekly, notManual, notEmpty⟩
    refine ⟨_, rfl, fun held => ?_, _, .unknownKind unknown, rfl⟩
    rcases p.kind_of_triggerValid held with once | weekly | manual
    · exact notOnce once
    · exact notWeekly weekly
    · exact notManual manual

theorem readAction_judged : Judged p.ActionValid p.TellsAction (AboutAction p) p.readAction := by
  unfold Payload.readAction
  split
  · rename_i kind
    exact ⟨.internal (.inl kind), .internal (.inl kind)⟩
  · rename_i kind
    exact ⟨.internal (.inr kind), .internal (.inr kind)⟩
  · rename_i kind
    exact ⟨.reboot (.inl kind), .reboot (.inl kind)⟩
  · rename_i kind
    exact ⟨.reboot (.inr kind), .reboot (.inr kind)⟩
  · rename_i custom
    cases blank : isBlankText p.path with
    | true =>
      refine ⟨fun held => ?_, _, .noPath custom blank, rfl⟩
      have kind := p.kind_of_actionValid held
      rw [custom, blank] at kind
      revert kind
      decide
    | false => exact ⟨.custom custom blank, .custom custom⟩
  · rename_i notRmm notInternal notSchedreboot notReboot notCustom
    have unknown : p.kind ∉ ["rmm", "agent-internal", "schedreboot", "reboot", "custom"] := by
      simp only [List.mem_cons, List.not_mem_nil, or_false, not_or]
      exact ⟨notRmm, notInternal, notSchedreboot, notReboot, notCustom⟩
    refine ⟨fun held => ?_, _, .unknownType unknown, rfl⟩
    rcases p.kind_of_actionValid held with ((rmm | internal) | schedreboot | reboot) | ⟨custom, -⟩
    · exact notRmm rmm
    · exact notInternal internal
    · exact notSchedreboot schedreboot
    · exact notReboot reboot
    · exact notCustom custom

theorem ofPayload_judged (inside : ¬ p.RunsOff onceExpiryMinutes) :
    ∃ answer, Task.ofPayload p now = .ok answer ∧ Judged p.Valid (p.Describes now) p.Blames answer := by
  unfold Task.ofPayload
  cases blank : isBlankText p.name with
  | true =>
    refine ⟨_, rfl, ?_, .name blank⟩
    rintro ⟨named, -, -⟩
    cases blank.symm.trans named
  | false =>
    obtain ⟨answer, read, judged⟩ := readTrigger_judged p now inside
    have acts := readAction_judged p
    rw [if_neg Bool.false_ne_true, read]
    refine ⟨_, rfl, ?_⟩
    cases answer with
    | error e =>
      obtain ⟨faulty, fault, told, rfl⟩ := judged
      exact ⟨fun valid => faulty valid.trigger, .trigger blank faulty told⟩
    | ok trigger =>
      obtain ⟨triggers, told⟩ := judged
      cases action : p.readAction with
      | error e =>
        rw [action] at acts
        obtain ⟨faulty, fault, told, rfl⟩ := acts
        exact ⟨fun valid => faulty valid.action, .action blank triggers faulty told⟩
      | ok action =>
        simp only [action] at acts
        exact ⟨⟨blank, triggers, acts.1⟩, rfl, acts.2, told, rfl, rfl, rfl, rfl⟩

end Reading

/-! The first firing. -/

section First
variable {days : Weekdays} {start now : Instant}

/-- A weekday and a time of day come once within any seven days. -/
theorem exists_offset (today : Int) {day clock since : Nat} (inWeek : day < 7)
    (clockBound : clock < 86400000000000) (sinceBound : since < 86400000000000) :
    ∃ offset : Int, 0 ≤ offset ∧ offset ≤ 7 ∧ (today + offset + 4) % 7 = day ∧
      (since : Int) ≤ offset * 86400000000000 + clock ∧
      offset * 86400000000000 + clock < since + 7 * 86400000000000 := by
  by_cases passed : (day - today - 4) % 7 = 0 ∧ clock < since
  · exact ⟨7, by omega, by omega, by omega, by omega, by omega⟩
  · exact ⟨(day - today - 4) % 7, by omega, by omega, by omega, by omega, by omega⟩

theorem weeklyOccurrence_within_week (selected : ∃ day < 7, days.contains day = true)
    (today : start.date = now.date) (inside : now.date.number + 7 ≤ lastDay) :
    ∃ fire, weeklyOccurrence days start now true = some fire ∧ now ≤ fire ∧
      fire.toNanos < now.toNanos + 7 * nanosPerDay := by
  obtain ⟨day, inWeek, held⟩ := selected
  obtain ⟨offset, low, high, weekday, reached, near⟩ :=
    exists_offset now.date.number inWeek start.time.nanos_lt now.time.nanos_lt
  have first := now.date.first_le
  let date : Date := ⟨now.date.number + offset, by omega, by omega⟩
  let candidate : Instant := ⟨date, start.time⟩
  have moment : candidate.toNanos =
      (now.date.number + offset) * 86400000000000 + start.time.nanos := rfl
  have present : now.toNanos = now.date.number * 86400000000000 + now.time.nanos := rfl
  have begun : start.toNanos = now.date.number * 86400000000000 + start.time.nanos := by
    rw [← today]
    rfl
  have occurs : Occurrence days start candidate := by
    refine ⟨?_, rfl, ?_⟩
    · rw [Instant.le_def, moment, begun]
      omega
    · have same : candidate.date.weekday = day := by
        show ((now.date.number + offset + 4) % 7).toNat = day
        rw [weekday, Int.toNat_natCast]
      rw [same]
      exact held
  have ahead : now ≤ candidate := by
    rw [Instant.le_def, moment, present]
    omega
  have least := weeklyOccurrence_isFirst days start now true
  cases found : weeklyOccurrence days start now true with
  | none =>
    rw [found] at least
    exact absurd ⟨occurs, ahead⟩ (least candidate)
  | some fire =>
    rw [found] at least
    have before : fire.toNanos ≤ candidate.toNanos := least.2 ⟨occurs, ahead⟩
    refine ⟨fire, rfl, least.1.2, ?_⟩
    rw [moment] at before
    rw [present, nanosPerDay_eq]
    omega

end First

def FiresFirst (now : Instant) (trigger : Trigger) : Prop :=
  match trigger with
  | .once start _ => initialFire trigger now = some start
  | .weekly _ _ => ∃ fire, initialFire trigger now = some fire ∧ now ≤ fire ∧
      fire.toNanos < now.toNanos + 7 * nanosPerDay
  | .manual => initialFire trigger now = none

theorem firesFirst_of_told {p : Payload} {now : Instant} {trigger : Trigger} (valid : p.TriggerValid)
    (told : p.TellsTrigger now trigger) (week : p.trigger = "weekly" → now.date.number + 7 ≤ lastDay) :
    FiresFirst now trigger := by
  cases told with
  | once kind date time ends => rfl
  | manual kind => rfl
  | weekly kind selected date time =>
    obtain ⟨⟨day, inWeek, chosen⟩, -⟩ := (p.triggerValid_weekly_iff kind).1 valid
    refine weeklyOccurrence_within_week ⟨day, inWeek, ?_⟩ date (week kind)
    rw [selected, chosen, decide_eq_true inWeek]
    rfl

/-- Away from the end of the calendar a payload is accepted exactly if it is valid, and refused for the
first part that is not. What is accepted is the task that the payload describes, on whole seconds, with its
first firing at the start, within a week, or never. -/
theorem ofPayload_exact (p : Payload) (now : Instant) (inside : ¬ p.RunsOff onceExpiryMinutes)
    (week : p.trigger = "weekly" → now.date.number + 7 ≤ lastDay) :
    ∃ answer, Task.ofPayload p now = .ok answer ∧ ((∃ task, answer = .ok task) ↔ p.Valid) ∧
      (∀ e, answer = .error e → p.Blames e) ∧
      ∀ task, answer = .ok task →
        p.Describes now task ∧ task.trigger.OnSecond ∧ FiresFirst now task.trigger := by
  obtain ⟨answer, read, judged⟩ := ofPayload_judged p now inside
  refine ⟨answer, read, ?_⟩
  cases answer with
  | error e =>
    obtain ⟨faulty, blamed⟩ := judged
    refine ⟨iff_of_false ?_ faulty, ?_, ?_⟩
    · rintro ⟨task, accepted⟩
      cases accepted
    · rintro other ⟨⟩
      exact blamed
    · rintro task ⟨⟩
  | ok task =>
    obtain ⟨valid, described⟩ := judged
    refine ⟨iff_of_true ⟨task, rfl⟩ valid, ?_, ?_⟩
    · rintro e ⟨⟩
    · rintro other ⟨⟩
      have fires := firesFirst_of_told valid.trigger described.trigger week
      exact ⟨described, onSecond_of_ofPayload read, fires⟩

def leapDay : Payload :=
  { Payload.named "FleetAgent_a" with
    kind := "reboot", trigger := "once", deleteAfter := true
    year := 2024, month := " February", day := 29, hour := 12 }

def leapNoon : Instant := ⟨⟨19782, by decide, by decide⟩, Runner.noon.time⟩

def leapReboot : Task :=
  { name := "FleetAgent_a", action := .reboot, enabled := false, deleteAfter := true, parallel := false
    runAsapAfterMissed := false
    trigger := .once leapNoon (some ⟨leapNoon.date, ⟨43800000000000, by decide⟩⟩) }

theorem ofPayload_exact_leapDay :
    ¬ leapDay.RunsOff onceExpiryMinutes ∧
    (leapDay.trigger = "weekly" → Runner.noon.date.number + 7 ≤ lastDay) ∧
    Task.ofPayload leapDay Runner.noon = .ok (.ok leapReboot) ∧ leapDay.Valid ∧
    leapDay.Describes Runner.noon leapReboot ∧
    initialFire leapReboot.trigger Runner.noon = some leapNoon := by
  have dated : leapDay.startInstant = .ok leapNoon := by decide
  have inside : ¬ leapDay.RunsOff onceExpiryMinutes := by
    rintro ⟨-, -, start, read, past⟩
    cases dated.symm.trans read
    exact absurd past (by decide)
  have week : leapDay.trigger = "weekly" → Runner.noon.date.number + 7 ≤ lastDay := by decide
  have accepted : Task.ofPayload leapDay Runner.noon = .ok (.ok leapReboot) := by decide
  obtain ⟨answer, read, valid, -, told⟩ := ofPayload_exact leapDay Runner.noon inside week
  cases accepted.symm.trans read
  obtain ⟨described, -, fires⟩ := told leapReboot rfl
  exact ⟨inside, week, accepted, valid.1 ⟨leapReboot, rfl⟩, described, fires⟩

end Steward.Schedule
