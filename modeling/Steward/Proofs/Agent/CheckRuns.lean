import Steward.Proofs.Agent.SingleFlight
import Steward.Proofs.Host.ChecksSight

/-!
Check runs that are to be started one at a time. Any number of handlers work beside each other, one call at
a time in any order; each looks for a check run that is alive, answers, and starts one if it saw none. A look
is no lock: what a handler saw is still its ground for starting when another one has started in between. So two
check runs can be alive together, and then each handler had looked before the other one started. Neither is
an acknowledged check run always started, since the acknowledgment comes first and the start may fail.
-/
namespace Steward.Agent

open Steward.Bus Steward.Host Steward.Message Steward.Supervision

def checksLaunch (a : Agent) : Launch :=
  { Launch.plain (a.binary.invocation ["run-checks"]).program (a.binary.invocation ["run-checks"]).args
      (checkRunTimeoutSecs * 1000) with workdir := (a.binary.invocation ["run-checks"]).workdir }

/-! The course of one handler. -/

inductive CheckStand where
  | fresh
  /-- It saw a check run. -/
  | refused
  /-- It saw none. -/
  | cleared
  | acknowledged
  /-- It said that it saw a check run. -/
  | declined
  /-- It could not say that it starts one. -/
  | unheard
  /-- It asked for the start of a check run. -/
  | launched
deriving DecidableEq

namespace CheckStand

def next (s : CheckStand) (c : Call) (x : c.Answer) : CheckStand :=
  match s, c, x with
  | .fresh, .host .checksRunning, busy => if busy then .refused else .cleared
  | .refused, .reply _, _ => .declined
  | .cleared, .reply _, .ok _ => .acknowledged
  | .cleared, .reply _, .error _ => .unheard
  | .acknowledged, .launch _, _ => .launched
  | s, _, _ => s

def Tells : Call → Prop
  | .reply _ => True
  | .hasReplied => True
  | _ => False

def Allows (a : Agent) (s : CheckStand) (c : Call) : Prop :=
  match s with
  | .fresh => c = .host .checksRunning
  | .refused => c = .reply (Wire.encode replyBusy)
  | .cleared => c = .reply (Wire.encode replyOk)
  | .acknowledged => c = .launch (checksLaunch a)
  | _ => Tells c

def Over : CheckStand → Prop
  | .declined => True
  | .unheard => True
  | .launched => True
  | _ => False

end CheckStand

def checkRules (a : Agent) : Rules Surroundings CheckStand :=
  ⟨CheckStand.Allows a, fun s c x after => after = s.next c x⟩

theorem next_of_over {s : CheckStand} (ended : s.Over) {c : Call} (x : c.Answer) : s.next c x = s := by
  cases s with
  | declined => cases c <;> rfl
  | unheard => cases c <;> rfl
  | launched => cases c <;> rfl
  | _ => exact ended.elim

theorem tellFailure_of_over {a : Agent} {s : CheckStand} (ended : s.Over) (e : Chain) :
    (tellFailure e).Keeps (checkRules a) (fun _ after => after.Over) s := by
  have tells : ∀ c, CheckStand.Tells c → s.Allows a c := by
    intro c tells
    cases s with
    | declined => exact tells
    | unheard => exact tells
    | launched => exact tells
    | _ => exact ended.elim
  refine .call (tells .hasReplied trivial) fun replied after leads => ?_
  have same : after = s := leads.trans (next_of_over ended (c := .hasReplied) replied)
  rw [same]
  cases replied with
  | true => exact .done ended
  | false =>
    refine .call (tells (.reply (Wire.encode e.full)) trivial) fun x after leads => ?_
    have same : after = s := leads.trans (next_of_over ended (c := .reply (Wire.encode e.full)) x)
    rw [same]
    cases x <;> exact .done ended

theorem reply_next {a : Agent} {s : CheckStand} {text : String}
    (allowed : s.Allows a (.reply (Wire.encode text))) :
    Action.Ends (checkRules a) (fun _ after => ∃ sent, after = s.next (.reply (Wire.encode text)) (.ok sent))
      (fun _ after => ∃ e, after = s.next (.reply (Wire.encode text)) (.error e)) (reply text) s := by
  refine Action.ends_bind (ends_call allowed fun x after leads => ?_)
  cases x with
  | ok sent => exact Action.ends_pure ⟨sent, leads⟩
  | error e => exact Action.ends_throw ⟨e, leads⟩

theorem launch_next (a : Agent) :
    Action.Ends (checkRules a) (fun _ after => after = .launched) (fun _ after => after = .launched)
      (launch (.ok (checksLaunch a))) .acknowledged := by
  refine Action.ends_bind (Action.ends_pure (Action.ends_bind (ends_call rfl fun x after leads => ?_)))
  cases x with
  | ok o => exact Action.ends_pure leads
  | error e => exact Action.ends_throw leads

theorem runChecks_keeps (a : Agent) (c : Command) :
    (answering (Handler.runChecks a c)).Keeps (checkRules a) (fun _ after => after.Over) .fresh := by
  have course : Action.Ends (checkRules a) (fun _ after => after.Over) (fun _ after => after.Over)
      (Handler.runChecks a c) .fresh := by
    refine Action.ends_bind (ends_call rfl fun busy after leads => ?_)
    cases busy with
    | true =>
      have saw : after = .refused := leads
      rw [saw]
      have declines : CheckStand.Allows a .refused (.reply (Wire.encode replyBusy)) := rfl
      refine (reply_next declines).mono ?_ ?_
      · rintro _ after ⟨sent, rfl⟩
        trivial
      · rintro _ after ⟨e, rfl⟩
        trivial
    | false =>
      have saw : after = .cleared := leads
      rw [saw]
      have acknowledges : CheckStand.Allows a .cleared (.reply (Wire.encode replyOk)) := rfl
      refine Action.ends_bind ((reply_next acknowledges).mono ?_ ?_)
      · rintro _ after ⟨sent, rfl⟩
        refine Action.ends_bind ((launch_next a).mono ?_ ?_)
        · rintro _ after rfl
          exact Action.ends_pure trivial
        · rintro _ after rfl
          trivial
      · rintro _ after ⟨e, rfl⟩
        trivial
  rw [answering_eq]
  refine Plan.Keeps.bind (Plan.Keeps.mono course fun outcome after ended => ?_)
  cases outcome with
  | ok u => exact .done ended
  | error e => exact tellFailure_of_over ended e

/-! What the past of a handler tells of where it stands. -/

def seen (busy : Bool) : Answered := ⟨.host .checksRunning, busy⟩

def said (text : String) (x : Except TransportError Bool) : Answered := ⟨.reply (Wire.encode text), x⟩

def asked (a : Agent) (x : Except ProcessError Outcome) : Answered := ⟨.launch (checksLaunch a), x⟩

def TellsAlone (told : List Answered) : Prop := ∀ e ∈ told, CheckStand.Tells e.1

def CheckPast (a : Agent) (past : List Answered) : CheckStand → Prop
  | .fresh => past = []
  | .refused => past = [seen true]
  | .cleared => past = [seen false]
  | .acknowledged => ∃ sent, past = [seen false, said replyOk (.ok sent)]
  | .declined => ∃ x told, past = seen true :: said replyBusy x :: told ∧ TellsAlone told
  | .unheard => ∃ e told, past = seen false :: said replyOk (.error e) :: told ∧ TellsAlone told
  | .launched => ∃ sent x told,
      past = seen false :: said replyOk (.ok sent) :: asked a x :: told ∧ TellsAlone told

theorem tellsAlone_nil : TellsAlone [] := by
  intro e mem
  cases mem

theorem tellsAlone_concat {told : List Answered} (before : TellsAlone told) {c : Call} (tells : CheckStand.Tells c)
    (x : c.Answer) : TellsAlone (told ++ [⟨c, x⟩]) := by
  intro e mem
  rcases List.mem_append.1 mem with earlier | last
  · exact before e earlier
  · rw [List.mem_singleton.1 last]
    exact tells

theorem checkPast_step {a : Agent} {past : List Answered} {s : CheckStand} {c : Call} (x : c.Answer)
    (before : CheckPast a past s) (allowed : s.Allows a c) : CheckPast a (past ++ [⟨c, x⟩]) (s.next c x) := by
  cases s with
  | fresh =>
    cases (show c = .host .checksRunning from allowed)
    rw [show past = [] from before]
    cases x <;> rfl
  | refused =>
    cases (show c = .reply (Wire.encode replyBusy) from allowed)
    rw [show past = [seen true] from before]
    exact ⟨x, [], rfl, tellsAlone_nil⟩
  | cleared =>
    cases (show c = .reply (Wire.encode replyOk) from allowed)
    rw [show past = [seen false] from before]
    cases x with
    | ok sent => exact ⟨sent, rfl⟩
    | error e => exact ⟨e, [], rfl, tellsAlone_nil⟩
  | acknowledged =>
    cases (show c = .launch (checksLaunch a) from allowed)
    obtain ⟨sent, rfl⟩ := before
    exact ⟨sent, x, [], rfl, tellsAlone_nil⟩
  | declined =>
    obtain ⟨y, told, rfl, tells⟩ := before
    rw [next_of_over (s := .declined) trivial x]
    exact ⟨y, told ++ [⟨c, x⟩], rfl, tellsAlone_concat tells allowed x⟩
  | unheard =>
    obtain ⟨e, told, rfl, tells⟩ := before
    rw [next_of_over (s := .unheard) trivial x]
    exact ⟨e, told ++ [⟨c, x⟩], rfl, tellsAlone_concat tells allowed x⟩
  | launched =>
    obtain ⟨sent, y, told, rfl, tells⟩ := before
    rw [next_of_over (s := .launched) trivial x]
    exact ⟨sent, y, told ++ [⟨c, x⟩], rfl, tellsAlone_concat tells allowed x⟩

/-! Handlers beside each other, and the processes that they start. -/

structure Glance where
  time : Nat
  /-- Whether the processes could be read. -/
  sighted : Bool
  busy : Bool

/-- A handler at work: what it has called, oldest first, and what is left to do. -/
structure CheckWorker where
  responder : Responder
  past : List Answered
  rest : Plan Surroundings Bool
  /-- Dropped before its end. -/
  aborted : Bool
  glance : Option Glance
  /-- When its process was started. -/
  started : Option Nat
  /-- Its process, as long as that is alive. -/
  process : Option Supervision.Entry

namespace CheckWorker

def begin (a : Agent) (c : Command) (replyTo : Option String) : CheckWorker :=
  ⟨.new replyTo, [], answering (Handler.runChecks a c), false, none, none, none⟩

def call (t : CheckWorker) (c : Call) (x : c.Answer) (responder : Responder) (rest : Plan Surroundings Bool) :
    CheckWorker :=
  { t with responder, past := t.past ++ [⟨c, x⟩], rest }

def stand (t : CheckWorker) : CheckStand := t.past.foldl (fun s e => s.next e.1 e.2) .fresh

/-- It saw no check run and has said that it starts one. -/
def Acknowledged (t : CheckWorker) : Prop :=
  ∃ sent later, t.past = seen false :: said replyOk (.ok sent) :: later

end CheckWorker

def StartedBy (e : Supervision.Entry) (l : Launch) : Prop :=
  ∃ args, l.args = args.map .text ∧ e.cmdline = shownCommand l.program args

structure CheckPool where
  /-- The number of steps so far. -/
  clock : Nat
  session : Session
  /-- Processes that no handler started. -/
  others : Table
  workers : Nat → Option CheckWorker

namespace CheckPool

def put (p : CheckPool) (i : Nat) (t : CheckWorker) (session : Session) : CheckPool :=
  { p with clock := p.clock + 1, session, workers := fun j => if j = i then some t else p.workers j }

def Alive (p : CheckPool) (i : Nat) : Prop := ∃ t, p.workers i = some t ∧ t.process.isSome = true

def Shows (p : CheckPool) (table : Table) : Prop :=
  ∀ e, e ∈ table ↔ e ∈ p.others ∨ ∃ i t, p.workers i = some t ∧ t.process = some e

/-- A handler begins, makes a call or is dropped, or a process starts or ends, or something else changes on
the host or in the session. The wait for a process may fail, so its start may be answered while it lives. -/
inductive Step (a : Agent) (h : LinuxHost) : CheckPool → CheckPool → Prop where
  | begin {p : CheckPool} {i : Nat} (c : Command) (replyTo : Option String) : p.workers i = none →
      Step a h p (p.put i (.begin a c replyTo) p.session)
  | look {p : CheckPool} {i : Nat} {t : CheckWorker} {next : Bool → Plan Surroundings Bool}
      {table : Except Chain Table} {busy : Bool} : p.workers i = some t → t.aborted = false →
      t.rest = .perform (.host .checksRunning) next → (∀ shown, table = .ok shown → p.Shows shown) →
      (h.perform .checksRunning).Traces [⟨.otherProcesses, table⟩] busy →
      Step a h p (p.put i { t.call (.host .checksRunning) busy t.responder (next busy) with
        glance := some ⟨p.clock, table.isOk, busy⟩ } p.session)
  | call {p : CheckPool} {i : Nat} {t : CheckWorker} {c : Call} {next : c.Answer → Plan Surroundings Bool}
      {x : c.Answer} {after : Working} : p.workers i = some t → t.aborted = false →
      t.rest = .perform c next → c ≠ .host .checksRunning → (∀ l, c ≠ .launch l) →
      Acts ⟨p.session, t.responder⟩ c x after →
      Step a h p (p.put i (t.call c x after.responder (next x)) after.session)
  | start {p : CheckPool} {i : Nat} {t : CheckWorker} {l : Launch}
      {next : Except ProcessError Outcome → Plan Surroundings Bool} {e : Supervision.Entry} :
      p.workers i = some t → t.aborted = false → t.rest = .perform (.launch l) next → t.started = none →
      StartedBy e l →
      Step a h p (p.put i { t with started := some p.clock, process := some e } p.session)
  | exit {p : CheckPool} {i : Nat} {t : CheckWorker} : p.workers i = some t →
      Step a h p (p.put i { t with process := none } p.session)
  | finish {p : CheckPool} {i : Nat} {t : CheckWorker} {l : Launch}
      {next : Except ProcessError Outcome → Plan Surroundings Bool} {x : Except ProcessError Outcome} :
      p.workers i = some t → t.aborted = false → t.rest = .perform (.launch l) next →
      (t.started = none → x.isOk = false) →
      Step a h p (p.put i (t.call (.launch l) x t.responder (next x)) p.session)
  | abort {p : CheckPool} {i : Nat} {t : CheckWorker} : p.workers i = some t →
      Step a h p (p.put i { t with aborted := true } p.session)
  | elsewhere {p : CheckPool} (session : Session) (others : Table) :
      Step a h p { p with clock := p.clock + 1, session, others }

inductive Reachable (a : Agent) (h : LinuxHost) (first : Table) : CheckPool → Prop where
  | start (session : Session) : Reachable a h first ⟨0, session, first, fun _ => none⟩
  | step {p after : CheckPool} : Reachable a h first p → Step a h p after → Reachable a h first after

structure Screened (a : Agent) (h : LinuxHost) (first : Table) (p : CheckPool) : Prop where
  /-- Every handler keeps its course, and has come to the end of it when it has come to its own. -/
  course : ∀ i t, p.workers i = some t → ∃ s, CheckPast a t.past s ∧ ((∃ b, t.rest = .done b) → s.Over)
  /-- Only an acknowledged check run is started, and it is the agent's own. -/
  own : ∀ i t e, p.workers i = some t → t.process = some e → t.Acknowledged ∧ StartedBy e (checksLaunch a)
  /-- An acknowledged check run was asked for once, and started unless that failed. -/
  once : ∀ i t b, p.workers i = some t → t.rest = .done b → t.Acknowledged → ∃ sent x told,
    t.past = seen false :: said replyOk (.ok sent) :: asked a x :: told ∧ TellsAlone told ∧
      (t.started = none → x.isOk = false)
  /-- Of two check runs that are alive together each was looked for before the other one started. -/
  early : ∀ i j t u, i ≠ j → p.workers i = some t → t.process.isSome = true → p.workers j = some u →
    u.process.isSome = true → ∃ n g, t.started = some n ∧ u.glance = some g ∧ g.busy = false ∧
      (g.sighted = true → g.time < n)
  /-- Of two handlers that have both come to the start each can start its own. -/
  together : ∀ i j t u l m next more, i ≠ j → p.workers i = some t → p.workers j = some u →
    t.aborted = false → u.aborted = false → t.started = none → u.started = none →
    t.rest = .perform (.launch l) next → u.rest = .perform (.launch m) more →
    ∃ after, Reachable a h first after ∧ after.Alive i ∧ after.Alive j

end CheckPool

/-! What holds of each handler, and of all of them. -/

namespace CheckWorker

structure Sound (a : Agent) (clock : Nat) (t : CheckWorker) : Prop where
  keeps : t.rest.Keeps (checkRules a) (fun _ after => after.Over) t.stand
  past : CheckPast a t.past t.stand
  looked : ∀ first later, t.past = first :: later → ∃ g, t.glance = some g ∧ first = seen g.busy
  before : ∀ g, t.glance = some g → g.time < clock
  started : ∀ n, t.started = some n → t.Acknowledged
  process : ∀ e, t.process = some e → t.started.isSome = true ∧ StartedBy e (checksLaunch a)
  failed : ∀ x, asked a x ∈ t.past → t.started = none → x.isOk = false

variable {a : Agent} {clock : Nat} {t : CheckWorker}

theorem stand_call (t : CheckWorker) (c : Call) (x : c.Answer) (responder : Responder)
    (rest : Plan Surroundings Bool) : (t.call c x responder rest).stand = t.stand.next c x :=
  List.foldl_append

theorem sound_begin (a : Agent) (clock : Nat) (c : Command) (replyTo : Option String) :
    (begin a c replyTo).Sound a clock := by
  constructor
  case keeps => exact runChecks_keeps a c
  case past => rfl
  case looked =>
    intro first later past
    cases past
  case failed =>
    intro x mem
    cases mem
  all_goals nofun

theorem Sound.later (sound : t.Sound a clock) : t.Sound a (clock + 1) :=
  { sound with before := fun g glance => Nat.lt_succ_of_lt (sound.before g glance) }

theorem Sound.allowed {c : Call} {next : c.Answer → Plan Surroundings Bool} (sound : t.Sound a clock)
    (rest : t.rest = .perform c next) : t.stand.Allows a c := by
  have keeps := sound.keeps
  rw [rest] at keeps
  cases keeps with
  | call allowed _ => exact allowed

theorem Sound.fresh_of_look {next : Bool → Plan Surroundings Bool} (sound : t.Sound a clock)
    (rest : t.rest = .perform (.host .checksRunning) next) : t.past = [] := by
  have allowed := sound.allowed rest
  have past := sound.past
  cases stand : t.stand with
  | fresh =>
    rw [stand] at past
    exact past
  | _ =>
    rw [stand] at allowed
    cases allowed

theorem Sound.acknowledged_of_launch {l : Launch} {next : Except ProcessError Outcome → Plan Surroundings Bool}
    (sound : t.Sound a clock) (rest : t.rest = .perform (.launch l) next) :
    l = checksLaunch a ∧ t.Acknowledged := by
  have allowed := sound.allowed rest
  have past := sound.past
  cases stand : t.stand with
  | acknowledged =>
    rw [stand] at allowed past
    cases allowed
    obtain ⟨sent, same⟩ := past
    exact ⟨rfl, sent, [], same⟩
  | _ =>
    rw [stand] at allowed
    cases allowed

theorem Acknowledged.concat (acknowledged : t.Acknowledged) (e : Answered) :
    ∃ sent later, t.past ++ [e] = seen false :: said replyOk (.ok sent) :: later := by
  obtain ⟨sent, later, past⟩ := acknowledged
  exact ⟨sent, later ++ [e], by rw [past]; rfl⟩

theorem Sound.call {c : Call} {next : c.Answer → Plan Surroundings Bool} (sound : t.Sound a clock)
    (rest : t.rest = .perform c next) (x : c.Answer) (responder : Responder) :
    (next x).Keeps (checkRules a) (fun _ after => after.Over) (t.call c x responder (next x)).stand ∧
      CheckPast a (t.past ++ [⟨c, x⟩]) (t.call c x responder (next x)).stand := by
  have keeps := sound.keeps
  rw [rest] at keeps
  rw [stand_call]
  cases keeps with
  | call allowed later => exact ⟨later x _ rfl, checkPast_step x sound.past allowed⟩

theorem Sound.looked_concat (sound : t.Sound a clock) (begun : t.past ≠ []) {e first : Answered}
    {later : List Answered} (past : t.past ++ [e] = first :: later) :
    ∃ g, t.glance = some g ∧ first = seen g.busy := by
  obtain ⟨head, tail, shape⟩ := List.exists_cons_of_ne_nil begun
  rw [shape, List.cons_append] at past
  cases past
  exact sound.looked _ _ shape

theorem sound_look {next : Bool → Plan Surroundings Bool} (sound : t.Sound a clock)
    (rest : t.rest = .perform (.host .checksRunning) next) (sighted busy : Bool) :
    Sound a (clock + 1) { t.call (.host .checksRunning) busy t.responder (next busy) with
      glance := some ⟨clock, sighted, busy⟩ } := by
  have none := sound.fresh_of_look rest
  have idle : ¬ t.Acknowledged := by
    rintro ⟨sent, later, past⟩
    rw [none] at past
    cases past
  obtain ⟨keeps, past⟩ := sound.call rest busy t.responder
  constructor
  case keeps => exact keeps
  case past => exact past
  case looked =>
    intro first later same
    replace same : t.past ++ [seen busy] = first :: later := same
    rw [none] at same
    cases same
    exact ⟨_, rfl, rfl⟩
  case before =>
    intro g same
    cases same
    exact Nat.lt_succ_self clock
  case started =>
    intro n started
    exact absurd (sound.started n started) idle
  case process =>
    intro e process
    obtain ⟨some, -⟩ := sound.process e process
    obtain ⟨n, started⟩ := Option.isSome_iff_exists.1 some
    exact absurd (sound.started n started) idle
  case failed =>
    intro x mem
    replace mem : asked a x ∈ t.past ++ [seen busy] := mem
    rw [none] at mem
    cases List.mem_singleton.1 mem

theorem sound_answered {c : Call} {next : c.Answer → Plan Surroundings Bool} {x : c.Answer}
    (sound : t.Sound a clock) (rest : t.rest = .perform c next) (looks : c ≠ .host .checksRunning)
    (failed : ∀ y, (⟨c, x⟩ : Answered) = asked a y → t.started = none → y.isOk = false) (responder : Responder) :
    (t.call c x responder (next x)).Sound a (clock + 1) := by
  have begun : t.past ≠ [] := by
    intro none
    have allowed := sound.allowed rest
    rw [stand, none] at allowed
    exact looks allowed
  obtain ⟨keeps, past⟩ := sound.call rest x responder
  constructor
  case keeps => exact keeps
  case past => exact past
  case looked =>
    intro first later same
    exact sound.looked_concat begun same
  case before => exact sound.later.before
  case started =>
    intro n started
    exact (sound.started n started).concat _
  case process => exact sound.process
  case failed =>
    intro y mem
    rcases List.mem_append.1 mem with earlier | last
    · exact sound.failed y earlier
    · exact failed y (List.mem_singleton.1 last).symm

theorem sound_call {c : Call} {next : c.Answer → Plan Surroundings Bool} (sound : t.Sound a clock)
    (rest : t.rest = .perform c next) (looks : c ≠ .host .checksRunning) (launches : ∀ l, c ≠ .launch l)
    (x : c.Answer) (responder : Responder) : (t.call c x responder (next x)).Sound a (clock + 1) := by
  apply sound_answered sound rest looks
  intro y same
  cases same
  exact absurd rfl (launches _)

theorem sound_start {l : Launch} {next : Except ProcessError Outcome → Plan Surroundings Bool}
    (sound : t.Sound a clock) (rest : t.rest = .perform (.launch l) next) {e : Supervision.Entry}
    (by_launch : StartedBy e l) :
    Sound a (clock + 1) { t with started := some clock, process := some e } := by
  obtain ⟨own, acknowledged⟩ := sound.acknowledged_of_launch rest
  constructor
  case keeps => exact sound.keeps
  case past => exact sound.past
  case looked => exact sound.looked
  case before => exact sound.later.before
  case started =>
    intro n _
    exact acknowledged
  case process =>
    intro f process
    cases process
    exact ⟨rfl, own ▸ by_launch⟩
  case failed =>
    intro x _ unstarted
    cases unstarted

theorem sound_finish {l : Launch} {next : Except ProcessError Outcome → Plan Surroundings Bool}
    (sound : t.Sound a clock) (rest : t.rest = .perform (.launch l) next) {x : Except ProcessError Outcome}
    (failed : t.started = none → x.isOk = false) (responder : Responder) :
    (t.call (.launch l) x responder (next x)).Sound a (clock + 1) := by
  obtain ⟨own, -⟩ := sound.acknowledged_of_launch rest
  apply sound_answered sound rest
  · intro look
    cases look
  · intro y same
    cases own
    cases same
    exact failed

theorem sound_exit (sound : t.Sound a clock) : Sound a (clock + 1) { t with process := none } :=
  { sound.later with process := nofun }

theorem sound_abort (sound : t.Sound a clock) : Sound a (clock + 1) { t with aborted := true } :=
  { sound.later with }

/-- When the process was started that is alive. -/
def alive? (t : CheckWorker) : Option Nat := if t.process.isSome then t.started else none

/-- When the handler saw that no check run is alive. -/
def clear? (t : CheckWorker) : Option Nat :=
  t.glance.bind fun g => if g.sighted && !g.busy then some g.time else none

end CheckWorker

namespace CheckPool

variable {a : Agent} {h : LinuxHost} {first : Table} {p after : CheckPool} {i : Nat} {t : CheckWorker}
variable {session : Session}

def alive? (p : CheckPool) (i : Nat) : Option Nat := (p.workers i).bind CheckWorker.alive?

def clear? (p : CheckPool) (i : Nat) : Option Nat := (p.workers i).bind CheckWorker.clear?

/-- Nobody has seen that no check run is alive while the one of another handler was. -/
def Quiet (p : CheckPool) : Prop :=
  ∀ i j m n, i ≠ j → p.alive? i = some m → p.clear? j = some n → n < m

structure Guarded (a : Agent) (p : CheckPool) : Prop where
  sound : ∀ i t, p.workers i = some t → t.Sound a p.clock
  quiet : p.Quiet

theorem workers_put_self : (p.put i t session).workers i = some t := if_pos rfl

theorem workers_put_other {j : Nat} (other : j ≠ i) : (p.put i t session).workers j = p.workers j := if_neg other

theorem alive?_of_some (there : p.workers i = some t) : p.alive? i = t.alive? := by
  rw [alive?, there]
  rfl

theorem clear?_of_some (there : p.workers i = some t) : p.clear? i = t.clear? := by
  rw [clear?, there]
  rfl

theorem alive?_put (p : CheckPool) (i j : Nat) (t : CheckWorker) (session : Session) :
    (p.put i t session).alive? j = if j = i then t.alive? else p.alive? j := by
  unfold alive? put
  dsimp only
  split <;> rfl

theorem clear?_put (p : CheckPool) (i j : Nat) (t : CheckWorker) (session : Session) :
    (p.put i t session).clear? j = if j = i then t.clear? else p.clear? j := by
  unfold clear? put
  dsimp only
  split <;> rfl

theorem Guarded.early (guarded : p.Guarded a) {n : Nat} (clear : p.clear? i = some n) : n < p.clock := by
  obtain ⟨t, there, seen⟩ := Option.bind_eq_some_iff.1 clear
  obtain ⟨g, glance, free⟩ := Option.bind_eq_some_iff.1 seen
  split at free
  · cases free
    exact (guarded.sound i t there).before g glance
  · cases free

/-- A handler may go on when its process, if one is alive now, was alive before or has just been started, and
when it has seen nothing new but that no other process is alive. -/
theorem guarded_put (guarded : p.Guarded a) (sound : t.Sound a (p.clock + 1))
    (alive : ∀ m, t.alive? = some m → p.alive? i = some m ∨ m = p.clock)
    (clear : ∀ n, t.clear? = some n → p.clear? i = some n ∨ ∀ j m, j ≠ i → p.alive? j ≠ some m) :
    (p.put i t session).Guarded a := by
  constructor
  case sound =>
    intro j u there
    simp only [put] at there
    split at there
    · cases there
      exact sound
    · exact (guarded.sound j u there).later
  case quiet =>
    intro j k m n different lives sees
    rw [alive?_put] at lives
    rw [clear?_put] at sees
    split at lives
    · rename_i here
      rw [if_neg fun same => different (here.trans same.symm)] at sees
      rcases alive m lives with before | now
      · exact guarded.quiet i k m n (here ▸ different) before sees
      · rw [now]
        exact guarded.early sees
    · rename_i elsewhere
      split at sees
      · rcases clear n sees with before | nobody
        · rename_i here
          exact guarded.quiet j i m n elsewhere lives before
        · exact absurd lives (nobody j m elsewhere)
      · exact guarded.quiet j k m n different lives sees

theorem busy_of_alive (binary : h.agentExe = a.binary.exe) (guarded : p.Guarded a) {table : Table}
    (shows : p.Shows table) {busy : Bool}
    (looked : (h.perform .checksRunning).Traces [⟨.otherProcesses, .ok table⟩] busy) {m : Nat}
    (alive : p.alive? i = some m) : busy = true := by
  obtain ⟨t, there, started⟩ := Option.bind_eq_some_iff.1 alive
  unfold CheckWorker.alive? at started
  split at started
  · rename_i some
    obtain ⟨e, process⟩ := Option.isSome_iff_exists.1 some
    obtain ⟨-, args, same, shown⟩ := (guarded.sound i t there).process e process
    have injective : Function.Injective Argument.text := fun _ _ => Argument.text.inj
    have own : args = (a.binary.invocation ["run-checks"]).args := List.map_injective_iff.2 injective same.symm
    rw [own] at shown
    replace looked : (checksRunning h.agentExe).Traces [⟨.otherProcesses, .ok table⟩] busy := looked
    rw [binary] at looked
    exact busy_of_mem shown ((shows e).2 (.inr ⟨i, t, there, process⟩)) looked
  · cases started

theorem guarded_kept {u : CheckWorker} (guarded : p.Guarded a) (there : p.workers i = some t)
    (sound : u.Sound a (p.clock + 1)) (alive : ∀ m, u.alive? = some m → t.alive? = some m ∨ m = p.clock)
    (clear : u.clear? = t.clear?) : (p.put i u session).Guarded a := by
  apply guarded_put guarded sound
  · rw [alive?_of_some there]
    exact alive
  · intro n sees
    left
    rw [clear?_of_some there, ← clear]
    exact sees

theorem guarded_step (binary : h.agentExe = a.binary.exe) (guarded : p.Guarded a) (step : Step a h p after) :
    after.Guarded a := by
  cases step with
  | begin c replyTo vacant => exact guarded_put guarded (CheckWorker.sound_begin a _ c replyTo) nofun nofun
  | @look i t next table busy there _ rest shows looked =>
    have sound := guarded.sound i t there
    apply guarded_put guarded (CheckWorker.sound_look sound rest table.isOk busy)
    · rw [alive?_of_some there]
      exact fun m alive => .inl alive
    · intro n clear
      right
      intro j m other alive
      -- whoever could read the processes has seen the one that is alive
      cases table with
      | error e => cases clear
      | ok shown =>
        have busy' := busy_of_alive binary guarded (shows shown rfl) looked alive
        rw [busy'] at clear
        cases clear
  | @call i t c next x after there _ rest looks launches acts =>
    have sound := CheckWorker.sound_call (guarded.sound i t there) rest looks launches x after.responder
    exact guarded_kept guarded there sound (fun m alive => .inl alive) rfl
  | @start i t l next e there _ rest unstarted by_launch =>
    have sound := CheckWorker.sound_start (guarded.sound i t there) rest by_launch
    exact guarded_kept guarded there sound (fun m alive => .inr (Option.some.inj alive).symm) rfl
  | @exit i t there =>
    exact guarded_kept guarded there (CheckWorker.sound_exit (guarded.sound i t there)) nofun rfl
  | @finish i t l next x there _ rest failed =>
    have sound := CheckWorker.sound_finish (guarded.sound i t there) rest failed t.responder
    exact guarded_kept guarded there sound (fun m alive => .inl alive) rfl
  | @abort i t there =>
    have sound := CheckWorker.sound_abort (guarded.sound i t there)
    exact guarded_kept guarded there sound (fun m alive => .inl alive) rfl
  | elsewhere session others =>
    exact ⟨fun i t there => (guarded.sound i t there).later, guarded.quiet⟩

theorem guarded_of_reachable (binary : h.agentExe = a.binary.exe) (reachable : Reachable a h first p) :
    p.Guarded a := by
  induction reachable with
  | start session =>
    constructor
    case sound =>
      intro i t there
      cases there
    case quiet =>
      intro i j m n different lives
      cases lives
  | step _ step ih => exact guarded_step binary ih step

theorem over_of_done (guarded : p.Guarded a) (there : p.workers i = some t) {b : Bool} (done : t.rest = .done b) :
    t.stand.Over := by
  have keeps := (guarded.sound i t there).keeps
  rw [done] at keeps
  cases keeps with
  | done ended => exact ended

theorem asked_of_done (guarded : p.Guarded a) (there : p.workers i = some t) {b : Bool} (done : t.rest = .done b)
    (acknowledged : t.Acknowledged) : ∃ sent x told,
      t.past = seen false :: said replyOk (.ok sent) :: asked a x :: told ∧ TellsAlone told ∧
        (t.started = none → x.isOk = false) := by
  have sound := guarded.sound i t there
  have ended := over_of_done guarded there done
  have past := sound.past
  obtain ⟨sent, later, shape⟩ := acknowledged
  cases stand : t.stand with
  | launched =>
    rw [stand] at past
    obtain ⟨sent', x, told, same, tells⟩ := past
    refine ⟨sent', x, told, same, tells, sound.failed x ?_⟩
    rw [same]
    exact List.mem_cons_of_mem _ (List.mem_cons_of_mem _ List.mem_cons_self)
  | declined =>
    rw [stand] at past
    obtain ⟨x, told, same, -⟩ := past
    rw [shape] at same
    cases same
  | unheard =>
    rw [stand] at past
    obtain ⟨e, told, same, -⟩ := past
    rw [shape] at same
    cases same
  | _ =>
    rw [stand] at ended
    exact ended.elim

theorem glance_of_started (guarded : p.Guarded a) (there : p.workers i = some t) {n : Nat}
    (started : t.started = some n) : ∃ g, t.glance = some g ∧ g.busy = false := by
  have sound := guarded.sound i t there
  obtain ⟨sent, later, past⟩ := sound.started n started
  obtain ⟨g, glance, same⟩ := sound.looked _ _ past
  cases free : g.busy with
  | false => exact ⟨g, glance, free⟩
  | true =>
    rw [free] at same
    cases same

theorem started_of_alive (guarded : p.Guarded a) (there : p.workers i = some t)
    (lives : t.process.isSome = true) : ∃ n, t.started = some n := by
  obtain ⟨e, process⟩ := Option.isSome_iff_exists.1 lives
  exact Option.isSome_iff_exists.1 ((guarded.sound i t there).process e process).1

theorem reachable_start {next : Except ProcessError Outcome → Plan Surroundings Bool}
    (reachable : Reachable a h first p) (there : p.workers i = some t) (kept : t.aborted = false)
    (unstarted : t.started = none) (rest : t.rest = .perform (.launch (checksLaunch a)) next) :
    ∃ e, Reachable a h first (p.put i { t with started := some p.clock, process := some e } p.session) := by
  refine ⟨⟨0, 0, "", _, false⟩, .step reachable (.start there kept rest unstarted ⟨_, rfl, rfl⟩)⟩

theorem reachable_together {j : Nat} {u : CheckWorker}
    {next more : Except ProcessError Outcome → Plan Surroundings Bool} (reachable : Reachable a h first p)
    (different : i ≠ j) (there : p.workers i = some t) (there' : p.workers j = some u) (kept : t.aborted = false)
    (kept' : u.aborted = false) (unstarted : t.started = none) (unstarted' : u.started = none)
    (rest : t.rest = .perform (.launch (checksLaunch a)) next)
    (rest' : u.rest = .perform (.launch (checksLaunch a)) more) :
    ∃ after, Reachable a h first after ∧ after.Alive i ∧ after.Alive j := by
  obtain ⟨e, begun⟩ := reachable_start reachable there kept unstarted rest
  have still : (p.put i { t with started := some p.clock, process := some e } p.session).workers j = some u := by
    rw [workers_put_other (Ne.symm different)]
    exact there'
  obtain ⟨f, both⟩ := reachable_start begun still kept' unstarted' rest'
  refine ⟨_, both, ⟨{ t with started := some p.clock, process := some e }, ?_, rfl⟩, _, workers_put_self, rfl⟩
  rw [workers_put_other different, workers_put_self]

/-- Two check runs are alive together only when each was looked for before the other one started, and then
nothing keeps them apart. -/
theorem screened_of_reachable (binary : h.agentExe = a.binary.exe) (reachable : Reachable a h first p) :
    p.Screened a h first := by
  have guarded := guarded_of_reachable binary reachable
  constructor
  case course =>
    intro i t there
    refine ⟨t.stand, (guarded.sound i t there).past, ?_⟩
    rintro ⟨b, done⟩
    exact over_of_done guarded there done
  case own =>
    intro i t e there process
    have sound := guarded.sound i t there
    obtain ⟨some, own⟩ := sound.process e process
    obtain ⟨n, started⟩ := Option.isSome_iff_exists.1 some
    exact ⟨sound.started n started, own⟩
  case once =>
    intro i t b there done acknowledged
    exact asked_of_done guarded there done acknowledged
  case early =>
    intro i j t u different there lives there' lives'
    obtain ⟨n, started⟩ := started_of_alive guarded there lives
    obtain ⟨m, started'⟩ := started_of_alive guarded there' lives'
    obtain ⟨g, glance, free⟩ := glance_of_started guarded there' started'
    refine ⟨n, g, started, glance, free, fun sighted => ?_⟩
    apply guarded.quiet i j n g.time different
    · rw [alive?_of_some there, CheckWorker.alive?, if_pos lives, started]
    · rw [clear?_of_some there', CheckWorker.clear?, glance, Option.bind_some, sighted, free]
      rfl
  case together =>
    intro i j t u l m next more different there there' kept kept' unstarted unstarted' rest rest'
    obtain ⟨rfl, -⟩ := (guarded.sound i t there).acknowledged_of_launch rest
    obtain ⟨rfl, -⟩ := (guarded.sound j u there').acknowledged_of_launch rest'
    exact reachable_together reachable different there there' kept kept' unstarted unstarted' rest rest'

/-! Two check runs that are alive together. -/

def startChecks (a : Agent) : Plan Surroundings Bool := answering do
  let _ ← launch (.ok (checksLaunch a))

def waiting (a : Agent) (subject : String) (n : Nat) : CheckWorker :=
  { responder := ⟨some subject, true⟩
    past := [seen false, said replyOk (.ok true)]
    rest := startChecks a
    aborted := false
    glance := some ⟨n, true, false⟩
    started := none
    process := none }

theorem calm_put (calm : p.Shows []) (idle : t.process = none) : (p.put i t session).Shows [] := by
  intro e
  constructor
  · nofun
  · rintro (other | ⟨j, u, there, process⟩)
    · exact (calm e).2 (.inl other)
    · simp only [put] at there
      split at there
      · cases there
        rw [idle] at process
        cases process
      · exact (calm e).2 (.inr ⟨j, u, there, process⟩)

theorem reachable_waiting (reachable : Reachable a h first p) (vacant : p.workers i = none) (calm : p.Shows [])
    (linked : p.session.transport.publishFault = none) (c : Command) (subject : String) :
    ∃ q n, Reachable a h first q ∧ q.workers i = some (waiting a subject n) ∧
      (∀ j, j ≠ i → q.workers j = p.workers j) ∧ q.Shows [] ∧ q.session.transport.publishFault = none := by
  have begun := Reachable.step reachable (.begin c (some subject) vacant)
  have idle : (p.put i (.begin a c (some subject)) p.session).Shows [] := calm_put calm rfl
  have shows : ∀ shown, (Except.ok [] : Except Chain Table) = .ok shown →
      (p.put i (.begin a c (some subject)) p.session).Shows shown := by
    intro shown same
    cases same
    exact idle
  have sees : (h.perform .checksRunning).Traces [⟨.otherProcesses, .ok []⟩] false :=
    checksRunning_traces.2 ⟨.ok [], rfl, rfl⟩
  have looked := Reachable.step begun (.look workers_put_self rfl rfl shows sees)
  have sends : (Responder.new (some subject)).send p.session.transport (Wire.encode replyOk) =
      (⟨some subject, true⟩, { p.session.transport with
        bus := p.session.transport.bus.publish ⟨subject, none, Wire.encode replyOk⟩ }, .ok true) := by
    simp only [Responder.send, Responder.new, Responder.target?, Transport.publish, linked]
    rfl
  have looks : ∀ bytes, Call.reply bytes ≠ .host .checksRunning := by
    intro bytes same
    cases same
  have launches : ∀ bytes l, Call.reply bytes ≠ .launch l := by
    intro bytes l same
    cases same
  have replied := Reachable.step looked
    (.call workers_put_self rfl rfl (looks _) (launches _) ⟨_, _, sends, rfl⟩)
  refine ⟨_, p.clock + 1, replied, workers_put_self, ?_, calm_put (calm_put idle rfl) rfl, linked⟩
  intro j other
  rw [workers_put_other other, workers_put_other other, workers_put_other other]

def idleHost : LinuxHost := ⟨"a", none, "/bin/a"⟩

theorem reachable_bothWaiting : ∃ p m n, Reachable idleAgent idleHost [] p ∧
    p.workers 0 = some (waiting idleAgent "first" m) ∧ p.workers 1 = some (waiting idleAgent "second" n) := by
  have calm : (⟨0, idleSession, [], fun _ => none⟩ : CheckPool).Shows [] := by
    intro e
    simp
  obtain ⟨p, m, reachable, there, others, calm, linked⟩ :=
    reachable_waiting (i := 0) (.start idleSession) rfl calm rfl (.named "run-checks") "first"
  obtain ⟨q, n, reachable, there', others', -, -⟩ :=
    reachable_waiting (i := 1) reachable (others 1 (by decide)) calm linked (.named "run-checks") "second"
  refine ⟨q, m, n, reachable, ?_, there'⟩
  rw [others' 0 (by decide)]
  exact there

theorem checkRuns_screened_both : idleHost.agentExe = idleAgent.binary.exe ∧
    ∃ p, Reachable idleAgent idleHost [] p ∧ p.Alive 0 ∧ p.Alive 1 ∧ p.Screened idleAgent idleHost [] := by
  obtain ⟨p, m, n, waits, there, there'⟩ := reachable_bothWaiting
  have screened := screened_of_reachable rfl waits
  obtain ⟨q, reachable, first, second⟩ :=
    screened.together 0 1 _ _ _ _ _ _ (by decide) there there' rfl rfl rfl rfl rfl rfl
  exact ⟨rfl, q, reachable, first, second, screened_of_reachable rfl reachable⟩

/-- Two check runs can be alive together, and one that was acknowledged need not be started. -/
theorem checkRuns_overlap :
    (∃ p, Reachable idleAgent idleHost [] p ∧ p.Alive 0 ∧ p.Alive 1) ∧
    ∃ p t, Reachable idleAgent idleHost [] p ∧ p.workers 0 = some t ∧ t.Acknowledged ∧
      t.rest = .done false ∧ t.started = none := by
  obtain ⟨p, m, n, waits, there, there'⟩ := reachable_bothWaiting
  constructor
  · exact reachable_together waits (by decide) there there' rfl rfl rfl rfl rfl rfl
  · have failed := Reachable.step waits
      (.finish (x := .error (.spawn "/bin/a" "No such file or directory (os error 2)")) there rfl rfl fun _ => rfl)
    have asked := Reachable.step failed (.call workers_put_self rfl rfl nofun nofun ⟨rfl, rfl⟩)
    exact ⟨_, _, asked, workers_put_self, ⟨true, _, rfl⟩, rfl, rfl⟩

end CheckPool
end Steward.Agent
