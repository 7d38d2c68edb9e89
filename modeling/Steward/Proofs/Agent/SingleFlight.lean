import Steward.Proofs.Agent.Reply

/-!
Operations that must never overlap. Any number of handlers of the three guarded operations work beside
each other, one call at a time in any order, and each may be dropped at any time. Each keeps to a course
with its guard: it takes it once, and either works and frees it or is refused and says so. From that
follows of every pool that can be reached that a guard is held exactly while one handler is between
taking and freeing it.
-/
namespace Steward.GuardSet

theorem ext {a b : GuardSet} (same : ∀ g, a.isHeld g = b.isHeld g) : a = b :=
  congrArg mk (funext same)

theorem set_of_held {s : GuardSet} {g : Guard} (held : s.isHeld g = true) : s.set g true = s := by
  refine ext fun other => ?_
  show (if other = g then true else s.isHeld other) = s.isHeld other
  split
  · rename_i same
    rw [same, held]
  · rfl

end Steward.GuardSet

namespace Steward.Agent

open Steward.Bus Steward.Message

def operation : Guard → Handler
  | .osUpdateScan => Handler.getOsUpdates
  | .osUpdateInstall => Handler.installOsUpdates
  | .selfUpdate => Handler.agentSelfUpdate

def busyReply : Guard → String
  | .osUpdateScan => replyBusy
  | .osUpdateInstall => replyBusy
  | .selfUpdate => replyUpdateRunning

abbrev Answered := (c : Call) × c.Answer

/-! The course of one handler. -/

inductive Stand where
  | fresh
  | holding
  | released
  /-- The guard was held; since then these calls were made. -/
  | refused (calls : List Call)

def Call.Works : Call → Prop
  | .hold _ => False
  | .release _ => False
  | _ => True

def Stand.next (s : Stand) (c : Call) (x : c.Answer) : Stand :=
  match s, c, x with
  | .fresh, .hold _, free => if free then .holding else .refused []
  | .holding, .release _, _ => .released
  | .refused calls, c, _ => .refused (calls ++ [c])
  | s, _, _ => s

/-- All that a refused handler does: it says so, and says it failed if that failed. -/
def refusal (g : Guard) (text : Wire.Bytes) : List Call :=
  [.reply (Wire.encode (busyReply g)), .hasReplied, .reply text]

def Stand.Allows (g : Guard) (s : Stand) (c : Call) : Prop :=
  match s with
  | .fresh => c = .hold g
  | .holding => c = .release g ∨ c.Works
  | .released => c.Works
  | .refused calls => ∃ text, calls ++ [c] <+: refusal g text

def courseRules (g : Guard) : Rules Surroundings Stand :=
  ⟨Stand.Allows g, fun s c x after => after = s.next c x⟩

def Stand.Over : Stand → Prop
  | .released => True
  | .refused calls => calls ≠ []
  | _ => False

theorem next_of_works {s : Stand} {c : Call} (works : c.Works) (x : c.Answer)
    (settled : s = .holding ∨ s = .released) : s.next c x = s := by
  rcases settled with rfl | rfl
  · cases c <;> first | rfl | exact works.elim
  · cases c <;> rfl

theorem works_ends {g : Guard} {s : Stand} {job : Job α} (works : Action.Makes Call.Works job)
    (settled : s = .holding ∨ s = .released) :
    Action.Ends (courseRules g) (fun _ after => after = s) (fun _ after => after = s) job s := by
  refine works.ends (fun c work => ?_) fun c work x after leads => ?_
  · rcases settled with rfl | rfl
    · exact .inr work
    · exact work
  · exact leads.trans (next_of_works work x settled)

theorem guarded_ends {g : Guard} {work : Job α} (works : Action.Makes Call.Works work) :
    Action.Ends (courseRules g) (fun result after => after = match result with
        | none => .refused []
        | some _ => .released) (fun _ after => after = .released) (guarded g work) .fresh := by
  refine Action.ends_bind (ends_call rfl fun free after leads => ?_)
  cases free with
  | false => exact Action.ends_pure leads
  | true =>
    have holding : after = .holding := leads
    rw [holding]
    refine Action.ends_bind (Action.ends_attempt ((works_ends works (.inl rfl)).mono ?_ ?_))
    · intro a worked same
      rw [same]
      exact Action.ends_bind (ends_call (.inl rfl) fun _ after leads => .done leads)
    · intro e worked same
      rw [same]
      exact Action.ends_bind (ends_call (.inl rfl) fun _ after leads => .done leads)

theorem refused_ends (g : Guard) :
    Action.Ends (courseRules g) (fun _ after => after.Over)
      (fun _ after => after = .refused [.reply (Wire.encode (busyReply g))]) (reply (busyReply g))
      (.refused []) := by
  have allowed : Stand.Allows g (.refused []) (.reply (Wire.encode (busyReply g))) :=
    ⟨[], [.hasReplied, .reply []], rfl⟩
  refine Action.ends_bind (ends_call allowed fun x after leads => ?_)
  have said : after = .refused [.reply (Wire.encode (busyReply g))] := leads
  rw [said]
  cases x with
  | ok sent => exact Action.ends_pure (List.cons_ne_nil _ _)
  | error e => exact Action.ends_throw rfl

theorem makes_tellFailure (e : Chain) : (tellFailure e).Makes Call.Works := by
  refine .call trivial fun replied => ?_
  cases replied with
  | true => exact .done _
  | false =>
    refine .call trivial fun x => ?_
    cases x <;> exact .done _

theorem tellFailure_of_refused (g : Guard) (e : Chain) :
    (tellFailure e).Keeps (courseRules g) (fun _ after => after.Over)
      (.refused [.reply (Wire.encode (busyReply g))]) := by
  refine .call ⟨Wire.encode e.full, [.reply (Wire.encode e.full)], rfl⟩ fun replied after leads => ?_
  rw [show after = .refused _ from leads]
  cases replied with
  | true => exact .done (List.cons_ne_nil _ _)
  | false =>
    refine .call ⟨Wire.encode e.full, [], rfl⟩ fun x after leads => ?_
    rw [show after = .refused _ from leads]
    cases x <;> exact .done (List.cons_ne_nil _ _)

theorem answering_keeps {g : Guard} {work : Job α} {f : Option α → Job Unit}
    (works : Action.Makes Call.Works work) (refuses : f none = reply (busyReply g))
    (later : ∀ a, Action.Makes Call.Works (f (some a))) :
    (answering (guarded g work >>= f)).Keeps (courseRules g) (fun _ after => after.Over) .fresh := by
  have ends : Action.Ends (courseRules g) (fun _ after => after.Over)
      (fun _ after => after = .released ∨ after = .refused [.reply (Wire.encode (busyReply g))])
      (guarded g work >>= f) .fresh := by
    refine Action.ends_bind ((guarded_ends works).mono ?_ fun _ _ same => .inl same)
    intro result after same
    rw [same]
    cases result with
    | none =>
      rw [refuses]
      exact (refused_ends g).mono (fun _ _ ended => ended) fun _ _ same => .inr same
    | some a =>
      refine (works_ends (later a) (.inr rfl)).mono ?_ fun _ _ same => .inl same
      intro _ _ same
      rw [same]
      trivial
  rw [answering_eq]
  refine Plan.Keeps.bind (Plan.Keeps.mono ends fun outcome after holds => ?_)
  cases outcome with
  | ok u => exact .done holds
  | error e =>
    rcases holds with same | same
    · rw [same]
      refine ((makes_tellFailure e).keeps (fun c work => work) fun c work x after leads => ?_).mono ?_
      · exact leads.trans (next_of_works work x (.inr rfl))
      · intro b after same
        rw [same]
        trivial
    · rw [same]
      exact tellFailure_of_refused g e

theorem works_of_reports {job : Job α} (reports : Reporting job) : Action.Makes Call.Works job :=
  reports.mono fun c report => by cases c <;> trivial

theorem works_reply [Wire.Sendable α] (a : α) : Action.Makes Call.Works (reply a) := by
  unfold reply
  apply Action.makes_bind
  · apply makes_call
    trivial
  intro sent
  apply Action.makes_bind (Action.makes_ofExcept _ _)
  intro published
  exact Action.makes_pure _

theorem works_download (url : String) : Action.Makes Call.Works (download url) := by
  unfold download
  split
  · exact Action.makes_throw _
  · apply Action.makes_bind
    · apply makes_call
      trivial
    intro answer
    cases answer with
    | answered status body =>
      dsimp only
      split
      · exact Action.makes_throw _
      · exact Action.makes_pure _
    | _ => exact Action.makes_throw _

theorem works_updateFor (current : Update.Version) (c : Command) :
    Action.Makes Call.Works (updateFor current c) := by
  unfold updateFor
  apply Action.makes_bind (Action.makes_ofExcept _ _)
  intro d
  unfold update
  split
  · exact Action.makes_pure _
  apply Action.makes_bind (works_download d.url)
  intro bytes
  apply Action.makes_bind (Action.makes_ofExcept _ _)
  intro checked
  apply Action.makes_bind
  · apply makes_call
    trivial
  intro installed
  apply Action.makes_bind (Action.makes_ofExcept _ _)
  intro replaced
  exact Action.makes_pure _

theorem works_terminate : Action.Makes Call.Works terminate := by
  unfold terminate
  apply Action.makes_bind
  · apply makes_call
    trivial
  intro flushed
  apply Action.makes_bind
  · apply makes_call
    trivial
  intro stopped
  apply makes_call
  trivial

theorem operation_keeps (g : Guard) (a : Agent) (c : Command) :
    (answering (operation g a c)).Keeps (courseRules g) (fun _ after => after.Over) .fresh := by
  cases g with
  | osUpdateScan =>
    refine answering_keeps ?_ rfl fun _ => Action.makes_pure _
    apply Action.makes_bind (works_reply _)
    intro acknowledged
    apply Action.makes_bind
    · apply makes_call
      trivial
    intro answer
    apply Action.makes_bind (Action.makes_ofExcept _ _)
    intro updates
    exact works_of_reports (reporting_post a _ _)
  | osUpdateInstall =>
    refine answering_keeps ?_ rfl fun _ => Action.makes_pure _
    apply Action.makes_bind (works_reply _)
    intro acknowledged
    apply Action.makes_bind
    · apply makes_call
      trivial
    intro outcome
    exact works_of_reports (reporting_post a _ _)
  | selfUpdate =>
    refine answering_keeps ?_ rfl fun _ => works_terminate
    apply Action.makes_bind (works_reply _)
    intro acknowledged
    exact Action.makes_attempt (works_updateFor a.version c)

/-! Handlers beside each other. -/

structure Thread where
  guard : Guard
  responder : Responder
  past : List Answered
  rest : Plan Surroundings Bool
  /-- Dropped before its end. -/
  aborted : Bool

def permitAfter (permit : Option Guard) : Answered → Option Guard
  | ⟨.hold g, free⟩ => if free then some g else permit
  | ⟨.release _, _⟩ => none
  | _ => permit

namespace Thread

def begin (g : Guard) (a : Agent) (c : Command) (replyTo : Option String) : Thread :=
  ⟨g, .new replyTo, [], answering (operation g a c), false⟩

/-- The guard that the handler has taken and has not freed. A dropped handler has no permit any more. -/
def permit? (t : Thread) : Option Guard :=
  if t.aborted then none else t.past.foldl permitAfter none

def Acquired (t : Thread) : Prop := ∃ g, ⟨.hold g, true⟩ ∈ t.past

def Ended (t : Thread) : Prop := t.aborted = true ∨ ∃ b, t.rest = .done b

def call (t : Thread) (c : Call) (x : c.Answer) (responder : Responder) (rest : Plan Surroundings Bool) :
    Thread :=
  { t with responder, past := t.past ++ [⟨c, x⟩], rest }

end Thread

structure Pool where
  session : Session
  threads : Nat → Option Thread

namespace Pool

def put (p : Pool) (i : Nat) (t : Thread) (session : Session) : Pool :=
  ⟨session, fun j => if j = i then some t else p.threads j⟩

def freed (s : Session) : Option Guard → Session
  | some g => { s with guards := s.guards.release g }
  | none => s

/-- A handler begins, makes its next call or is dropped, or the rest of the agent, which leaves the guards
alone, does something. -/
inductive Step : Pool → Pool → Prop where
  | spawn {p : Pool} {i : Nat} (g : Guard) (a : Agent) (c : Command) (replyTo : Option String) :
      p.threads i = none → Step p (p.put i (.begin g a c replyTo) p.session)
  | call {p : Pool} {i : Nat} {t : Thread} {c : Call} {next : c.Answer → Plan Surroundings Bool}
      {x : c.Answer} {after : Working} : p.threads i = some t → t.aborted = false →
      t.rest = .perform c next → Acts ⟨p.session, t.responder⟩ c x after →
      Step p (p.put i (t.call c x after.responder (next x)) after.session)
  | abort {p : Pool} {i : Nat} {t : Thread} : p.threads i = some t →
      Step p (p.put i { t with aborted := true } (freed p.session t.permit?))
  | elsewhere {p : Pool} {session : Session} : session.guards = p.session.guards →
      Step p { p with session }

inductive Reachable : Pool → Prop where
  | start {session : Session} : session.guards = .free → Reachable ⟨session, fun _ => none⟩
  | step {p after : Pool} : Reachable p → Step p after → Reachable after

def permit? (p : Pool) (i : Nat) : Option Guard := (p.threads i).bind Thread.permit?

def Holds (p : Pool) (i : Nat) (g : Guard) : Prop := p.permit? i = some g

/-- What single flight means for the handlers of a pool. -/
structure SingleFlight (p : Pool) : Prop where
  single : ∀ g i j, p.Holds i g → p.Holds j g → i = j
  held : ∀ g, p.session.guards.isHeld g = true ↔ ∃ i, p.Holds i g
  own : ∀ i t g, p.threads i = some t → p.Holds i g → g = t.guard
  /-- A handler that has not acquired its guard has done nothing but ask for it and say that it is held,
  and has done so when it has come to its end. -/
  refused : ∀ i t, p.threads i = some t → ¬ t.Acquired →
    ∃ text, t.past.map Sigma.fst <+: .hold t.guard :: refusal t.guard text ∧
      ((∃ b, t.rest = .done b) → 2 ≤ t.past.length)
  /-- A handler that asks for its guard gets it unless another one holds that guard. -/
  granted : ∀ i t g next x after, p.threads i = some t → t.rest = .perform (.hold g) next →
    Acts ⟨p.session, t.responder⟩ (.hold g) x after → (x = true ↔ ¬ ∃ j, p.Holds j g)
  free : (∀ i t, p.threads i = some t → t.Ended) → p.session.guards = .free

end Pool

/-! What the past of a handler tells of where it stands. -/

def Stand.permit (g : Guard) : Stand → Option Guard
  | .holding => some g
  | _ => none

def Accounts (g : Guard) (past : List Answered) (s : Stand) : Prop :=
  past.foldl permitAfter none = s.permit g ∧
  match s with
  | .fresh => past = []
  | .holding => ⟨.hold g, true⟩ ∈ past
  | .released => ⟨.hold g, true⟩ ∈ past
  | .refused calls => past.map Sigma.fst = .hold g :: calls ∧ ∃ text, calls <+: refusal g text

theorem permitAfter_of_works {c : Call} (works : c.Works) (x : c.Answer) (permit : Option Guard) :
    permitAfter permit ⟨c, x⟩ = permit := by
  cases c <;> first | rfl | exact works.elim

theorem works_of_refusal {g : Guard} {text : Wire.Bytes} {calls : List Call} {c : Call}
    (refused : calls ++ [c] <+: refusal g text) : c.Works := by
  have mem : c ∈ refusal g text := refused.subset (List.mem_append_right calls List.mem_cons_self)
  simp only [refusal, List.mem_cons, List.not_mem_nil, or_false] at mem
  rcases mem with rfl | rfl | rfl <;> trivial

theorem accounts_step {g : Guard} {past : List Answered} {s : Stand} {c : Call} (x : c.Answer)
    (before : Accounts g past s) (allowed : s.Allows g c) : Accounts g (past ++ [⟨c, x⟩]) (s.next c x) := by
  obtain ⟨permit, story⟩ := before
  have moved : List.foldl permitAfter none (past ++ [⟨c, x⟩]) = permitAfter (s.permit g) ⟨c, x⟩ := by
    rw [List.foldl_append, permit]
    rfl
  cases s with
  | fresh =>
    cases (show c = .hold g from allowed)
    rw [show past = [] from story]
    cases x with
    | true => exact ⟨rfl, List.mem_cons_self⟩
    | false => exact ⟨rfl, rfl, [], List.nil_prefix⟩
  | holding =>
    have acquired := List.mem_append_left [⟨c, x⟩] story
    rcases allowed with rfl | works
    · exact ⟨moved, acquired⟩
    · rw [next_of_works works x (.inl rfl)]
      exact ⟨moved.trans (permitAfter_of_works works x _), acquired⟩
  | released =>
    have acquired := List.mem_append_left [⟨c, x⟩] story
    rw [next_of_works allowed x (.inr rfl)]
    exact ⟨moved.trans (permitAfter_of_works allowed x _), acquired⟩
  | refused calls =>
    obtain ⟨text, refused⟩ := allowed
    refine ⟨moved.trans (permitAfter_of_works (works_of_refusal refused) x _), ?_, text, refused⟩
    rw [List.map_append, story.1]
    rfl

namespace Thread

def Sound (t : Thread) : Prop :=
  ∃ s, t.rest.Keeps (courseRules t.guard) (fun _ after => after.Over) s ∧ Accounts t.guard t.past s

theorem sound_begin (g : Guard) (a : Agent) (c : Command) (replyTo : Option String) :
    (begin g a c replyTo).Sound := ⟨.fresh, operation_keeps g a c, rfl, rfl⟩

theorem sound_call {t : Thread} {c : Call} {next : c.Answer → Plan Surroundings Bool} (sound : t.Sound)
    (rest : t.rest = .perform c next) (x : c.Answer) (responder : Responder) :
    (t.call c x responder (next x)).Sound := by
  obtain ⟨s, keeps, accounts⟩ := sound
  rw [rest] at keeps
  cases keeps with
  | call allowed later => exact ⟨s.next c x, later x _ rfl, accounts_step x accounts allowed⟩

/-- What a call of a handler is about, and what becomes of its permit. -/
theorem permit_call {t : Thread} {c : Call} {next : c.Answer → Plan Surroundings Bool} (sound : t.Sound)
    (alive : t.aborted = false) (rest : t.rest = .perform c next) (x : c.Answer) (responder : Responder) :
    (∃ free : Bool, (Sigma.mk c x : Answered) = Sigma.mk (.hold t.guard) free ∧ t.permit? = none ∧
      (t.call c x responder (next x)).permit? = if free then some t.guard else none) ∨
    (c = .release t.guard ∧ t.permit? = some t.guard ∧
      (t.call c x responder (next x)).permit? = none) ∨
    (c.Works ∧ (t.call c x responder (next x)).permit? = t.permit?) := by
  obtain ⟨s, keeps, permit, story⟩ := sound
  have now : t.permit? = s.permit t.guard := by
    rw [permit?, alive]
    exact permit
  have later : (t.call c x responder (next x)).permit? = permitAfter (s.permit t.guard) ⟨c, x⟩ := by
    rw [permit?, call, alive, List.foldl_append, permit]
    rfl
  rw [rest] at keeps
  cases keeps with
  | call allowed _ =>
    cases s with
    | fresh =>
      cases (show c = .hold t.guard from allowed)
      exact .inl ⟨_, rfl, now, later⟩
    | holding =>
      rcases allowed with rfl | works
      · exact .inr (.inl ⟨rfl, now, later⟩)
      · exact .inr (.inr ⟨works, later.trans ((permitAfter_of_works works x _).trans now.symm)⟩)
    | released =>
      exact .inr (.inr ⟨allowed, later.trans ((permitAfter_of_works allowed x _).trans now.symm)⟩)
    | refused calls =>
      obtain ⟨text, refused⟩ := allowed
      have works := works_of_refusal refused
      exact .inr (.inr ⟨works, later.trans ((permitAfter_of_works works x _).trans now.symm)⟩)

end Thread

theorem acts_guards {w after : Working} {c : Call} {x : c.Answer} (acts : Acts w c x after) :
    (∀ g free, (⟨c, x⟩ : Answered) = ⟨.hold g, free⟩ →
      free = !w.session.guards.isHeld g ∧ after.session.guards = w.session.guards.set g true) ∧
    (∀ g, c = .release g → after.session.guards = w.session.guards.release g) ∧
    (c.Works → after.session.guards = w.session.guards) := by
  cases c with
  | hold g =>
    obtain ⟨guards, acquired, rfl⟩ := acts
    refine ⟨?_, nofun, fun works => works.elim⟩
    intro other free same
    cases same
    cases acquired
    exact ⟨rfl, rfl⟩
  | release g =>
    refine ⟨nofun, fun other same => ?_, fun works => works.elim⟩
    cases same
    rw [show after = _ from acts]
  | reply payload =>
    obtain ⟨_, _, -, rfl⟩ := acts
    exact ⟨nofun, nofun, fun _ => rfl⟩
  | hasReplied =>
    rw [acts.2]
    exact ⟨nofun, nofun, fun _ => rfl⟩
  | flush =>
    rw [acts.2]
    exact ⟨nofun, nofun, fun _ => rfl⟩
  | tasks c =>
    obtain ⟨_, _, -, rfl⟩ := acts
    exact ⟨nofun, nofun, fun _ => rfl⟩
  | _ =>
    rw [show after = _ from acts]
    exact ⟨nofun, nofun, fun _ => rfl⟩

namespace Pool

/-- The guards are held exactly by the permits of the handlers, each by one. -/
structure Exclusive (p : Pool) : Prop where
  sound : ∀ i t, p.threads i = some t → t.Sound
  held : ∀ g, p.session.guards.isHeld g = true ↔ ∃ i, p.Holds i g
  single : ∀ g i j, p.Holds i g → p.Holds j g → i = j

variable {p after : Pool} {i : Nat} {t : Thread} {session : Session} {g : Guard}

theorem permit?_of_some (there : p.threads i = some t) : p.permit? i = t.permit? := by
  rw [permit?, there]
  rfl

theorem permit?_put (p : Pool) (i j : Nat) (t : Thread) (session : Session) :
    (p.put i t session).permit? j = if j = i then t.permit? else p.permit? j := by
  unfold permit? put
  dsimp only
  split <;> rfl

theorem sound_put (exclusive : p.Exclusive) (sound : t.Sound) :
    ∀ j u, (p.put i t session).threads j = some u → u.Sound := by
  intro j u there
  simp only [put] at there
  split at there
  · cases there
    exact sound
  · exact exclusive.sound j u there

theorem exclusive_of_kept (exclusive : p.Exclusive) (sound : t.Sound) (permit : t.permit? = p.permit? i)
    (guards : session.guards = p.session.guards) : (p.put i t session).Exclusive := by
  have same : ∀ j, (p.put i t session).permit? j = p.permit? j := by
    intro j
    rw [permit?_put]
    split
    · rename_i here
      rw [here]
      exact permit
    · rfl
  refine ⟨sound_put exclusive sound, fun g => ?_, fun g j k => ?_⟩
  · show session.guards.isHeld g = true ↔ _
    simp only [guards, Holds, same]
    exact exclusive.held g
  · simp only [Holds, same]
    exact exclusive.single g j k

theorem exclusive_of_taken (exclusive : p.Exclusive) (sound : t.Sound) (permit : t.permit? = some g)
    (before : p.permit? i = none) (free : p.session.guards.isHeld g = false)
    (guards : session.guards = p.session.guards.set g true) : (p.put i t session).Exclusive := by
  have nobody : ∀ j, p.permit? j ≠ some g := by
    intro j holds
    have held := (exclusive.held g).2 ⟨j, holds⟩
    rw [free] at held
    cases held
  -- the other guards have the holders that they had
  have others : ∀ j other, other ≠ g → ((p.put i t session).permit? j = some other ↔
      p.permit? j = some other) := by
    intro j other differs
    rw [permit?_put]
    split
    · rename_i here
      rw [here, permit, before]
      simp [Ne.symm differs]
    · exact Iff.rfl
  have own : ∀ j, (p.put i t session).permit? j = some g → j = i := by
    intro j holds
    rw [permit?_put] at holds
    split at holds
    · assumption
    · exact absurd holds (nobody j)
  refine ⟨sound_put exclusive sound, fun other => ?_, fun other j k => ?_⟩
  · show session.guards.isHeld other = true ↔ ∃ j, (p.put i t session).permit? j = some other
    rw [guards]
    by_cases same : other = g
    · have here : (p.put i t session).permit? i = some other := by
        rw [permit?_put, if_pos rfl, permit, same]
      exact ⟨fun _ => ⟨i, here⟩, fun _ => if_pos same⟩
    · rw [show (p.session.guards.set g true).isHeld other = _ from if_neg same]
      simp only [others _ other same]
      exact exclusive.held other
  · intro first second
    by_cases same : other = g
    · rw [same] at first second
      exact (own j first).trans (own k second).symm
    · exact exclusive.single other j k ((others j other same).1 first) ((others k other same).1 second)

theorem exclusive_of_freed (exclusive : p.Exclusive) (sound : t.Sound) (permit : t.permit? = none)
    (before : p.permit? i = some g) (guards : session.guards = p.session.guards.release g) :
    (p.put i t session).Exclusive := by
  have same : ∀ j other, (p.put i t session).permit? j = some other ↔
      other ≠ g ∧ p.permit? j = some other := by
    intro j other
    rw [permit?_put]
    split
    · rename_i here
      rw [here, permit, before]
      simp only [reduceCtorEq, Option.some.injEq, false_iff]
      exact fun both => both.1 both.2.symm
    · rename_i elsewhere
      constructor
      · intro holds
        refine ⟨fun equal => elsewhere ?_, holds⟩
        rw [equal] at holds
        exact exclusive.single g j i holds before
      · exact fun both => both.2
  refine ⟨sound_put exclusive sound, fun other => ?_, fun other j k first second => ?_⟩
  · show session.guards.isHeld other = true ↔ ∃ j, (p.put i t session).permit? j = some other
    rw [guards]
    simp only [same]
    by_cases equal : other = g
    · rw [show (p.session.guards.release g).isHeld other = _ from if_pos equal]
      exact ⟨fun held => (by cases held), fun ⟨_, differs, _⟩ => absurd equal differs⟩
    · rw [show (p.session.guards.release g).isHeld other = _ from if_neg equal]
      refine (exclusive.held other).trans ?_
      exact ⟨fun ⟨j, holds⟩ => ⟨j, equal, holds⟩, fun ⟨j, _, holds⟩ => ⟨j, holds⟩⟩
  · exact exclusive.single other j k ((same j other).1 first).2 ((same k other).1 second).2

theorem exclusive_step (exclusive : p.Exclusive) (step : Step p after) : after.Exclusive := by
  cases step with
  | @spawn i g a c replyTo vacant =>
    refine exclusive_of_kept exclusive (Thread.sound_begin g a c replyTo) ?_ rfl
    rw [permit?, vacant]
    rfl
  | @call i t c next x after there alive rest acts =>
    have before := exclusive.sound i t there
    have sound := Thread.sound_call before rest x after.responder
    have permit := permit?_of_some there
    obtain ⟨asked, freed, worked⟩ := acts_guards acts
    rcases Thread.permit_call before alive rest x after.responder with
      ⟨free, same, none, taken⟩ | ⟨rfl, had, given⟩ | ⟨works, kept⟩
    · obtain ⟨answer, guards⟩ := asked _ free same
      cases held : p.session.guards.isHeld t.guard with
      | false =>
        rw [answer, held] at taken
        exact exclusive_of_taken exclusive sound taken (permit.trans none) held guards
      | true =>
        rw [answer, held] at taken
        refine exclusive_of_kept exclusive sound (taken.trans (permit.trans none).symm) ?_
        rw [guards, GuardSet.set_of_held held]
    · exact exclusive_of_freed exclusive sound given (permit.trans had) (freed t.guard rfl)
    · exact exclusive_of_kept exclusive sound (kept.trans permit.symm) (worked works)
  | @abort i t there =>
    have sound : Thread.Sound { t with aborted := true } := exclusive.sound i t there
    have permit := permit?_of_some there
    cases had : t.permit? with
    | none => exact exclusive_of_kept exclusive sound (permit.trans had).symm rfl
    | some g => exact exclusive_of_freed exclusive sound rfl (permit.trans had) rfl
  | elsewhere guards =>
    refine ⟨exclusive.sound, fun g => ?_, exclusive.single⟩
    rw [guards]
    exact exclusive.held g

theorem exclusive_of_reachable (reachable : p.Reachable) : p.Exclusive := by
  induction reachable with
  | start free =>
    refine ⟨nofun, fun g => ?_, nofun⟩
    rw [free]
    exact ⟨nofun, nofun⟩
  | step _ step ih => exact exclusive_step ih step

theorem thread_of_holds (holds : p.Holds i g) :
    ∃ t, p.threads i = some t ∧ t.aborted = false ∧ t.past.foldl permitAfter none = some g := by
  obtain ⟨t, there, permit⟩ := Option.bind_eq_some_iff.1 holds
  unfold Thread.permit? at permit
  cases aborted : t.aborted with
  | true =>
    rw [aborted] at permit
    cases permit
  | false =>
    rw [aborted] at permit
    exact ⟨t, there, aborted, permit⟩

theorem stand_of_permit {s : Stand} {h : Guard} (permit : s.permit h = some g) :
    s = .holding ∧ g = h := by
  cases s with
  | holding =>
    cases permit
    exact ⟨rfl, rfl⟩
  | _ => cases permit

/-- However the handlers of the guarded operations take turns, and wherever they fail or are dropped,
they fly single. -/
theorem singleFlight_of_reachable (reachable : p.Reachable) : p.SingleFlight := by
  have exclusive := exclusive_of_reachable reachable
  refine ⟨exclusive.single, exclusive.held, ?_, ?_, ?_, ?_⟩
  · intro i t g there holds
    obtain ⟨u, here, -, permit⟩ := thread_of_holds holds
    cases here.symm.trans there
    obtain ⟨s, -, accounts, -⟩ := exclusive.sound i t there
    exact (stand_of_permit (accounts.symm.trans permit)).2
  · intro i t there idle
    obtain ⟨s, keeps, -, story⟩ := exclusive.sound i t there
    cases s with
    | fresh =>
      rw [show t.past = [] from story]
      refine ⟨[], List.nil_prefix, fun ⟨b, ended⟩ => ?_⟩
      rw [ended] at keeps
      cases keeps with
      | done none => exact none.elim
    | holding => exact absurd ⟨t.guard, story⟩ idle
    | released => exact absurd ⟨t.guard, story⟩ idle
    | refused calls =>
      obtain ⟨made, text, refused⟩ := story
      refine ⟨text, ?_, fun ⟨b, ended⟩ => ?_⟩
      · rw [made]
        exact List.cons_prefix_cons.2 ⟨rfl, refused⟩
      · rw [ended] at keeps
        cases keeps with
        | done told =>
          have length := congrArg List.length made
          rw [List.length_map, List.length_cons] at length
          have positive := List.length_pos_iff.2 told
          omega
  · intro i t g next x after there rest acts
    obtain ⟨answer, -⟩ := (acts_guards acts).1 g x rfl
    rw [answer, ← exclusive.held g]
    simp
  · intro ended
    refine GuardSet.ext fun g => ?_
    show p.session.guards.isHeld g = false
    rw [Bool.eq_false_iff]
    intro held
    obtain ⟨i, holds⟩ := (exclusive.held g).1 held
    obtain ⟨t, there, alive, permit⟩ := thread_of_holds holds
    rcases ended i t there with aborted | ⟨b, ended⟩
    · rw [alive] at aborted
      cases aborted
    · obtain ⟨s, keeps, accounts, -⟩ := exclusive.sound i t there
      obtain ⟨rfl, -⟩ := stand_of_permit (accounts.symm.trans permit)
      rw [ended] at keeps
      cases keeps with
      | done none => exact none.elim

theorem singleFlight_twoUpdates : ∃ p : Pool, p.Reachable ∧ p.SingleFlight ∧ p.Holds 0 .selfUpdate ∧
    ∃ t, p.threads 1 = some t ∧ ¬ t.Acquired ∧ t.past = [⟨.hold .selfUpdate, false⟩] := by
  have start : Reachable ⟨idleSession, fun _ => none⟩ := .start rfl
  have first := start.step (.spawn (i := 0) .selfUpdate idleAgent (.named "agent-self-update") none rfl)
  have second := first.step (.spawn (i := 1) .selfUpdate idleAgent (.named "agent-self-update") none rfl)
  have taken := second.step (.call (i := 0) rfl rfl rfl ⟨_, rfl, rfl⟩)
  have refused := taken.step (.call (i := 1) rfl rfl rfl ⟨_, rfl, rfl⟩)
  refine ⟨_, refused, singleFlight_of_reachable refused, rfl, _, rfl, ?_, rfl⟩
  rintro ⟨g, mem⟩
  cases (List.mem_singleton.1 mem : (⟨.hold g, true⟩ : Answered) = ⟨.hold .selfUpdate, false⟩)

end Pool
end Steward.Agent
