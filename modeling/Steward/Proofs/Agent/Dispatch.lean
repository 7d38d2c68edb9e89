import Steward.Agent.Serving
import Steward.Proofs.Agent.SingleFlight

/-!
Messages that are dropped. One that is no command, or that names none of the table, leaves no trace: with
it and without it the same commands begin for the same reply subjects, and their handlers, which work beside
each other one call at a time in any order, find and leave the same. What is published goes where a message
that was worked on wants its answer.
-/
namespace Steward.Agent

open Steward.Bus Steward.Message

/-- `ys` is `xs` but for some that may go. -/
inductive Thinned (mayGo : α → Prop) : List α → List α → Prop where
  | nil : Thinned mayGo [] []
  | keep (x : α) {xs ys : List α} : Thinned mayGo xs ys → Thinned mayGo (x :: xs) (x :: ys)
  | leave {x : α} {xs ys : List α} : mayGo x → Thinned mayGo xs ys → Thinned mayGo (x :: xs) ys

namespace Thinned
variable {mayGo : α → Prop} {xs ys : List α}

theorem of_nil (thinned : Thinned mayGo xs []) : ∀ x ∈ xs, mayGo x := by
  induction xs with
  | nil => simp
  | cons x xs ih =>
    cases thinned with
    | leave goes thinned => exact List.forall_mem_cons.2 ⟨goes, ih thinned⟩

theorem of_cons {y : α} (thinned : Thinned mayGo xs (y :: ys)) :
    ∃ front more, xs = front ++ y :: more ∧ (∀ x ∈ front, mayGo x) ∧ Thinned mayGo more ys := by
  induction xs with
  | nil => cases thinned
  | cons x xs ih =>
    cases thinned with
    | keep _ thinned => exact ⟨[], xs, rfl, by simp, thinned⟩
    | leave goes thinned =>
      obtain ⟨front, more, rfl, all, thinned⟩ := ih thinned
      exact ⟨x :: front, more, rfl, List.forall_mem_cons.2 ⟨goes, all⟩, thinned⟩

end Thinned

/-- The message is no command, or one whose name is not in the table. -/
def Dropped (table : List (String × Handler)) (d : Delivery) : Prop :=
  ∀ c : Command, Wire.decode? d.payload = some c → ∀ entry ∈ table, entry.1 ≠ c.name

theorem dropped_iff {table : List (String × Handler)} {d : Delivery} (a : Agent) :
    Dropped table d ↔ workOn? table a d.payload = none := by
  have unnamed (c : Command) : (∀ entry ∈ table, entry.1 ≠ c.name) ↔ table.lookup c.name = none := by
    rw [List.lookup_eq_none_iff]
    simp [ne_comm]
  constructor
  · intro dropped
    cases decoded : (Wire.decode? d.payload : Option Command) with
    | none => simp [workOn?, decoded]
    | some c => simp [workOn?, decoded, (unnamed c).1 (dropped c decoded)]
  · intro none c decoded
    rw [unnamed, Option.eq_none_iff_forall_ne_some]
    simpa [workOn?, decoded] using none

/-! Handlers beside each other. -/

structure Worker where
  command : Command
  responder : Responder
  past : List Answered
  rest : Plan Surroundings Bool
  /-- Stopped before its end. -/
  aborted : Bool

namespace Worker

def called (w : Worker) (x : Answered) (responder : Responder) (rest : Plan Surroundings Bool) : Worker :=
  { w with responder, past := w.past ++ [x], rest }

def permit? (w : Worker) : Option Guard := w.past.foldl permitAfter none

end Worker

def worker? (table : List (String × Handler)) (a : Agent) (d : Delivery) : Option Worker := do
  let work ← workOn? table a d.payload
  let command : Command ← Wire.decode? d.payload
  return ⟨command, .new d.reply, [], work, false⟩

theorem worker?_eq_none_iff {table : List (String × Handler)} {d : Delivery} (a : Agent) :
    worker? table a d = none ↔ Dropped table d := by
  rw [dropped_iff a]
  cases found : workOn? table a d.payload with
  | none => simp [worker?, found]
  | some work =>
    obtain ⟨c, decoded, -⟩ := Option.bind_eq_some_iff.1 found
    simp [worker?, found, decoded]

theorem replyTo_of_worker? {table : List (String × Handler)} {a : Agent} {d : Delivery} {w : Worker}
    (begun : worker? table a d = some w) : w.responder.replyTo = d.reply := by
  obtain ⟨work, -, rest⟩ := Option.bind_eq_some_iff.1 begun
  obtain ⟨c, -, same⟩ := Option.bind_eq_some_iff.1 rest
  cases same
  rfl

structure Dispatch where
  session : Session
  /-- In the order in which they began. -/
  workers : List Worker
  /-- What the handlers have published. -/
  published : List Delivery
  taking : Bool

inductive Event where
  | began (command : Command) (replyTo : Option String)
  | called (worker : Nat) (x : Answered)
  | aborted (worker : Nat)
  | elsewhere
  | stopped

namespace Dispatch

def opened (session : Session) : Dispatch := ⟨session, [], [], true⟩

def take (table : List (String × Handler)) (a : Agent) (s : Dispatch) (d : Delivery) : Dispatch × List Event :=
  match worker? table a d with
  | some w => ({ s with workers := s.workers ++ [w] }, [.began w.command w.responder.replyTo])
  | none => (s, [])

/-- What happens beside the taking of messages, of which some are waiting. The rest of the agent may do
anything to the session. Taking ends when the agent stops, and when no more messages can come. -/
inductive Step (waiting : List Delivery) : Dispatch → Event → Dispatch → Prop where
  | call {s : Dispatch} {i : Nat} {w : Worker} {c : Call} {x : c.Answer}
      {next : c.Answer → Plan Surroundings Bool} {after : Working} :
      s.workers[i]? = some w → w.aborted = false → w.rest = .perform c next →
      Acts ⟨s.session, w.responder⟩ c x after →
      Step waiting s (.called i ⟨c, x⟩)
        { s with
          session := after.session
          workers := s.workers.set i (w.called ⟨c, x⟩ after.responder (next x))
          published := s.published ++ posted w.responder c x }
  | abort {s : Dispatch} {i : Nat} {w : Worker} : s.workers[i]? = some w → w.aborted = false →
      Step waiting s (.aborted i)
        { s with
          session := Pool.freed s.session w.permit?
          workers := s.workers.set i { w with aborted := true } }
  | elsewhere {s : Dispatch} (session : Session) : Step waiting s .elsewhere { s with session }
  | stop {s : Dispatch} : s.taking = true → s.session.stopping = true →
      Step waiting s .stopped { s with taking := false }
  | close {s : Dispatch} : s.taking = true → waiting = [] → Step waiting s .stopped { s with taking := false }

/-- A course of a dispatch: the messages that are waiting before and after, and all that is seen. -/
inductive Runs (table : List (String × Handler)) (a : Agent) :
    List Delivery → Dispatch → List Event → List Delivery → Dispatch → Prop where
  | here (ds : List Delivery) (s : Dispatch) : Runs table a ds s [] ds s
  | take {d : Delivery} {ds left : List Delivery} {s after : Dispatch} {es : List Event} : s.taking = true →
      Runs table a ds (s.take table a d).1 es left after →
      Runs table a (d :: ds) s ((s.take table a d).2 ++ es) left after
  | step {ds left : List Delivery} {s next after : Dispatch} {e : Event} {es : List Event} :
      Step ds s e next → Runs table a ds next es left after → Runs table a ds s (e :: es) left after

section
variable {table : List (String × Handler)} {a : Agent} {ds ds' left : List Delivery} {s after : Dispatch}
  {e : Event} {es : List Event}

theorem take_dropped {d : Delivery} (dropped : Dropped table d) (s : Dispatch) :
    s.take table a d = (s, []) := by
  rw [take, (worker?_eq_none_iff a).2 dropped]

theorem Step.anyway (step : Step ds s e after) :
    (∀ others, Step others s e after) ∨ (ds = [] ∧ s.taking = true) := by
  cases step with
  | call there alive next acts => exact .inl fun _ => .call there alive next acts
  | abort there alive => exact .inl fun _ => .abort there alive
  | elsewhere session => exact .inl fun _ => .elsewhere session
  | stop taking stopping => exact .inl fun _ => .stop taking stopping
  | close taking empty => exact .inr ⟨empty, taking⟩

theorem Runs.drops {front : List Delivery} (taking : s.taking = true) (all : ∀ d ∈ front, Dropped table d)
    (runs : Runs table a ds s es left after) : Runs table a (front ++ ds) s es left after := by
  induction front with
  | nil => exact runs
  | cons d front ih =>
    obtain ⟨dropped, all⟩ := List.forall_mem_cons.1 all
    have unseen := take_dropped (a := a) dropped s
    have taken : Runs table a (d :: (front ++ ds)) s ((s.take table a d).2 ++ es) left after :=
      .take taking (by rw [unseen]; exact ih all)
    rwa [unseen] at taken

/-- Without messages that are dropped anyway, a dispatch goes the same course. -/
theorem Runs.thinned (runs : Runs table a ds s es left after) (thinned : Thinned (Dropped table) ds ds') :
    ∃ left', Runs table a ds' s es left' after := by
  induction runs generalizing ds' with
  | here ds s => exact ⟨ds', .here ds' s⟩
  | take taking rest ih =>
    cases thinned with
    | keep d thinned =>
      obtain ⟨left', runs⟩ := ih thinned
      exact ⟨left', .take taking runs⟩
    | leave dropped thinned =>
      rw [take_dropped dropped] at ih ⊢
      exact ih thinned
  | step step rest ih =>
    obtain ⟨left', runs⟩ := ih thinned
    rcases step.anyway with goes | ⟨rfl, -⟩
    · exact ⟨left', .step (goes ds') runs⟩
    · cases thinned
      exact ⟨left', .step step runs⟩

/-- With them it goes the same course too: they are dropped before the next message is taken. -/
theorem Runs.thickened (runs : Runs table a ds' s es left after) (thinned : Thinned (Dropped table) ds ds') :
    ∃ left', Runs table a ds s es left' after := by
  induction runs generalizing ds with
  | here ds' s => exact ⟨ds, .here ds s⟩
  | take taking rest ih =>
    obtain ⟨front, more, rfl, all, thinned⟩ := thinned.of_cons
    obtain ⟨left', runs⟩ := ih thinned
    exact ⟨left', .drops taking all (.take taking runs)⟩
  | step step rest ih =>
    rcases step.anyway with goes | ⟨rfl, taking⟩
    · obtain ⟨left', runs⟩ := ih thinned
      exact ⟨left', .step (goes ds) runs⟩
    · obtain ⟨left', runs⟩ := ih .nil
      have course := Runs.drops taking thinned.of_nil (.step step runs)
      rw [List.append_nil] at course
      exact ⟨left', course⟩

end

/-! What is published. -/

structure Addressed (table : List (String × Handler)) (ds : List Delivery) (s : Dispatch) : Prop where
  workers : ∀ w ∈ s.workers, ∀ subject, w.responder.replyTo = some subject →
    ∃ d ∈ ds, ¬ Dropped table d ∧ d.reply = some subject
  published : ∀ m ∈ s.published, ∃ d ∈ ds, ¬ Dropped table d ∧ d.reply = some m.subject

theorem replyTo_of_acts {w after : Working} {c : Call} {x : c.Answer} (acts : Acts w c x after) :
    after.responder.replyTo = w.responder.replyTo := by
  by_cases isReply : ∃ payload, c = .reply payload
  · obtain ⟨payload, rfl⟩ := isReply
    obtain ⟨r, t, sent, rfl⟩ := acts
    rcases send_cases sent with ⟨-, rfl, -, -⟩ | ⟨_, -, rfl, -⟩
    · rfl
    · rfl
  · rw [acts_responder (fun payload same => isReply ⟨payload, same⟩) acts]

theorem replyTo_of_posted {r : Responder} {c : Call} {x : c.Answer} {m : Delivery} (mem : m ∈ posted r c x) :
    r.replyTo = some m.subject := by
  unfold posted at mem
  split at mem
  · obtain ⟨subject, addressee, rfl⟩ := List.mem_map.1 mem
    exact Option.mem_toList.1 addressee
  · cases mem

section
variable {table : List (String × Handler)} {a : Agent} {all ds left : List Delivery} {s after : Dispatch}
  {e : Event} {es : List Event}

theorem Addressed.take (addressed : Addressed table all s) {d : Delivery} (here : d ∈ all) :
    Addressed table all (s.take table a d).1 := by
  cases begun : worker? table a d with
  | none =>
    rw [take_dropped ((worker?_eq_none_iff a).1 begun)]
    exact addressed
  | some w =>
    have worked : ¬ Dropped table d := by
      rw [← worker?_eq_none_iff a, begun]
      simp
    rw [Dispatch.take, begun]
    refine ⟨fun v mem subject target => ?_, addressed.published⟩
    rcases List.mem_append.1 mem with old | new
    · exact addressed.workers v old subject target
    · rw [List.mem_singleton.1 new, replyTo_of_worker? begun] at target
      exact ⟨d, here, worked, target⟩

theorem Addressed.step (addressed : Addressed table all s) (step : Step ds s e after) :
    Addressed table all after := by
  cases step with
  | call there alive next acts =>
    have mem := List.mem_of_getElem? there
    refine ⟨fun w changed subject target => ?_, fun m posted => ?_⟩
    · rcases List.mem_or_eq_of_mem_set changed with old | rfl
      · exact addressed.workers w old subject target
      · exact addressed.workers _ mem subject ((replyTo_of_acts acts).symm.trans target)
    · rcases List.mem_append.1 posted with old | new
      · exact addressed.published m old
      · exact addressed.workers _ mem m.subject (replyTo_of_posted new)
  | abort there alive =>
    have mem := List.mem_of_getElem? there
    refine ⟨fun w changed subject target => ?_, addressed.published⟩
    rcases List.mem_or_eq_of_mem_set changed with old | rfl
    · exact addressed.workers w old subject target
    · exact addressed.workers _ mem subject target
  | elsewhere session => exact ⟨addressed.workers, addressed.published⟩
  | stop taking stopping => exact ⟨addressed.workers, addressed.published⟩
  | close taking empty => exact ⟨addressed.workers, addressed.published⟩

theorem Runs.addressed (runs : Runs table a ds s es left after) (here : ∀ d ∈ ds, d ∈ all)
    (addressed : Addressed table all s) : Addressed table all after := by
  induction runs with
  | here ds s => exact addressed
  | take taking rest ih =>
    obtain ⟨first, more⟩ := List.forall_mem_cons.1 here
    exact ih more (addressed.take first)
  | step step rest ih => exact ih here (addressed.step step)

theorem addressed_opened (table : List (String × Handler)) (all : List Delivery) (session : Session) :
    Addressed table all (opened session) := ⟨by simp [opened], by simp [opened]⟩

end
end Dispatch

/-! The rehearsed serving. -/

inductive Occasion where
  | send (number : Nat) (d : Delivery)
  | pass (secs : Nat)
  | close
  | beginStop
  | conclude

def Occasion.IsDropped (table : List (String × Handler)) : Occasion → Prop
  | .send _ d => Dropped table d
  | _ => False

namespace Serving

def meet (r : Repertoire) (scene : Scene) (s : Serving) : Occasion → Serving
  | .send number d => s.send number d
  | .pass secs => s.pass r scene secs
  | .close => s.close
  | .beginStop => s.beginStop
  | .conclude => s.conclude r scene

def awaiting (s : Serving) (ps : List (Nat × Delivery)) : Serving := { s with pending := ps }

def flights (r : Repertoire) (a : Agent) (second : Nat) (ps : List (Nat × Delivery)) : List Flight :=
  ps.filterMap fun (number, d) => flight? r a second number d

/-- The servings are the same but for waiting messages that are dropped. -/
structure Alike (r : Repertoire) (a : Agent) (s s' : Serving) : Prop where
  same : s' = s.awaiting s'.pending
  flights : ∀ second, flights r a second s'.pending = flights r a second s.pending

def shifted (s : Serving) : Serving :=
  let phase := s.shift
  match phase with
  | .ended _ => { s with phase, inFlight := [] }
  | _ => { s with phase }

section
variable {r : Repertoire} {scene : Scene} {s s' : Serving}

theorem settle_of_taking (taking : s.phase = .taking) :
    s.settle r scene = ((s.take r scene.agent).landDue scene).shifted := by
  unfold settle
  rw [if_pos taking]
  rfl

theorem settle_of_not_taking (deaf : s.phase ≠ .taking) : s.settle r scene = (s.landDue scene).shifted := by
  unfold settle
  rw [if_neg deaf]
  rfl

theorem landDue_awaiting (scene : Scene) (s : Serving) (ps : List (Nat × Delivery)) :
    (s.awaiting ps).landDue scene = (s.landDue scene).awaiting ps := by
  have landed (fs : List Flight) (s : Serving) :
      fs.foldl (land scene) (s.awaiting ps) = (fs.foldl (land scene) s).awaiting ps := by
    induction fs generalizing s with
    | nil => rfl
    | cons f fs ih => exact ih (land scene s f)
  let due := s.inFlight.partition (·.due ≤ s.second)
  exact landed due.1 { s with inFlight := due.2 }

theorem shifted_awaiting (s : Serving) (ps : List (Nat × Delivery)) :
    (s.awaiting ps).shifted = s.shifted.awaiting ps := by
  have same : (s.awaiting ps).shift = s.shift := rfl
  simp only [shifted, same]
  cases s.shift <;> rfl

theorem settle_awaiting (deaf : s.phase ≠ .taking) (ps : List (Nat × Delivery)) :
    (s.awaiting ps).settle r scene = (s.settle r scene).awaiting ps := by
  rw [settle_of_not_taking (s := s.awaiting ps) deaf, settle_of_not_taking deaf, landDue_awaiting, shifted_awaiting]

theorem pending_settle (deaf : s.phase ≠ .taking) : (s.settle r scene).pending = s.pending := by
  have kept : s.settle r scene = (s.settle r scene).awaiting s.pending := settle_awaiting deaf s.pending
  rw [kept]
  rfl

theorem take_alike (alike : Alike r scene.agent s s') : s'.take r scene.agent = s.take r scene.agent := by
  have flights := alike.flights s.second
  unfold Serving.flights at flights
  calc s'.take r scene.agent = (s.awaiting s'.pending).take r scene.agent := congrArg (·.take r scene.agent) alike.same
    _ = s.take r scene.agent := by simp only [take, awaiting, flights]

theorem Alike.settle (alike : Alike r scene.agent s s') :
    Alike r scene.agent (s.settle r scene) (s'.settle r scene) := by
  have phase : s'.phase = s.phase := by
    rw [alike.same]
    rfl
  by_cases taking : s.phase = .taking
  · have settled : s'.settle r scene = s.settle r scene := by
      rw [settle_of_taking taking, settle_of_taking (phase.trans taking), take_alike alike]
    rw [settled]
    exact ⟨rfl, fun _ => rfl⟩
  · have deaf : s'.phase ≠ .taking := fun same => taking (phase.symm.trans same)
    refine ⟨?_, fun second => ?_⟩
    · rw [pending_settle deaf]
      exact (congrArg (·.settle r scene) alike.same).trans (settle_awaiting taking s'.pending)
    · rw [pending_settle deaf, pending_settle taking]
      exact alike.flights second

theorem Alike.of_frame (alike : Alike r scene.agent s s') (f : Serving → Serving)
    (frame : ∀ s ps, f (s.awaiting ps) = (f s).awaiting ps) (pending : ∀ s, (f s).pending = s.pending) :
    Alike r scene.agent (f s) (f s') := by
  refine ⟨?_, fun second => ?_⟩
  · rw [pending s']
    exact (congrArg f alike.same).trans (frame s s'.pending)
  · rw [pending, pending]
    exact alike.flights second

theorem Alike.pass (secs : Nat) (alike : Alike r scene.agent s s') :
    Alike r scene.agent (s.pass r scene secs) (s'.pass r scene secs) := by
  induction secs generalizing s s' with
  | zero => exact alike
  | succ secs ih =>
    have later := alike.settle.of_frame (fun s => { s with second := s.second + 1 }) (fun _ _ => rfl) fun _ => rfl
    exact ih later.settle

theorem Alike.send (alike : Alike r scene.agent s s') (number : Nat) (d : Delivery) :
    Alike r scene.agent (s.send number d) (s'.send number d) := by
  refine ⟨?_, fun second => ?_⟩
  · exact congrArg (·.send number d) alike.same
  · have before := alike.flights second
    unfold Serving.flights at before ⊢
    simp only [Serving.send, List.filterMap_append, before]

theorem Alike.dropped (alike : Alike r scene.agent s s') {d : Delivery} (dropped : Dropped r.table d) (number : Nat) :
    Alike r scene.agent (s.send number d) s' := by
  have nothing : workOn? r.table scene.agent d.payload = none := (dropped_iff scene.agent).1 dropped
  refine ⟨alike.same, fun second => ?_⟩
  rw [alike.flights second]
  unfold Serving.flights
  simp [Serving.send, List.filterMap_append, flight?, nothing]

theorem Alike.meet (alike : Alike r scene.agent s s') (o : Occasion) :
    Alike r scene.agent (s.meet r scene o) (s'.meet r scene o) := by
  cases o with
  | send number d => exact alike.send number d
  | pass secs => exact alike.pass secs
  | close => exact alike.of_frame close (fun _ _ => rfl) fun _ => rfl
  | beginStop => exact alike.of_frame beginStop (fun _ _ => rfl) fun _ => rfl
  | conclude => exact alike.settle.pass shutdownGraceSecs

theorem alike_thinned {os os' : List Occasion} (alike : Alike r scene.agent s s')
    (thinned : Thinned (Occasion.IsDropped r.table) os os') :
    Alike r scene.agent (os.foldl (meet r scene) s) (os'.foldl (meet r scene) s') := by
  induction thinned generalizing s s' with
  | nil => exact alike
  | keep o thinned ih => exact ih (alike.meet o)
  | @leave o _ _ dropped thinned ih =>
    cases o with
    | send number d => exact ih (alike.dropped dropped number)
    | _ => exact dropped.elim

end
end Serving

/-- Whatever the table and the agent: a dispatch goes the same courses with messages that are dropped and
without them, and so does a rehearsed serving. What a dispatch publishes is what it puts on the bus, and it
answers messages that were worked on, so nothing is published for one that is dropped. -/
theorem dropped_invisible (table : List (String × Handler)) (a : Agent) :
    (∀ ds ds', Thinned (Dropped table) ds ds' → ∀ s es after,
      (∃ left, Dispatch.Runs table a ds s es left after) ↔ ∃ left, Dispatch.Runs table a ds' s es left after) ∧
    (∀ ds s i x after, Dispatch.Step ds s (.called i x) after →
      ∃ new, after.published = s.published ++ new ∧
        after.session.transport.bus = new.foldl Memory.publish s.session.transport.bus) ∧
    (∀ ds session es left after, Dispatch.Runs table a ds (.opened session) es left after →
      ∀ m ∈ after.published, ∃ d ∈ ds, ¬ Dropped table d ∧ d.reply = some m.subject) ∧
    (∀ secs scene stage os os', Thinned (Occasion.IsDropped table) os os' →
      let served := fun os => os.foldl (Serving.meet ⟨table, secs⟩ scene) (.start stage)
      served os' = (served os).awaiting (served os').pending) := by
  refine ⟨fun ds ds' thinned s es after => ?_, fun ds s i x after step => ?_,
    fun ds session es left after runs => ?_, fun secs scene stage os os' thinned => ?_⟩
  · constructor
    · rintro ⟨left, runs⟩
      exact runs.thinned thinned
    · rintro ⟨left, runs⟩
      exact runs.thickened thinned
  · cases step with
    | call there alive next acts => exact ⟨_, rfl, (acts_transport acts).1⟩
  · exact (runs.addressed (fun _ mem => mem) (Dispatch.addressed_opened table ds session)).published
  · exact (Serving.alike_thinned ⟨rfl, fun _ => rfl⟩ thinned).same

def strayMessages : List Delivery :=
  [⟨"agent", some "lost", [0xc1]⟩,
    ⟨"agent", some "lost", [0x81, 0xa4, 0x66, 0x75, 0x6e, 0x63, 0xa4, 0x50, 0x69, 0x6e, 0x67]⟩,
    ⟨"agent", none, [0x81, 0xa4, 0x66, 0x75, 0x6e, 0x63, 0xa4, 0x70, 0x69]⟩]

theorem thinned_strayMessages :
    Thinned (Dropped Handler.table) (strayMessages ++ [pingMessage]) [pingMessage] := by
  have stray : ∀ d ∈ strayMessages, Dropped Handler.table d := by
    simp only [strayMessages, List.forall_mem_cons, dropped_iff idleAgent]
    exact ⟨rfl, rfl, rfl, by simp⟩
  exact .leave (stray _ (by simp [strayMessages])) (.leave (stray _ (by simp [strayMessages]))
    (.leave (stray _ (by simp [strayMessages])) (.keep _ .nil)))

theorem dropped_invisible_strayMessages : ∃ left after,
    Dispatch.Runs Handler.table idleAgent (strayMessages ++ [pingMessage]) (.opened idleSession)
      [.began (.named "ping") (some "replies"), .called 0 ⟨.reply (Wire.encode "pong"), .ok true⟩] left after ∧
    after.published = [⟨"replies", none, Wire.encode "pong"⟩] ∧
    ∀ m ∈ after.published, ∃ d ∈ strayMessages ++ [pingMessage],
      ¬ Dropped Handler.table d ∧ d.reply = some m.subject := by
  have alone : Dispatch.Runs Handler.table idleAgent [pingMessage] (.opened idleSession)
      [.began (.named "ping") (some "replies"), .called 0 ⟨.reply (Wire.encode "pong"), .ok true⟩] [] _ :=
    .take rfl (.step (.call rfl rfl rfl ⟨_, _, rfl, rfl⟩) (.here _ _))
  obtain ⟨courses, -, answers, -⟩ := dropped_invisible Handler.table idleAgent
  obtain ⟨left, runs⟩ := (courses _ _ thinned_strayMessages _ _ _).2 ⟨_, alone⟩
  exact ⟨left, _, runs, rfl, answers _ _ _ _ _ runs⟩

end Steward.Agent
