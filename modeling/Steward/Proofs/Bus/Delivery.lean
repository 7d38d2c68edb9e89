import Steward.Proofs.Bus.Memory
import Steward.Proofs.Bus.Switchboard

/-!
The memory bus delivers like independent bounded queues: what a receiver finds is decided by the messages
on its subject and by what is done with its own queue. A receiver that is live gets the messages for which
there was room, and a request leaves nobody on its inbox.
-/
namespace Steward.Bus

def publishedOn (subject : String) (steps : List Step) : List Delivery :=
  steps.filterMap fun
    | .publish d => if d.subject = subject then some d else none
    | _ => none

theorem puts_history (n : Nat) (subject : String) (steps : List Step) :
    puts (history n subject steps) = publishedOn subject steps := by
  induction steps with
  | nil => rfl
  | cons step rest ih =>
    have one : puts (ownMoves n subject step) = publishedOn subject [step] := by
      cases step with
      | publish d => by_cases own : d.subject = subject <;> simp [puts, publishedOn, ownMoves, own]
      | retire inbox id =>
        by_cases own : id = n <;> by_cases same : inbox = subject <;>
          simp [puts, publishedOn, ownMoves, own, same]
      | receive id | close id | drop id =>
        by_cases own : id = n <;> simp [puts, publishedOn, ownMoves, own]
      | subscribe other | count other => rfl
    have split : publishedOn subject (step :: rest) = publishedOn subject [step] ++ publishedOn subject rest :=
      List.filterMap_append (l := [step])
    rw [split, ← one, ← ih, history, List.flatMap_cons, puts, List.filterMap_append]
    rfl

namespace Listeners
variable {k n : Nat} {ls : Listeners} {subject : String}

theorem subscribed_fresh (given : (ls.serve k (.subscribe subject)).2 = .subscribed n) :
    (ls.serve k (.subscribe subject)).1 = ls ++ [⟨subject, .fresh⟩] ∧ n = ls.length := by
  simp only [serve] at given ⊢
  split at given
  · cases given
  case isFalse room =>
    injection given with number
    rw [if_neg room]
    exact ⟨rfl, number.symm⟩

theorem origin {steps : List Step} {l : Listener} (there : (ls.after k steps)[n]? = some l) :
    n < ls.length ∨ ∃ before later, steps = before ++ .subscribe l.subject :: later ∧
      ((ls.after k before).serve k (.subscribe l.subject)).2 = .subscribed n := by
  induction steps generalizing ls with
  | nil => exact .inl (List.getElem?_eq_some_iff.1 there).1
  | cons step rest ih =>
    rw [after_cons] at there
    rcases ih there with known | ⟨before, later, rfl, given⟩
    · cases step with
      | subscribe other =>
        by_cases room : k = 0 ∨ Memory.maxCapacity < k
        · simp only [serve, if_pos room] at known
          exact .inl known
        · have next : (ls.serve k (.subscribe other)).1 = ls ++ [⟨other, .fresh⟩] := by
            simp only [serve, if_neg room]
          rw [next, List.length_append, List.length_singleton] at known
          rcases Nat.lt_succ_iff_lt_or_eq.1 known with old | rfl
          · exact .inl old
          · have new : (ls.serve k (.subscribe other)).1[ls.length]? = some ⟨other, .fresh⟩ := by
              simp [next]
            have same : l.subject = other := by
              cases there.symm.trans (getElem?_after new rest)
              rfl
            refine .inr ⟨[], rest, by rw [same]; rfl, ?_⟩
            simp only [after, stateAfter, List.foldl_nil, serve, if_neg room]
      | _ => exact .inl (by simpa [serve, length_move] using known)
    · exact .inr ⟨step :: before, later, rfl, given⟩

end Listeners

/-- The receiver of number `n` subscribed to the subject in the course of the steps, and since then it was
not closed or dropped and no request on the subject ended. -/
def Live (k : Nat) (steps : List Step) (subject : String) (n : Nat) : Prop :=
  ∃ before later, steps = before ++ .subscribe subject :: later ∧
    (((Memory.new k).after before).serve (.subscribe subject)).2 = .subscribed n ∧
    Queue.Listens (history n subject later)

def Memory.waiting (b : Memory) (n : Nat) : List Delivery := (b.find? n).elim [] (·.pending)

/-- The receiver of number `n`, which has just subscribed to the subject, is served as a queue of its own. -/
structure Served (k : Nat) (b : Memory) (n : Nat) (subject : String) (later : List Step) : Prop where
  finds : repliesTo n later (b.answers later) = Queue.fresh.finds k (history n subject later)
  /-- What it was given and what waits for it are the messages that found room. -/
  receives : Queue.Listens (history n subject later) →
    messages (repliesTo n later (b.answers later)) ++ (b.after later).waiting n =
      admitted k 0 (history n subject later)
  ordered : (admitted k 0 (history n subject later)).Sublist (publishedOn subject later)

theorem keeps_after (k : Nat) (steps : List Step) :
    ((Memory.new k).after steps).Keeps k (Listeners.after k [] steps) :=
  (Memory.keeps_new k).after steps

theorem listener_of_subscribed {k n : Nat} {before : List Step} {subject : String}
    (given : (((Memory.new k).after before).serve (.subscribe subject)).2 = .subscribed n) :
    (Listeners.after k [] (before ++ [.subscribe subject]))[n]? = some ⟨subject, .fresh⟩ := by
  rw [((keeps_after k before).serve _).2] at given
  obtain ⟨next, rfl⟩ := Listeners.subscribed_fresh given
  rw [Listeners.after_append, Listeners.after_cons, next]
  simp [Listeners.after, stateAfter]

/-- A listener is live when it still hears its subject. -/
theorem live_iff (k : Nat) (steps : List Step) (subject : String) (n : Nat) :
    Live k steps subject n ↔ n ∈ (Listeners.after k [] steps).hearers subject := by
  rw [Listeners.mem_hearers]
  constructor
  · rintro ⟨before, later, rfl, given, listens⟩
    have there := Listeners.getElem?_after (k := k) (listener_of_subscribed given) later
    rw [← Listeners.after_append, List.append_assoc, List.singleton_append] at there
    have listening := (Queue.listening_iff k .fresh _).2 ⟨rfl, listens⟩
    exact ⟨_, there, by simpa [Listener.hears] using listening⟩
  · rintro ⟨l, there, hears⟩
    obtain ⟨rfl, listening⟩ : l.subject = subject ∧ l.queue.life = .listening := by
      simpa [Listener.hears] using hears
    rcases Listeners.origin there with old | ⟨before, later, rfl, given⟩
    · cases old
    · rw [← ((keeps_after k before).serve _).2] at given
      have own := Listeners.getElem?_after (k := k) (listener_of_subscribed given) later
      rw [← Listeners.after_append, List.append_assoc, List.singleton_append, there] at own
      injection own with own
      rw [own] at listening
      exact ⟨before, later, rfl, given, ((Queue.listening_iff k .fresh _).1 listening).2⟩

theorem served_of_subscribed {k n : Nat} {before : List Step} {subject : String}
    (given : (((Memory.new k).after before).serve (.subscribe subject)).2 = .subscribed n) (later : List Step) :
    Served k ((Memory.new k).after (before ++ [.subscribe subject])) n subject later := by
  have keeps := keeps_after k (before ++ [.subscribe subject])
  have there := listener_of_subscribed given
  have finds : repliesTo n later (((Memory.new k).after (before ++ [.subscribe subject])).answers later) =
      Queue.fresh.finds k (history n subject later) := by
    rw [keeps.answers later]
    exact Listeners.repliesTo_answers there later
  refine ⟨finds, fun listens => ?_, ?_⟩
  · have listening := (Queue.listening_iff k .fresh _).2 ⟨rfl, listens⟩
    have own : (((Memory.new k).after (before ++ [.subscribe subject])).after later).waiting n =
        (Queue.fresh.after k (history n subject later)).waiting := by
      rw [Memory.waiting, (keeps.after later).find?, Listeners.getElem?_after there later]
      simp [Listener.image, listening]
    rw [finds, own]
    exact Queue.messages_append_waiting k .fresh _ rfl listens
  · rw [← puts_history n subject later]
    exact admitted_sublist k 0 _

structure Deserted (k : Nat) (steps : List Step) (inbox : String) : Prop where
  closed : ∀ s ∈ ((Memory.new k).after steps).subscriptions, s.subject = inbox → s.closed = true
  uncounted : ((Memory.new k).after steps).subscriberCount inbox = 0
  offTheBoard : ((Switchboard.new k).after steps).lines.lookup inbox = none

theorem deserted_of_retired (k : Nat) (steps : List Step) (inbox : String) (n : Nat) :
    Deserted k (steps ++ [.retire inbox n]) inbox := by
  have closed : ∀ s ∈ ((Memory.new k).after (steps ++ [.retire inbox n])).subscriptions,
      s.subject = inbox → s.closed = true := by
    intro s mem same
    rw [Memory.after, stateAfter_append] at mem
    simp only [stateAfter, List.foldl_cons, List.foldl_nil, Memory.serve, Memory.drop, Memory.closeSubject,
      List.mem_filter, List.mem_map] at mem
    obtain ⟨⟨before, -, rfl⟩, -⟩ := mem
    by_cases own : before.subject = inbox
    · simp [own]
    · simp [own] at same
  refine ⟨closed, ?_, ?_⟩
  · rw [Memory.subscriberCount, List.countP_eq_zero]
    intro s mem hears
    simp only [Subscription.hears, Bool.and_eq_true, beq_iff_eq, Bool.not_eq_true'] at hears
    simp [closed s mem hears.1] at hears
  · simp [Switchboard.after, stateAfter, Switchboard.serve, Switchboard.drop, Switchboard.modify, Switchboard.hangUp,
      Switchboard.lookup_others]

/-- The course of a request whose inbox is given the number `n`, and of the answer to it if one comes. -/
def requestSteps (subject inbox : String) (payload : Wire.Bytes) (answer : Option Wire.Bytes) (n : Nat) : List Step :=
  [.subscribe inbox, .publish ⟨subject, some inbox, payload⟩] ++
    answer.toList.map (fun bytes => .publish ⟨inbox, none, bytes⟩) ++ [.receive n, .retire inbox n]

theorem deserted_of_request (k : Nat) (steps : List Step) (subject inbox : String) (payload : Wire.Bytes)
    (answer : Option Wire.Bytes) (n : Nat) :
    Deserted k (steps ++ requestSteps subject inbox payload answer n) inbox := by
  have last : steps ++ requestSteps subject inbox payload answer n =
      steps ++ ([.subscribe inbox, .publish ⟨subject, some inbox, payload⟩] ++
        answer.toList.map (fun bytes => .publish ⟨inbox, none, bytes⟩) ++ [.receive n]) ++ [.retire inbox n] := by
    simp [requestSteps]
  rw [last]
  exact deserted_of_retired k _ inbox n

theorem concluded (b : Memory) (inbox : String) (n : Nat) : ∃ got : Option Wire.Bytes,
    (match (b.receive n).2 with
      | .message d => pure (((b.receive n).1.closeSubject inbox).drop n, some d.payload)
      | _ => pure (((b.receive n).1.closeSubject inbox).drop n, none) : Except Abort (Memory × Option Wire.Bytes)) =
      .ok (b.after [.receive n, .retire inbox n], got) := by
  cases (b.receive n).2 <;> exact ⟨_, rfl⟩

theorem request_eq (b : Memory) (subject inbox : String) (payload : Wire.Bytes) (waitMs : Nat)
    (answer : Option (Nat × Wire.Bytes)) (room : 0 < b.capacity) (most : b.capacity ≤ Memory.maxCapacity) :
    ∃ got, b.request subject inbox payload waitMs answer =
      .ok (b.after (requestSteps subject inbox payload
        ((answer.filter (·.1 < waitMs)).map Prod.snd) b.next), got) := by
  have accepted : ¬ (b.capacity = 0 ∨ Memory.maxCapacity < b.capacity) := by omega
  obtain ⟨b', subscribed, next⟩ : ∃ b', b.subscribe inbox = .ok (b', b.next) ∧
      (b.serve (.subscribe inbox)).1 = b' := by
    simp [Memory.serve, Memory.subscribe, accepted]
  have course (steps : List Step) : b.after (.subscribe inbox :: steps) = b'.after steps := by
    rw [← next]
    rfl
  simp only [Memory.request, subscribed, requestSteps, List.cons_append, course]
  rcases answer with _ | ⟨afterMs, bytes⟩
  · exact concluded (b'.publish _) inbox b.next
  · by_cases inTime : afterMs < waitMs
    · simp only [inTime, Option.filter_some, decide_true, if_true]
      exact concluded ((b'.publish _).publish _) inbox b.next
    · simp only [inTime, Option.filter_some, decide_false, if_false]
      exact concluded (b'.publish _) inbox b.next

/-- On a bus of any capacity, after any steps: the bus as it is kept gives the same answers; each receiver is
served as a queue of its own; publishing succeeds; those counted are the live receivers; and when a request
ends nobody is left on its inbox. -/
theorem delivers_like_queues (k : Nat) (steps : List Step) :
    (Switchboard.new k).answers steps = (Memory.new k).answers steps ∧
    (∀ before subject later, steps = before ++ .subscribe subject :: later →
      0 < k → k ≤ Memory.maxCapacity →
      ∃ n, (((Memory.new k).after before).serve (.subscribe subject)).2 = .subscribed n ∧
        Served k ((Memory.new k).after (before ++ [.subscribe subject])) n subject later) ∧
    (∀ d, (((Memory.new k).after steps).serve (.publish d)).2 = .published (.ok ()) ∧
      (((Switchboard.new k).after steps).serve (.publish d)).2 = .published (.ok ())) ∧
    (∀ subject, ∃ ns : List Nat, ns.Nodup ∧ (∀ n, n ∈ ns ↔ Live k steps subject n) ∧
      ((Memory.new k).after steps).subscriberCount subject = ns.length) ∧
    (∀ inbox n, Deserted k (steps ++ [.retire inbox n]) inbox) ∧
    (∀ subject inbox payload waitMs answer,
      let bus := (Memory.new k).after steps
      let course := requestSteps subject inbox payload ((answer.filter (·.1 < waitMs)).map Prod.snd) bus.next
      (k = 0 ∨ Memory.maxCapacity < k → bus.request subject inbox payload waitMs answer = .error .noCapacity) ∧
      (0 < k → k ≤ Memory.maxCapacity →
        ∃ got, bus.request subject inbox payload waitMs answer = .ok ((Memory.new k).after (steps ++ course), got) ∧
          Deserted k (steps ++ course) inbox)) := by
  have keeps := keeps_after k steps
  refine ⟨?kept, ?served, ?published, ?counted, ?retired, ?requested⟩
  case kept => rw [(Switchboard.connects_new k).answers, (Memory.keeps_new k).answers]
  case served =>
    intro before subject later _ room most
    have given : (((Memory.new k).after before).serve (.subscribe subject)).2 =
        .subscribed (Listeners.after k [] before).length := by
      have accepted : ¬ (k = 0 ∨ Memory.maxCapacity < k) := by omega
      rw [((keeps_after k before).serve _).2, Listeners.serve, if_neg accepted]
    exact ⟨_, given, served_of_subscribed given later⟩
  case published =>
    intro d
    refine ⟨rfl, ?_⟩
    simp only [Switchboard.serve, Switchboard.publish]
    split <;> rfl
  case counted =>
    intro subject
    refine ⟨(Listeners.after k [] steps).hearers subject, Listeners.nodup_hearers _ _, fun n => ?_, ?_⟩
    · exact (live_iff k steps subject n).symm
    · rw [keeps.subscriberCount, Listeners.length_hearers]
  case retired => exact deserted_of_retired k steps
  case requested =>
    intro subject inbox payload waitMs answer bus course
    refine ⟨fun none => ?_, fun room most => ?_⟩
    · have refused : bus.capacity = 0 ∨ Memory.maxCapacity < bus.capacity := by rwa [keeps.capacity]
      have aborted : bus.subscribe inbox = .error .noCapacity := by
        simp [Memory.subscribe, refused]
      rw [Memory.request, aborted]
      rfl
    · obtain ⟨got, ended⟩ := request_eq bus subject inbox payload waitMs answer
        (by rwa [keeps.capacity]) (by rwa [keeps.capacity])
      refine ⟨got, ?_, ?_⟩
      · rw [ended, Memory.after, Memory.after, stateAfter_append]
        rfl
      · exact deserted_of_request k steps subject inbox payload _ bus.next

def crowded : List Step :=
  [.publish ⟨"agent-1", none, [1]⟩, .publish ⟨"agent-1", none, [2]⟩, .receive 0,
    .publish ⟨"agent-1", some "inbox", [3]⟩, .publish ⟨"agent-2", none, [4]⟩]

theorem delivers_like_queues_crowded :
    0 < 1 ∧ 1 ≤ Memory.maxCapacity ∧
    (∃ n, ((Memory.new 1).serve (.subscribe "agent-1")).2 = .subscribed n ∧
      Served 1 ((Memory.new 1).after [.subscribe "agent-1"]) n "agent-1" crowded) ∧
    Queue.Listens (history 0 "agent-1" crowded) ∧
    admitted 1 0 (history 0 "agent-1" crowded) = [⟨"agent-1", none, [1]⟩, ⟨"agent-1", some "inbox", [3]⟩] ∧
    ∃ got, (Memory.new 1).request "nobody" "inbox" [] 50 none =
      .ok ((Memory.new 1).after (requestSteps "nobody" "inbox" [] none 0), got) ∧
      Deserted 1 (requestSteps "nobody" "inbox" [] none 0) "inbox" := by
  have room : 0 < 1 := by decide
  have most : 1 ≤ Memory.maxCapacity := by decide
  refine ⟨room, most, ?_, ?_, ?_, ?_⟩
  · exact (delivers_like_queues 1 (.subscribe "agent-1" :: crowded)).2.1 [] "agent-1" crowded rfl room most
  · simp [Queue.Listens, history, crowded, ownMoves]
  · decide
  · exact ((delivers_like_queues 1 []).2.2.2.2.2 "nobody" "inbox" [] 50 none).2 room most

end Steward.Bus
