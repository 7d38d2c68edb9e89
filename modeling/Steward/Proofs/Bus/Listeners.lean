import Mathlib.Data.List.Pairwise
import Steward.Proofs.Bus.Queue

/-!
A bus as nothing but independent queues, one for each subscription that there ever was. What is done with
the bus reaches each of them only as its own moves.
-/
namespace Steward.Bus

theorem stateAfter_append {β : Type} (serve : β → Step → β × Answer) (b : β) (first rest : List Step) :
    stateAfter serve b (first ++ rest) = stateAfter serve (stateAfter serve b first) rest :=
  List.foldl_append

/-- Two buses that answer each step alike and stay in a relation answer all steps alike. -/
theorem in_step {β γ : Type} {serve : β → Step → β × Answer} {serve' : γ → Step → γ × Answer}
    (related : β → γ → Prop)
    (one : ∀ b c step, related b c → related (serve b step).1 (serve' c step).1 ∧ (serve b step).2 = (serve' c step).2)
    {b : β} {c : γ} (start : related b c) (steps : List Step) :
    related (stateAfter serve b steps) (stateAfter serve' c steps) ∧
      answersOf serve b steps = answersOf serve' c steps := by
  induction steps generalizing b c with
  | nil => exact ⟨start, rfl⟩
  | cons step rest ih =>
    obtain ⟨next, same⟩ := one b c step start
    obtain ⟨left, later⟩ := ih next
    refine ⟨left, ?_⟩
    rw [answersOf, answersOf, same, later]

structure Listener where
  subject : String
  queue : Queue
deriving DecidableEq

/-- The moves of the queue of number `n`, subscribed to `subject`, that a step is made of. -/
def ownMoves (n : Nat) (subject : String) : Step → List Move
  | .publish d => if d.subject = subject then [.put d] else []
  | .receive id => if id = n then [.take] else []
  | .close id => if id = n then [.close] else []
  | .drop id => if id = n then [.leave] else []
  | .retire inbox id =>
    (if inbox = subject then [.close] else []) ++ (if id = n then [.leave] else [])
  | .subscribe _ => []
  | .count _ => []

def history (n : Nat) (subject : String) (steps : List Step) : List Move := steps.flatMap (ownMoves n subject)

namespace Listener

def moved (k n : Nat) (step : Step) (l : Listener) : Listener :=
  { l with queue := l.queue.after k (ownMoves n l.subject step) }

def hears (l : Listener) (subject : String) : Bool :=
  l.subject == subject && l.queue.life == .listening

def turned (k : Nat) (m : Move) (l : Listener) : Listener := { l with queue := l.queue.move k m }

section
variable (k n id : Nat) (l : Listener)

theorem subject_turned (m : Move) : (l.turned k m).subject = l.subject := rfl

theorem moved_publish (d : Delivery) :
    l.moved k n (.publish d) = if d.subject = l.subject then l.turned k (.put d) else l := by
  by_cases own : d.subject = l.subject <;> simp [moved, turned, ownMoves, Queue.after, own]

theorem moved_put {d : Delivery} (heard : l.hears d.subject = true) :
    l.moved k n (.publish d) = l.turned k (.put d) := by
  simp only [hears, Bool.and_eq_true, beq_iff_eq] at heard
  rw [moved_publish, if_pos heard.1.symm]

theorem moved_deaf {d : Delivery} (deaf : l.hears d.subject = false) :
    l.moved k n (.publish d) = l := by
  rw [moved_publish]
  split
  case isTrue same =>
    have silent : l.queue.life ≠ .listening := by simpa [hears, same] using deaf
    simp [turned, Queue.move, silent]
  · rfl

theorem moved_receive : l.moved k n (.receive id) = if id = n then l.turned k .take else l := by
  by_cases own : id = n <;> simp [moved, turned, ownMoves, Queue.after, own]

theorem moved_close : l.moved k n (.close id) = if id = n then l.turned k .close else l := by
  by_cases own : id = n <;> simp [moved, turned, ownMoves, Queue.after, own]

theorem moved_drop : l.moved k n (.drop id) = if id = n then l.turned k .leave else l := by
  by_cases own : id = n <;> simp [moved, turned, ownMoves, Queue.after, own]

theorem moved_retire (inbox : String) : l.moved k n (.retire inbox id) =
    if id = n then l.turned k .leave else if inbox = l.subject then l.turned k .close else l := by
  by_cases own : id = n <;> by_cases same : inbox = l.subject <;>
    simp [moved, turned, ownMoves, Queue.after, Queue.move, own, same]

end
end Listener

abbrev Listeners := List Listener

namespace Listeners

def moveFrom (k : Nat) (step : Step) : Nat → Listeners → Listeners
  | _, [] => []
  | n, l :: ls => l.moved k n step :: moveFrom k step (n + 1) ls

def move (k : Nat) (ls : Listeners) (step : Step) : Listeners := moveFrom k step 0 ls

def serve (k : Nat) (ls : Listeners) : Step → Listeners × Answer
  | .subscribe subject =>
    if k = 0 ∨ Memory.maxCapacity < k then (ls, .aborted .noCapacity)
    else (ls ++ [⟨subject, .fresh⟩], .subscribed ls.length)
  | .publish d => (ls.move k (.publish d), .published (.ok ()))
  | .receive id =>
    (ls.move k (.receive id), .received ((ls[id]?).elim .noSubscription fun l => l.queue.found))
  | .close id => (ls.move k (.close id), .done)
  | .drop id => (ls.move k (.drop id), .done)
  | .retire inbox id => (ls.move k (.retire inbox id), .done)
  | .count subject => (ls, .counted (ls.countP (·.hears subject)))

def hearers (ls : Listeners) (subject : String) : List Nat := ls.findIdxs (·.hears subject)

def after (k : Nat) (ls : Listeners) (steps : List Step) : Listeners := stateAfter (serve k) ls steps

def answers (k : Nat) (ls : Listeners) (steps : List Step) : List Answer := answersOf (serve k) ls steps

section
variable (k : Nat) (step : Step)

theorem getElem?_moveFrom (n i : Nat) (ls : Listeners) :
    (moveFrom k step n ls)[i]? = (ls[i]?).map (·.moved k (n + i) step) := by
  induction ls generalizing n i with
  | nil => rfl
  | cons l ls ih =>
    cases i with
    | zero => rfl
    | succ i =>
      have shift : n + 1 + i = n + (i + 1) := by omega
      simp only [moveFrom, List.getElem?_cons_succ, ih, shift]

theorem getElem?_move (i : Nat) (ls : Listeners) :
    (ls.move k step)[i]? = (ls[i]?).map (·.moved k i step) := by
  rw [move, getElem?_moveFrom, Nat.zero_add]

theorem length_moveFrom (n : Nat) (ls : Listeners) : (moveFrom k step n ls).length = ls.length := by
  induction ls generalizing n with
  | nil => rfl
  | cons l ls ih => simp only [moveFrom, List.length_cons, ih]

theorem length_move (ls : Listeners) : (ls.move k step).length = ls.length := length_moveFrom k step 0 ls

theorem answers_cons (ls : Listeners) (rest : List Step) :
    ls.answers k (step :: rest) = (ls.serve k step).2 :: (ls.serve k step).1.answers k rest := rfl

theorem after_cons (ls : Listeners) (rest : List Step) :
    ls.after k (step :: rest) = (ls.serve k step).1.after k rest := rfl

theorem after_append (ls : Listeners) (first rest : List Step) :
    ls.after k (first ++ rest) = (ls.after k first).after k rest :=
  stateAfter_append (serve k) ls first rest

end

theorem mem_hearers {ls : Listeners} {subject : String} {n : Nat} :
    n ∈ ls.hearers subject ↔ ∃ l, ls[n]? = some l ∧ l.hears subject = true := by
  rw [hearers, List.mem_findIdxs_iff_exists_getElem_pos]
  constructor
  · rintro ⟨inside, hears⟩
    exact ⟨ls[n], List.getElem?_eq_getElem inside, hears⟩
  · rintro ⟨l, there, hears⟩
    obtain ⟨inside, rfl⟩ := List.getElem?_eq_some_iff.1 there
    exact ⟨inside, hears⟩

theorem nodup_hearers (ls : Listeners) (subject : String) : (ls.hearers subject).Nodup :=
  List.nodup_findIdxs

theorem length_hearers (ls : Listeners) (subject : String) :
    (ls.hearers subject).length = ls.countP (·.hears subject) := List.length_findIdxs

section
variable {k n : Nat} {ls : Listeners} {subject : String} {q : Queue}

theorem getElem?_serve (there : ls[n]? = some ⟨subject, q⟩) (step : Step) :
    (ls.serve k step).1[n]? = some ⟨subject, q.after k (ownMoves n subject step)⟩ := by
  have moved : (ls.move k step)[n]? = some ⟨subject, q.after k (ownMoves n subject step)⟩ := by
    rw [getElem?_move, there]
    rfl
  cases step with
  | subscribe other =>
    simp only [serve]
    split
    · exact there
    · rw [List.getElem?_append_left (List.getElem?_eq_some_iff.1 there).1]
      exact there
  | count other => exact there
  | _ => exact moved

/-- A listener goes through its own moves and nothing else. -/
theorem getElem?_after (there : ls[n]? = some ⟨subject, q⟩) (steps : List Step) :
    (ls.after k steps)[n]? = some ⟨subject, q.after k (history n subject steps)⟩ := by
  induction steps generalizing ls q with
  | nil => exact there
  | cons step rest ih =>
    rw [history, List.flatMap_cons, Queue.after_append]
    exact ih (getElem?_serve there step)

end
end Listeners

/-- What the receiver of a number found in a step that was its own. -/
def replyTo (n : Nat) : Step → Answer → Option Received
  | .receive id, .received r => if id = n then some r else none
  | _, _ => none

def repliesTo (n : Nat) (steps : List Step) (answers : List Answer) : List Received :=
  (steps.zip answers).filterMap fun p => replyTo n p.1 p.2

theorem repliesTo_cons (n : Nat) (step : Step) (rest : List Step) (a : Answer) (as : List Answer) :
    repliesTo n (step :: rest) (a :: as) = (replyTo n step a).toList ++ repliesTo n rest as := by
  simp only [repliesTo, List.zip_cons_cons, List.filterMap_cons]
  cases replyTo n step a with
  | none => rfl
  | some r => rfl

namespace Listeners
variable {k n : Nat} {ls : Listeners} {subject : String} {q : Queue}

theorem replyTo_serve (there : ls[n]? = some ⟨subject, q⟩) (step : Step) :
    (replyTo n step (ls.serve k step).2).toList = q.finds k (ownMoves n subject step) := by
  cases step with
  | publish d =>
    simp only [replyTo, ownMoves]
    split <;> rfl
  | receive id =>
    simp only [serve, replyTo, ownMoves]
    by_cases own : id = n
    · rw [if_pos own, if_pos own, own, there]
      rfl
    · rw [if_neg own, if_neg own]
      rfl
  | close id =>
    simp only [replyTo, ownMoves]
    split <;> rfl
  | drop id =>
    simp only [replyTo, ownMoves]
    split <;> rfl
  | retire inbox id =>
    simp only [replyTo, ownMoves]
    split <;> split <;> rfl
  | _ => rfl

theorem repliesTo_answers (there : ls[n]? = some ⟨subject, q⟩) (steps : List Step) :
    repliesTo n steps (ls.answers k steps) = q.finds k (history n subject steps) := by
  induction steps generalizing ls q with
  | nil => rfl
  | cons step rest ih =>
    rw [answers_cons, repliesTo_cons, replyTo_serve there, ih (getElem?_serve there step),
      history, history, List.flatMap_cons, Queue.finds_append]

end Listeners
end Steward.Bus
