import Steward.Bus.Traffic

/-!
Independent bounded queues. Each subscription is a queue on its own, to which happen only the moves that
concern it: messages on its subject, and what its receiver does. As long as it is not left, what was
taken from it and what waits in it are together the messages that found room, in their order.
-/
namespace Steward.Bus

inductive Life where
  | listening
  /-- Takes no more messages; those that wait can still be received. -/
  | closed
  | gone
deriving DecidableEq

structure Queue where
  waiting : List Delivery
  life : Life
deriving DecidableEq

inductive Move where
  | put (d : Delivery)
  | take
  | close
  | leave
deriving DecidableEq

namespace Queue

def fresh : Queue := ⟨[], .listening⟩

def move (k : Nat) (q : Queue) : Move → Queue
  | .put d =>
    if q.life = .listening ∧ q.waiting.length < k then { q with waiting := q.waiting ++ [d] } else q
  | .take => { q with waiting := q.waiting.tail }
  | .close => { q with life := if q.life = .gone then .gone else .closed }
  | .leave => ⟨[], .gone⟩

def after (k : Nat) (q : Queue) (moves : List Move) : Queue := moves.foldl (move k) q

def found (q : Queue) : Received :=
  if q.life = .gone then .noSubscription
  else match q.waiting with
    | d :: _ => .message d
    | [] => if q.life = .closed then .closed else .empty

/-- What its receiver finds, each time it takes something. -/
def finds (k : Nat) (q : Queue) : List Move → List Received
  | [] => []
  | .take :: rest => q.found :: finds k (q.move k .take) rest
  | m :: rest => finds k (q.move k m) rest

theorem after_cons (k : Nat) (q : Queue) (m : Move) (rest : List Move) :
    q.after k (m :: rest) = (q.move k m).after k rest := rfl

theorem after_append (k : Nat) (q : Queue) (first rest : List Move) :
    q.after k (first ++ rest) = (q.after k first).after k rest := List.foldl_append

theorem finds_append (k : Nat) (q : Queue) (first rest : List Move) :
    q.finds k (first ++ rest) = q.finds k first ++ (q.after k first).finds k rest := by
  induction first generalizing q with
  | nil => rfl
  | cons m first ih =>
    cases m with
    | take =>
      simp only [List.cons_append, finds, ih]
      rfl
    | _ =>
      simp only [List.cons_append, finds, ih]
      rfl

theorem closed_deaf (k : Nat) (q : Queue) : (q.move k .close).life ≠ .listening := by
  simp only [Queue.move]
  split <;> simp

def Listens (moves : List Move) : Prop := ∀ m ∈ moves, m ≠ .close ∧ m ≠ .leave

theorem listening_iff (k : Nat) (q : Queue) (moves : List Move) :
    (q.after k moves).life = .listening ↔ q.life = .listening ∧ Listens moves := by
  induction moves generalizing q with
  | nil => simp [after, Listens]
  | cons m rest ih =>
    rw [after_cons, ih]
    cases m with
    | put d =>
      simp only [move, Listens, List.forall_mem_cons]
      split <;> simp
    | take => simp [move, Listens]
    | close =>
      simp only [move, Listens, List.forall_mem_cons]
      split <;> simp
    | leave => simp [move, Listens]

end Queue

/-- The messages of these that find fewer than `k` undelivered ones, `waiting` at first. -/
def admitted (k : Nat) : Nat → List Move → List Delivery
  | _, [] => []
  | waiting, .put d :: rest =>
    if waiting < k then d :: admitted k (waiting + 1) rest else admitted k waiting rest
  | waiting, .take :: rest => admitted k (waiting - 1) rest
  | _, .close :: _ => []
  | _, .leave :: _ => []

def messages (rs : List Received) : List Delivery :=
  rs.filterMap fun
    | .message d => some d
    | _ => none

def puts (moves : List Move) : List Delivery :=
  moves.filterMap fun
    | .put d => some d
    | _ => none

theorem admitted_sublist (k waiting : Nat) (moves : List Move) :
    (admitted k waiting moves).Sublist (puts moves) := by
  induction moves generalizing waiting with
  | nil => exact List.Sublist.refl _
  | cons m rest ih =>
    cases m with
    | put d =>
      simp only [admitted]
      split
      · exact (ih _).cons_cons d
      · exact (ih _).cons d
    | take => exact ih _
    | close => exact List.nil_sublist _
    | leave => exact List.nil_sublist _

/-- What its receiver was given and what waits are together what was admitted. -/
theorem Queue.messages_append_waiting (k : Nat) (q : Queue) (moves : List Move)
    (listening : q.life = .listening) (listens : Queue.Listens moves) :
    messages (q.finds k moves) ++ (q.after k moves).waiting =
      q.waiting ++ admitted k q.waiting.length moves := by
  induction moves generalizing q with
  | nil => simp [messages, finds, after, admitted]
  | cons m rest ih =>
    obtain ⟨here, later⟩ := List.forall_mem_cons.1 listens
    cases m with
    | put d =>
      by_cases room : q.waiting.length < k
      · have next : q.move k (.put d) = { q with waiting := q.waiting ++ [d] } := if_pos ⟨listening, room⟩
        have law := ih (q.move k (.put d)) (by rw [next]; exact listening) later
        rw [next] at law
        simpa [finds, after_cons, next, admitted, room] using law
      · have next : q.move k (.put d) = q := if_neg fun both => room both.2
        have law := ih q listening later
        simpa [finds, after_cons, next, admitted, room] using law
    | take =>
      have law := ih (q.move k .take) listening later
      cases held : q.waiting with
      | nil => simpa [finds, after_cons, move, admitted, found, messages, held, listening] using law
      | cons d ds => simpa [finds, after_cons, move, admitted, found, messages, held, listening] using law
    | close => exact absurd rfl here.1
    | leave => exact absurd rfl here.2

end Steward.Bus
