import Steward.Proofs.Bus.Listeners

/-!
The memory bus keeps of its listeners those that are not gone, in the order of their numbers, and gives
the answers that independent queues give.
-/
namespace Steward.Bus

def Listener.image (n : Nat) (l : Listener) : Option Subscription :=
  if l.queue.life = .gone then none
  else some ⟨n, l.subject, l.queue.waiting, l.queue.life == .closed⟩

namespace Listeners

def images : Nat → Listeners → List Subscription
  | _, [] => []
  | n, l :: ls => (l.image n).toList ++ images (n + 1) ls

theorem images_append (n : Nat) (ls more : Listeners) :
    images n (ls ++ more) = images n ls ++ images (n + ls.length) more := by
  induction ls generalizing n with
  | nil => rfl
  | cons l ls ih =>
    have shift : n + 1 + ls.length = n + (ls.length + 1) := by omega
    simp only [List.cons_append, images, ih, List.length_cons, shift, List.append_assoc]

theorem find?_images_later (n id : Nat) (ls : Listeners) (earlier : id < n) :
    (images n ls).find? (·.id == id) = none := by
  induction ls generalizing n with
  | nil => rfl
  | cons l ls ih =>
    have other : n ≠ id := by omega
    rw [images, List.find?_append, ih (n + 1) (by omega), Listener.image]
    split <;> simp [other]

theorem find?_images (n id : Nat) (ls : Listeners) (from_ : n ≤ id) :
    (images n ls).find? (·.id == id) = (ls[id - n]?).bind (·.image id) := by
  induction ls generalizing n with
  | nil => rfl
  | cons l ls ih =>
    rw [images, List.find?_append]
    rcases Nat.eq_or_lt_of_le from_ with rfl | less
    · rw [find?_images_later (n + 1) n ls (by omega), Nat.sub_self, List.getElem?_cons_zero, Option.bind_some,
        Listener.image]
      split <;> simp
    · have shift : id - n = (id - (n + 1)) + 1 := by omega
      have other : n ≠ id := by omega
      rw [ih (n + 1) less, shift, List.getElem?_cons_succ, Listener.image]
      split <;> simp [other]

theorem countP_images (n : Nat) (subject : String) (ls : Listeners) :
    (images n ls).countP (·.hears subject) = ls.countP (·.hears subject) := by
  induction ls generalizing n with
  | nil => rfl
  | cons l ls ih =>
    have one : ((l.image n).toList).countP (·.hears subject) = [l].countP (·.hears subject) := by
      obtain ⟨own, waiting, life⟩ := l
      cases life <;> simp [Listener.image, Subscription.hears, Listener.hears, List.countP_cons]
    rw [images, List.countP_append, ih, one, ← List.countP_append]
    rfl

theorem images_moveFrom (k : Nat) (step : Step) (n : Nat) (ls : Listeners)
    (treat : Subscription → Option Subscription)
    (each : ∀ (i : Nat) (l : Listener), ls[i]? = some l →
      (l.moved k (n + i) step).image (n + i) = (l.image (n + i)).bind treat) :
    images n (moveFrom k step n ls) = (images n ls).filterMap treat := by
  induction ls generalizing n with
  | nil => rfl
  | cons l ls ih =>
    have first := each 0 l rfl
    have others : ∀ (i : Nat) (m : Listener), ls[i]? = some m →
        (m.moved k (n + 1 + i) step).image (n + 1 + i) = (m.image (n + 1 + i)).bind treat := by
      intro i m at_
      have shift : n + 1 + i = n + (i + 1) := by omega
      rw [shift]
      exact each (i + 1) m at_
    rw [Nat.add_zero] at first
    rw [moveFrom, images, images, List.filterMap_append, ih (n + 1) others, first]
    cases l.image n <;> rfl

end Listeners

structure Memory.Keeps (b : Memory) (k : Nat) (ls : Listeners) : Prop where
  capacity : b.capacity = k
  next : b.next = ls.length
  subscriptions : b.subscriptions = Listeners.images 0 ls

namespace Memory.Keeps
variable {b : Memory} {k : Nat} {ls : Listeners}

theorem find? (keeps : b.Keeps k ls) (id : Nat) : b.find? id = (ls[id]?).bind (·.image id) := by
  rw [Memory.find?, keeps.subscriptions, Listeners.find?_images 0 id ls (Nat.zero_le id), Nat.sub_zero]

theorem subscriberCount (keeps : b.Keeps k ls) (subject : String) :
    b.subscriberCount subject = ls.countP (·.hears subject) := by
  rw [Memory.subscriberCount, keeps.subscriptions, Listeners.countP_images]

theorem subscribed (keeps : b.Keeps k ls) (subject : String) :
    Keeps { b with subscriptions := b.subscriptions ++ [⟨b.next, subject, [], false⟩], next := b.next + 1 } k
      (ls ++ [⟨subject, .fresh⟩]) where
  capacity := keeps.capacity
  next := by simp [keeps.next]
  subscriptions := by
    rw [Listeners.images_append, Nat.zero_add, ← keeps.next, ← keeps.subscriptions]
    rfl

theorem moved (keeps : b.Keeps k ls) (step : Step) (treat : Subscription → Option Subscription)
    (each : ∀ (i : Nat) (l : Listener), ls[i]? = some l →
      (l.moved k i step).image i = (l.image i).bind treat) :
    Keeps { b with subscriptions := b.subscriptions.filterMap treat } k (ls.move k step) where
  capacity := keeps.capacity
  next := by simp [keeps.next, Listeners.length_move]
  subscriptions := by
    rw [keeps.subscriptions, Listeners.move, Listeners.images_moveFrom k step 0 ls treat]
    intro i l at_
    rw [Nat.zero_add]
    exact each i l at_

theorem published (keeps : b.Keeps k ls) (d : Delivery) :
    (b.publish d).Keeps k (ls.move k (.publish d)) := by
  rw [Memory.publish, ← List.filterMap_eq_map']
  apply keeps.moved
  rw [keeps.capacity]
  rintro i ⟨subject, waiting, life⟩ -
  rw [Listener.moved_publish]
  by_cases own : d.subject = subject
  · cases life <;> by_cases room : waiting.length < k <;>
      simp [Listener.image, Listener.turned, Queue.move, Subscription.offer, Subscription.hears, own, room]
  · cases life <;> simp [Listener.image, Subscription.offer, Subscription.hears, own, Ne.symm own]

theorem closed (keeps : b.Keeps k ls) (id : Nat) : (b.close id).Keeps k (ls.move k (.close id)) := by
  rw [Memory.close, Memory.update, ← List.filterMap_eq_map']
  apply keeps.moved
  rintro i ⟨subject, waiting, life⟩ -
  rw [Listener.moved_close]
  by_cases own : i = id
  · cases life <;> simp [Listener.image, Listener.turned, Queue.move, own]
  · cases life <;> simp [Listener.image, own, Ne.symm own]

theorem dropped (keeps : b.Keeps k ls) (id : Nat) : (b.drop id).Keeps k (ls.move k (.drop id)) := by
  rw [Memory.drop, ← List.filterMap_eq_filter]
  apply keeps.moved
  rintro i ⟨subject, waiting, life⟩ -
  rw [Listener.moved_drop]
  by_cases own : i = id
  · cases life <;> simp [Listener.image, Listener.turned, Queue.move, Option.guard, own]
  · cases life <;> simp [Listener.image, Option.guard, own, Ne.symm own]

theorem retired (keeps : b.Keeps k ls) (inbox : String) (id : Nat) :
    ((b.closeSubject inbox).drop id).Keeps k (ls.move k (.retire inbox id)) := by
  rw [Memory.drop, Memory.closeSubject, ← List.filterMap_eq_filter, ← List.filterMap_eq_map',
    List.filterMap_filterMap]
  apply keeps.moved
  rintro i ⟨subject, waiting, life⟩ -
  rw [Listener.moved_retire]
  by_cases own : i = id
  · by_cases same : subject = inbox <;> cases life <;>
      simp [Listener.image, Listener.turned, Queue.move, Option.guard, own, same]
  · by_cases same : subject = inbox
    · cases life <;>
        simp [Listener.image, Listener.turned, Queue.move, Option.guard, own, Ne.symm own, same]
    · cases life <;> simp [Listener.image, Option.guard, own, Ne.symm own, same, Ne.symm same]

theorem missed (keeps : b.Keeps k ls) (id : Nat)
    (nothing : ∀ l, ls[id]? = some l → l.queue.life = .gone ∨ l.queue.waiting = []) :
    b.Keeps k (ls.move k (.receive id)) := by
  have moved := keeps.moved (.receive id) some (by
    intro i l at_
    rw [Listener.moved_receive, Option.bind_fun_some]
    by_cases own : id = i
    · subst own
      rcases nothing l at_ with gone | empty
      · simp [Listener.image, Listener.turned, Queue.move, gone]
      · simp [Listener.image, Listener.turned, Queue.move, empty]
    · rw [if_neg own])
  rwa [List.filterMap_some] at moved

theorem taken (keeps : b.Keeps k ls) {id : Nat} {subject : String} {d : Delivery} {rest : List Delivery}
    {life : Life} (there : ls[id]? = some ⟨subject, d :: rest, life⟩) (stays : life ≠ .gone) :
    (b.update id fun s => { s with pending := rest }).Keeps k (ls.move k (.receive id)) := by
  rw [Memory.update, ← List.filterMap_eq_map']
  apply keeps.moved
  intro i l at_
  rw [Listener.moved_receive]
  by_cases own : i = id
  · subst own
    cases there.symm.trans at_
    simp [Listener.image, Listener.turned, Queue.move, stays]
  · obtain ⟨other, waiting, state⟩ := l
    cases state <;> simp [Listener.image, own, Ne.symm own]

theorem received (keeps : b.Keeps k ls) (id : Nat) :
    (b.receive id).1.Keeps k (ls.move k (.receive id)) ∧
      (b.receive id).2 = (ls[id]?).elim .noSubscription fun l => l.queue.found := by
  rw [Memory.receive, keeps.find?]
  rcases there : ls[id]? with _ | ⟨subject, waiting, life⟩
  · exact ⟨keeps.missed id (by simp [there]), rfl⟩
  · by_cases gone : life = .gone
    · have left := keeps.missed id (by simp [there, gone])
      simpa [Listener.image, gone, Queue.found] using left
    · cases waiting with
      | nil =>
        have empty := keeps.missed id (by simp [there])
        cases life <;> simp_all [Listener.image, Queue.found]
      | cons d rest => simpa [Listener.image, gone, Queue.found] using keeps.taken there gone

theorem serve (keeps : b.Keeps k ls) (step : Step) :
    (b.serve step).1.Keeps k (ls.serve k step).1 ∧ (b.serve step).2 = (ls.serve k step).2 := by
  cases step with
  | subscribe subject =>
    simp only [Memory.serve, Listeners.serve, Memory.subscribe, keeps.capacity, keeps.next]
    by_cases none : k = 0 ∨ Memory.maxCapacity < k
    · simpa [none] using keeps
    · simpa [none, keeps.capacity, keeps.next] using keeps.subscribed subject
  | publish d => exact ⟨keeps.published d, rfl⟩
  | receive id =>
    obtain ⟨left, found⟩ := keeps.received id
    exact ⟨left, congrArg Answer.received found⟩
  | close id => exact ⟨keeps.closed id, rfl⟩
  | drop id => exact ⟨keeps.dropped id, rfl⟩
  | retire inbox id => exact ⟨keeps.retired inbox id, rfl⟩
  | count subject => exact ⟨keeps, congrArg Answer.counted (keeps.subscriberCount subject)⟩

theorem answers (keeps : b.Keeps k ls) (steps : List Step) : b.answers steps = ls.answers k steps :=
  (in_step (Memory.Keeps · k ·) (fun _ _ step keeps => keeps.serve step) keeps steps).2

theorem after (keeps : b.Keeps k ls) (steps : List Step) : (b.after steps).Keeps k (ls.after k steps) :=
  (in_step (Memory.Keeps · k ·) (fun _ _ step keeps => keeps.serve step) keeps steps).1

end Memory.Keeps

theorem Memory.keeps_new (k : Nat) : (Memory.new k).Keeps k [] := ⟨rfl, rfl, rfl⟩

end Steward.Bus
