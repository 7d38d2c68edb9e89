import Steward.Bus.Switchboard
import Steward.Proofs.Bus.Listeners

/-!
The switchboard gives the answers that independent queues give. A line stays after its receiver has
left, so the lines of a subject are more than its listeners; those that are open are the same.
-/
namespace Steward.Bus

namespace Switchboard
variable (b : Switchboard) (subject other : String)

theorem lookup_others (lines : List (String × List Nat)) :
    (lines.filter (·.1 != subject)).lookup other = if other = subject then none else lines.lookup other := by
  induction lines with
  | nil => simp
  | cons line rest ih =>
    obtain ⟨key, ns⟩ := line
    by_cases gone : key = subject
    · rw [List.filter_cons_of_neg (by simp [gone]), ih]
      by_cases same : other = subject
      · rw [if_pos same, if_pos same]
      · rw [List.lookup_cons, gone, beq_eq_false_iff_ne.2 same]
    · rw [List.filter_cons_of_pos (by simp [gone]), List.lookup_cons, List.lookup_cons, ih]
      by_cases same : other = subject
      · rw [if_pos same, if_pos same, same, beq_eq_false_iff_ne.2 (Ne.symm gone)]
      · rw [if_neg same, if_neg same]

@[simp]
theorem linesOf_withLines (ns : List Nat) :
    (b.withLines subject ns).linesOf other = if other = subject then ns else b.linesOf other := by
  rw [linesOf, withLines, List.lookup_cons, lookup_others]
  by_cases same : other = subject
  · simp [same]
  · rw [if_neg same, if_neg same, beq_eq_false_iff_ne.2 same, linesOf]

@[simp]
theorem linesOf_hangUp :
    (b.hangUp subject).linesOf other = if other = subject then [] else b.linesOf other := by
  rw [linesOf, hangUp, lookup_others]
  split <;> rfl

theorem mem_of_lookup {b : Switchboard} {subject : String} {ns : List Nat}
    (found : b.lines.lookup subject = some ns) : (subject, ns) ∈ b.lines := by
  obtain ⟨before, after, same, -⟩ := List.lookup_eq_some_iff.1 found
  simp [same]

theorem mem_lines {b : Switchboard} {subject : String} {n : Nat} (mem : n ∈ b.linesOf subject) :
    (subject, b.linesOf subject) ∈ b.lines := by
  rcases found : b.lines.lookup subject with _ | ns
  · simp [linesOf, found] at mem
  · simpa [linesOf, found] using mem_of_lookup found

theorem modify_congr {b : Switchboard} {n : Nat} {c : Channel} {f g : Channel → Channel}
    (at_ : b.channels[n]? = some c) (same : f c = g c) : b.modify n f = b.modify n g := by
  have channels : b.channels.modify n f = b.channels.modify n g := by
    apply List.ext_getElem?
    intro i
    by_cases own : n = i
    · subst own
      simp [at_, same]
    · simp [own]
  rw [modify, modify, channels]

/-- A message is put to each queue at most once. -/
theorem foldl_send (k : Nat) (d : Delivery) (ns : List Nat) (once : ns.Nodup) (full : b.capacity = k) :
    let sent := ns.foldl (fun b n => b.modify n (·.send b.capacity d)) b
    sent.capacity = b.capacity ∧ sent.lines = b.lines ∧ sent.channels.length = b.channels.length ∧
      ∀ n, sent.channels[n]? = (b.channels[n]?).map fun c => if n ∈ ns then c.send k d else c := by
  induction ns generalizing b with
  | nil => simp
  | cons m rest ih =>
    obtain ⟨new, once⟩ := List.nodup_cons.1 once
    obtain ⟨capacity, lines, length, channels⟩ := ih (b.modify m (·.send b.capacity d)) once full
    refine ⟨capacity, lines, length.trans (by simp [modify]), fun n => ?_⟩
    rw [List.foldl_cons, channels]
    by_cases first : m = n
    · subst first
      simp [modify, new, full, Function.comp_def]
    · simp [modify, first, Ne.symm first]

end Switchboard

/-- The channel carries this queue. It may be open although the queue is not listening, when there is no
line to it. -/
structure Channel.Carries (c : Channel) (q : Queue) : Prop where
  waiting : q.life ≠ .gone → c.waiting = q.waiting
  dropped : c.dropped = true ↔ q.life = .gone
  listening : q.life = .listening → c.closed = false

namespace Channel.Carries
variable {c : Channel} {q : Queue}

theorem fresh : Channel.fresh.Carries .fresh :=
  ⟨fun _ => rfl, by simp [Channel.fresh, Queue.fresh], fun _ => rfl⟩

theorem isClosed (carries : c.Carries q) (listening : q.life = .listening) : c.isClosed = false := by
  have here : c.dropped = false := by
    rw [← Bool.not_eq_true, carries.dropped, listening]
    simp
  simp [Channel.isClosed, carries.listening listening, here]

theorem put (carries : c.Carries q) (k : Nat) (d : Delivery) (listening : q.life = .listening) :
    (c.send k d).Carries (q.move k (.put d)) := by
  have open_ := carries.isClosed listening
  have waiting : c.waiting = q.waiting := carries.waiting (by simp [listening])
  by_cases room : q.waiting.length < k
  · have next : q.move k (.put d) = { q with waiting := q.waiting ++ [d] } := if_pos ⟨listening, room⟩
    have sent : c.send k d = { c with waiting := c.waiting ++ [d] } := by
      simp [Channel.send, Channel.trySend, open_, waiting, room]
    rw [next, sent]
    exact ⟨fun _ => congrArg (· ++ [d]) waiting, carries.dropped, carries.listening⟩
  · have next : q.move k (.put d) = q := if_neg fun both => room both.2
    have sent : c.send k d = c := by simp [Channel.send, Channel.trySend, open_, waiting, room]
    rw [next, sent]
    exact carries

theorem take (carries : c.Carries q) (k : Nat) :
    Channel.Carries { c with waiting := c.waiting.tail } (q.move k .take) :=
  ⟨fun stays => congrArg List.tail (carries.waiting stays), carries.dropped, carries.listening⟩

theorem miss (carries : c.Carries q) (k : Nat) (nothing : q.life = .gone ∨ q.waiting = []) :
    c.Carries (q.move k .take) where
  waiting stays := by
    rcases nothing with gone | empty
    · exact absurd gone stays
    · simpa [Queue.move, empty] using carries.waiting stays
  dropped := carries.dropped
  listening := carries.listening

/-- When no line leads to it any more, a channel may stay as it is. -/
theorem unlinked (carries : c.Carries q) (k : Nat) : c.Carries (q.move k .close) where
  waiting stays := carries.waiting fun gone => stays (by simp [Queue.move, gone])
  dropped := by simpa [Queue.move] using carries.dropped
  listening := fun listening => absurd listening (Queue.closed_deaf k q)

theorem close (carries : c.Carries q) (k : Nat) : Channel.Carries { c with closed := true } (q.move k .close) :=
  ⟨(carries.unlinked k).waiting, (carries.unlinked k).dropped,
    fun listening => absurd listening (Queue.closed_deaf k q)⟩

theorem leave (c : Channel) (q : Queue) (k : Nat) :
    Channel.Carries { c with waiting := [], dropped := true } (q.move k .leave) where
  waiting _ := rfl
  dropped := by simp [Queue.move]
  listening := by simp [Queue.move]

end Channel.Carries

namespace Switchboard

structure Fits (b : Switchboard) (n : Nat) (l : Listener) : Prop where
  carries : ∃ c, b.channels[n]? = some c ∧ c.Carries l.queue
  reached : l.queue.life = .listening → n ∈ b.linesOf l.subject
  own : ∀ line ∈ b.lines, n ∈ line.2 → line.1 = l.subject
  shut : ∀ line ∈ b.lines, n ∈ line.2 → l.queue.life ≠ .listening → b.isClosed n = true

structure Connects (b : Switchboard) (k : Nat) (ls : Listeners) : Prop where
  capacity : b.capacity = k
  length : b.channels.length = ls.length
  fits : ∀ (n : Nat) (l : Listener), ls[n]? = some l → b.Fits n l
  inside : ∀ line ∈ b.lines, ∀ n ∈ line.2, n < ls.length
  once : ∀ line ∈ b.lines, line.2.Nodup

theorem Fits.isClosed {b : Switchboard} {n : Nat} {l : Listener} (fits : b.Fits n l)
    (listening : l.queue.life = .listening) : b.isClosed n = false := by
  obtain ⟨c, at_, carries⟩ := fits.carries
  simp [Switchboard.isClosed, at_, carries.isClosed listening]

/-- Nothing changes for a listener whose channel stays as it was and to whom no new line leads. -/
theorem Fits.of_lines {b b' : Switchboard} {n : Nat} {l : Listener} (fits : b.Fits n l)
    (channel : b'.channels[n]? = b.channels[n]?)
    (lines : ∀ line ∈ b'.lines, n ∈ line.2 → ∃ old ∈ b.lines, old.1 = line.1 ∧ n ∈ old.2)
    (reached : l.queue.life = .listening → n ∈ b'.linesOf l.subject) : b'.Fits n l where
  carries := channel ▸ fits.carries
  reached := reached
  own line mem inLine := by
    obtain ⟨old, known, same, was⟩ := lines line mem inLine
    exact same ▸ fits.own old known was
  shut line mem inLine deaf := by
    obtain ⟨old, known, -, was⟩ := lines line mem inLine
    rw [Switchboard.isClosed, channel]
    exact fits.shut old known was deaf

theorem Fits.ended {b b' : Switchboard} {n : Nat} {l : Listener} {c : Channel} {q : Queue}
    (fits : b.Fits n l) (channel : b'.channels[n]? = some c) (carries : c.Carries q)
    (closed : c.isClosed = true) (deaf : q.life ≠ .listening) (lines : ∀ line ∈ b'.lines, line ∈ b.lines) :
    b'.Fits n { l with queue := q } where
  carries := ⟨c, channel, carries⟩
  reached listening := absurd listening deaf
  own line mem := fits.own line (lines line mem)
  shut line mem inLine _ := by simp [Switchboard.isClosed, channel, closed]

namespace Connects
variable {b b' : Switchboard} {k : Nat} {ls : Listeners}

theorem mem_open (connects : b.Connects k ls) (subject : String) (n : Nat) :
    n ∈ (b.linesOf subject).filter (!b.isClosed ·) ↔ ∃ l, ls[n]? = some l ∧ l.hears subject = true := by
  rw [List.mem_filter]
  constructor
  · rintro ⟨mem, open_⟩
    have inside := connects.inside _ (mem_lines mem) n mem
    have fits := connects.fits n ls[n] (List.getElem?_eq_getElem inside)
    refine ⟨ls[n], List.getElem?_eq_getElem inside, ?_⟩
    have same := fits.own _ (mem_lines mem) mem
    by_cases listening : ls[n].queue.life = .listening
    · simp [Listener.hears, ← same, listening]
    · simp [fits.shut _ (mem_lines mem) mem listening] at open_
  · rintro ⟨l, there, hears⟩
    obtain ⟨same, listening⟩ : l.subject = subject ∧ l.queue.life = .listening := by
      simpa [Listener.hears] using hears
    have fits := connects.fits n l there
    exact ⟨same ▸ fits.reached listening, by simp [fits.isClosed listening]⟩

theorem nodup_linesOf (connects : b.Connects k ls) (subject : String) : (b.linesOf subject).Nodup := by
  rcases found : b.linesOf subject with _ | ⟨n, ns⟩
  · exact List.nodup_nil
  · have mem : n ∈ b.linesOf subject := by simp [found]
    exact found ▸ connects.once _ (mem_lines mem)

theorem subscriberCount (connects : b.Connects k ls) (subject : String) :
    b.subscriberCount subject = ls.countP (·.hears subject) := by
  have same : List.Perm ((b.linesOf subject).filter (!b.isClosed ·)) (ls.hearers subject) := by
    rw [List.perm_ext_iff_of_nodup ((connects.nodup_linesOf subject).filter _) (ls.nodup_hearers subject)]
    intro n
    rw [connects.mem_open, Listeners.mem_hearers]
  rw [Switchboard.subscriberCount, List.countP_eq_length_filter, same.length_eq, ls.length_hearers]

/-- The listeners move, lines are at most dropped, and the board serves each one as before. -/
theorem moved (connects : b.Connects k ls) (b' : Switchboard) (step : Step) (capacity : b'.capacity = b.capacity)
    (length : b'.channels.length = b.channels.length)
    (lines : ∀ line ∈ b'.lines, ∃ old ∈ b.lines, line.2.Sublist old.2)
    (fits : ∀ n l, ls[n]? = some l → b.Fits n l → b'.Fits n (l.moved k n step)) :
    b'.Connects k (ls.move k step) where
  capacity := capacity.trans connects.capacity
  length := by rw [length, connects.length, Listeners.length_move]
  fits := by
    intro n moved at_
    rw [Listeners.getElem?_move, Option.map_eq_some_iff] at at_
    obtain ⟨l, there, rfl⟩ := at_
    exact fits n l there (connects.fits n l there)
  inside := by
    intro line mem n inLine
    obtain ⟨old, known, part⟩ := lines line mem
    rw [Listeners.length_move]
    exact connects.inside old known n (part.subset inLine)
  once := by
    intro line mem
    obtain ⟨old, known, part⟩ := lines line mem
    exact (connects.once old known).sublist part

theorem modified (connects : b.Connects k ls) (step : Step) (n : Nat) (m : Move) (change : Channel → Channel)
    (moved : ∀ i (l : Listener), l.moved k i step = if n = i then l.turned k m else l)
    (here : ∀ l, b.Fits n l → (b.modify n change).Fits n (l.turned k m)) :
    (b.modify n change).Connects k (ls.move k step) := by
  refine connects.moved (b.modify n change) step rfl (by simp [modify])
    (fun line mem => ⟨line, mem, .refl _⟩) ?_
  intro i l _ fits
  rw [moved]
  by_cases same : n = i
  · subst same
    rw [if_pos rfl]
    exact here l fits
  · rw [if_neg same]
    exact fits.of_lines (by simp [modify, same]) (fun line mem inLine => ⟨line, mem, rfl, inLine⟩) fits.reached

theorem closed (connects : b.Connects k ls) (n : Nat) : (b.close n).Connects k (ls.move k (.close n)) := by
  refine connects.modified _ n .close _ (fun i l => l.moved_close k i n) fun l fits => ?_
  obtain ⟨c, at_, carries⟩ := fits.carries
  exact fits.ended (by simp [modify, at_]) (carries.close k) (by simp [Channel.isClosed])
    (Queue.closed_deaf k l.queue) fun line mem => mem

theorem dropped (connects : b.Connects k ls) (n : Nat) : (b.drop n).Connects k (ls.move k (.drop n)) := by
  refine connects.modified _ n .leave _ (fun i l => l.moved_drop k i n) fun l fits => ?_
  obtain ⟨c, at_, -⟩ := fits.carries
  exact fits.ended (by simp [modify, at_]) (.leave c l.queue k) (by simp [Channel.isClosed])
    (by simp [Queue.move]) fun line mem => mem

theorem taken (connects : b.Connects k ls) (n : Nat) :
    (b.modify n fun c => { c with waiting := c.waiting.tail }).Connects k (ls.move k (.receive n)) := by
  refine connects.modified _ n .take _ (fun i l => l.moved_receive k i n) fun l fits => ?_
  obtain ⟨c, at_, carries⟩ := fits.carries
  refine ⟨⟨{ c with waiting := c.waiting.tail }, by simp [modify, at_], carries.take k⟩, fits.reached,
    fits.own, fun line mem inLine deaf => ?_⟩
  have shut := fits.shut line mem inLine deaf
  simpa [Switchboard.isClosed, modify, at_, Channel.isClosed] using shut

theorem missed (connects : b.Connects k ls) (n : Nat)
    (nothing : ∀ l, ls[n]? = some l → l.queue.life = .gone ∨ l.queue.waiting = []) :
    b.Connects k (ls.move k (.receive n)) := by
  apply connects.moved b (.receive n) rfl rfl fun line mem => ⟨line, mem, .refl _⟩
  intro i l there fits
  rw [Listener.moved_receive]
  split
  case isTrue own =>
    obtain ⟨c, at_, carries⟩ := fits.carries
    exact ⟨⟨c, at_, carries.miss k (nothing l (own ▸ there))⟩, fits.reached, fits.own, fits.shut⟩
  · exact fits

theorem ended_iff (connects : b.Connects k ls) {n : Nat} {l : Listener} {c : Channel}
    (there : ls[n]? = some l) (at_ : b.channels[n]? = some c) (stays : l.queue.life ≠ .gone) :
    (c.closed || b.lines.all (!·.2.contains n)) = (l.queue.life == .closed) := by
  have fits := connects.fits n l there
  obtain ⟨c', at_', carries⟩ := fits.carries
  cases at_.symm.trans at_'
  cases state : l.queue.life with
  | listening =>
    have reached := fits.reached state
    rw [carries.listening state, Bool.false_or]
    exact List.all_eq_false.2 ⟨_, mem_lines reached, by simp [reached]⟩
  | closed =>
    rw [Bool.or_eq_true_iff.2]
    · rfl
    by_cases linked : ∃ line ∈ b.lines, n ∈ line.2
    · obtain ⟨line, mem, inLine⟩ := linked
      have shut := fits.shut line mem inLine (by simp [state])
      have here : c.dropped = false := by
        rw [← Bool.not_eq_true, carries.dropped]
        exact stays
      left
      simpa [Switchboard.isClosed, at_, Channel.isClosed, here] using shut
    · right
      rw [List.all_eq_true]
      intro line mem
      have away : n ∉ line.2 := fun inLine => linked ⟨line, mem, inLine⟩
      simp [away]
  | gone => exact absurd state stays

theorem received (connects : b.Connects k ls) (n : Nat) :
    (b.receive n).1.Connects k (ls.move k (.receive n)) ∧
      (b.receive n).2 = (ls[n]?).elim .noSubscription fun l => l.queue.found := by
  rcases there : ls[n]? with _ | l
  · have nowhere : b.channels[n]? = none := by
      rw [List.getElem?_eq_none_iff] at there ⊢
      rw [connects.length]
      exact there
    simp only [receive, nowhere]
    exact ⟨connects.missed n (by simp [there]), rfl⟩
  · obtain ⟨c, at_, carries⟩ := (connects.fits n l there).carries
    simp only [receive, at_]
    by_cases gone : l.queue.life = .gone
    · simpa [carries.dropped.2 gone, Queue.found, gone] using connects.missed n (by simp [there, gone])
    · have stays : ¬ c.dropped = true := fun dropped => gone (carries.dropped.1 dropped)
      have waiting := carries.waiting gone
      rcases held : c.waiting with _ | ⟨d, rest⟩
      · simp only [stays, connects.ended_iff there at_ gone]
        refine ⟨connects.missed n (by simp [there, ← waiting, held]), ?_⟩
        simp [Queue.found, gone, ← waiting, held]
      · have change : b.modify n ({ · with waiting := rest }) =
            b.modify n fun c => { c with waiting := c.waiting.tail } :=
          modify_congr at_ (by simp [held])
        simp only [stays, change]
        refine ⟨connects.taken n, ?_⟩
        simp [Queue.found, gone, ← waiting, held]

theorem retired (connects : b.Connects k ls) (inbox : String) (n : Nat) :
    ((b.hangUp inbox).drop n).Connects k (ls.move k (.retire inbox n)) := by
  have kept : ∀ line ∈ ((b.hangUp inbox).drop n).lines, line ∈ b.lines ∧ line.1 ≠ inbox := by
    intro line mem
    simpa [drop, modify, hangUp, List.mem_filter] using mem
  refine connects.moved ((b.hangUp inbox).drop n) _ rfl (by simp [drop, modify, hangUp])
    (fun line mem => ⟨line, (kept line mem).1, .refl _⟩) ?_
  intro i l _ fits
  obtain ⟨c, at_, carries⟩ := fits.carries
  rw [Listener.moved_retire]
  by_cases own : n = i
  · subst own
    rw [if_pos rfl]
    exact fits.ended (by simp [drop, modify, hangUp, at_]) (.leave c l.queue k) (by simp [Channel.isClosed])
      (by simp [Queue.move]) fun line mem => (kept line mem).1
  · rw [if_neg own]
    have channel : ((b.hangUp inbox).drop n).channels[i]? = some c := by
      simp [drop, modify, hangUp, own, at_]
    by_cases same : inbox = l.subject
    · rw [if_pos same]
      have unlinked : ∀ line ∈ ((b.hangUp inbox).drop n).lines, i ∉ line.2 := fun line mem inLine =>
        (kept line mem).2 ((fits.own line (kept line mem).1 inLine).trans same.symm)
      exact
        { carries := ⟨c, channel, carries.unlinked k⟩
          reached := fun listening => absurd listening (Queue.closed_deaf k l.queue)
          own := fun line mem inLine => absurd inLine (unlinked line mem)
          shut := fun line mem inLine => absurd inLine (unlinked line mem) }
    · rw [if_neg same]
      have still : (b.hangUp inbox).linesOf l.subject = b.linesOf l.subject := by simp [Ne.symm same]
      refine fits.of_lines (channel.trans at_.symm) (fun line mem inLine => ?_) fun listening => ?_
      · exact ⟨line, (kept line mem).1, rfl, inLine⟩
      · exact still ▸ fits.reached listening

theorem delivered (connects : b.Connects k ls) (d : Delivery) (ns : List Nat)
    (found : b.lines.lookup d.subject = some ns) (capacity : b'.capacity = b.capacity)
    (lines : b'.lines = (b.withLines d.subject (ns.filter (!b.isClosed ·))).lines)
    (length : b'.channels.length = b.channels.length)
    (channels : ∀ n, b'.channels[n]? =
      (b.channels[n]?).map fun c => if n ∈ ns.filter (!b.isClosed ·) then c.send k d else c) :
    b'.Connects k (ls.move k (.publish d)) := by
  have open_ (n : Nat) : n ∈ ns.filter (!b.isClosed ·) ↔ ∃ l, ls[n]? = some l ∧ l.hears d.subject = true := by
    simpa [linesOf, found] using connects.mem_open d.subject n
  have known : (d.subject, ns) ∈ b.lines := mem_of_lookup found
  have lineOf : ∀ line ∈ b'.lines, line = (d.subject, ns.filter (!b.isClosed ·)) ∨ line ∈ b.lines := by
    intro line mem
    rw [lines] at mem
    rcases List.mem_cons.1 mem with new | old
    · exact .inl new
    · exact .inr (List.mem_filter.1 old).1
  apply connects.moved b' (.publish d) capacity length
  · intro line mem
    rcases lineOf line mem with rfl | old
    · exact ⟨_, known, List.filter_sublist⟩
    · exact ⟨line, old, .refl _⟩
  · intro n l there fits
    obtain ⟨c, at_, carries⟩ := fits.carries
    have linesOf' : b'.linesOf l.subject =
        if l.subject = d.subject then ns.filter (!b.isClosed ·) else b.linesOf l.subject := by
      rw [← linesOf_withLines, linesOf, linesOf, lines]
    by_cases hears : l.hears d.subject = true
    · have reached := (open_ n).2 ⟨l, there, hears⟩
      obtain ⟨same, listening⟩ : l.subject = d.subject ∧ l.queue.life = .listening := by
        simpa [Listener.hears] using hears
      rw [l.moved_put k n hears]
      have still : (l.queue.move k (.put d)).life = .listening := by
        simp only [Queue.move]
        split <;> exact listening
      exact
        { carries := ⟨c.send k d, by simp [channels, at_, reached], carries.put k d listening⟩
          reached := fun _ => by rwa [Listener.subject_turned, linesOf', if_pos same]
          own := fun line mem inLine => by
            rcases lineOf line mem with rfl | old
            · exact same.symm
            · exact fits.own line old inLine
          shut := fun _ _ _ deaf => absurd still deaf }
    · have unsent : n ∉ ns.filter (!b.isClosed ·) := by
        rw [open_]
        rintro ⟨m, at_', heard⟩
        cases there.symm.trans at_'
        exact hears heard
      have channel : b'.channels[n]? = some c := by
        rw [channels, at_, Option.map_some, if_neg unsent]
      rw [l.moved_deaf k n (by simpa using hears)]
      refine fits.of_lines (channel.trans at_.symm) (fun line mem inLine => ?_) fun listening => ?_
      · rcases lineOf line mem with rfl | old
        · exact absurd inLine unsent
        · exact ⟨line, old, rfl, inLine⟩
      · have other : l.subject ≠ d.subject := by
          intro same
          exact hears (by simp [Listener.hears, same, listening])
        rw [linesOf', if_neg other]
        exact fits.reached listening

theorem published (connects : b.Connects k ls) (d : Delivery) :
    (b.publish d).1.Connects k (ls.move k (.publish d)) := by
  simp only [Switchboard.publish]
  split
  case h_1 none =>
    apply connects.moved b (.publish d) rfl rfl fun line mem => ⟨line, mem, .refl _⟩
    intro n l there fits
    have deaf : ¬ l.hears d.subject = true := by
      intro hears
      have line := (connects.mem_open d.subject n).2 ⟨l, there, hears⟩
      simp [linesOf, none] at line
    rw [l.moved_deaf k n (by simpa using deaf)]
    exact fits
  case h_2 ns found =>
    have once : (ns.filter (!b.isClosed ·)).Nodup := (connects.once _ (mem_of_lookup found)).filter _
    obtain ⟨capacity, lines, length, channels⟩ :=
      (b.withLines d.subject (ns.filter (!b.isClosed ·))).foldl_send k d _ once connects.capacity
    exact connects.delivered d ns found capacity lines length channels

theorem joined (connects : b.Connects k ls) (subject : String) (capacity : b'.capacity = b.capacity)
    (lines : b'.lines = (b.withLines subject (b.linesOf subject ++ [ls.length])).lines)
    (channels : b'.channels = b.channels ++ [.fresh]) : b'.Connects k (ls ++ [⟨subject, .fresh⟩]) := by
  -- a number on a line was on a line of the same subject before, or it is the new one
  have lineOf : ∀ line ∈ b'.lines, ∀ n ∈ line.2,
      (∃ old ∈ b.lines, old.1 = line.1 ∧ n ∈ old.2) ∨ (line.1 = subject ∧ n = ls.length) := by
    intro line mem n inLine
    rcases List.mem_cons.1 (lines ▸ mem) with rfl | old
    · rcases List.mem_append.1 inLine with before | new
      · exact .inl ⟨_, mem_lines before, rfl, before⟩
      · exact .inr ⟨rfl, List.mem_singleton.1 new⟩
    · exact .inl ⟨line, (List.mem_filter.1 old).1, rfl, inLine⟩
  have linesOf' (other : String) : b'.linesOf other =
      if other = subject then b.linesOf subject ++ [ls.length] else b.linesOf other := by
    rw [← linesOf_withLines, linesOf, linesOf, lines]
  refine ⟨capacity.trans connects.capacity, by simp [channels, connects.length], ?fits, ?inside, ?once⟩
  case fits =>
    intro n l there
    rcases Nat.lt_or_ge n ls.length with old | new
    · rw [List.getElem?_append_left old] at there
      have fits := connects.fits n l there
      have channel : b'.channels[n]? = b.channels[n]? := by
        rw [channels, List.getElem?_append_left (connects.length ▸ old)]
      refine fits.of_lines channel (fun line mem inLine => ?_) fun listening => ?_
      · rcases lineOf line mem n inLine with known | ⟨-, rfl⟩
        · exact known
        · omega
      · have reached := fits.reached listening
        rw [linesOf']
        split
        case isTrue same => exact List.mem_append_left _ (same ▸ reached)
        · exact reached
    · obtain ⟨rfl, rfl⟩ : n = ls.length ∧ l = ⟨subject, .fresh⟩ := by
        rw [List.getElem?_append_right new, List.getElem?_singleton] at there
        split at there
        · exact ⟨by omega, by simpa using there.symm⟩
        · cases there
      have at_ : b'.channels[ls.length]? = some .fresh := by simp [channels, ← connects.length]
      refine ⟨⟨.fresh, at_, .fresh⟩, fun _ => by simp [linesOf'], fun line mem inLine => ?_,
        fun _ _ _ deaf => absurd rfl deaf⟩
      rcases lineOf line mem _ inLine with ⟨before, known, -, was⟩ | ⟨same, -⟩
      · exact absurd (connects.inside before known _ was) (Nat.lt_irrefl _)
      · exact same
  case inside =>
    intro line mem n inLine
    rw [List.length_append]
    rcases lineOf line mem n inLine with ⟨before, known, -, was⟩ | ⟨-, rfl⟩
    · exact Nat.lt_add_right _ (connects.inside before known n was)
    · exact Nat.lt_succ_self _
  case once =>
    intro line mem
    rcases List.mem_cons.1 (lines ▸ mem) with rfl | old
    · refine List.nodup_append.2 ⟨connects.nodup_linesOf subject, by simp, ?_⟩
      intro n before m new
      have inside := connects.inside _ (mem_lines before) n before
      rw [List.mem_singleton.1 new]
      exact Nat.ne_of_lt inside
    · exact connects.once line (List.mem_filter.1 old).1

theorem serve (connects : b.Connects k ls) (step : Step) :
    (b.serve step).1.Connects k (ls.serve k step).1 ∧ (b.serve step).2 = (ls.serve k step).2 := by
  cases step with
  | subscribe subject =>
    simp only [Switchboard.serve, Switchboard.subscribe, Listeners.serve, connects.capacity]
    by_cases none : k = 0 ∨ Memory.maxCapacity < k
    · simpa [none] using connects
    · simp only [none, connects.length, decide_eq_true_eq, Bool.or_eq_true]
      exact ⟨connects.joined subject rfl rfl rfl, rfl⟩
  | publish d =>
    refine ⟨connects.published d, ?_⟩
    simp only [Switchboard.serve, Switchboard.publish, Listeners.serve]
    split <;> rfl
  | receive n =>
    obtain ⟨left, found⟩ := connects.received n
    exact ⟨left, congrArg Answer.received found⟩
  | close n => exact ⟨connects.closed n, rfl⟩
  | drop n => exact ⟨connects.dropped n, rfl⟩
  | retire inbox n => exact ⟨connects.retired inbox n, rfl⟩
  | count subject => exact ⟨connects, congrArg Answer.counted (connects.subscriberCount subject)⟩

theorem answers (connects : b.Connects k ls) (steps : List Step) : b.answers steps = ls.answers k steps :=
  (in_step (Connects · k ·) (fun _ _ step connects => connects.serve step) connects steps).2

end Connects

theorem connects_new (k : Nat) : (new k).Connects k [] where
  capacity := rfl
  length := rfl
  fits _ _ there := by cases there
  inside _ mem := by cases mem
  once _ mem := by cases mem

end Switchboard
end Steward.Bus
