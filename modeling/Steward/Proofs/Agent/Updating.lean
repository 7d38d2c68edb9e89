import Steward.Agent.Lifecycle
import Steward.Proofs.Trace
import Steward.Proofs.Update.Precedence

/-!
Updates of the agent. A binary is installed only if it is offered by a proper descriptor, was downloaded
and has the digest that was promised, and if its version comes after the running one: its precedence is
higher, or it is the same and only the build comes later. The second case is more than the order of
Semantic Versioning allows. Any other offer is up to date and nothing is called.
-/
namespace Steward.Agent

open Steward.Message Steward.Text Steward.Update Steward.Web

theorem traces_call_bind {c : Call} {f : c.Answer → Job α} {past : List Surroundings.Event}
    {outcome : Except Chain α} : Action.Traces (call c >>= f) past outcome ↔
      ∃ (x : c.Answer) (rest : List Surroundings.Event), past = ⟨c, x⟩ :: rest ∧
        Action.Traces (f x) rest outcome := by
  constructor
  · intro traces
    cases traces with
    | call x rest => exact ⟨x, _, rfl, rest⟩
  · rintro ⟨x, rest, rfl, traces⟩
    exact Plan.Traces.call (I := Surroundings) x traces

/-! What a command offers. -/

/-- The command gives an address, and a version once letters `v` in front of it are dropped. -/
structure Offers (c : Command) (v : Version) : Prop where
  address : (c.arg? "url").getD "" ≠ ""
  version : Version.ofChars? (((c.arg? "version").getD "").toList.dropWhile (· == 'v')) = some v

/-- A digest that is promised, written in any case, is the one of these bytes. -/
def KeepsPromise (c : Command) (bytes : List UInt8) : Prop :=
  ∀ promised, c.arg? "sha256" = some promised → promised ≠ "" → lower promised = sha256Hex bytes

theorem offers_of_descriptor {c : Command} {d : Descriptor} (made : Descriptor.ofCommand c = .ok d) :
    Offers c d.version ∧ d.url = (c.arg? "url").getD "" ∧
      d.sha256 = ((c.arg? "sha256").filter (!·.isEmpty)).map lower := by
  unfold Descriptor.ofCommand Descriptor.make at made
  split at made
  · cases made
  · rename_i address
    split at made
    · cases made
    · rename_i v version
      cases made
      refine ⟨⟨?_, version⟩, rfl, rfl⟩
      intro none
      rw [none] at address
      exact address rfl

theorem descriptor_of_offers {c : Command} {v : Version} (offers : Offers c v) :
    ∃ d, Descriptor.ofCommand c = .ok d ∧ d.version = v := by
  have address : ((c.arg? "url").getD "").isEmpty = false := by
    rw [← Bool.not_eq_true, String.isEmpty_iff]
    exact offers.address
  unfold Descriptor.ofCommand Descriptor.make
  rw [address, offers.version]
  exact ⟨_, rfl, rfl⟩

theorem offers_unique {c : Command} {v w : Version} (offers : Offers c v) (offers' : Offers c w) : v = w :=
  Option.some.inj (offers.version.symm.trans offers'.version)

theorem keepsPromise_of_checked {c : Command} {d : Descriptor} {bytes : List UInt8}
    (made : Descriptor.ofCommand c = .ok d) (checked : checkDigest d.sha256 bytes = .ok ()) :
    KeepsPromise c bytes := by
  intro promised given some
  obtain ⟨-, -, digest⟩ := offers_of_descriptor made
  have kept : promised.isEmpty = false := by
    rw [← Bool.not_eq_true, String.isEmpty_iff]
    exact some
  rw [given, Option.filter_some, kept] at digest
  rw [digest] at checked
  simp only [checkDigest, Bool.not_false, if_true, Option.map_some] at checked
  split at checked
  · rename_i found
    exact found.symm
  · cases checked

/-! What an update calls. -/

def Downloaded (c : Command) (past : List Surroundings.Event) (bytes : List UInt8) : Prop :=
  ∃ address status, (destination ((c.arg? "url").getD "") >>= requestedUrl) = .ok address ∧
    ⟨.request { method := .get, url := address, headers := [], body := none }, .answered status bytes⟩ ∈ past ∧
    isClientError status = false ∧ isServerError status = false

theorem download_traces {url : String} {past : List Surroundings.Event} {outcome : Except Chain (List UInt8)}
    (traces : Action.Traces (download url) past outcome) :
    (∃ e, outcome = .error e) ∧ past = [] ∨
    ∃ address x, (destination url >>= requestedUrl) = .ok address ∧
      past = [⟨.request { method := .get, url := address, headers := [], body := none }, x⟩] ∧
      ((∃ e, outcome = .error e) ∨ ∃ status bytes, x = .answered status bytes ∧
        isClientError status = false ∧ isServerError status = false ∧ outcome = .ok bytes) := by
  unfold download at traces
  dsimp only at traces
  split at traces
  · obtain ⟨none, failed⟩ := Action.traces_throw.1 traces
    exact .inl ⟨⟨_, failed⟩, none⟩
  · rename_i address found
    obtain ⟨x, rest, same, ended⟩ := traces_call_bind.1 traces
    have judged : rest = [] ∧ ((∃ e, outcome = .error e) ∨ ∃ status bytes, x = .answered status bytes ∧
        isClientError status = false ∧ isServerError status = false ∧ outcome = .ok bytes) := by
      split at ended
      · rename_i status body
        split at ended
        · obtain ⟨none, failed⟩ := Action.traces_throw.1 ended
          exact ⟨none, .inl ⟨_, failed⟩⟩
        · rename_i fine
          obtain ⟨none, done⟩ := Action.traces_pure.1 ended
          simp only [Bool.or_eq_true, not_or, Bool.not_eq_true] at fine
          exact ⟨none, .inr ⟨status, body, rfl, fine.1, fine.2, done⟩⟩
      · obtain ⟨none, failed⟩ := Action.traces_throw.1 ended
        exact ⟨none, .inl ⟨_, failed⟩⟩
    rw [judged.1] at same
    exact .inr ⟨address, x, found, same, judged.2⟩

inductive UpdateRun (current : Version) (c : Command) :
    List Surroundings.Event → Except Chain UpdateOutcome → Prop where
  | refused {e : Chain} : (∀ v, ¬ Offers c v) → UpdateRun current c [] (.error e)
  | upToDate {v : Version} : Offers c v → v.le current = true → UpdateRun current c [] (.ok .upToDate)
  /-- The download failed, or brought other bytes than were promised. -/
  | failed {v : Version} {past : List Surroundings.Event} {e : Chain} : Offers c v → v.le current = false →
      (∀ event ∈ past, ∃ r, event.1 = .request r) → UpdateRun current c past (.error e)
  | installing {v : Version} {past : List Surroundings.Event} {bytes : List UInt8} (x : Except Chain Unit) :
      Offers c v → v.le current = false → (∀ event ∈ past, ∃ r, event.1 = .request r) →
      Downloaded c past bytes → KeepsPromise c bytes →
      UpdateRun current c (past ++ [⟨.install bytes, x⟩]) (x.map fun () => .installed v)

theorem updateRun_of_later {current : Version} {c : Command} {d : Descriptor} {past : List Surroundings.Event}
    {outcome : Except Chain UpdateOutcome} (made : Descriptor.ofCommand c = .ok d)
    (later : d.version.le current = false)
    (traces : Action.Traces (do
      let bytes ← download d.url
      orFail (checkDigest d.sha256 bytes)
      orFail (← call (.install bytes))
      return .installed d.version) past outcome) :
    UpdateRun current c past outcome := by
  obtain ⟨offers, address, -⟩ := offers_of_descriptor made
  rcases Action.traces_bind.1 traces with ⟨e, got, rfl⟩ | ⟨first, bytes, second, rfl, got, checking⟩
  · refine .failed offers later ?_
    rcases download_traces got with ⟨-, rfl⟩ | ⟨_, _, -, rfl, -⟩
    · simp
    · intro event mem
      rw [List.mem_singleton.1 mem]
      exact ⟨_, rfl⟩
  · rcases download_traces got with ⟨⟨_, other⟩, -⟩ | ⟨target, x, found, rfl, ⟨_, other⟩ | answered⟩
    · cases other
    · cases other
    obtain ⟨status, body, rfl, client, server, same⟩ := answered
    cases same
    have requests : ∀ event ∈ [(⟨.request { method := .get, url := target, headers := [], body := none },
        .answered status bytes⟩ : Surroundings.Event)], ∃ r, event.1 = .request r := by
      intro event mem
      rw [List.mem_singleton.1 mem]
      exact ⟨_, rfl⟩
    rw [address] at found
    have downloaded : Downloaded c [⟨.request { method := .get, url := target, headers := [], body := none },
        .answered status bytes⟩] bytes :=
      ⟨target, status, found, List.mem_singleton.2 rfl, client, server⟩
    rcases Action.traces_ofExcept_bind.1 checking with ⟨e, -, rfl, rfl⟩ | ⟨_, kept, installing⟩
    · rw [List.append_nil]
      exact .failed offers later requests
    · obtain ⟨x, rest, rfl, ending⟩ := traces_call_bind.1 installing
      have run := UpdateRun.installing x offers later requests downloaded (keepsPromise_of_checked made kept)
      rcases Action.traces_ofExcept_bind.1 ending with ⟨e, rfl, rfl, rfl⟩ | ⟨_, rfl, done⟩
      · exact run
      · obtain ⟨rfl, rfl⟩ := Action.traces_pure.1 done
        exact run

theorem updateRun_of_traces {current : Version} {c : Command} {past : List Surroundings.Event}
    {outcome : Except Chain UpdateOutcome} (traces : Action.Traces (updateFor current c) past outcome) :
    UpdateRun current c past outcome := by
  rcases Action.traces_ofExcept_bind.1 traces with ⟨fault, wrong, rfl, rfl⟩ | ⟨d, made, updating⟩
  · refine .refused fun v offers => ?_
    obtain ⟨d, other, -⟩ := descriptor_of_offers offers
    rw [wrong] at other
    cases other
  · unfold update at updating
    cases order : d.version.le current with
    | true =>
      rw [order, if_pos rfl] at updating
      obtain ⟨rfl, rfl⟩ := Action.traces_pure.1 updating
      exact .upToDate (offers_of_descriptor made).1 order
    | false =>
      rw [order, if_neg Bool.false_ne_true] at updating
      exact updateRun_of_later made order updating

/-! Which versions are installed. -/

def LaterBuild (v w : Version) : Prop :=
  v.numbers = w.numbers ∧ v.pre = w.pre ∧ compareLists v.build w.build = .lt

theorem le_eq_false_iff_later {v w : Version} (proper : v.Proper) (proper' : w.Proper) :
    w.le v = false ↔ v.Precedes w ∨ LaterBuild v w := by
  rw [Version.le_eq_false_iff proper proper', Version.samePrecedence_iff proper proper', LaterBuild,
    and_assoc]

structure UpdateEffect (current : Version) (c : Command) (past : List Surroundings.Event)
    (outcome : Except Chain UpdateOutcome) : Prop where
  install : ∀ bytes x, ⟨.install bytes, x⟩ ∈ past → ∃ v, Offers c v ∧
    (current.Precedes v ∨ LaterBuild current v) ∧ Downloaded c past bytes ∧ KeepsPromise c bytes
  idle : ∀ v, Offers c v → ¬ current.Precedes v → ¬ LaterBuild current v →
    past = [] ∧ outcome = .ok .upToDate
  failure : ∀ e, outcome = .error e → ∀ bytes, ⟨.install bytes, .ok ()⟩ ∉ past
  success : ∀ v, outcome = .ok (.installed v) → Offers c v ∧ ∃ bytes, ⟨.install bytes, .ok ()⟩ ∈ past

theorem not_installs_of_requests {past : List Surroundings.Event}
    (requests : ∀ event ∈ past, ∃ r, event.1 = .request r) (bytes : List UInt8) (x : Except Chain Unit) :
    (⟨.install bytes, x⟩ : Surroundings.Event) ∉ past := by
  intro mem
  obtain ⟨r, other⟩ := requests _ mem
  cases other

/-- An update installs what comes after the running version, was downloaded and has the promised digest;
beyond the precedence of Semantic Versioning that is also a later build of the same version. -/
theorem update_effect {current : Version} {c : Command} {past : List Surroundings.Event}
    {outcome : Except Chain UpdateOutcome} (proper : current.Proper)
    (traces : Action.Traces (updateFor current c) past outcome) : UpdateEffect current c past outcome := by
  have later : ∀ v, Offers c v → (v.le current = false ↔ current.Precedes v ∨ LaterBuild current v) := by
    intro v offers
    exact le_eq_false_iff_later proper (Version.proper_of_ofChars? offers.version)
  cases updateRun_of_traces traces with
  | refused none =>
    refine ⟨by simp, fun v offers => absurd offers (none v), by simp, by simp⟩
  | upToDate => exact ⟨by simp, fun _ _ _ _ => ⟨rfl, rfl⟩, by simp, by simp⟩
  | failed offers after requests =>
    refine ⟨fun bytes x mem => ?_, fun w offers' not none => ?_, fun e _ bytes mem => ?_, by simp⟩
    · exact absurd mem (not_installs_of_requests requests bytes x)
    · rw [offers_unique offers offers'] at after
      rcases (later w offers').1 after with higher | build
      · exact absurd higher not
      · exact absurd build none
    · exact absurd mem (not_installs_of_requests requests bytes _)
  | @installing v before bytes x offers after requests downloaded kept =>
    have order := (later v offers).1 after
    refine ⟨fun found y mem => ?_, fun w offers' not none => ?_, fun e failed found mem => ?_, fun w same => ?_⟩
    · rcases List.mem_append.1 mem with before | last
      · exact absurd before (not_installs_of_requests requests found y)
      · cases List.mem_singleton.1 last
        obtain ⟨address, status, reached, answered, fine⟩ := downloaded
        exact ⟨v, offers, order, ⟨address, status, reached, List.mem_append_left _ answered, fine⟩, kept⟩
    · rw [offers_unique offers offers'] at order
      rcases order with higher | build
      · exact absurd higher not
      · exact absurd build none
    · rcases List.mem_append.1 mem with before | last
      · exact absurd before (not_installs_of_requests requests found _)
      · cases List.mem_singleton.1 last
        cases failed
    · cases x with
      | ok u =>
        cases same
        exact ⟨offers, bytes, List.mem_append_right _ (List.mem_singleton.2 rfl)⟩
      | error e => cases same

/-! Updates that are made. -/

def brought (address : String) (status : Nat) (bytes : List UInt8) : Surroundings.Event :=
  ⟨.request { method := .get, url := address, headers := [], body := none }, .answered status bytes⟩

/-- An offer of a later version, downloaded and with the promised digest, comes to be installed. -/
theorem installs_of_offered {current : Version} {c : Command} {d : Descriptor} {address : String}
    {status : Nat} {bytes : List UInt8} (x : Except Chain Unit) (made : Descriptor.ofCommand c = .ok d)
    (later : d.version.le current = false) (found : (destination d.url >>= requestedUrl) = .ok address)
    (client : isClientError status = false) (server : isServerError status = false)
    (checked : checkDigest d.sha256 bytes = .ok ()) :
    Action.Traces (updateFor current c) [brought address status bytes, ⟨.install bytes, x⟩]
      (x.map fun () => .installed d.version) := by
  have downloaded : Action.Traces (download d.url) [brought address status bytes] (.ok bytes) := by
    unfold download
    dsimp only
    rw [found]
    refine traces_call_bind.2 ⟨_, [], rfl, ?_⟩
    dsimp only
    rw [client, server]
    exact Action.traces_pure.2 ⟨rfl, rfl⟩
  have replaced : Action.Traces (do
      orFail (← call (.install bytes))
      return UpdateOutcome.installed d.version) [⟨.install bytes, x⟩] (x.map fun () => .installed d.version) := by
    refine traces_call_bind.2 ⟨x, [], rfl, ?_⟩
    cases x with
    | ok u => exact Action.traces_pure.2 ⟨rfl, rfl⟩
    | error e => exact Action.traces_throw.2 ⟨rfl, rfl⟩
  refine Action.traces_ofExcept_bind.2 (.inr ⟨d, made, ?_⟩)
  unfold update
  rw [later, if_neg Bool.false_ne_true]
  refine Action.traces_bind.2 (.inr ⟨_, bytes, _, rfl, downloaded, ?_⟩)
  exact Action.traces_ofExcept_bind.2 (.inr ⟨(), checked, replaced⟩)

def candidateUpdate : Command :=
  (((Command.named "agent-self-update").withArg "url" "http://h/a").withArg "version" "v1.0.0-rc.10").withArg
    "sha256" "A12871FEE210FB8619291EAEA194581CBD2531E4B23759D225F6806923F63222"

def candidate (n : Char) : Version := ⟨1, 0, 0, [['r', 'c'], [n]], []⟩

theorem update_effect_candidate : ∃ v, Offers candidateUpdate v ∧ (candidate '2').Proper ∧
    (candidate '2').Precedes v ∧
    Action.Traces (updateFor (candidate '2') candidateUpdate)
      [brought "http://h/a" 200 [1, 2], ⟨.install [1, 2], .ok ()⟩] (.ok (.installed v)) ∧
    UpdateEffect (candidate '2') candidateUpdate
      [brought "http://h/a" 200 [1, 2], ⟨.install [1, 2], .ok ()⟩] (.ok (.installed v)) := by
  have made : Descriptor.ofCommand candidateUpdate = .ok
      ⟨"http://h/a", ⟨1, 0, 0, [['r', 'c'], ['1', '0']], []⟩,
        some "a12871fee210fb8619291eaea194581cbd2531e4b23759d225f6806923f63222"⟩ := by rfl
  have proper : (candidate '2').Proper := by
    unfold Version.Proper
    decide
  have checked : checkDigest (some "a12871fee210fb8619291eaea194581cbd2531e4b23759d225f6806923f63222")
      [1, 2] = .ok () := by
    have found : sha256Hex [1, 2] = "a12871fee210fb8619291eaea194581cbd2531e4b23759d225f6806923f63222" := by
      decide +kernel
    simp only [checkDigest, found, if_true]
  have offers := (offers_of_descriptor made).1
  have traces := installs_of_offered (.ok ()) made (by decide : Version.le _ (candidate '2') = false)
    (by rfl : (destination "http://h/a" >>= requestedUrl) = .ok "http://h/a") (by decide : isClientError 200 = false)
    (by decide) checked
  refine ⟨_, offers, proper, ?_, traces, update_effect proper traces⟩
  exact (Version.precedes_iff proper (Version.proper_of_ofChars? offers.version)).2 (by decide)

def buildUpdate : Command :=
  ((Command.named "agent-self-update").withArg "url" "http://h/a").withArg "version" "1.0.0+b"

def firstRelease : Version := ⟨1, 0, 0, [], []⟩

/-- A build has the precedence of its version and is installed nevertheless. -/
theorem build_installed : ∃ v, Offers buildUpdate v ∧ firstRelease.Proper ∧ ¬ firstRelease.Precedes v ∧
    Action.Traces (updateFor firstRelease buildUpdate)
      [brought "http://h/a" 200 [1, 2], ⟨.install [1, 2], .ok ()⟩] (.ok (.installed v)) := by
  have made : Descriptor.ofCommand buildUpdate = .ok ⟨"http://h/a", ⟨1, 0, 0, [], [['b']]⟩, none⟩ := by rfl
  have proper : firstRelease.Proper := by
    unfold Version.Proper
    decide
  have offers := (offers_of_descriptor made).1
  have traces := installs_of_offered (.ok ()) made (by decide : Version.le _ firstRelease = false)
    (by rfl : (destination "http://h/a" >>= requestedUrl) = .ok "http://h/a") (by decide : isClientError 200 = false)
    (by decide) (by rfl : checkDigest none [1, 2] = .ok ())
  refine ⟨_, offers, proper, ?_, traces⟩
  intro precedes
  have less := (Version.precedes_iff proper (Version.proper_of_ofChars? offers.version)).1 precedes
  revert less
  decide

end Steward.Agent
