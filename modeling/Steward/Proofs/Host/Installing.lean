import Steward.Host.Rehearsal
import Steward.Proofs.Text.Cutting
import Steward.Proofs.Trace

/-!
Installing packages by their names on a machine with `apt-get`. A name that is blank, or that an installer
might take for an option, stops everything before the machine is asked to start a program. Otherwise the
machine is asked once, for one command: options that do not depend on the names, and then the names as they
are. Whether a program then runs is up to the machine, which starts none with a NUL in an argument.
-/
namespace Steward.Host

open Steward.Inventory Steward.Supervision Steward.Text

/-- Blank, or with a hyphen behind the blanks in front. -/
def Refused (name : String) : Prop :=
  isBlankText name = true ∨ (trimStartChars name.toList).head? = some '-'

instance (name : String) : Decidable (Refused name) := inferInstanceAs (Decidable (_ ∨ _))

structure Plain (name : String) : Prop where
  inked : isBlankText name = false
  unhyphened : name.toList.head? ≠ some '-'

section Name
variable {name : String}

theorem plain_of_not_refused (fine : ¬Refused name) : Plain name := by
  rw [Refused, not_or, Bool.not_eq_true] at fine
  refine ⟨fine.1, fun hyphen => fine.2 ?_⟩
  obtain ⟨rest, shape⟩ := List.head?_eq_some_iff.1 hyphen
  rw [shape]
  rfl

theorem checkPackageName_of_refused (refused : Refused name) :
    ∃ fault, checkPackageName name = .error fault := by
  unfold checkPackageName
  split
  · exact ⟨_, rfl⟩
  · exact ⟨_, rfl⟩
  · rename_i some other
    rcases refused with blank | hyphen
    · exact absurd (trimChars_eq_nil.2 blank) some
    · rw [← head?_trimChars some] at hyphen
      obtain ⟨rest, shape⟩ := List.head?_eq_some_iff.1 hyphen
      exact absurd shape (other rest)

theorem checkPackageName_of_not_refused (fine : ¬Refused name) : checkPackageName name = .ok () := by
  rw [Refused, not_or, Bool.not_eq_true] at fine
  unfold checkPackageName
  split
  · rename_i none
    rw [isBlankText, trimChars_eq_nil.1 none] at fine
    cases fine.1
  · rename_i rest shape
    refine absurd ?_ fine.2
    rw [← head?_trimChars (by rw [shape]; nofun), shape]
    rfl
  · rfl

end Name

/-! What the machine is asked for. -/

/-- A package to be installed, or updates, all of them if none is named. -/
inductive Installation where
  | package (name : String)
  | updates (ids : List String)

namespace Installation

def names : Installation → List String
  | package name => [name]
  | updates ids => ids

def options : Installation → List String
  | package _ => ["install", "-y"]
  | updates [] => ["upgrade", "-y"]
  | updates (_ :: _) => ["install", "--only-upgrade", "-y"]

def command (i : Installation) : Launch := quietLaunch "apt-get" (i.options ++ i.names) installTimeoutSecs

def plan (h : LinuxHost) : Installation → Plan Machine (Except Chain String)
  | package name => h.perform (.installPackage name)
  | updates ids => h.perform (.installOsUpdates ids)

end Installation

abbrev looked (there : Bool) : Machine.Event := ⟨.fileExists "/usr/bin/apt-get", there⟩

def HasApt (past : List Machine.Event) : Prop := looked false ∉ past

def asked (past : List Machine.Event) : List Launch :=
  past.filterMap fun
    | ⟨.launch l, _⟩ => some l
    | _ => none

def started (past : List Machine.Event) : List Launch :=
  past.filterMap fun
    | ⟨.launch l, .ok _⟩ => some l
    | _ => none

inductive Checked (names : List String) : List Machine.Event → Except Chain Unit → Prop where
  | refused {e : Chain} : (∃ name ∈ names, Refused name) → Checked names [] (.error e)
  | fine : (∀ name ∈ names, ¬Refused name) → Checked names [] (.ok ())

inductive Asks (l : Launch) : List Machine.Event → Except Chain String → Prop where
  | unstarted (e : ProcessError) : Asks l [looked true, ⟨.launch l, .error e⟩] (.error e.chain)
  | ran (o : Outcome) {outcome : Except Chain String} : Asks l [looked true, ⟨.launch l, .ok o⟩] outcome

inductive Course (i : Installation) : List Machine.Event → Except Chain String → Prop where
  | refused {e : Chain} : (∃ name ∈ i.names, Refused name) → Course i [] (.error e)
  | asks {past : List Machine.Event} {outcome : Except Chain String} :
      (∀ name ∈ i.names, ¬Refused name) → Asks i.command past outcome → Course i past outcome

section Traces
variable {past : List Machine.Event} {α : Type}

theorem traces_checkName {name : String} {outcome : Except Chain Unit}
    (traces : Action.Traces (checkName name) past outcome) : Checked [name] past outcome := by
  unfold checkName at traces
  by_cases refused : Refused name
  · obtain ⟨fault, found⟩ := checkPackageName_of_refused refused
    rw [found] at traces
    obtain ⟨rfl, rfl⟩ := Action.traces_throw.1 traces
    exact .refused ⟨name, List.mem_cons_self, refused⟩
  · rw [checkPackageName_of_not_refused refused] at traces
    obtain ⟨rfl, rfl⟩ := Action.traces_pure.1 traces
    exact .fine (List.forall_mem_singleton.2 refused)

theorem traces_checkNames {names : List String} {outcome : Except Chain Unit}
    (traces : Action.Traces (names.forM checkName) past outcome) : Checked names past outcome := by
  induction names generalizing past with
  | nil =>
    obtain ⟨rfl, rfl⟩ := Action.traces_pure.1 traces
    exact .fine fun _ mem => absurd mem List.not_mem_nil
  | cons name names ih =>
    -- a check that lets its name pass leaves nothing behind, so the rest is a run of its own
    rcases Action.traces_bind.1 traces with ⟨e, here, rfl⟩ | ⟨first, u, second, rfl, here, later⟩
    · cases traces_checkName here with
      | refused bad =>
        obtain ⟨_, mem, refused⟩ := bad
        exact .refused ⟨name, List.mem_cons_self, List.mem_singleton.1 mem ▸ refused⟩
    · cases traces_checkName here with
      | fine good =>
        cases ih later with
        | refused bad =>
          obtain ⟨other, mem, refused⟩ := bad
          exact .refused ⟨other, List.mem_cons_of_mem _ mem, refused⟩
        | fine others => exact .fine (List.forall_mem_cons.2 ⟨good name List.mem_cons_self, others⟩)

theorem traces_packageManager {outcome : Except Chain PackageManager}
    (traces : Action.Traces packageManager past outcome) (apt : HasApt past) :
    past = [looked true] ∧ outcome = .ok .apt := by
  cases traces with
  | call there rest =>
    cases there with
    | false => exact absurd List.mem_cons_self apt
    | true =>
      cases rest
      exact ⟨rfl, rfl⟩

theorem traces_start_bind {l : Launch} {f : Outcome → Action Machine α} {outcome : Except Chain α}
    (traces : Action.Traces (start l >>= f) past outcome) :
    (∃ e, past = [⟨.launch l, .error e⟩] ∧ outcome = .error e.chain) ∨
      ∃ o rest, past = ⟨.launch l, .ok o⟩ :: rest ∧ Action.Traces (f o) rest outcome := by
  cases traces with
  | call x rest =>
    cases x with
    | error e =>
      cases rest
      exact .inl ⟨e, rfl, rfl⟩
    | ok o => exact .inr ⟨o, _, rfl, rest⟩

theorem traces_command (command : PackageManager → String × List String)
    {finish : PackageManager → Outcome → Action Machine String} {outcome : Except Chain String}
    (quiet : ∀ o past outcome, Action.Traces (finish .apt o) past outcome → past = [])
    (traces : Action.Traces (packageManager >>= fun pm =>
      start (quietLaunch (command pm).1 (command pm).2 installTimeoutSecs) >>= finish pm) past outcome)
    (apt : HasApt past) :
    Asks (quietLaunch (command .apt).1 (command .apt).2 installTimeoutSecs) past outcome := by
  rcases Action.traces_bind.1 traces with ⟨e, found, -⟩ | ⟨first, pm, rest, rfl, found, asking⟩
  · obtain ⟨-, other⟩ := traces_packageManager found apt
    cases other
  · obtain ⟨rfl, same⟩ := traces_packageManager found fun mem => apt (List.mem_append_left rest mem)
    cases same
    rcases traces_start_bind asking with ⟨e, rfl, rfl⟩ | ⟨o, last, rfl, finishing⟩
    · exact .unstarted e
    · obtain rfl := quiet o _ _ finishing
      exact .ran o

theorem course_of_checked {i : Installation} {checks : Action Machine Unit} {work : Action Machine String}
    {outcome : Except Chain String}
    (checked : ∀ past outcome, Action.Traces checks past outcome → Checked i.names past outcome)
    (works : Action.Traces work past outcome → Asks i.command past outcome)
    (traces : Action.Traces (checks >>= fun _ => work) past outcome) : Course i past outcome := by
  rcases Action.traces_bind.1 traces with ⟨e, checking, rfl⟩ | ⟨first, u, rest, rfl, checking, working⟩
  · cases checked _ _ checking with
    | refused bad => exact .refused bad
  · cases checked _ _ checking with
    | fine good => exact .asks good (works working)

end Traces

theorem course_of_traces {h : LinuxHost} {i : Installation} {past : List Machine.Event}
    {outcome : Except Chain String} (traces : (i.plan h).Traces past outcome) (apt : HasApt past) :
    Course i past outcome := by
  cases i with
  | package name =>
    refine course_of_checked (fun past outcome => traces_checkName) (fun working => ?_) traces
    refine traces_command (fun pm => installCommand pm name) (fun o past outcome finishing => ?_) working apt
    exact (Action.traces_pure.1 finishing).1
  | updates ids =>
    refine course_of_checked (fun past outcome => traces_checkNames) (fun working => ?_) traces
    have same : Installation.command (.updates ids) = quietLaunch (upgradeCommand .apt ids).1
        (upgradeCommand .apt ids).2 installTimeoutSecs := by
      cases ids with
      | nil => rfl
      | cons id ids => rfl
    rw [same]
    refine traces_command (fun pm => upgradeCommand pm ids) (fun o past outcome finishing => ?_) working apt
    dsimp only at finishing
    split at finishing
    · exact (Action.traces_pure.1 finishing).1
    · exact (Action.traces_throw.1 finishing).1

def upgradeEverything : Launch := quietLaunch "apt-get" ["upgrade", "-y"] installTimeoutSecs

theorem command_eq_upgradeEverything_iff {i : Installation} :
    i.command = upgradeEverything ↔ i = .updates [] := by
  constructor
  · intro same
    -- the options alone tell the commands apart, whatever the names are
    have words : (i.options ++ i.names).map Argument.text = [.text "upgrade", .text "-y"] :=
      congrArg Launch.args same
    cases i with
    | package name => simp [Installation.options] at words
    | updates ids =>
      cases ids with
      | nil => rfl
      | cons id ids => simp [Installation.options] at words
  · rintro rfl
    rfl

section Installing
variable {h : LinuxHost} {i : Installation} {past : List Machine.Event} {outcome : Except Chain String}

/-- Either no program runs and the installation fails, or one command runs, with the names unchanged and in
order behind fixed options and none of them blank or an option. No program runs exactly if a name is refused,
and then none is asked for, or if the machine does not start the command. Everything is upgraded exactly if no
name is given. -/
theorem installs_names_alone (traces : (i.plan h).Traces past outcome) (apt : HasApt past) :
    (started past = [] ∧ (∃ e, outcome = .error e) ∨
      started past = [i.command] ∧ ∀ name ∈ i.names, Plain name) ∧
    (started past = [] ↔
      (∃ name ∈ i.names, Refused name) ∨ ∃ e, ⟨.launch i.command, .error e⟩ ∈ past) ∧
    (asked past = [] ∨ asked past = [i.command]) ∧
    (asked past = [] ↔ ∃ name ∈ i.names, Refused name) ∧
    (upgradeEverything ∈ asked past ↔ i = .updates []) := by
  cases course_of_traces traces apt with
  | refused refused =>
    refine ⟨.inl ⟨rfl, _, rfl⟩, iff_of_true rfl (.inl refused), .inl rfl, iff_of_true rfl refused, ?_⟩
    refine iff_of_false List.not_mem_nil ?_
    rintro rfl
    obtain ⟨name, none, -⟩ := refused
    cases none
  | asks fine asks =>
    have none : ¬∃ name ∈ i.names, Refused name := fun ⟨name, mem, refused⟩ => fine name mem refused
    have everything : upgradeEverything ∈ [i.command] ↔ i = .updates [] := by
      rw [List.mem_singleton, eq_comm, command_eq_upgradeEverything_iff]
    cases asks with
    | unstarted e =>
      have here : ⟨.launch i.command, .error e⟩ ∈ [looked true, ⟨.launch i.command, .error e⟩] :=
        List.mem_cons_of_mem _ List.mem_cons_self
      exact ⟨.inl ⟨rfl, _, rfl⟩, iff_of_true rfl (.inr ⟨e, here⟩), .inr rfl, iff_of_false nofun none,
        everything⟩
    | ran o =>
      have running : ¬∃ e, ⟨.launch i.command, .error e⟩ ∈ [looked true, ⟨.launch i.command, .ok o⟩] := by
        rintro ⟨e, mem⟩
        rcases List.mem_cons.1 mem with other | mem
        · cases other
        · cases List.mem_singleton.1 mem
      exact ⟨.inr ⟨rfl, fun name mem => plain_of_not_refused (fine name mem)⟩,
        iff_of_false nofun (not_or.2 ⟨none, running⟩), .inr rfl, iff_of_false nofun none, everything⟩

theorem installs_names_alone_blankInFront :
    let h : LinuxHost := ⟨"fleetagent", none, "/opt/fleetagent"⟩
    let i : Installation := .updates [" libssl3", "b-c"]
    let past : List Machine.Event := [looked true, ⟨.launch i.command, .ok ⟨"done", "", 0, false, 0⟩⟩]
    ((i.plan h).Traces past (.ok "done") ∧ HasApt past) ∧
      started past = [quietLaunch "apt-get" ["install", "--only-upgrade", "-y", " libssl3", "b-c"] 1200] ∧
      ∀ name ∈ i.names, Plain name := by
  intro h i past
  have traces : (i.plan h).Traces past (.ok "done") :=
    Plan.Traces.call (I := Machine) (c := MachineCall.fileExists "/usr/bin/apt-get") true
      (Plan.Traces.call (I := Machine) (c := MachineCall.launch i.command)
        (Except.ok ⟨"done", "", 0, false, 0⟩) (Plan.Traces.done _))
  have apt : HasApt past := by
    intro mem
    rcases List.mem_cons.1 mem with other | mem
    · cases other
    · cases List.mem_singleton.1 mem
  rcases (installs_names_alone traces apt).1 with ⟨none, -⟩ | ⟨ran, plain⟩
  · cases none
  · exact ⟨⟨traces, apt⟩, ran, plain⟩

/-- A name with a NUL in it is not refused, and no program can be started with it. -/
theorem nulName_unstarted :
    let h : LinuxHost := ⟨"fleetagent", none, "/opt/fleetagent"⟩
    let machine : DescribedMachine := .debian ⟨["apt-get"], "/bin", []⟩
    ¬Refused "a\x00b" ∧ (machine.perform h (.installPackage "a\x00b")).run [] =
      (.error ["failed to start apt-get: nul byte found in provided data",
        "nul byte found in provided data"], []) :=
  ⟨by decide, rfl⟩

end Installing
end Steward.Host
