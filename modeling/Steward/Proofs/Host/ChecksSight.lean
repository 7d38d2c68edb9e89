import Steward.Host.Linux
import Steward.Proofs.Text.Cutting
import Steward.Proofs.Trace
import Steward.Schedule.Invocation

/-!
How a check run is seen. The host looks once at the processes and takes those for check runs that show the
name of the agent's binary and the subcommand, so the agent's own check runs are always among them.
-/
namespace Steward.Text

theorem infix_join {part : String} {parts : List String} (mem : part ∈ parts) (sep : String) :
    part.toList <:+: (join sep parts).toList := by
  induction parts with
  | nil => cases mem
  | cons first rest ih =>
    rw [join]
    by_cases last : rest = []
    · rw [last, List.mem_singleton] at mem
      have alone : sep.intercalate (first :: rest) = part := by
        rw [last, mem, String.intercalate_singleton]
      exact alone ▸ List.infix_rfl
    · rw [String.intercalate_cons_of_ne_nil last, String.toList_append, String.toList_append]
      rcases List.mem_cons.1 mem with rfl | later
      · rw [List.append_assoc]
        exact (List.prefix_append _ _).isInfix
      · exact (ih later).trans (List.suffix_append _ _).isInfix

namespace Path

theorem dropTrailing_suffix (n : Nat) (rev : List Char) : dropTrailing n rev <:+ rev := by
  fun_induction dropTrailing n rev with
  | case1 rev => exact List.suffix_rfl
  | case2 n => exact List.suffix_rfl
  | case3 n rest _ ih => exact ih.trans (List.suffix_cons _ _)
  | case4 n rest ih => exact ih.trans (List.suffix_cons _ _)
  | case5 n rev => exact List.suffix_rfl

theorem infix_of_fileName? {path name : String} (named : fileName? path = some name) :
    name.toList <:+: path.toList := by
  unfold fileName? at named
  dsimp only at named
  split at named
  · cases named
  · cases named
    rw [String.toList_ofList, ← List.reverse_infix, List.reverse_reverse]
    exact (List.takeWhile_prefix _).isInfix.trans (dropTrailing_suffix _ _).isInfix

end Path
end Steward.Text

namespace Steward.Host

open Steward.Schedule Steward.Supervision Steward.Text

/-- A command line as the process table shows it: empty arguments do not show. -/
def shownCommand (program : String) (args : List String) : String :=
  join " " ((program :: args).filter (!·.isEmpty))

theorem infix_shownCommand {program part : String} {args : List String} (mem : part ∈ program :: args) :
    part.toList <:+: (shownCommand program args).toList := by
  cases empty : part.isEmpty with
  | true =>
    rw [String.isEmpty_iff.1 empty]
    exact List.nil_infix
  | false =>
    apply infix_join
    rw [List.mem_filter, empty]
    exact ⟨mem, rfl⟩

theorem checksRunning_traces {exe : String} {past : List Machine.Event} {busy : Bool} :
    (checksRunning exe).Traces past busy ↔ ∃ seen : Except Chain Table, past = [⟨.otherProcesses, seen⟩] ∧
      busy = match seen with
        | .ok table => table.any fun e =>
          holds ((Path.fileName? exe).getD "") e.cmdline && holds "run-checks" e.cmdline
        | .error _ => false := by
  constructor
  · intro traces
    cases traces with
    | call seen rest =>
      cases seen <;> cases rest <;> exact ⟨_, rfl, rfl⟩
  · rintro ⟨seen, rfl, rfl⟩
    cases seen <;> exact .call _ (.done _)

/-- A check run of the agent is seen, whatever else there is. -/
theorem busy_of_mem {binary : AgentBinary} {table : Table} {e : Supervision.Entry} {busy : Bool}
    (shown : e.cmdline =
      shownCommand (binary.invocation ["run-checks"]).program (binary.invocation ["run-checks"]).args)
    (mem : e ∈ table) (looked : (checksRunning binary.exe).Traces [⟨.otherProcesses, .ok table⟩] busy) :
    busy = true := by
  have program : holds ((Path.fileName? binary.exe).getD "") e.cmdline = true := by
    rw [holds_iff, shown]
    cases named : Path.fileName? binary.exe with
    | none => exact List.nil_infix
    | some name => exact (Path.infix_of_fileName? named).trans (infix_shownCommand List.mem_cons_self)
  have subcommand : holds "run-checks" e.cmdline = true := by
    rw [holds_iff, shown]
    apply infix_shownCommand
    exact List.mem_cons_of_mem _ (List.mem_append_right ["--config", binary.config] List.mem_cons_self)
  obtain ⟨seen, same, rfl⟩ := checksRunning_traces.1 looked
  cases same
  apply List.any_eq_true.2
  exact ⟨e, mem, by rw [program, subcommand]; rfl⟩

end Steward.Host
