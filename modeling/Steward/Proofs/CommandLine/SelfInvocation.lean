import Steward.CommandLine.Invocation
import Steward.Proofs.CommandLine.Words
import Steward.Proofs.Text.Numeral
import Steward.Proofs.Text.Utf8
import Steward.Schedule.Invocation

/-!
The agent reads the command lines that it writes for itself. The file system names a file by bytes, and
the words of a command line are text, so the config path is understood as the one that is meant exactly if
it is text. A task number is understood unless it is negative: the hyphen in front makes an option of it.
-/
namespace Steward.CommandLine

open Steward.Schedule Steward.Text

def binaryAt (exe config : List UInt8) : AgentBinary := ⟨decodeLossy exe, decodeLossy config⟩

def IsAbsolute (path : List UInt8) : Prop := path.head? = some 0x2F

instance (path : List UInt8) : Decidable (IsAbsolute path) := inferInstanceAs (Decidable (_ = _))

/-- The words are read as this mode with the config file at this path, and as nothing else. -/
def Understood (words : List String) (mode : Mode) (path : List UInt8) : Prop :=
  ∃ config, Invocation.read words = .ok ⟨config, "info", .file, mode⟩ ∧ utf8 config = path

theorem understood_iff {words : List String} {mode : Mode} {path : List UInt8}
    (read : Invocation.read words = .ok ⟨decodeLossy path, "info", .file, mode⟩) :
    Understood words mode path ↔ IsText path := by
  rw [← utf8_decodeLossy_iff]
  constructor
  · rintro ⟨config, again, written⟩
    rw [read] at again
    cases again
    exact written
  · intro written
    exact ⟨decodeLossy path, read, written⟩

theorem head_decodeLossy {path : List UInt8} (absolute : IsAbsolute path) :
    (decodeLossy path).toList.head? = some '/' := by
  obtain ⟨tail, rfl⟩ : ∃ tail, path = 0x2F :: tail := by
    cases path with
    | nil => cases absolute
    | cons b tail =>
      cases absolute
      exact ⟨tail, rfl⟩
  rw [decodeLossy, String.toList_ofList]
  rfl

section Words
variable {agent : AgentBinary} {rule : ModeRule} {words : List String}

theorem name_ne_helpCommand : ∀ rule ∈ modeRules, rule.name ≠ helpCommand := by decide

theorem contains_name (mem : rule ∈ modeRules) : topGrammar.commands.contains rule.name = true :=
  List.contains_iff_mem.2 (List.mem_append_left _ (List.mem_map_of_mem mem))

theorem accepts_config {config : String} (absolute : config.toList.head? = some '/') :
    configOption.accepts config = true := by
  have named : config ≠ "" := by
    rintro rfl
    cases absolute
  show (!config.isEmpty) = true
  rw [String.isEmpty_eq_false_iff.2 named]
  rfl

theorem read_invocation (absolute : agent.config.toList.head? = some '/')
    (found : modeRules.find? (·.name = rule.name) = some rule) :
    Invocation.read (agent.invocation (rule.name :: words)).args =
      (rule.read words).map fun mode => ⟨agent.config, "info", .file, mode⟩ := by
  have mem : rule ∈ modeRules := List.mem_of_find?_eq_some found
  have plain : agent.config.toList.head? ≠ some '-' := by
    rw [absolute]
    decide
  have front : topGrammar.read .start (agent.invocation (rule.name :: words)).args =
      .ok (⟨[], some (configOption, some agent.config)⟩, some (rule.name, words)) := by
    show topGrammar.read .start ("--config" :: agent.config :: rule.name :: words) = _
    rw [Grammar.read_name configOption rfl (by decide) (by decide) (by decide) rfl,
      Grammar.read_value plain, Grammar.read_command rfl (contains_name mem)]
    rfl
  simp only [Invocation.read, front, orUnusable, bind, Except.bind, name_ne_helpCommand rule mem, if_false,
    found, Grammar.settle_value (accepts_config absolute), pure, Except.pure]
  cases rule.read words with
  | error why => rfl
  | ok mode => rfl

end Words

section TaskNumber
variable {pk : Int64}

def taskRunRule : ModeRule := modeRules[1]

theorem taskId?_signed (pk : Int64) : taskId? (signed pk.toInt) = some pk := by
  rw [taskId?, integer?_signed (Int64.le_toInt pk) (Int64.toInt_lt pk), Option.map_some, Int64.ofInt_toInt]

theorem read_id (words : List String) : taskRunRule.grammar.read .start ("--id" :: words) =
    taskRunRule.grammar.read ⟨[], some (idOption, none)⟩ words :=
  Grammar.read_name idOption rfl rfl (by decide) (by decide) rfl

theorem read_taskNumber (nonneg : 0 ≤ pk) :
    taskRunRule.read ["--id", signed pk.toInt] = .ok (.taskRun pk) := by
  have plain : (signed pk.toInt).toList.head? ≠ some '-' := by
    rw [toList_signed_of_nonneg (Int64.le_iff_toInt_le.1 nonneg)]
    exact head_digits_ne_sign (digits?_padded 1 _) rfl
  have used : idOption.accepts (signed pk.toInt) = true := congrArg Option.isSome (taskId?_signed pk)
  have mode : taskRunRule.mode [(idOption.name, signed pk.toInt)] = some (.taskRun pk) :=
    congrArg (Option.map Mode.taskRun) (taskId?_signed pk)
  rw [ModeRule.read, read_id, Grammar.read_value plain, Grammar.read]
  simp only [bind, Except.bind, Grammar.settle_value used, mode, pure, Except.pure]

theorem read_negative_taskNumber (negative : pk < 0) :
    taskRunRule.read ["--id", signed pk.toInt] = .error .unusable := by
  obtain ⟨c, cs, shape⟩ := List.exists_cons_of_ne_nil (padded_ne_nil 1 pk.toInt.natAbs)
  have hyphenated : (signed pk.toInt).toList = '-' :: c :: cs := by
    rw [toList_signed_of_neg (Int64.lt_iff_toInt_lt.1 negative), shape]
  have digit : isDigit c = true := isDigit_of_mem_padded 1 _ (shape ▸ List.mem_cons_self)
  have single : c ≠ '-' := by
    rintro rfl
    cases digit
  have unknown : taskRunRule.grammar.shortStop? c = none := by
    have other : c ≠ 'h' := by
      rintro rfl
      cases digit
    rw [Grammar.shortStop?, if_neg other]
    rfl
  rw [ModeRule.read, read_id, Grammar.read_hyphenated_value hyphenated single unknown]
  rfl

end TaskNumber

section Own
variable {exe path : List UInt8} {pk : Int64}

/-- The agent understands the words it writes for a task or for the checks, unless the number of the task is
negative, which it refuses, or the config path is no text, for which it reads another. -/
theorem understood_ownWords_iff (absolute : IsAbsolute path) :
    (Understood ((Action.agentInternal pk).invocation (binaryAt exe path)).args (.taskRun pk) path ↔
      0 ≤ pk ∧ IsText path) ∧
    (Understood ((binaryAt exe path).invocation ["run-checks"]).args .runChecks path ↔ IsText path) ∧
    (pk < 0 → Invocation.read ((Action.agentInternal pk).invocation (binaryAt exe path)).args =
      .error .unusable) := by
  have front : (binaryAt exe path).config.toList.head? = some '/' := head_decodeLossy absolute
  have task : Invocation.read ((Action.agentInternal pk).invocation (binaryAt exe path)).args =
      (taskRunRule.read ["--id", signed pk.toInt]).map fun mode =>
        ⟨decodeLossy path, "info", .file, mode⟩ :=
    @read_invocation _ taskRunRule _ front rfl
  have checks : Invocation.read ((binaryAt exe path).invocation ["run-checks"]).args =
      .ok ⟨decodeLossy path, "info", .file, .runChecks⟩ :=
    @read_invocation _ modeRules[2] _ front rfl
  have refused (negative : pk < 0) :
      Invocation.read ((Action.agentInternal pk).invocation (binaryAt exe path)).args =
        .error .unusable := by
    rw [task, read_negative_taskNumber negative]
    rfl
  refine ⟨?_, understood_iff checks, refused⟩
  by_cases negative : pk < 0
  · constructor
    · rintro ⟨config, read, -⟩
      rw [refused negative] at read
      cases read
    · rintro ⟨nonneg, -⟩
      exact absurd negative (Int64.not_lt.2 nonneg)
  · have nonneg : 0 ≤ pk := Int64.not_lt.1 negative
    rw [read_taskNumber nonneg] at task
    rw [understood_iff task, and_iff_right nonneg]

theorem understood_ownWords_twelve :
    IsAbsolute (utf8 "/etc/fleetagent/agent.yaml") ∧
    Understood ((Action.agentInternal 12).invocation
        (binaryAt (utf8 "/usr/bin/fleetagent") (utf8 "/etc/fleetagent/agent.yaml"))).args
      (.taskRun 12) (utf8 "/etc/fleetagent/agent.yaml") := by
  have absolute : IsAbsolute (utf8 "/etc/fleetagent/agent.yaml") := by decide
  exact ⟨absolute, (understood_ownWords_iff absolute).1.2 ⟨by decide, _, rfl⟩⟩

/-- Task −5 is refused by the agent that is started for it. -/
theorem negativeTask_refused :
    IsAbsolute (utf8 "/etc/fleetagent/agent.yaml") ∧
    Invocation.read ((Action.agentInternal (-5)).invocation
        (binaryAt (utf8 "/usr/bin/fleetagent") (utf8 "/etc/fleetagent/agent.yaml"))).args =
      .error .unusable :=
  ⟨by decide, rfl⟩

end Own

end Steward.CommandLine
