import Steward.CommandLine.Reader

/-!
Words that stand behind an option. A word without a hyphen in front becomes the option's value. A word
with a hyphen and another letter never does: it is taken for an option of its own, whatever the option in
front of it would have made of it.
-/
namespace Steward.CommandLine

namespace Word

theorem ofText_of_no_hyphen {text : String} (plain : text.toList.head? ≠ some '-') :
    ofText text = .plain text := by
  unfold ofText
  split
  · rename_i shape
    exact absurd (by rw [shape]; rfl) plain
  · rename_i shape
    exact absurd (by rw [shape]; rfl) plain
  · rename_i shape
    exact absurd (by rw [shape]; rfl) plain
  · rfl

theorem ofText_of_hyphen {text : String} {letter : Char} {rest : List Char}
    (shape : text.toList = '-' :: letter :: rest) (single : letter ≠ '-') :
    ofText text = .short letter := by
  unfold ofText
  rw [shape]
  split
  · simp_all
  · simp_all
  · simp_all
  · simp_all

end Word

namespace Grammar
variable {g : Grammar} {r : Reading} {given : Given} {rule : OptionRule} {word value : String}
  {words : List String}

theorem settle_value (used : rule.accepts value = true) :
    Reading.settle ⟨[], some (rule, some value)⟩ = .ok [(rule.name, value)] := by
  show Given.add [] rule value = _
  unfold Given.add
  rw [used]
  rfl

theorem read_command (settled : r.isWaiting = false) (known : g.commands.contains word = true) :
    g.read r (word :: words) = .ok (r, some (word, words)) := by
  rw [read, settled, known]
  rfl

theorem read_name (rule : OptionRule) (settled : r.settle = .ok given)
    (foreign : g.commands.contains word = false) (isOption : Word.ofText word = .long rule.name none)
    (carries : g.longStop? rule.name = none)
    (found : g.options.find? (·.name = rule.name) = some rule) :
    g.read r (word :: words) = g.read ⟨given, some (rule, none)⟩ words := by
  have opened : g.readLong r rule.name none = .ok ⟨given, some (rule, none)⟩ := by
    simp only [readLong, carries, found, settled, bind, Except.bind, pure, Except.pure]
  rw [read, foreign, Bool.and_false, if_neg Bool.false_ne_true, isOption]
  simp only [opened]

theorem read_value (plain : value.toList.head? ≠ some '-') :
    g.read ⟨given, some (rule, none)⟩ (value :: words) =
      g.read ⟨given, some (rule, some value)⟩ words := by
  rw [read, Word.ofText_of_no_hyphen plain]
  rfl

theorem read_hyphenated_value {letter : Char} {rest : List Char}
    (shape : value.toList = '-' :: letter :: rest) (single : letter ≠ '-')
    (unknown : g.shortStop? letter = none) :
    g.read ⟨given, some (rule, none)⟩ (value :: words) = .error .unusable := by
  rw [read, Word.ofText_of_hyphen shape single]
  simp only [unknown]
  rfl

end Grammar
end Steward.CommandLine
