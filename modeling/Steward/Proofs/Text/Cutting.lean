import Mathlib.Data.List.DropRight
import Steward.Text.Line

/-!
Where a text is cut: at the end of what it starts with, at a separator, and at the blanks around it.
-/
namespace Steward.Text

theorem dropStart?_eq_some {mark cs rest : List Char} :
    dropStart? mark cs = some rest ↔ cs = mark ++ rest := by
  fun_induction dropStart? mark cs with
  | case1 cs => rw [Option.some.injEq, List.nil_append]
  | case2 p ps => simp
  | case3 ps c cs ih => simp [ih]
  | case4 p ps c cs other => simp [Ne.symm other]

theorem dropStart?_eq_none {mark cs : List Char} : dropStart? mark cs = none ↔ ¬mark <+: cs := by
  rw [Option.eq_none_iff_forall_ne_some]
  constructor
  · rintro missing ⟨rest, whole⟩
    exact missing rest (dropStart?_eq_some.2 whole.symm)
  · intro other rest found
    exact other ⟨rest, (dropStart?_eq_some.1 found).symm⟩

theorem cutAtText_eq_none {mark cs : List Char} : cutAtText mark cs = none ↔ ¬mark <:+: cs := by
  induction cs with
  | nil => cases mark <;> simp [cutAtText]
  | cons c cs ih =>
    rw [cutAtText, List.infix_cons_iff]
    split
    · rename_i after found
      have front : mark <+: c :: cs := ⟨after, (dropStart?_eq_some.1 found).symm⟩
      simp [front]
    · rename_i missing
      simp [dropStart?_eq_none.1 missing, ih]

theorem holds_iff {mark text : String} : holds mark text = true ↔ mark.toList <:+: text.toList := by
  rw [holds, Option.isSome_iff_ne_none, Ne, cutAtText_eq_none, not_not]

section Separator
variable {sep : Char} {cs before after : List Char}

theorem cutAt_eq_none : cutAt sep cs = none ↔ sep ∉ cs := by
  induction cs with
  | nil => simp [cutAt]
  | cons c cs ih =>
    by_cases here : c = sep
    · simp [cutAt, here]
    · simp [cutAt, here, ih, Ne.symm here]

theorem cutAt_eq_some : cutAt sep cs = some (before, after) ↔ cs = before ++ sep :: after ∧ sep ∉ before := by
  induction cs generalizing before with
  | nil => simp [cutAt]
  | cons c cs ih =>
    by_cases here : c = sep
    · subst here
      cases before with
      | nil => simp [cutAt, eq_comm]
      | cons d before => simp +contextual [cutAt, eq_comm]
    · rw [cutAt, if_neg here, Option.map_eq_some_iff]
      constructor
      · rintro ⟨⟨front, back⟩, found, same⟩
        cases same
        obtain ⟨rfl, absent⟩ := ih.1 found
        exact ⟨rfl, List.not_mem_cons_of_ne_of_not_mem (Ne.symm here) absent⟩
      · rintro ⟨same, absent⟩
        cases before with
        | nil => exact absurd (List.cons.inj same).1 here
        | cons d front =>
          obtain ⟨rfl, rest⟩ := List.cons.inj same
          exact ⟨(front, after), ih.2 ⟨rest, List.not_mem_of_not_mem_cons absent⟩, rfl⟩

end Separator

section Blanks
variable {cs : List Char}

theorem trimChars_prefix (cs : List Char) : trimChars cs <+: trimStartChars cs :=
  List.rdropWhile_prefix isBlank _

theorem trimChars_eq_nil : trimChars cs = [] ↔ cs.all isBlank = true := by
  rw [List.all_eq_true]
  constructor
  · intro none c mem
    rw [← List.takeWhile_append_dropWhile (p := isBlank) (l := cs)] at mem
    rcases List.mem_append.1 mem with front | back
    · exact List.mem_takeWhile_imp front
    · exact List.rdropWhile_eq_nil_iff.1 none c back
  · intro blank
    exact List.rdropWhile_eq_nil_iff.2 fun c mem => blank c ((List.dropWhile_suffix isBlank).subset mem)

theorem cutAt_of_blank {sep : Char} (solid : isBlank sep = false) (blank : cs.all isBlank = true) :
    cutAt sep cs = none := by
  apply cutAt_eq_none.2
  intro mem
  have isOne := List.all_eq_true.1 blank sep mem
  rw [solid] at isOne
  cases isOne

theorem wordsOf_of_blank (blank : cs.all isBlank = true) : wordsOf cs = [] := by
  unfold wordsOf
  induction cs with
  | nil => rfl
  | cons c cs ih =>
    rw [List.all_cons, Bool.and_eq_true] at blank
    rw [List.splitOnP_cons_eq_if_modifyHead, if_pos blank.1, List.filter_cons, ih blank.2]
    rfl

theorem head?_trimChars (some : trimChars cs ≠ []) : (trimChars cs).head? = (trimStartChars cs).head? := by
  obtain ⟨rest, whole⟩ := trimChars_prefix cs
  rw [← whole, List.head?_append_of_ne_nil _ some]

end Blanks
end Steward.Text
