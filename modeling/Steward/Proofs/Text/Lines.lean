import Steward.Proofs.Text.Cutting

/-!
Texts taken apart at their line feeds. A text is a last line, or a line with more text behind its line feed;
every line but the last loses one carriage return with its line feed.
-/
namespace Steward.Text

theorem dropReturn_of_last {line : List Char} (last : line.getLast? ≠ some '\r') : dropReturn line = line := by
  unfold dropReturn
  split
  · rename_i rest backwards
    rw [List.getLast?_eq_head?_reverse, backwards] at last
    exact absurd rfl last
  · rfl

theorem dropReturn_returned (line : List Char) : dropReturn (line ++ ['\r']) = line := by
  rw [dropReturn, List.reverse_append]
  exact List.reverse_reverse line

theorem not_mem_dropReturn {c : Char} {line : List Char} (absent : c ∉ line) : c ∉ dropReturn line := by
  unfold dropReturn
  split
  · rename_i rest backwards
    intro mem
    apply absent
    rw [← List.mem_reverse, backwards]
    exact List.mem_cons_of_mem _ (List.mem_reverse.1 mem)
  · exact absent

section Stretches
variable {line : List Char}

theorem unbroken {sep : Char} (absent : sep ∉ line) : ∀ c ∈ line, (c == sep) = false := by
  intro c mem
  exact beq_false_of_ne fun same => absent (same ▸ mem)

theorem linesOf_line (whole : '\n' ∉ line) : linesOf line = if line.isEmpty then [] else [line] := by
  rw [linesOf, List.splitOnP_eq_singleton (unbroken whole)]
  rfl

theorem linesOf_more (whole : '\n' ∉ line) (rest : List Char) :
    linesOf (line ++ '\n' :: rest) = dropReturn line :: linesOf rest := by
  rw [linesOf, linesOf, List.splitOnP_append_cons_of_forall_mem (unbroken whole) '\n' rfl]
  -- `endLines` asks whether a stretch is the last one, and what is behind a line feed is one more
  cases stretches : rest.splitOnP (· == '\n') with
  | nil => exact absurd stretches (List.splitOnP_ne_nil _ _)
  | cons stretch more => rfl

end Stretches

@[elab_as_elim]
theorem byLines {motive : List Char → Prop} (last : ∀ line, '\n' ∉ line → motive line)
    (more : ∀ line rest, '\n' ∉ line → motive rest → motive (line ++ '\n' :: rest)) (cs : List Char) :
    motive cs := by
  induction size : cs.length using Nat.strongRecOn generalizing cs with
  | ind n ih =>
    cases cut : cutAt '\n' cs with
    | none => exact last cs (cutAt_eq_none.1 cut)
    | some parts =>
      obtain ⟨line, rest⟩ := parts
      obtain ⟨rfl, whole⟩ := cutAt_eq_some.1 cut
      apply more line rest whole
      apply ih rest.length _ rest rfl
      rw [← size, List.length_append, List.length_cons]
      omega

theorem whole_of_mem_linesOf {cs line : List Char} (mem : line ∈ linesOf cs) : '\n' ∉ line := by
  induction cs using byLines with
  | last only whole =>
    rw [linesOf_line whole] at mem
    split at mem
    · cases mem
    · rw [List.mem_singleton.1 mem]
      exact whole
  | more first rest whole ih =>
    rw [linesOf_more whole] at mem
    rcases List.mem_cons.1 mem with rfl | later
    · exact not_mem_dropReturn whole
    · exact ih later

theorem mem_of_mem_linesOf {cs line : List Char} {c : Char} (mem : line ∈ linesOf cs) (here : c ∈ line) :
    c ∈ cs := by
  induction cs using byLines with
  | last only whole =>
    rw [linesOf_line whole] at mem
    split at mem
    · cases mem
    · rwa [List.mem_singleton.1 mem] at here
  | more first rest whole ih =>
    rw [linesOf_more whole] at mem
    rw [List.mem_append]
    rcases List.mem_cons.1 mem with same | later
    · left
      apply not_imp_not.1 not_mem_dropReturn
      rwa [same] at here
    · right
      exact List.mem_cons_of_mem _ (ih later)

section Unreturned
variable {a : List Char}

theorem unreturned_behind {line rest : List Char} (unreturned : (line ++ '\n' :: rest).getLast? ≠ some '\r') :
    rest.getLast? ≠ some '\r' := by
  intro returned
  apply unreturned
  rw [List.getLast?_append, List.getLast?_cons, returned]
  rfl

/-- A carriage return more before a line feed is no part of the line. -/
theorem linesOf_returned (unreturned : a.getLast? ≠ some '\r') (b : List Char) :
    linesOf (a ++ '\r' :: '\n' :: b) = linesOf (a ++ '\n' :: b) := by
  induction a using byLines with
  | last line whole =>
    have returned : '\n' ∉ line ++ ['\r'] := by
      rw [List.mem_append, List.mem_singleton]
      exact not_or.2 ⟨whole, by decide⟩
    rw [List.append_cons line '\r', linesOf_more returned, linesOf_more whole, dropReturn_returned,
      dropReturn_of_last unreturned]
  | more line rest whole ih =>
    rw [List.append_assoc, List.append_assoc, List.cons_append, List.cons_append, linesOf_more whole,
      linesOf_more whole, ih (unreturned_behind unreturned)]

/-- Of two texts with a line feed between them the lines are those of the one and then those of the other,
but for an empty one that may be added in between. -/
theorem filterMap_linesOf_append {read : List Char → Option α} (unread : read [] = none)
    (unreturned : a.getLast? ≠ some '\r') (b : List Char) :
    (linesOf (a ++ '\n' :: b)).filterMap read = (linesOf a).filterMap read ++ (linesOf b).filterMap read := by
  induction a using byLines with
  | last line whole =>
    rw [linesOf_more whole, linesOf_line whole, dropReturn_of_last unreturned]
    cases line with
    | nil => rw [List.filterMap_cons_none unread]; rfl
    | cons c cs => exact List.filterMap_append (l := [c :: cs])
  | more line rest whole ih =>
    rw [List.append_assoc, List.cons_append, linesOf_more whole, linesOf_more whole, List.filterMap_cons,
      List.filterMap_cons, ih (unreturned_behind unreturned)]
    cases read (dropReturn line) <;> rfl

end Unreturned
end Steward.Text
