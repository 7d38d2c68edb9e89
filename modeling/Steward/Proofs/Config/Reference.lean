import Steward.Config.Expansion
import Steward.Proofs.Text.Cutting

/-!
Texts with references, said without the pass that replaces them. A text has exactly one reading: literal
texts without an opening in them, each followed by a reference, and at the end one more literal text or an
opening that nothing closes. A text expands to its reading with values in the place of references, so
what a variable holds is never read, and texts that are joined expand on their own.
-/
namespace Steward.Config

open Steward.Text

def opening : List Char := ['$', '\x7b']

def closing : Char := '\x7d'

inductive Reading where
  | ends (literal : List Char)
  | unclosed (literal rest : List Char)
  | reference (literal name : List Char) (later : Reading)

namespace Reading

def text : Reading → List Char
  | ends literal => literal
  | unclosed literal rest => literal ++ (opening ++ rest)
  | reference literal name later => literal ++ (opening ++ (name ++ closing :: later.text))

/-- There is no opening in literal text, and a reference goes to the first closing brace. -/
def Proper : Reading → Prop
  | ends literal => ¬opening <:+: literal
  | unclosed literal rest => ¬opening <:+: literal ∧ closing ∉ rest
  | reference literal name later => ¬opening <:+: literal ∧ closing ∉ name ∧ later.Proper

def value (env : Environment) : Reading → List Char
  | ends literal => literal
  | unclosed literal rest => literal ++ (opening ++ rest)
  | reference literal name later =>
    literal ++ (((env (String.ofList name)).getD "").toList ++ later.value env)

def Closed : Reading → Prop
  | ends _ => True
  | unclosed _ _ => False
  | reference _ _ later => later.Closed

structure Reads (r : Reading) (s : String) : Prop where
  proper : r.Proper
  text : r.text = s.toList

end Reading

section Opening
variable {c : Char} {cs literal rest : List Char}

theorem opening_prefix_cons : opening <+: c :: cs ↔ c = '$' ∧ cs.head? = some '\x7b' := by
  cases cs with
  | nil => simp [opening, List.cons_prefix_cons]
  | cons d cs => simp [opening, List.cons_prefix_cons, eq_comm]

theorem opening_infix_cons :
    opening <:+: c :: cs ↔ c = '$' ∧ cs.head? = some '\x7b' ∨ opening <:+: cs := by
  rw [List.infix_cons_iff, opening_prefix_cons]

theorem head?_opening_append (rest : List Char) : (opening ++ rest).head? ≠ some '\x7b' := by
  simp [opening]

theorem no_opening_here {tail : List Char} (plain : ¬opening <:+: c :: literal)
    (apart : tail.head? ≠ some '\x7b') : ¬opening <+: c :: (literal ++ tail) := by
  rw [opening_infix_cons, not_or] at plain
  rw [opening_prefix_cons]
  rintro ⟨dollar, brace⟩
  cases literal with
  | nil => exact apart brace
  | cons d literal => exact plain.1 ⟨dollar, brace⟩

/-- Literal texts that are joined stay literal unless they meet in the middle of an opening. -/
theorem no_opening_append {literal more : List Char} (first : ¬opening <:+: literal)
    (second : ¬opening <:+: more)
    (apart : ¬(literal.getLast? = some '$' ∧ more.head? = some '\x7b')) : ¬opening <:+: literal ++ more := by
  induction literal with
  | nil => exact second
  | cons c literal ih =>
    rw [opening_infix_cons, not_or] at first
    rw [List.cons_append, opening_infix_cons, not_or]
    cases literal with
    | nil =>
      refine ⟨fun ⟨dollar, brace⟩ => apart ⟨?_, brace⟩, second⟩
      rw [dollar]
      rfl
    | cons d literal => exact ⟨first.1, ih first.2 apart⟩

theorem cutAtText_opening_eq_some : cutAtText opening cs = some (literal, rest) ↔
    cs = literal ++ (opening ++ rest) ∧ ¬opening <:+: literal := by
  induction cs generalizing literal with
  | nil => simp [cutAtText, opening]
  | cons c cs ih =>
    rw [cutAtText]
    split
    · rename_i after found
      have whole : c :: cs = opening ++ after := dropStart?_eq_some.1 found
      constructor
      · intro same
        cases same
        exact ⟨whole, by simp [opening]⟩
      · rintro ⟨same, plain⟩
        cases literal with
        | nil => rw [List.append_cancel_left (whole.symm.trans same)]
        | cons d literal =>
          have front : opening <+: d :: literal ++ (opening ++ rest) := ⟨after, by rw [← whole, same]⟩
          exact absurd front (no_opening_here plain (head?_opening_append rest))
    · rename_i missing
      have other : ¬opening <+: c :: cs := dropStart?_eq_none.1 missing
      rw [Option.map_eq_some_iff]
      constructor
      · rintro ⟨⟨front, back⟩, found, same⟩
        cases same
        obtain ⟨rfl, plain⟩ := ih.1 found
        refine ⟨rfl, fun inner => ?_⟩
        rcases List.infix_cons_iff.1 inner with ⟨tail, here⟩ | later
        · exact other ⟨tail ++ (opening ++ rest), by rw [← List.append_assoc, here, List.cons_append]⟩
        · exact plain later
      · rintro ⟨same, plain⟩
        cases literal with
        | nil => exact absurd ⟨rest, same.symm⟩ other
        | cons d front =>
          obtain ⟨rfl, later⟩ := List.cons.inj same
          exact ⟨(front, rest), ih.2 ⟨later, fun inner => plain (List.infix_cons inner)⟩, rfl⟩

end Opening

namespace Reading

/-! One reading for each text. -/

def sides? : Reading → Option (List Char × List Char)
  | ends _ => none
  | unclosed literal rest => some (literal, rest)
  | reference literal name later => some (literal, name ++ closing :: later.text)

theorem cutAtText_text {r : Reading} (proper : r.Proper) : cutAtText opening r.text = r.sides? := by
  cases r with
  | ends literal => exact cutAtText_eq_none.2 proper
  | unclosed literal rest => exact cutAtText_opening_eq_some.2 ⟨rfl, proper.1⟩
  | reference literal name later => exact cutAtText_opening_eq_some.2 ⟨rfl, proper.1⟩

theorem sides?_eq {r s : Reading} (proper : r.Proper) (proper' : s.Proper) (same : r.text = s.text) :
    r.sides? = s.sides? := by
  rw [← cutAtText_text proper, ← cutAtText_text proper', same]

theorem eq_of_text_eq {r s : Reading} (proper : r.Proper) (proper' : s.Proper) (same : r.text = s.text) :
    r = s := by
  induction r generalizing s with
  | ends literal =>
    have sides := sides?_eq proper proper' same
    cases s with
    | ends literal' => exact congrArg ends same
    | unclosed literal' rest' => cases sides
    | reference literal' name' later' => cases sides
  | unclosed literal rest =>
    have sides := sides?_eq proper proper' same
    cases s with
    | ends literal' => cases sides
    | unclosed literal' rest' =>
      cases sides
      rfl
    | reference literal' name' later' =>
      cases sides
      exact absurd (List.mem_append_right name' List.mem_cons_self) proper.2
  | reference literal name later ih =>
    have sides := sides?_eq proper proper' same
    cases s with
    | ends literal' => cases sides
    | unclosed literal' rest' =>
      cases sides
      exact absurd (List.mem_append_right name List.mem_cons_self) proper'.2
    | reference literal' name' later' =>
      obtain ⟨rfl, behind⟩ := Prod.mk.inj (Option.some.inj sides)
      -- both names end at the first closing brace
      have first : cutAt closing (name ++ closing :: later.text) = some (name', later'.text) :=
        cutAt_eq_some.2 ⟨behind, proper'.2.1⟩
      rw [cutAt_eq_some.2 ⟨rfl, proper.2.1⟩] at first
      obtain ⟨rfl, after⟩ := Prod.mk.inj (Option.some.inj first)
      rw [ih proper.2.2 proper'.2.2 after]

theorem exists_text_eq (cs : List Char) : ∃ r : Reading, r.Proper ∧ r.text = cs := by
  induction size : cs.length using Nat.strongRecOn generalizing cs with
  | ind n ih =>
    cases opened : cutAtText opening cs with
    | none => exact ⟨ends cs, cutAtText_eq_none.1 opened, rfl⟩
    | some cut =>
      obtain ⟨literal, rest⟩ := cut
      obtain ⟨rfl, plain⟩ := cutAtText_opening_eq_some.1 opened
      cases closed : cutAt closing rest with
      | none => exact ⟨unclosed literal rest, ⟨plain, cutAt_eq_none.1 closed⟩, rfl⟩
      | some cut =>
        obtain ⟨name, after⟩ := cut
        obtain ⟨rfl, absent⟩ := cutAt_eq_some.1 closed
        have shorter : after.length < n := by
          rw [← size]
          simp only [List.length_append, List.length_cons]
          omega
        obtain ⟨later, proper, rfl⟩ := ih _ shorter after rfl
        exact ⟨reference literal name later, ⟨plain, absent, proper⟩, rfl⟩

end Reading

/-! The pieces of a text are those of its reading. -/

section Pieces
variable {env : Environment} {c : Char} {cs literal rest : List Char} {fuel : Nat}

theorem flatMap_literal (cs : List Char) : (cs.map Piece.literal).flatMap (Piece.value env) = cs := by
  induction cs with
  | nil => rfl
  | cons c cs ih => rw [List.map_cons, List.flatMap_cons, ih, Piece.value, List.singleton_append]

theorem pieces_cons (other : ¬opening <+: c :: cs) :
    pieces (fuel + 1) (c :: cs) = .literal c :: pieces fuel cs := by
  rw [pieces]
  rintro rest rfl rfl
  exact other ⟨rest, rfl⟩

theorem pieces_literal (plain : ¬opening <:+: literal) (apart : rest.head? ≠ some '\x7b') :
    pieces (literal.length + fuel) (literal ++ rest) = literal.map .literal ++ pieces fuel rest := by
  induction literal with
  | nil => rw [List.length_nil, Nat.zero_add, List.nil_append, List.map_nil, List.nil_append]
  | cons c literal ih =>
    have later : ¬opening <:+: literal := fun inner => plain (List.infix_cons inner)
    rw [List.length_cons, Nat.add_right_comm, List.cons_append, pieces_cons (no_opening_here plain apart),
      ih later, List.map_cons, List.cons_append]

theorem pieces_opening : pieces (fuel + 1) (opening ++ rest) = match cutAt closing rest with
    | some (name, after) => .reference name :: pieces fuel after
    | none => (opening ++ rest).map .literal := rfl

theorem Reading.flatMap_pieces {r : Reading} (proper : r.Proper) (enough : r.text.length < fuel) :
    (pieces fuel r.text).flatMap (Piece.value env) = r.value env := by
  induction r generalizing fuel with
  | ends literal =>
    obtain ⟨more, rfl⟩ := Nat.exists_eq_add_of_lt enough
    have read : pieces (literal.length + (more + 1)) (literal ++ []) = literal.map .literal ++ [] :=
      pieces_literal proper (by simp)
    rw [List.append_nil, List.append_nil] at read
    rw [text, Nat.add_assoc, read, flatMap_literal, value]
  | unclosed literal rest =>
    rw [text, List.length_append] at enough
    obtain ⟨more, rfl⟩ := Nat.exists_eq_add_of_lt (Nat.lt_of_le_of_lt (Nat.le_add_right _ _) enough)
    rw [text, Nat.add_assoc, pieces_literal proper.1 (head?_opening_append _), pieces_opening,
      cutAt_eq_none.2 proper.2, List.flatMap_append, flatMap_literal, flatMap_literal, value]
  | reference literal name later ih =>
    simp only [text, List.length_append, List.length_cons] at enough
    obtain ⟨more, rfl⟩ := Nat.exists_eq_add_of_lt (Nat.lt_of_le_of_lt (Nat.le_add_right _ _) enough)
    -- one unit of fuel is spent on the whole reference, at least three characters
    have left : later.text.length < more := by omega
    rw [text, Nat.add_assoc, pieces_literal proper.1 (head?_opening_append _), pieces_opening,
      cutAt_eq_some.2 ⟨rfl, proper.2.1⟩, List.flatMap_append, flatMap_literal, List.flatMap_cons,
      ih proper.2.2 left, Piece.value, value]

end Pieces

theorem Reading.Reads.expand {r : Reading} {s : String} (reads : r.Reads s) (env : Environment) :
    expand env s = String.ofList (r.value env) := by
  have enough : r.text.length < s.length + 1 := by
    rw [reads.text, String.length_toList]
    exact Nat.lt_succ_self _
  rw [Config.expand, ← reads.text, flatMap_pieces reads.proper enough]

/-! Texts that are joined. -/

namespace Reading

def behind (front : List Char) : Reading → Reading
  | ends literal => ends (front ++ literal)
  | unclosed literal rest => unclosed (front ++ literal) rest
  | reference literal name later => reference (front ++ literal) name later

section Behind
variable {front : List Char} {r : Reading}

theorem text_behind : (r.behind front).text = front ++ r.text := by
  cases r with
  | ends literal => rfl
  | unclosed literal rest => exact List.append_assoc ..
  | reference literal name later => exact List.append_assoc ..

theorem value_behind {env : Environment} : (r.behind front).value env = front ++ r.value env := by
  cases r with
  | ends literal => rfl
  | unclosed literal rest => exact List.append_assoc ..
  | reference literal name later => exact List.append_assoc ..

theorem proper_behind (plain : ¬opening <:+: front) (proper : r.Proper)
    (apart : ¬(front.getLast? = some '$' ∧ r.text.head? = some '\x7b')) : (r.behind front).Proper := by
  cases r with
  | ends literal => exact no_opening_append plain proper apart
  | unclosed literal rest =>
    have apartLiteral : ¬(front.getLast? = some '$' ∧ literal.head? = some '\x7b') :=
      fun ⟨dollar, brace⟩ => apart ⟨dollar, by simp [text, brace]⟩
    exact ⟨no_opening_append plain proper.1 apartLiteral, proper.2⟩
  | reference literal name later =>
    have apartLiteral : ¬(front.getLast? = some '$' ∧ literal.head? = some '\x7b') :=
      fun ⟨dollar, brace⟩ => apart ⟨dollar, by simp [text, brace]⟩
    exact ⟨no_opening_append plain proper.1 apartLiteral, proper.2⟩

end Behind

/-- Behind a closed reading a text is read as if it stood alone. -/
theorem exists_append {r s : Reading} (proper : r.Proper) (closed : r.Closed) (proper' : s.Proper)
    (apart : ¬(r.text.getLast? = some '$' ∧ s.text.head? = some '\x7b')) :
    ∃ whole : Reading, whole.Proper ∧ whole.text = r.text ++ s.text ∧
      ∀ env, whole.value env = r.value env ++ s.value env := by
  induction r with
  | ends literal =>
    exact ⟨s.behind literal, proper_behind proper proper' apart, text_behind, fun env => value_behind⟩
  | unclosed literal rest => exact closed.elim
  | reference literal name later ih =>
    -- the end of the text is the end of the later reading, or else a closing brace
    have apartLater : ¬(later.text.getLast? = some '$' ∧ s.text.head? = some '\x7b') := by
      rintro ⟨dollar, brace⟩
      have atEnd : (reference literal name later).text =
          literal ++ (opening ++ (name ++ [closing])) ++ later.text := by simp [text]
      refine apart ⟨?_, brace⟩
      rw [atEnd, List.getLast?_append, dollar]
      rfl
    obtain ⟨whole, properWhole, textWhole, valueWhole⟩ := ih proper.2.2 closed apartLater
    refine ⟨reference literal name whole, ⟨proper.1, proper.2.1, properWhole⟩, ?_, fun env => ?_⟩
    · simp only [text, textWhole, List.append_assoc, List.cons_append]
    · simp only [value, valueWhole, List.append_assoc]

end Reading

/-- The one text ends and the other begins inside an opening. -/
def MeetInOpening (s t : String) : Prop := s.toList.getLast? = some '$' ∧ t.toList.head? = some '\x7b'

instance (s t : String) : Decidable (MeetInOpening s t) := inferInstanceAs (Decidable (_ ∧ _))

/-- A text has one reading and expands to it with values in the place of the references. Behind a text in
which every opening is closed, any other expands as it does alone unless an opening arises between them. -/
theorem expand_as_read (s : String) : ∃ r : Reading, r.Reads s ∧ (∀ other : Reading, other.Reads s → other = r) ∧
    (∀ env, expand env s = String.ofList (r.value env)) ∧
    (r.Closed → ∀ env t, ¬MeetInOpening s t → expand env (s ++ t) = expand env s ++ expand env t) := by
  obtain ⟨r, proper, whole⟩ := Reading.exists_text_eq s.toList
  have reads : r.Reads s := ⟨proper, whole⟩
  refine ⟨r, reads, fun other others => ?_, reads.expand, fun closed env t apart => ?_⟩
  · exact Reading.eq_of_text_eq others.proper proper (others.text.trans whole.symm)
  · obtain ⟨q, properMore, wholeMore⟩ := Reading.exists_text_eq t.toList
    obtain ⟨joint, properJoint, textJoint, valueJoint⟩ :=
      Reading.exists_append proper closed properMore (by rw [whole, wholeMore]; exact apart)
    have readsJoint : joint.Reads (s ++ t) :=
      ⟨properJoint, by rw [textJoint, whole, wholeMore, String.toList_append]⟩
    rw [readsJoint.expand, reads.expand, Reading.Reads.expand ⟨properMore, wholeMore⟩, valueJoint,
      String.ofList_append]

theorem expand_as_read_dollars :
    let s := "$$\x7bA\x7d$"
    let env := Environment.ofList [("A", "$\x7bB\x7d")]
    let r := Reading.reference ['$'] ['A'] (.ends ['$'])
    (r.Reads s ∧ r.Closed ∧ ¬MeetInOpening s s) ∧
      expand env s = "$$\x7bB\x7d$" ∧ expand env (s ++ s) = "$$\x7bB\x7d$" ++ "$$\x7bB\x7d$" := by
  intro s env r
  have last : (Reading.ends ['$']).Proper := show ¬opening <:+: ['$'] by decide
  have reads : r.Reads s := ⟨⟨by decide, by decide, last⟩, by decide⟩
  have apart : ¬MeetInOpening s s := by decide
  obtain ⟨other, -, unique, value, joined⟩ := expand_as_read s
  obtain rfl := unique r reads
  have expanded : expand env s = "$$\x7bB\x7d$" := by
    rw [value env]
    decide
  exact ⟨⟨reads, trivial, apart⟩, expanded, by rw [joined trivial env s apart, expanded]⟩

end Steward.Config
