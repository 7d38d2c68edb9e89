import Mathlib.Algebra.Group.Nat.Defs
import Mathlib.Tactic.Tauto
import Steward.Update.Version

/-!
The precedence of versions as Semantic Versioning 2.0 defines it: by the three numbers first, a
pre-release below its release, and pre-releases by their identifiers from left to right. Builds are not
looked at. On proper versions `comparePrecedence` decides this order, and `compareAll` refines it by the
builds.
-/
namespace Steward.Update

open Steward.Text

/-- Identifiers of digits are compared as numbers and come before the others, which are compared
character by character. -/
inductive Below : Identifier → Identifier → Prop where
  | numbers {a b : Identifier} : isNumeric a = true → isNumeric b = true → valueOf a < valueOf b → Below a b
  | mixed {a b : Identifier} : isNumeric a = true → isNumeric b = false → Below a b
  | texts {a b : Identifier} : isNumeric a = false → isNumeric b = false → a < b → Below a b

/-- An identifier as a pre-release has them: not empty, and a number without zeros in front. -/
def IsProper (i : Identifier) : Prop := i ≠ [] ∧ ¬ (isNumeric i = true ∧ hasLeadingZero i = true)

instance (i : Identifier) : Decidable (IsProper i) := inferInstanceAs (Decidable (_ ∧ _))

namespace Version

def numbers (v : Version) : List Nat := [v.major, v.minor, v.patch]

inductive Precedes (v w : Version) : Prop where
  | number : v.numbers < w.numbers → Precedes v w
  | release : v.numbers = w.numbers → v.pre ≠ [] → w.pre = [] → Precedes v w
  | prerelease : v.numbers = w.numbers → v.pre ≠ [] → w.pre ≠ [] → List.Lex Below v.pre w.pre → Precedes v w

def Proper (v : Version) : Prop := ∀ i ∈ v.pre, IsProper i

end Version

/-! Numbers. -/

theorem digitValue_lt {c : Char} (digit : isDigit c = true) : digitValue c < 10 := by
  simp only [isDigit, Bool.and_eq_true, decide_eq_true_eq] at digit
  have high : c.toNat ≤ 57 := digit.2
  unfold digitValue
  have zero : '0'.toNat = 48 := rfl
  omega

theorem digitValue_pos {c : Char} (digit : isDigit c = true) (other : c ≠ '0') : 0 < digitValue c := by
  simp only [isDigit, Bool.and_eq_true, decide_eq_true_eq] at digit
  have low : 48 ≤ c.toNat := digit.1
  have zero : '0'.toNat = 48 := rfl
  have differs : c.toNat ≠ 48 := fun same => other (Char.toNat_inj.1 (same.trans zero.symm))
  unfold digitValue
  omega

theorem digitValue_inj {c d : Char} (digit : isDigit c = true) (digit' : isDigit d = true)
    (same : digitValue c = digitValue d) : c = d := by
  simp only [isDigit, Bool.and_eq_true, decide_eq_true_eq] at digit digit'
  have low : 48 ≤ c.toNat := digit.1
  have low' : 48 ≤ d.toNat := digit'.1
  have zero : '0'.toNat = 48 := rfl
  unfold digitValue at same
  exact Char.toNat_inj.1 (by omega)

def valueFrom (n : Nat) (digits : List Char) : Nat := digits.foldl (fun n c => 10 * n + digitValue c) n

theorem valueFrom_bounds {ds : List Char} (digits : ∀ c ∈ ds, isDigit c = true) (n : Nat) :
    n * 10 ^ ds.length ≤ valueFrom n ds ∧ valueFrom n ds < (n + 1) * 10 ^ ds.length := by
  induction ds generalizing n with
  | nil => simp [valueFrom]
  | cons c ds ih =>
    obtain ⟨low, high⟩ := ih (fun d mem => digits d (List.mem_cons_of_mem c mem)) (10 * n + digitValue c)
    have small := digitValue_lt (digits c List.mem_cons_self)
    have step : valueFrom n (c :: ds) = valueFrom (10 * n + digitValue c) ds := rfl
    have power : 10 ^ (c :: ds).length = 10 * 10 ^ ds.length := by
      rw [List.length_cons, Nat.pow_succ, Nat.mul_comm]
    have above : (10 * n) * 10 ^ ds.length ≤ (10 * n + digitValue c) * 10 ^ ds.length :=
      Nat.mul_le_mul_right _ (by omega)
    have below : (10 * n + digitValue c + 1) * 10 ^ ds.length ≤ (10 * (n + 1)) * 10 ^ ds.length :=
      Nat.mul_le_mul_right _ (by omega)
    rw [step, power, ← Nat.mul_assoc, ← Nat.mul_assoc, Nat.mul_comm n 10, Nat.mul_comm (n + 1) 10]
    exact ⟨Nat.le_trans above low, Nat.lt_of_lt_of_le high below⟩

theorem valueFrom_inj {ds es : List Char} (digits : ∀ c ∈ ds, isDigit c = true)
    (digits' : ∀ c ∈ es, isDigit c = true) (length : ds.length = es.length) {n m : Nat}
    (same : valueFrom n ds = valueFrom m es) : n = m ∧ ds = es := by
  induction ds generalizing es n m with
  | nil =>
    cases es with
    | nil => exact ⟨same, rfl⟩
    | cons e es => simp at length
  | cons d ds ih =>
    cases es with
    | nil => simp at length
    | cons e es =>
      have digit := digits d List.mem_cons_self
      have digit' := digits' e List.mem_cons_self
      obtain ⟨front, rest⟩ := ih (fun c mem => digits c (List.mem_cons_of_mem d mem))
        (fun c mem => digits' c (List.mem_cons_of_mem e mem)) (by simpa using length) same
      have small := digitValue_lt digit
      have small' := digitValue_lt digit'
      have front : 10 * n + digitValue d = 10 * m + digitValue e := front
      have first : digitValue d = digitValue e := by omega
      exact ⟨by omega, by rw [digitValue_inj digit digit' first, rest]⟩

theorem digits_of_isNumeric {i : Identifier} (numeric : isNumeric i = true) : ∀ c ∈ i, isDigit c = true :=
  List.all_eq_true.1 numeric

theorem valueOf_lt_of_length_lt {a b : Identifier} (numeric : isNumeric a = true)
    (numeric' : isNumeric b = true) (some : a ≠ []) (proper : IsProper b) (shorter : a.length < b.length) :
    valueOf a < valueOf b := by
  obtain ⟨-, high⟩ := valueFrom_bounds (digits_of_isNumeric numeric) 0
  have value : valueOf a < 10 ^ a.length := by simpa [valueFrom, valueOf] using high
  cases b with
  | nil => exact absurd rfl proper.1
  | cons c ds =>
    have digits := digits_of_isNumeric numeric'
    have several : ds ≠ [] := by
      intro none
      have one := List.length_pos_iff.2 some
      rw [none, List.length_singleton] at shorter
      omega
    -- a number of several digits does not start with a zero, so it reaches the power of its length
    have nonzero : c ≠ '0' := by
      intro zero
      obtain ⟨d, es, rfl⟩ := List.exists_cons_of_ne_nil several
      exact proper.2 ⟨numeric', by rw [zero]; rfl⟩
    have positive := digitValue_pos (digits c List.mem_cons_self) nonzero
    obtain ⟨low, -⟩ := valueFrom_bounds (fun d mem => digits d (List.mem_cons_of_mem c mem)) (digitValue c)
    have start : valueOf (c :: ds) = valueFrom (digitValue c) ds := by
      simp [valueOf, valueFrom]
    have one : 10 ^ ds.length ≤ digitValue c * 10 ^ ds.length := Nat.le_mul_of_pos_left _ positive
    have wide : 10 ^ a.length ≤ 10 ^ ds.length :=
      Nat.pow_le_pow_right (by decide) (by simpa using Nat.le_of_lt_succ shorter)
    omega

theorem eq_of_valueOf_eq {a b : Identifier} (numeric : isNumeric a = true) (numeric' : isNumeric b = true)
    (proper : IsProper a) (proper' : IsProper b) (same : valueOf a = valueOf b) : a = b := by
  -- once the lengths are equal the digits can be compared one by one
  have length : a.length = b.length := by
    rcases Nat.lt_trichotomy a.length b.length with shorter | equal | longer
    · have less := valueOf_lt_of_length_lt numeric numeric' proper.1 proper' shorter
      omega
    · exact equal
    · have less := valueOf_lt_of_length_lt numeric' numeric proper'.1 proper longer
      omega
  exact (valueFrom_inj (digits_of_isNumeric numeric) (digits_of_isNumeric numeric') length same).2

/-! Identifiers. -/

theorem compareChars_eq_eq {a b : List Char} : compareChars a b = .eq ↔ a = b := by
  induction a generalizing b with
  | nil => cases b <;> simp [compareChars]
  | cons c cs ih =>
    cases b with
    | nil => simp [compareChars]
    | cons d ds => simp [compareChars, Ordering.then_eq_eq, ih, Char.toNat_inj]

theorem compareChars_eq_lt {a b : List Char} : compareChars a b = .lt ↔ a < b := by
  induction a generalizing b with
  | nil =>
    cases b with
    | nil => simp [compareChars]
    | cons d ds => simp [compareChars]
  | cons c cs ih =>
    cases b with
    | nil => simp [compareChars]
    | cons d ds =>
      have first : c.toNat < d.toNat ↔ c < d := Iff.rfl
      simp only [compareChars, Ordering.then_eq_lt, ih, Nat.compare_eq_lt, Nat.compare_eq_eq,
        List.cons_lt_cons_iff, Char.toNat_inj, first]

theorem compareIdentifiers_eq_eq {a b : Identifier} (proper : IsProper a) (proper' : IsProper b) :
    compareIdentifiers a b = .eq ↔ a = b := by
  unfold compareIdentifiers
  split
  · rename_i numeric numeric'
    simp only [Ordering.then_eq_eq, Nat.compare_eq_eq]
    constructor
    · rintro ⟨value, -⟩
      exact eq_of_valueOf_eq numeric numeric' proper proper' value
    · rintro rfl
      exact ⟨rfl, rfl⟩
  · rename_i numeric text
    simp only [reduceCtorEq, false_iff]
    rintro rfl
    rw [numeric] at text
    cases text
  · rename_i text numeric
    simp only [reduceCtorEq, false_iff]
    rintro rfl
    rw [numeric] at text
    cases text
  · exact compareChars_eq_eq

theorem compareIdentifiers_eq_lt {a b : Identifier} (proper : IsProper a) (proper' : IsProper b) :
    compareIdentifiers a b = .lt ↔ Below a b := by
  unfold compareIdentifiers
  split
  · rename_i numeric numeric'
    simp only [Ordering.then_eq_lt, Nat.compare_eq_lt, Nat.compare_eq_eq]
    constructor
    · rintro (less | ⟨same, shorter⟩)
      · exact .numbers numeric numeric' less
      · rw [eq_of_valueOf_eq numeric numeric' proper proper' same] at shorter
        exact absurd shorter (Nat.lt_irrefl _)
    · intro below
      cases below with
      | numbers _ _ less => exact .inl less
      | mixed _ text => rw [numeric'] at text; cases text
      | texts text => rw [numeric] at text; cases text
  · rename_i numeric text
    simp only [true_iff]
    exact .mixed numeric text
  · rename_i text numeric
    simp only [reduceCtorEq, false_iff]
    intro below
    cases below with
    | numbers number => rw [text] at number; cases number
    | mixed number => rw [text] at number; cases number
    | texts _ text => rw [numeric] at text; cases text
  · rename_i text text'
    rw [compareChars_eq_lt]
    constructor
    · exact .texts text text'
    · intro below
      cases below with
      | numbers number => rw [text] at number; cases number
      | mixed number => rw [text] at number; cases number
      | texts _ _ less => exact less

theorem compareIdentifiers_swap (a b : Identifier) :
    (compareIdentifiers a b).swap = compareIdentifiers b a := by
  have chars : ∀ as bs : List Char, (compareChars as bs).swap = compareChars bs as := by
    intro as
    induction as with
    | nil => intro bs; cases bs <;> rfl
    | cons c cs ih =>
      intro bs
      cases bs with
      | nil => rfl
      | cons d ds => simp only [compareChars, Ordering.swap_then, ih, Nat.compare_swap]
  unfold compareIdentifiers
  cases isNumeric a <;> cases isNumeric b
  · exact chars a b
  · rfl
  · rfl
  · simp only [Ordering.swap_then, Nat.compare_swap]

/-! Lists of identifiers. -/

theorem compareLists_swap (as bs : List Identifier) : (compareLists as bs).swap = compareLists bs as := by
  induction as generalizing bs with
  | nil => cases bs <;> rfl
  | cons a as ih =>
    cases bs with
    | nil => rfl
    | cons b bs => simp only [compareLists, Ordering.swap_then, ih, compareIdentifiers_swap]

theorem compareLists_eq_eq {as bs : List Identifier} (proper : ∀ i ∈ as, IsProper i)
    (proper' : ∀ i ∈ bs, IsProper i) : compareLists as bs = .eq ↔ as = bs := by
  induction as generalizing bs with
  | nil => cases bs <;> simp [compareLists]
  | cons a as ih =>
    cases bs with
    | nil => simp [compareLists]
    | cons b bs =>
      simp only [List.forall_mem_cons] at proper proper'
      simp only [compareLists, Ordering.then_eq_eq, compareIdentifiers_eq_eq proper.1 proper'.1,
        ih proper.2 proper'.2, List.cons.injEq]

theorem compareLists_eq_lt {as bs : List Identifier} (proper : ∀ i ∈ as, IsProper i)
    (proper' : ∀ i ∈ bs, IsProper i) : compareLists as bs = .lt ↔ List.Lex Below as bs := by
  induction as generalizing bs with
  | nil =>
    cases bs with
    | nil => simp only [compareLists, reduceCtorEq, false_iff]; rintro ⟨⟩
    | cons b bs => simp only [compareLists, true_iff]; exact .nil
  | cons a as ih =>
    cases bs with
    | nil => simp only [compareLists, reduceCtorEq, false_iff]; rintro ⟨⟩
    | cons b bs =>
      simp only [List.forall_mem_cons] at proper proper'
      simp only [compareLists, Ordering.then_eq_lt, compareIdentifiers_eq_lt proper.1 proper'.1,
        compareIdentifiers_eq_eq proper.1 proper'.1, ih proper.2 proper'.2]
      constructor
      · rintro (below | ⟨rfl, rest⟩)
        · exact .rel below
        · exact .cons rest
      · intro lex
        cases lex with
        | rel below => exact .inl below
        | cons rest => exact .inr ⟨rfl, rest⟩

theorem comparePre_swap (as bs : List Identifier) : (comparePre as bs).swap = comparePre bs as := by
  cases as with
  | nil => cases bs <;> rfl
  | cons a as =>
    cases bs with
    | nil => rfl
    | cons b bs => exact compareLists_swap (a :: as) (b :: bs)

/-! Versions. -/

namespace Version

variable {v w : Version}

theorem numbers_lt_iff : v.numbers < w.numbers ↔ v.major < w.major ∨
    v.major = w.major ∧ (v.minor < w.minor ∨ v.minor = w.minor ∧ v.patch < w.patch) := by
  simp only [numbers, List.cons_lt_cons_iff, List.lt_irrefl, and_false, or_false]

theorem numbers_eq_iff : v.numbers = w.numbers ↔
    v.major = w.major ∧ v.minor = w.minor ∧ v.patch = w.patch := by
  simp [numbers]

theorem comparePrecedence_eq_lt : v.comparePrecedence w = .lt ↔
    v.numbers < w.numbers ∨ v.numbers = w.numbers ∧ comparePre v.pre w.pre = .lt := by
  simp only [comparePrecedence, Ordering.then_eq_lt, Nat.compare_eq_lt, Nat.compare_eq_eq,
    numbers_lt_iff, numbers_eq_iff]
  tauto

theorem comparePrecedence_swap : (v.comparePrecedence w).swap = w.comparePrecedence v := by
  simp only [comparePrecedence, Ordering.swap_then, Nat.compare_swap, comparePre_swap]

theorem precedes_iff (proper : v.Proper) (proper' : w.Proper) :
    v.Precedes w ↔ v.comparePrecedence w = .lt := by
  rw [comparePrecedence_eq_lt]
  constructor
  · intro precedes
    cases precedes with
    | number less => exact .inl less
    | release same some none =>
      obtain ⟨a, as, shape⟩ := List.exists_cons_of_ne_nil some
      exact .inr ⟨same, by rw [shape, none]; rfl⟩
    | prerelease same some some' lex =>
      obtain ⟨a, as, shape⟩ := List.exists_cons_of_ne_nil some
      obtain ⟨b, bs, shape'⟩ := List.exists_cons_of_ne_nil some'
      have less := (compareLists_eq_lt proper proper').2 lex
      rw [shape, shape'] at less
      exact .inr ⟨same, by rw [shape, shape']; exact less⟩
  · rintro (less | ⟨same, less⟩)
    · exact .number less
    · cases shape : v.pre with
      | nil =>
        rw [shape] at less
        cases shape' : w.pre with
        | nil => rw [shape'] at less; cases less
        | cons b bs => rw [shape'] at less; cases less
      | cons a as =>
        have some : v.pre ≠ [] := by rw [shape]; exact List.cons_ne_nil a as
        cases shape' : w.pre with
        | nil => exact .release same some shape'
        | cons b bs =>
          have some' : w.pre ≠ [] := by rw [shape']; exact List.cons_ne_nil b bs
          refine .prerelease same some some' ((compareLists_eq_lt proper proper').1 ?_)
          rw [shape, shape'] at less ⊢
          exact less

theorem comparePre_eq_eq (proper : v.Proper) (proper' : w.Proper) :
    comparePre v.pre w.pre = .eq ↔ v.pre = w.pre := by
  have lists := compareLists_eq_eq proper proper'
  cases shape : v.pre with
  | nil => cases w.pre <;> simp [comparePre]
  | cons a as =>
    rw [shape] at lists
    cases shape' : w.pre with
    | nil => simp [comparePre]
    | cons b bs =>
      rw [shape'] at lists
      exact lists

theorem samePrecedence_iff (proper : v.Proper) (proper' : w.Proper) :
    v.samePrecedence w = true ↔ v.numbers = w.numbers ∧ v.pre = w.pre := by
  simp only [samePrecedence, beq_iff_eq, comparePrecedence, Ordering.then_eq_eq, Nat.compare_eq_eq,
    comparePre_eq_eq proper proper', numbers_eq_iff, and_assoc]

/-- An offered version comes after the present one when its precedence is higher, or when it is the
same and its build comes later. -/
theorem le_eq_false_iff (proper : v.Proper) (proper' : w.Proper) :
    w.le v = false ↔ v.Precedes w ∨ v.samePrecedence w = true ∧ compareLists v.build w.build = .lt := by
  have swapped : (w.compareAll v) = (v.compareAll w).swap := by
    simp only [compareAll, Ordering.swap_then, comparePrecedence_swap, compareLists_swap]
  have decided : w.le v = false ↔ v.compareAll w = .lt := by
    rw [le, swapped]
    cases v.compareAll w <;> simp
  rw [decided, compareAll, Ordering.then_eq_lt, precedes_iff proper proper', samePrecedence, beq_iff_eq]

theorem proper_of_ofChars? {cs : List Char} (read : ofChars? cs = some v) : v.Proper := by
  simp only [ofChars?, Option.bind_eq_bind, Option.bind_eq_some_iff] at read
  obtain ⟨build, -, pre, identifiers, read⟩ := read
  have same : v.pre = pre := by
    split at read
    · simp only [Option.bind_eq_some_iff] at read
      obtain ⟨_, _, _, _, _, _, made⟩ := read
      cases made
      rfl
    · cases read
  intro i mem
  rw [same] at mem
  unfold optionalIdentifiers? at identifiers
  split at identifiers
  · cases identifiers
    cases mem
  · unfold identifiers? at identifiers
    dsimp only at identifiers
    split at identifiers
    · rename_i admitted
      cases identifiers
      have each := List.all_eq_true.1 admitted i mem
      simp only [Bool.and_eq_true, Bool.not_eq_true', List.isEmpty_eq_false_iff, Bool.and_eq_false_iff] at each
      refine ⟨each.1.1, fun both => ?_⟩
      rcases each.2 with text | bare
      · rw [both.1] at text
        cases text
      · rw [both.2] at bare
        cases bare
    · cases identifiers

end Version
end Steward.Update
