import Steward.Text.Numeral

/-!
Numerals read back. A numeral is a run of digits whose value is the number, whatever stands behind it
as long as that is no digit.
-/
namespace Steward.Text

theorem isDigit_eq (c : Char) : isDigit c = c.isDigit := by
  simp only [isDigit, Char.isDigit, Char.le_def]

theorem not_isDigit_of_isBlank {c : Char} (blank : isBlank c = true) : isDigit c = false := by
  apply Bool.eq_false_iff.2
  intro digit
  simp only [isDigit, Bool.and_eq_true, decide_eq_true_eq, Char.le_def, UInt32.le_iff_toNat_le] at digit
  simp only [isBlank, Bool.or_eq_true, Bool.and_eq_true, decide_eq_true_eq] at blank
  have low : 48 ≤ c.toNat := digit.1
  have high : c.toNat ≤ 57 := digit.2
  omega

/-- What may stand behind a numeral. -/
def NoDigit (rest : List Char) : Prop := ∀ c ∈ rest.head?, isDigit c = false

theorem noDigit_nil : NoDigit [] := nofun

theorem noDigit_cons {c : Char} (other : isDigit c = false) (rest : List Char) : NoDigit (c :: rest) := by
  intro d here
  cases here
  exact other

section Padded
variable (width n : Nat)

theorem toList_padded : (padded width n).toList =
    List.replicate (width - (Nat.toDigits 10 n).length) '0' ++ Nat.toDigits 10 n := by
  unfold padded
  exact String.toList_ofList

theorem isDigit_of_mem_padded {c : Char} (mem : c ∈ (padded width n).toList) : isDigit c = true := by
  rw [toList_padded] at mem
  rcases List.mem_append.1 mem with zero | digit
  · rw [(List.mem_replicate.1 zero).2]
    rfl
  · rw [isDigit_eq]
    exact Nat.isDigit_of_mem_toDigits (by decide) (by decide) digit

theorem padded_ne_nil : (padded width n).toList ≠ [] := by
  rw [toList_padded]
  exact List.append_ne_nil_of_right_ne_nil _ Nat.toDigits_ne_nil

theorem valueOf_padded : valueOf (padded width n).toList = n := by
  rw [toList_padded]
  show Nat.ofDigitChars 10 _ 0 = n
  rw [Nat.ofDigitChars_append, Nat.ofDigitChars_replicate_zero, Nat.mul_zero, Nat.ofDigitChars_ten_toDigits]

theorem digits?_padded : digits? (padded width n).toList = some n := by
  have digits : (padded width n).toList.all isDigit = true :=
    List.all_eq_true.2 fun c mem => isDigit_of_mem_padded width n mem
  have some : (padded width n).toList.isEmpty = false :=
    List.isEmpty_eq_false_iff.2 (padded_ne_nil width n)
  rw [digits?, digits, some, valueOf_padded]
  rfl

theorem length_padded {width n : Nat} (positive : 0 < width) (fits : n < Nat.pow 10 width) :
    (padded width n).toList.length = width := by
  have short := (Nat.length_toDigits_le_iff (by decide) positive).2 fits
  rw [toList_padded, List.length_append, List.length_replicate]
  omega

theorem takeWhile_padded {rest : List Char} (stops : NoDigit rest) :
    ((padded width n).toList ++ rest).takeWhile isDigit = (padded width n).toList := by
  rw [List.takeWhile_append_of_pos fun c mem => isDigit_of_mem_padded width n mem]
  cases rest with
  | nil => exact List.append_nil _
  | cons c rest => rw [List.takeWhile_cons, stops c rfl, if_neg (by decide), List.append_nil]

theorem dropWhile_padded {rest : List Char} (stops : NoDigit rest) :
    ((padded width n).toList ++ rest).dropWhile isDigit = rest := by
  rw [List.dropWhile_append_of_pos fun c mem => isDigit_of_mem_padded width n mem]
  cases rest with
  | nil => rfl
  | cons c rest => rw [List.dropWhile_cons, stops c rfl, if_neg (by decide)]

end Padded

theorem toList_padded_one (n : Nat) : (padded 1 n).toList = Nat.toDigits 10 n := by
  have some : 0 < (Nat.toDigits 10 n).length := Nat.length_toDigits_pos
  rw [toList_padded, Nat.sub_eq_zero_of_le some, List.replicate_zero, List.nil_append]

theorem head_toDigits_ne_zero {n : Nat} (positive : 0 < n) : (Nat.toDigits 10 n).head? ≠ some '0' := by
  induction n using Nat.strongRecOn with
  | ind n ih =>
    by_cases one : n < 10
    · rw [Nat.toDigits_of_lt_base one]
      have digit : ∀ d : Fin 10, 0 < d.val → [d.val.digitChar].head? ≠ some '0' := by decide
      exact digit ⟨n, one⟩ positive
    · have front := ih (n / 10) (by omega) (by omega)
      obtain ⟨d, ds, shape⟩ := List.exists_cons_of_ne_nil (@Nat.toDigits_ne_nil (n / 10) 10)
      rw [Nat.toDigits_of_base_le (by decide) (by omega), shape]
      rw [shape] at front
      exact front

theorem toList_minus (s : String) : ("-" ++ s).toList = '-' :: s.toList := String.toList_append

theorem toList_plus (s : String) : ("+" ++ s).toList = '+' :: s.toList := String.toList_append

theorem toList_point (s : String) : ("." ++ s).toList = '.' :: s.toList := String.toList_append

section Signed
variable {n : Int}

theorem toList_signed_of_nonneg (nonneg : 0 ≤ n) : (signed n).toList = (padded 1 n.toNat).toList := by
  cases n with
  | ofNat k => rfl
  | negSucc k => omega

theorem toList_signed_of_neg (negative : n < 0) :
    (signed n).toList = '-' :: (padded 1 n.natAbs).toList := by
  cases n with
  | ofNat k => exact absurd negative (Int.not_lt.2 (Int.natCast_nonneg k))
  | negSucc k => exact toList_minus _

theorem head_digits_ne_sign {cs : List Char} {m : Nat} (digits : digits? cs = some m) {sign : Char}
    (other : isDigit sign = false) : cs.head? ≠ some sign := by
  intro first
  have all : cs.all isDigit = true := by
    unfold digits? at digits
    split at digits
    · rename_i both
      exact (Bool.and_eq_true_iff.1 both).2
    · cases digits
  have isOne := List.all_eq_true.1 all sign (List.mem_of_head? first)
  rw [other] at isOne
  cases isOne

theorem integer?_signed {half : Nat} (least : -(half : Int) ≤ n) (below : n < half) :
    integer? half (signed n) = some n := by
  unfold integer?
  by_cases negative : n < 0
  · have fits : n.natAbs ≤ half := by omega
    have value : -(n.natAbs : Int) = n := by omega
    rw [toList_signed_of_neg negative]
    simp only [digits?_padded, Option.filter_some, fits, decide_true, if_true]
    exact congrArg some value
  · have nonneg : 0 ≤ n := Int.not_lt.1 negative
    have fits : n.toNat < half := by omega
    have digits := digits?_padded 1 n.toNat
    rw [toList_signed_of_nonneg nonneg]
    split
    · rename_i shape
      exact absurd (congrArg List.head? shape) (head_digits_ne_sign digits rfl)
    · rename_i shape
      exact absurd (congrArg List.head? shape) (head_digits_ne_sign digits rfl)
    · simp only [digits, Option.filter_some, fits, decide_true, if_true, Option.map_some,
        Int.ofNat_eq_natCast, Int.toNat_of_nonneg nonneg]

end Signed

theorem hexDigitValue?_hexDigit {n : Nat} (small : n < 16) : hexDigitValue? (hexDigit n) = some n := by
  have each : ∀ d : Fin 16, hexDigitValue? (hexDigit d.val) = some d.val := by decide
  exact each ⟨n, small⟩

end Steward.Text
