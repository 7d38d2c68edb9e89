import Mathlib.Tactic.SplitIfs
import Steward.Text.Utf8

/-!
The order of names. Texts are compared character by character and names in a table byte by byte; in
UTF-8 this is one order, because the first byte of a character tells how many bytes it has.
-/
namespace Steward.Text

theorem utf8_eq (s : String) : utf8 s = s.toList.flatMap String.utf8EncodeChar := by
  have encoded : s.toList.utf8Encode = s.toByteArray := String.utf8Encode_toList
  rw [utf8, ← encoded, List.utf8Encode, List.data_toByteArray]

theorem cons_lt_iff {a b : Nat} (small : a < 256) (small' : b < 256) (xs ys : List UInt8) :
    UInt8.ofNat a :: xs < UInt8.ofNat b :: ys ↔ a < b ∨ a = b ∧ xs < ys := by
  rw [List.cons_lt_cons_iff, UInt8.lt_iff_toNat_lt, ← UInt8.toNat_inj]
  simp only [UInt8.toNat_ofNat', Nat.mod_eq_of_lt small, Nat.mod_eq_of_lt small']

/-- Of two different characters, the bytes of the smaller one come first whatever follows. -/
theorem encoded_lt {c d : Char} (less : c < d) (xs ys : List UInt8) :
    String.utf8EncodeChar c ++ xs < String.utf8EncodeChar d ++ ys := by
  have points : c.val.toNat < d.val.toNat := less
  have range : d.val.toNat < 0x110000 := by
    rcases d.valid with low | ⟨_, high⟩
    · exact Nat.lt_trans low (by decide)
    · exact high
  simp only [String.utf8EncodeChar]
  generalize c.val.toNat = m at points ⊢
  generalize d.val.toNat = n at points range ⊢
  have middle (k : Nat) : k / 4096 = k / 64 / 64 := (Nat.div_div_eq_div_mul k 64 64).symm
  have high (k : Nat) : k / 262144 = k / 64 / 64 / 64 := by
    rw [← middle, Nat.div_div_eq_div_mul]
  -- With equal lengths the first byte that differs decides, otherwise already the first one does.
  split_ifs <;> simp (disch := omega) only [List.cons_append, cons_lt_iff, middle, high] <;> omega

theorem flatMap_lt_of_lt {cs ds : List Char} (less : cs < ds) :
    cs.flatMap String.utf8EncodeChar < ds.flatMap String.utf8EncodeChar := by
  induction less with
  | @nil d ds =>
    obtain ⟨b, bs, some⟩ := List.exists_cons_of_ne_nil (@String.utf8EncodeChar_ne_nil d)
    rw [List.flatMap_nil, List.flatMap_cons, some, List.cons_append]
    exact List.nil_lt_cons _ _
  | rel first =>
    rw [List.flatMap_cons, List.flatMap_cons]
    exact encoded_lt first _ _
  | cons _ rest =>
    rw [List.flatMap_cons, List.flatMap_cons]
    exact List.append_left_lt rest

theorem lt_iff_utf8_lt (s t : String) : s < t ↔ utf8 s < utf8 t := by
  have upward (a b : String) (less : a < b) : utf8 a < utf8 b := by
    rw [utf8_eq, utf8_eq]
    exact flatMap_lt_of_lt less
  constructor
  · exact upward s t
  · intro less
    rcases Decidable.em (s = t) with rfl | differs
    · exact absurd less (List.lt_irrefl _)
    · refine Decidable.byContradiction fun notLess => ?_
      have above : t < s := String.not_le.1 fun below =>
        differs (String.le_antisymm below (String.not_lt.1 notLess))
      exact List.lt_irrefl _ (List.lt_trans less (upward t s above))

end Steward.Text
