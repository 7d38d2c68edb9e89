import Mathlib.Algebra.Group.Nat.Defs
import Steward.Wire.Reader

/-!
Numbers in bytes. A number has one form in each width that holds it, and the readers of bytes, numbers
and lengths take exactly this form off the front.
-/
namespace Steward.Wire

theorem takeBytes_eq_some {n : Nat} {bytes taken rest : Bytes} :
    takeBytes n bytes = some (taken, rest) ↔ bytes = taken ++ rest ∧ taken.length = n := by
  induction n generalizing bytes taken with
  | zero =>
    rw [takeBytes, Option.some.injEq, Prod.mk.injEq, List.length_eq_zero_iff]
    constructor
    · rintro ⟨rfl, rfl⟩
      exact ⟨rfl, rfl⟩
    · rintro ⟨rfl, rfl⟩
      exact ⟨rfl, rfl⟩
  | succ n ih =>
    cases bytes with
    | nil =>
      constructor
      · intro none
        cases none
      · rintro ⟨same, length⟩
        obtain ⟨rfl, -⟩ := List.append_eq_nil_iff.1 same.symm
        cases length
    | cons b bytes =>
      rw [takeBytes, Option.map_eq_some_iff]
      constructor
      · rintro ⟨⟨more, left⟩, found, same⟩
        cases same
        obtain ⟨rfl, rfl⟩ := ih.1 found
        exact ⟨rfl, rfl⟩
      · rintro ⟨same, length⟩
        cases taken with
        | nil => cases length
        | cons c taken =>
          cases same
          exact ⟨(taken, rest), ih.2 ⟨rfl, Nat.succ.inj length⟩, rfl⟩

theorem length_bigEndian (width n : Nat) : (bigEndian width n).length = width := by
  induction width with
  | zero => rfl
  | succ width ih => rw [bigEndian, List.length_cons, ih]

theorem bigEndianValue_cons (b : UInt8) (bytes : Bytes) :
    bigEndianValue (b :: bytes) = b.toNat * 256 ^ bytes.length + bigEndianValue bytes := by
  -- the fold carries the bytes in front along, so the induction is on any start of it
  have shifted : ∀ start, bytes.foldl (fun n b => n * 256 + b.toNat) start =
      start * 256 ^ bytes.length + bigEndianValue bytes := by
    induction bytes with
    | nil => simp [bigEndianValue]
    | cons c bytes ih =>
      intro start
      unfold bigEndianValue
      rw [List.foldl_cons, List.foldl_cons, ih, ih, List.length_cons, Nat.pow_succ]
      grind
  unfold bigEndianValue at shifted ⊢
  rw [List.foldl_cons, shifted, Nat.zero_mul, Nat.zero_add]

theorem bigEndianValue_lt (bytes : Bytes) : bigEndianValue bytes < 256 ^ bytes.length := by
  induction bytes with
  | nil => simp [bigEndianValue]
  | cons b bytes ih =>
    have below := Nat.mul_le_mul_right (256 ^ bytes.length) (Nat.succ_le_of_lt b.toNat_lt)
    rw [Nat.succ_mul] at below
    rw [bigEndianValue_cons, List.length_cons, Nat.pow_succ]
    omega

theorem bigEndianValue_bigEndian {width n : Nat} (fits : n < 256 ^ width) :
    bigEndianValue (bigEndian width n) = n := by
  -- without the bound, for the bytes in front hold more than the rest of the width does
  have modulo : ∀ width n, bigEndianValue (bigEndian width n) = n % 256 ^ width := by
    intro width n
    induction width with
    | zero => simp [bigEndian, bigEndianValue, Nat.mod_one]
    | succ width ih =>
      have digit : (UInt8.ofNat (n / 256 ^ width)).toNat = n / 256 ^ width % 256 := UInt8.toNat_ofNat'
      unfold bigEndian
      rw [bigEndianValue_cons, length_bigEndian, ih, Nat.pow_succ, Nat.mod_mul]
      exact (congrArg (· * 256 ^ width + n % 256 ^ width) digit).trans (by grind)
  rw [modulo, Nat.mod_eq_of_lt fits]

theorem bigEndian_add (width high n : Nat) : bigEndian width (high * 256 ^ width + n) = bigEndian width n := by
  induction width generalizing high with
  | zero => rfl
  | succ width ih =>
    have positive : 0 < 256 ^ width := Nat.pow_pos (by decide)
    have split : high * 256 ^ (width + 1) = high * 256 * 256 ^ width := by rw [Nat.pow_succ]; grind
    have digit : (high * 256 * 256 ^ width + n) / Nat.pow 256 width = high * 256 + n / Nat.pow 256 width := by
      rw [Nat.add_comm, Nat.add_comm (high * 256)]
      exact Nat.add_mul_div_right n (high * 256) positive
    unfold bigEndian
    rw [split, digit, ih]
    refine congrArg (· :: _) (UInt8.toNat_inj.1 ?_)
    rw [UInt8.toNat_ofNat', UInt8.toNat_ofNat']
    omega

theorem bigEndian_bigEndianValue (bytes : Bytes) :
    bigEndian bytes.length (bigEndianValue bytes) = bytes := by
  induction bytes with
  | nil => rfl
  | cons b bytes ih =>
    have below := bigEndianValue_lt bytes
    have digit : (b.toNat * 256 ^ bytes.length + bigEndianValue bytes) / Nat.pow 256 bytes.length = b.toNat := by
      show (b.toNat * 256 ^ bytes.length + bigEndianValue bytes) / 256 ^ bytes.length = b.toNat
      rw [Nat.add_comm, Nat.add_mul_div_right _ _ (Nat.pow_pos (by decide)), Nat.div_eq_of_lt below, Nat.zero_add]
    rw [bigEndianValue_cons, List.length_cons]
    unfold bigEndian
    rw [digit, bigEndian_add, ih, UInt8.ofNat_toNat]

theorem readNat_eq_some {width n : Nat} {bytes rest : Bytes} :
    readNat width bytes = some (n, rest) ↔ n < 256 ^ width ∧ bytes = bigEndian width n ++ rest := by
  unfold readNat
  rw [Option.map_eq_some_iff]
  constructor
  · rintro ⟨⟨taken, left⟩, found, same⟩
    cases same
    obtain ⟨rfl, rfl⟩ := takeBytes_eq_some.1 found
    exact ⟨bigEndianValue_lt taken, by rw [bigEndian_bigEndianValue]⟩
  · rintro ⟨fits, rfl⟩
    refine ⟨(bigEndian width n, rest), takeBytes_eq_some.2 ⟨rfl, length_bigEndian width n⟩, ?_⟩
    simp only [bigEndianValue_bigEndian fits]

theorem withLength_eq_some {body : Nat → Reader α} {width : Nat} {bytes rest : Bytes} {a : α} :
    withLength width body bytes = some (a, rest) ↔
      ∃ n tail, n < 256 ^ width ∧ bytes = bigEndian width n ++ tail ∧ body n tail = some (a, rest) := by
  unfold withLength
  constructor
  · intro read
    rcases found : readNat width bytes with _ | ⟨n, tail⟩
    · rw [found] at read
      cases read
    · rw [found] at read
      obtain ⟨fits, same⟩ := readNat_eq_some.1 found
      exact ⟨n, tail, fits, same, read⟩
  · rintro ⟨n, tail, fits, same, read⟩
    rw [readNat_eq_some.2 ⟨fits, same⟩]
    exact read

theorem withLength_bigEndian (body : Nat → Reader α) {width n : Nat} {tail : Bytes} (fits : n < 256 ^ width) :
    withLength width body (bigEndian width n ++ tail) = body n tail := by
  unfold withLength
  rw [readNat_eq_some.2 ⟨fits, rfl⟩]

theorem twosComplement (half : Nat) {z : Int} (low : -(half : Int) ≤ z) (high : z < half) :
    ((z % (2 * half : Nat)).toNat : Int) = if 0 ≤ z then z else z + (2 * half : Nat) := by
  split
  · rw [Int.emod_eq_of_lt (by omega) (by omega)]
    omega
  · rw [Int.emod_eq_add_self_emod, Int.emod_eq_of_lt (by omega) (by omega)]
    omega

end Steward.Wire
