import Steward.Proofs.Wire.Slots
import Steward.Proofs.Wire.Writing

/-!
The parts that messages are made of: what is written for a part is read back as this part, and it is a
value as the writer's forms have it.
-/
namespace Steward.Wire

open Steward.Text

/-- What is written is read back, and nests at most so deep. -/
structure Restores (write : α → Value) (read : Value → Option α) (depth : Nat) : Prop where
  back : ∀ a, read (write a) = some a
  plain : ∀ a, (write a).Plain depth

theorem plain_mono {depth deeper : Nat} {v : Value} (plain : v.Plain depth) (le : depth ≤ deeper) :
    v.Plain deeper := by
  induction plain generalizing deeper with
  | nil => exact .nil
  | bool b => exact .bool b
  | uint n => exact .uint n
  | int negative => exact .int negative
  | float32 bits => exact .float32 bits
  | float64 bits => exact .float64 bits
  | text utf8 => exact .text utf8
  | binary bytes => exact .binary bytes
  | list _ ih =>
    obtain ⟨inner, rfl⟩ : ∃ inner, deeper = inner + 1 := ⟨deeper - 1, by omega⟩
    exact .list fun v mem => ih v mem (by omega)
  | map _ _ keys values =>
    obtain ⟨inner, rfl⟩ : ∃ inner, deeper = inner + 1 := ⟨deeper - 1, by omega⟩
    exact .map (fun entry mem => keys entry mem (by omega)) fun entry mem => values entry mem (by omega)
  | extension tag bytes =>
    obtain ⟨inner, rfl⟩ : ∃ inner, deeper = inner + 1 := ⟨deeper - 1, by omega⟩
    exact .extension tag bytes

section Scalars
variable {depth : Nat}

theorem restores_text : Restores Value.ofText Value.asText? depth where
  back := ofUtf8?_utf8
  plain s := .text (utf8 s)

theorem restores_bool : Restores Value.bool Value.asBool? depth where
  back _ := rfl
  plain := .bool

theorem restores_float : Restores Value.float64 Value.asFloatBits? depth where
  back _ := rfl
  plain := .float64

theorem asIntIn?_of_asInt? {v : Value} {z low high : Int} (int : v.asInt? = some z) (above : low ≤ z)
    (below : z < high) : v.asIntIn? low high = some z := by
  unfold Value.asIntIn?
  rw [int, Option.filter_some]
  simp [above, below]

theorem restores_uint64 : Restores Value.uint Value.asUInt64? depth where
  back n := by
    have below := n.toNat_lt
    unfold Value.asUInt64?
    rw [asIntIn?_of_asInt? rfl (Int.natCast_nonneg _) (by omega)]
    exact congrArg some UInt64.ofNat_toNat
  plain := .uint

theorem restores_uint32 : Restores Value.ofUInt32 Value.asUInt32? depth where
  back n := by
    have below := n.toNat_lt
    have value : n.toUInt64.toNat = n.toNat := UInt32.toNat_toUInt64 n
    unfold Value.asUInt32? Value.ofUInt32
    rw [asIntIn?_of_asInt? rfl (Int.natCast_nonneg _) (by omega), value]
    exact congrArg some UInt32.ofNat_toNat
  plain n := .uint n.toUInt64

theorem restores_uint16 : Restores (fun n : UInt16 => .uint n.toUInt64) Value.asUInt16? depth where
  back n := by
    have below := n.toNat_lt
    have value : n.toUInt64.toNat = n.toNat := UInt16.toNat_toUInt64 n
    unfold Value.asUInt16?
    rw [asIntIn?_of_asInt? rfl (Int.natCast_nonneg _) (by omega), value]
    exact congrArg some UInt16.ofNat_toNat
  plain n := .uint n.toUInt64

theorem toNat_toUInt64 {n : Int64} (nonneg : 0 ≤ n) : (n.toUInt64.toNat : Int) = n.toInt := by
  have sign : 0 ≤ n.toInt := by simpa using Int64.le_iff_toInt_le.1 nonneg
  have small := n.toUInt64.toNat_lt
  have same : n.toInt = n.toUInt64.toBitVec.toInt := rfl
  have value : n.toUInt64.toBitVec.toNat = n.toUInt64.toNat := rfl
  rw [BitVec.toInt_eq_toNat_cond, value] at same
  split at same <;> omega

theorem asInt?_ofInt (n : Int64) : (Value.ofInt n).asInt? = some n.toInt := by
  unfold Value.ofInt
  split
  · rename_i nonneg
    exact congrArg some (toNat_toUInt64 nonneg)
  · rfl

theorem plain_ofInt (n : Int64) : (Value.ofInt n).Plain depth := by
  unfold Value.ofInt
  split
  · exact .uint _
  · rename_i negative
    exact .int (by simpa [Int64.le_iff_toInt_le] using negative)

theorem restores_int64 : Restores Value.ofInt Value.asInt64? depth where
  back n := by
    have low : -2 ^ 63 ≤ n.toInt := n.le_toInt
    have high := n.toInt_lt
    unfold Value.asInt64?
    rw [asIntIn?_of_asInt? (asInt?_ofInt n) (by omega) (by omega)]
    exact congrArg some (Int64.ofInt_toInt n)
  plain := plain_ofInt

theorem restores_int32 : Restores Value.ofInt32 Value.asInt32? depth where
  back n := by
    have low : -2 ^ 31 ≤ n.toInt := n.le_toInt
    have high := n.toInt_lt
    have value : n.toInt64.toInt = n.toInt := Int32.toInt_toInt64 n
    unfold Value.asInt32? Value.ofInt32
    rw [asIntIn?_of_asInt? (asInt?_ofInt _) (by omega) (by omega), value]
    exact congrArg some (Int32.ofInt_toInt n)
  plain n := plain_ofInt n.toInt64

end Scalars

theorem mapM_map {write : α → β} {read : β → Option α} (back : ∀ a, read (write a) = some a) (items : List α) :
    (items.map write).mapM read = some items := by
  induction items with
  | nil => rfl
  | cons a items ih =>
    rw [List.map_cons, List.mapM_cons, back, ih]
    rfl

section Compound
variable {write : α → Value} {read : Value → Option α} {depth : Nat}

theorem restores_optional (inner : Restores write read depth) (some_ : ∀ a, write a ≠ .nil) :
    Restores (Value.ofOptional write) (Value.asOptional? read) depth where
  back
    | none => rfl
    | some a => by
      show Value.asOptional? read (write a) = some (some a)
      unfold Value.asOptional?
      split
      · rename_i nil
        exact absurd nil (some_ a)
      · rw [inner.back]
        rfl
  plain
    | none => .nil
    | some a => inner.plain a

theorem restores_list (inner : Restores write read depth) :
    Restores (Value.ofList write) (Value.asList? read) (depth + 1) where
  back := mapM_map inner.back
  plain items := by
    refine .list fun v mem => ?_
    obtain ⟨a, -, rfl⟩ := List.mem_map.1 mem
    exact inner.plain a

theorem ofText_ne_nil (s : String) : Value.ofText s ≠ .nil := nofun

theorem ofInt_ne_nil (n : Int64) : Value.ofInt n ≠ .nil := by
  unfold Value.ofInt
  split <;> nofun

end Compound

end Steward.Wire
