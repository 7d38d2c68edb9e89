import Steward.Proofs.Text.ByteOrder

/-!
Bytes read as text. The bytes of a text are read as that text; other bytes are read as a text with other
bytes, so what is lost in reading shows when it is written again.
-/
namespace Steward.Text

theorem utf8_append (s t : String) : utf8 (s ++ t) = utf8 s ++ utf8 t := by
  simp only [utf8_eq, String.toList_append, List.flatMap_append]

theorem ofUtf8?_utf8 (s : String) : ofUtf8? (utf8 s) = some s := by
  unfold ofUtf8? String.fromUTF8?
  exact dif_pos s.isValidUTF8

theorem utf8_inj {s t : String} : utf8 s = utf8 t ↔ s = t := by
  constructor
  · intro same
    have read := congrArg ofUtf8? same
    rw [ofUtf8?_utf8, ofUtf8?_utf8] at read
    exact Option.some.inj read
  · intro same
    rw [same]

def IsText (bytes : List UInt8) : Prop := ∃ s, utf8 s = bytes

theorem toNat_ofNat_byte {n : Nat} (small : n < 256) : (UInt8.ofNat n).toNat = n := by
  rw [UInt8.toNat_ofNat']
  exact Nat.mod_eq_of_lt small

section Lead
variable {n : Nat}

theorem leadByte?_two (low : 0x80 ≤ n) (high : n ≤ 0x7FF) :
    leadByte? (UInt8.ofNat (n / 64 % 32 + 192)) = some (n / 64, 1, 0x80, 0xBF) := by
  have bits : n / 64 % 32 + 192 - 0xC0 = n / 64 := by omega
  rw [leadByte?, toNat_ofNat_byte (by omega), if_pos (by omega), bits]

/-- The range of the byte behind the first of three shuts out surrogates and what needs no third. -/
theorem leadByte?_three (low : 0x800 ≤ n) (high : n ≤ 0xFFFF) (valid : n < 0xD800 ∨ 0xDFFF < n) :
    ∃ l h, leadByte? (UInt8.ofNat (n / 4096 % 16 + 224)) = some (n / 4096, 2, l, h) ∧
      l ≤ n / 64 % 64 + 128 ∧ n / 64 % 64 + 128 ≤ h := by
  have bits : n / 4096 % 16 + 224 - 0xE0 = n / 4096 := by omega
  rw [leadByte?, toNat_ofNat_byte (by omega), if_neg (by omega)]
  split_ifs with least surrogate other
  · have zero : n / 4096 = 0 := by omega
    exact ⟨_, _, by rw [zero], by omega, by omega⟩
  · have thirteen : n / 4096 = 0xD := by omega
    exact ⟨_, _, by rw [thirteen], by omega, by omega⟩
  · exact ⟨_, _, by rw [bits], by omega, by omega⟩
  all_goals omega

theorem leadByte?_four (low : 0x10000 ≤ n) (high : n < 0x110000) :
    ∃ l h, leadByte? (UInt8.ofNat (n / 262144 % 8 + 240)) = some (n / 262144, 3, l, h) ∧
      l ≤ n / 4096 % 64 + 128 ∧ n / 4096 % 64 + 128 ≤ h := by
  have bits : n / 262144 % 8 + 240 - 0xF0 = n / 262144 := by omega
  rw [leadByte?, toNat_ofNat_byte (by omega), if_neg (by omega), if_neg (by omega), if_neg (by omega),
    if_neg (by omega)]
  split_ifs with least middle greatest
  · have zero : n / 262144 = 0 := by omega
    exact ⟨_, _, by rw [zero], by omega, by omega⟩
  · exact ⟨_, _, by rw [bits], by omega, by omega⟩
  · have four : n / 262144 = 4 := by omega
    exact ⟨_, _, by rw [four], by omega, by omega⟩
  · omega

end Lead

section Step
variable (rest : List UInt8)

theorem decodeFrom_lead {n bits needed low high : Nat} (above : 0x80 ≤ n) (small : n < 256)
    (lead : leadByte? (UInt8.ofNat n) = some (bits, needed, low, high)) :
    decodeFrom none (UInt8.ofNat n :: rest) = decodeFrom (some ⟨bits, needed, low, high⟩) rest := by
  have many : ¬n < 0x80 := Nat.not_lt.2 above
  rw [decodeFrom, startChar, toNat_ofNat_byte small, if_neg many, lead]

theorem decodeFrom_tail {bits needed low high k : Nat} (above : low ≤ k % 64 + 128)
    (below : k % 64 + 128 ≤ high) :
    decodeFrom (some ⟨bits, needed, low, high⟩) (UInt8.ofNat (k % 64 + 128) :: rest) =
      if needed = 1 then Char.ofNat (bits * 64 + k % 64) :: decodeFrom none rest
      else decodeFrom (some ⟨bits * 64 + k % 64, needed - 1, 0x80, 0xBF⟩) rest := by
  rw [decodeFrom, toNat_ofNat_byte (by omega), if_pos ⟨above, below⟩, Nat.add_sub_cancel]

theorem decodeFrom_encoded (c : Char) :
    decodeFrom none (String.utf8EncodeChar c ++ rest) = c :: decodeFrom none rest := by
  have valid : c.val.toNat < 0xD800 ∨ 0xDFFF < c.val.toNat ∧ c.val.toNat < 0x110000 := c.valid
  have same : Char.ofNat c.val.toNat = c := Char.ofNat_toNat c
  simp only [String.utf8EncodeChar]
  generalize c.val.toNat = n at valid same ⊢
  split_ifs with one two three
  · have ascii : n < 0x80 := Nat.lt_succ_of_le one
    rw [List.singleton_append, decodeFrom, startChar, toNat_ofNat_byte (by omega), if_pos ascii, same]
  · have lead := leadByte?_two (Nat.lt_of_not_le one) two
    have whole : n / 64 * 64 + n % 64 = n := Nat.div_add_mod' n 64
    rw [List.cons_append, List.singleton_append, decodeFrom_lead _ (by omega) (by omega) lead,
      decodeFrom_tail _ (by omega) (by omega), if_pos rfl, whole, same]
  · obtain ⟨low, high, lead, above, below⟩ :=
      leadByte?_three (Nat.lt_of_not_le two) three (valid.imp_right And.left)
    have whole : (n / 4096 * 64 + n / 64 % 64) * 64 + n % 64 = n := by omega
    rw [List.cons_append, List.cons_append, List.singleton_append,
      decodeFrom_lead _ (by omega) (by omega) lead, decodeFrom_tail _ above below, if_neg (by decide),
      decodeFrom_tail _ (by omega) (by omega), if_pos rfl, whole, same]
  · obtain ⟨low, high, lead, above, below⟩ :=
      leadByte?_four (Nat.lt_of_not_le three) (by omega)
    have whole : ((n / 262144 * 64 + n / 4096 % 64) * 64 + n / 64 % 64) * 64 + n % 64 = n := by omega
    rw [List.cons_append, List.cons_append, List.cons_append, List.singleton_append,
      decodeFrom_lead _ (by omega) (by omega) lead, decodeFrom_tail _ above below, if_neg (by decide),
      decodeFrom_tail _ (by omega) (by omega), if_neg (by decide),
      decodeFrom_tail _ (by omega) (by omega), if_pos rfl, whole, same]

end Step

theorem decodeFrom_append (cs : List Char) (rest : List UInt8) :
    decodeFrom none (cs.flatMap String.utf8EncodeChar ++ rest) = cs ++ decodeFrom none rest := by
  induction cs with
  | nil => rfl
  | cons c cs ih => rw [List.flatMap_cons, List.append_assoc, decodeFrom_encoded, ih, List.cons_append]

theorem decodeLossy_utf8_append (s : String) (rest : List UInt8) :
    decodeLossy (utf8 s ++ rest) = s ++ decodeLossy rest := by
  rw [decodeLossy, utf8_eq, decodeFrom_append, String.ofList_append, String.ofList_toList, decodeLossy]

theorem decodeLossy_utf8 (s : String) : decodeLossy (utf8 s) = s := by
  have read := decodeLossy_utf8_append s []
  rw [List.append_nil] at read
  rw [read]
  exact String.append_empty

/-- A text whose bytes begin with those of another begins with it. -/
theorem exists_eq_append_of_utf8 {s front : String} (start : utf8 front <+: utf8 s) :
    ∃ rest, s = front ++ rest := by
  obtain ⟨rest, whole⟩ := start
  refine ⟨decodeLossy rest, ?_⟩
  rw [← decodeLossy_utf8_append, whole, decodeLossy_utf8]

/-- Exactly the bytes of a text are there again when what was read is written. -/
theorem utf8_decodeLossy_iff (bytes : List UInt8) : utf8 (decodeLossy bytes) = bytes ↔ IsText bytes := by
  constructor
  · intro again
    exact ⟨_, again⟩
  · rintro ⟨s, rfl⟩
    rw [decodeLossy_utf8]

end Steward.Text
