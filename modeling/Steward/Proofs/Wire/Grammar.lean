import Steward.Proofs.Wire.BigEndian

/-!
The forms that a value has in bytes, as tables of heads, and the reader against them: it takes a value off
the front exactly if one of its forms stands there, and leaves all that follows.
-/
namespace Steward.Wire

/-! The forms. -/

inductive Row (spells : α → Bytes → Prop) : List α → Bytes → Prop where
  | nil : Row spells [] []
  | cons {a : α} {as : List α} {front rest : Bytes} :
      spells a front → Row spells as rest → Row spells (a :: as) (front ++ rest)

def SpellsPair (spells : α → Bytes → Prop) (pair : α × α) (bytes : Bytes) : Prop :=
  ∃ key value, bytes = key ++ value ∧ spells pair.1 key ∧ spells pair.2 value

/-- The heads that hold a number: the short ones, from `base` on, hold a number below `bound`
themselves; the others are followed by it, in big-endian order and in the width that stands with them. -/
structure Heads where
  base : Nat
  bound : Nat
  wide : List (UInt8 × Nat)

def unsignedHeads : Heads := ⟨0x00, 0x80, [(0xCC, 1), (0xCD, 2), (0xCE, 4), (0xCF, 8)]⟩
def mapHeads : Heads := ⟨0x80, 0x10, [(0xDE, 2), (0xDF, 4)]⟩
def listHeads : Heads := ⟨0x90, 0x10, [(0xDC, 2), (0xDD, 4)]⟩
def textHeads : Heads := ⟨0xA0, 0x20, [(0xD9, 1), (0xDA, 2), (0xDB, 4)]⟩
def binaryHeads : Heads := ⟨0x00, 0x00, [(0xC4, 1), (0xC5, 2), (0xC6, 4)]⟩
def extensionHeads : Heads := ⟨0x00, 0x00, [(0xC7, 1), (0xC8, 2), (0xC9, 4)]⟩

def signedHeads : List (UInt8 × Nat) := [(0xD0, 1), (0xD1, 2), (0xD2, 4), (0xD3, 8)]

def fixedHeads : List (UInt8 × Nat) := [(0xD4, 1), (0xD5, 2), (0xD6, 4), (0xD7, 8), (0xD8, 16)]

inductive Heads.Hold (heads : Heads) (n : Nat) : Bytes → Prop where
  | short : n < heads.bound → Hold heads n [UInt8.ofNat (heads.base + n)]
  | wide {head : UInt8} {width : Nat} : (head, width) ∈ heads.wide → n < 256 ^ width →
      Hold heads n (head :: bigEndian width n)

inductive ExtensionHead (n : Nat) : Bytes → Prop where
  | fixed {head : UInt8} : (head, n) ∈ fixedHeads → ExtensionHead n [head]
  | counted {head : Bytes} : extensionHeads.Hold n head → ExtensionHead n head

inductive Scalar : Value → Bytes → Prop where
  | nil : Scalar .nil [0xC0]
  | no : Scalar (.bool false) [0xC2]
  | yes : Scalar (.bool true) [0xC3]
  | unsigned {n : Nat} {form : Bytes} : unsignedHeads.Hold n form → Scalar (.uint (UInt64.ofNat n)) form
  | negative {z : Int} : -0x20 ≤ z → z < 0 → Scalar (.int (Int64.ofInt z)) [UInt8.ofNat (z + 0x100).toNat]
  /-- Two's complement. -/
  | signed {z : Int} {head : UInt8} {width : Nat} : (head, width) ∈ signedHeads →
      -((256 ^ width / 2 : Nat) : Int) ≤ z → z < ((256 ^ width / 2 : Nat) : Int) →
      Scalar (.int (Int64.ofInt z)) (head :: bigEndian width (z % (256 ^ width : Nat)).toNat)
  | float32 (bits : UInt32) : Scalar (.float32 bits) (0xCA :: bigEndian 4 bits.toNat)
  | float64 (bits : UInt64) : Scalar (.float64 bits) (0xCB :: bigEndian 8 bits.toNat)
  | text {utf8 head : Bytes} : textHeads.Hold utf8.length head → Scalar (.text utf8) (head ++ utf8)
  | binary {bytes head : Bytes} : binaryHeads.Hold bytes.length head → Scalar (.binary bytes) (head ++ bytes)

inductive Container (part : Value → Bytes → Prop) : Value → Bytes → Prop where
  | list {items : List Value} {head body : Bytes} : listHeads.Hold items.length head →
      Row part items body → Container part (.list items) (head ++ body)
  | map {entries : List (Value × Value)} {head body : Bytes} : mapHeads.Hold entries.length head →
      Row (SpellsPair part) entries body → Container part (.map entries) (head ++ body)
  | extension {tag : UInt8} {bytes head : Bytes} : ExtensionHead bytes.length head →
      Container part (.extension tag bytes) (head ++ tag :: bytes)

/-- The forms of a value with at most `depth` levels of lists, maps and extensions. -/
def Spells : Nat → Value → Bytes → Prop
  | 0, v, bytes => Scalar v bytes
  | depth + 1, v, bytes => Scalar v bytes ∨ Container (Spells depth) v bytes

/-! Readers of parts. -/

/-- A reader that takes off the forms of its values, and leaves whatever follows them. -/
def Exact (read : Reader α) (spells : α → Bytes → Prop) : Prop :=
  ∀ bytes a rest, read bytes = some (a, rest) ↔ ∃ front, bytes = front ++ rest ∧ spells a front

theorem readMany_exact {read : Reader α} {spells : α → Bytes → Prop} (exact : Exact read spells) (n : Nat) :
    Exact (readMany read n) fun as front => as.length = n ∧ Row spells as front := by
  intro bytes as rest
  induction n generalizing bytes as with
  | zero =>
    rw [readMany, Option.some.injEq, Prod.mk.injEq]
    constructor
    · rintro ⟨rfl, rfl⟩
      exact ⟨[], rfl, rfl, .nil⟩
    · rintro ⟨front, rfl, empty, row⟩
      rw [List.length_eq_zero_iff] at empty
      subst empty
      cases row
      exact ⟨rfl, rfl⟩
  | succ n ih =>
    unfold readMany
    constructor
    · intro found
      rcases first : read bytes with _ | ⟨a, tail⟩
      · rw [first] at found
        cases found
      · rw [first] at found
        obtain ⟨⟨more, left⟩, others, same⟩ := Option.map_eq_some_iff.1 found
        cases same
        obtain ⟨front, rfl, spelled⟩ := (exact bytes a tail).1 first
        obtain ⟨behind, rfl, length, row⟩ := (ih tail more).1 others
        refine ⟨front ++ behind, (List.append_assoc ..).symm, ?_, .cons spelled row⟩
        rw [List.length_cons, length]
    · rintro ⟨_, rfl, length, row⟩
      cases row with
      | nil => cases length
      | @cons a as front behind spelled row =>
        have first := (exact (front ++ behind ++ rest) a (behind ++ rest)).2
          ⟨front, List.append_assoc .., spelled⟩
        have others := (ih (behind ++ rest) as).2 ⟨behind, rfl, Nat.succ.inj length, row⟩
        rw [first]
        exact Option.map_eq_some_iff.2 ⟨(as, rest), others, rfl⟩

theorem readPair_exact {read : Reader α} {spells : α → Bytes → Prop} (exact : Exact read spells) :
    Exact (readPair read) (SpellsPair spells) := by
  intro bytes pair rest
  unfold readPair
  constructor
  · intro found
    rcases first : read bytes with _ | ⟨k, tail⟩
    · rw [first] at found
      cases found
    · rw [first] at found
      obtain ⟨⟨v, left⟩, second, same⟩ := Option.map_eq_some_iff.1 found
      cases same
      obtain ⟨key, rfl, spelled⟩ := (exact bytes k tail).1 first
      obtain ⟨value, rfl, spelled'⟩ := (exact tail v rest).1 second
      exact ⟨key ++ value, (List.append_assoc ..).symm, key, value, rfl, spelled, spelled'⟩
  · rintro ⟨_, rfl, key, value, rfl, spelled, spelled'⟩
    have first := (exact (key ++ value ++ rest) pair.1 (value ++ rest)).2
      ⟨key, List.append_assoc .., spelled⟩
    rw [first]
    exact Option.map_eq_some_iff.2 ⟨(pair.2, rest), (exact _ _ _).2 ⟨value, rfl, spelled'⟩, rfl⟩

/-! A head and what follows it. -/

def readForm (items entries extension : Nat → Reader Value) : Reader Value
  | [] => none
  | head :: bytes => readBody items entries extension head.toNat bytes

section Form
variable {items entries extension : Nat → Reader Value} {bytes rest : Bytes} {v : Value}

/-- What stands at the front: a whole scalar, or a head and what is read behind it. -/
inductive Opened (items entries extension : Nat → Reader Value) (bytes : Bytes) (v : Value) (rest : Bytes) :
    Prop where
  | scalar {front : Bytes} : Scalar v front → bytes = front ++ rest → Opened ..
  | list {n : Nat} {head tail : Bytes} : listHeads.Hold n head → bytes = head ++ tail →
      items n tail = some (v, rest) → Opened ..
  | map {n : Nat} {head tail : Bytes} : mapHeads.Hold n head → bytes = head ++ tail →
      entries n tail = some (v, rest) → Opened ..
  | extension {n : Nat} {head tail : Bytes} : ExtensionHead n head → bytes = head ++ tail →
      extension n tail = some (v, rest) → Opened ..

theorem readUnsigned_bigEndian {width n : Nat} {tail : Bytes} (fits : n < 256 ^ width) :
    readUnsigned width (bigEndian width n ++ tail) = some (.uint (UInt64.ofNat n), tail) := by
  unfold readUnsigned
  rw [readNat_eq_some.2 ⟨fits, rfl⟩]
  rfl

theorem readForm_unsigned {n : Nat} {head tail : Bytes} (hold : unsignedHeads.Hold n head) :
    readForm items entries extension (head ++ tail) = some (.uint (UInt64.ofNat n), tail) := by
  cases hold with
  | short small =>
    have below : n < 0x80 := small
    show readBody items entries extension (UInt8.ofNat (0x00 + n)).toNat tail = _
    rw [Nat.zero_add, UInt8.toNat_ofNat_of_lt' (show n < 256 by omega)]
    unfold readBody
    rw [if_pos below]
  | wide mem fits =>
    simp only [unsignedHeads, List.mem_cons, Prod.mk.injEq, List.not_mem_nil, or_false] at mem
    rcases mem with ⟨rfl, rfl⟩ | ⟨rfl, rfl⟩ | ⟨rfl, rfl⟩ | ⟨rfl, rfl⟩
    all_goals exact readUnsigned_bigEndian fits

theorem readForm_text {n : Nat} {head tail : Bytes} (hold : textHeads.Hold n head) :
    readForm items entries extension (head ++ tail) = readText n tail := by
  cases hold with
  | short small =>
    have below : n < 0x20 := small
    show readBody items entries extension (UInt8.ofNat (0xA0 + n)).toNat tail = _
    rw [UInt8.toNat_ofNat_of_lt' (show 0xA0 + n < 256 by omega)]
    unfold readBody
    rw [if_neg (by omega), if_neg (by omega), if_neg (by omega), if_pos (by omega), Nat.add_sub_cancel_left]
  | wide mem fits =>
    simp only [textHeads, List.mem_cons, Prod.mk.injEq, List.not_mem_nil, or_false] at mem
    rcases mem with ⟨rfl, rfl⟩ | ⟨rfl, rfl⟩ | ⟨rfl, rfl⟩
    all_goals exact withLength_bigEndian readText fits

theorem readForm_binary {n : Nat} {head tail : Bytes} (hold : binaryHeads.Hold n head) :
    readForm items entries extension (head ++ tail) = readBinary n tail := by
  cases hold with
  | short small => cases small
  | wide mem fits =>
    simp only [binaryHeads, List.mem_cons, Prod.mk.injEq, List.not_mem_nil, or_false] at mem
    rcases mem with ⟨rfl, rfl⟩ | ⟨rfl, rfl⟩ | ⟨rfl, rfl⟩
    all_goals exact withLength_bigEndian readBinary fits

theorem readForm_list {n : Nat} {head tail : Bytes} (hold : listHeads.Hold n head) :
    readForm items entries extension (head ++ tail) = items n tail := by
  cases hold with
  | short small =>
    have below : n < 0x10 := small
    show readBody items entries extension (UInt8.ofNat (0x90 + n)).toNat tail = _
    rw [UInt8.toNat_ofNat_of_lt' (show 0x90 + n < 256 by omega)]
    unfold readBody
    rw [if_neg (by omega), if_neg (by omega), if_pos (by omega), Nat.add_sub_cancel_left]
  | wide mem fits =>
    simp only [listHeads, List.mem_cons, Prod.mk.injEq, List.not_mem_nil, or_false] at mem
    rcases mem with ⟨rfl, rfl⟩ | ⟨rfl, rfl⟩
    all_goals exact withLength_bigEndian _ fits

theorem readForm_map {n : Nat} {head tail : Bytes} (hold : mapHeads.Hold n head) :
    readForm items entries extension (head ++ tail) = entries n tail := by
  cases hold with
  | short small =>
    have below : n < 0x10 := small
    show readBody items entries extension (UInt8.ofNat (0x80 + n)).toNat tail = _
    rw [UInt8.toNat_ofNat_of_lt' (show 0x80 + n < 256 by omega)]
    unfold readBody
    rw [if_neg (by omega), if_pos (by omega), Nat.add_sub_cancel_left]
  | wide mem fits =>
    simp only [mapHeads, List.mem_cons, Prod.mk.injEq, List.not_mem_nil, or_false] at mem
    rcases mem with ⟨rfl, rfl⟩ | ⟨rfl, rfl⟩
    all_goals exact withLength_bigEndian _ fits

theorem readForm_extension {n : Nat} {head tail : Bytes} (opens : ExtensionHead n head) :
    readForm items entries extension (head ++ tail) = extension n tail := by
  cases opens with
  | fixed mem =>
    simp only [fixedHeads, List.mem_cons, Prod.mk.injEq, List.not_mem_nil, or_false] at mem
    rcases mem with ⟨rfl, rfl⟩ | ⟨rfl, rfl⟩ | ⟨rfl, rfl⟩ | ⟨rfl, rfl⟩ | ⟨rfl, rfl⟩
    all_goals rfl
  | counted hold =>
    cases hold with
    | short small => cases small
    | wide mem fits =>
      simp only [extensionHeads, List.mem_cons, Prod.mk.injEq, List.not_mem_nil, or_false] at mem
      rcases mem with ⟨rfl, rfl⟩ | ⟨rfl, rfl⟩ | ⟨rfl, rfl⟩
      all_goals exact withLength_bigEndian _ fits

theorem takeBytes_map_eq_some {n : Nat} (wrap : Bytes → Value) :
    (takeBytes n bytes).map (fun (taken, rest) => (wrap taken, rest)) = some (v, rest) ↔
      ∃ taken, bytes = taken ++ rest ∧ taken.length = n ∧ v = wrap taken := by
  rw [Option.map_eq_some_iff]
  constructor
  · rintro ⟨⟨taken, left⟩, found, same⟩
    cases same
    obtain ⟨front, length⟩ := takeBytes_eq_some.1 found
    exact ⟨taken, front, length, rfl⟩
  · rintro ⟨taken, front, length, rfl⟩
    exact ⟨(taken, rest), takeBytes_eq_some.2 ⟨front, length⟩, rfl⟩

theorem readExtension_eq_some {n : Nat} : readExtension n bytes = some (v, rest) ↔
    ∃ tag taken, bytes = tag :: taken ++ rest ∧ taken.length = n ∧ v = .extension tag taken := by
  cases bytes with
  | nil =>
    constructor
    · intro none
      cases none
    · rintro ⟨tag, taken, same, -⟩
      cases same
  | cons first bytes =>
    constructor
    · intro read
      obtain ⟨taken, rfl, length, rfl⟩ := (takeBytes_map_eq_some (.extension first)).1 read
      exact ⟨first, taken, rfl, length, rfl⟩
    · rintro ⟨tag, taken, same, length, rfl⟩
      cases same
      exact (takeBytes_map_eq_some (.extension first)).2 ⟨taken, rfl, length, rfl⟩

theorem readSigned_eq_some {head : UInt8} {width : Nat} (mem : (head, width) ∈ signedHeads) :
    readSigned width bytes = some (v, rest) ↔
      ∃ z : Int, -((256 ^ width / 2 : Nat) : Int) ≤ z ∧ z < ((256 ^ width / 2 : Nat) : Int) ∧
        bytes = bigEndian width (z % (256 ^ width : Nat)).toNat ++ rest ∧ v = .int (Int64.ofInt z) := by
  have even : 256 ^ width = 2 * (256 ^ width / 2) := by
    simp only [signedHeads, List.mem_cons, Prod.mk.injEq, List.not_mem_nil, or_false] at mem
    rcases mem with ⟨-, rfl⟩ | ⟨-, rfl⟩ | ⟨-, rfl⟩ | ⟨-, rfl⟩ <;> rfl
  unfold readSigned
  rw [Option.map_eq_some_iff]
  constructor
  · rintro ⟨⟨n, left⟩, found, same⟩
    obtain ⟨fits, rfl⟩ := readNat_eq_some.1 found
    cases same
    by_cases small : n < 256 ^ width / 2
    · have written := twosComplement (256 ^ width / 2) (z := n) (by omega) (by omega)
      rw [← even, if_pos (by omega)] at written
      refine ⟨n, by omega, by omega, ?_, ?_⟩
      · rw [Int.ofNat_inj.1 written]
      · exact congrArg (fun z => Value.int (Int64.ofInt z)) (if_pos small)
    · have written := twosComplement (256 ^ width / 2) (z := (n : Int) - (256 ^ width : Nat))
        (by omega) (by omega)
      rw [← even, if_neg (by omega), Int.sub_add_cancel] at written
      refine ⟨(n : Int) - (256 ^ width : Nat), by omega, by omega, ?_, ?_⟩
      · rw [Int.ofNat_inj.1 written]
      · exact congrArg (fun z => Value.int (Int64.ofInt z)) (if_neg small)
  · rintro ⟨z, low, high, rfl, rfl⟩
    have written := twosComplement _ low high
    rw [← even] at written
    -- only the number that is written matters from here on
    generalize (z % (256 ^ width : Nat)).toNat = n at written ⊢
    refine ⟨(n, rest), readNat_eq_some.2 ⟨?_, rfl⟩, ?_⟩
    · split at written <;> omega
    · have back : (if n < 256 ^ width / 2 then (n : Int) else (n : Int) - (256 ^ width : Nat)) = z := by
        split at written <;> split <;> omega
      exact congrArg (fun z => (Value.int (Int64.ofInt z), rest)) back

/-! The reader against the forms. -/

theorem hold_short (heads : Heads) {n : Nat} (low : heads.base ≤ n) (high : n < heads.base + heads.bound) :
    heads.Hold (n - heads.base) [UInt8.ofNat n] := by
  have short : heads.Hold (n - heads.base) [UInt8.ofNat (heads.base + (n - heads.base))] := .short (by omega)
  rwa [Nat.add_sub_cancel' low] at short

theorem opened_of_text {n : Nat} {head tail : Bytes} (hold : textHeads.Hold n head)
    (same : bytes = head ++ tail) (read : readText n tail = some (v, rest)) :
    Opened items entries extension bytes v rest := by
  obtain ⟨utf8, rfl, rfl, rfl⟩ := (takeBytes_map_eq_some .text).1 read
  exact .scalar (.text hold) (by rw [same, List.append_assoc])

theorem opened_of_binary {n : Nat} {head tail : Bytes} (hold : binaryHeads.Hold n head)
    (same : bytes = head ++ tail) (read : readBinary n tail = some (v, rest)) :
    Opened items entries extension bytes v rest := by
  obtain ⟨taken, rfl, rfl, rfl⟩ := (takeBytes_map_eq_some .binary).1 read
  exact .scalar (.binary hold) (by rw [same, List.append_assoc])

theorem opened_of_unsigned {head : UInt8} {width : Nat} (mem : (head, width) ∈ unsignedHeads.wide)
    (read : readUnsigned width bytes = some (v, rest)) :
    Opened items entries extension (head :: bytes) v rest := by
  obtain ⟨⟨n, left⟩, found, same⟩ := Option.map_eq_some_iff.1 read
  obtain ⟨fits, rfl⟩ := readNat_eq_some.1 found
  cases same
  exact .scalar (.unsigned (.wide mem fits)) rfl

theorem opened_of_signed {head : UInt8} {width : Nat} (mem : (head, width) ∈ signedHeads)
    (read : readSigned width bytes = some (v, rest)) :
    Opened items entries extension (head :: bytes) v rest := by
  obtain ⟨z, low, high, rfl, rfl⟩ := (readSigned_eq_some mem).1 read
  exact .scalar (.signed mem low high) rfl

theorem opened_of_wide (heads : Heads) {head : UInt8} {width : Nat} {body : Nat → Reader Value}
    (mem : (head, width) ∈ heads.wide) (read : withLength width body bytes = some (v, rest))
    (opened : ∀ {n : Nat} {front tail : Bytes}, heads.Hold n front → head :: bytes = front ++ tail →
      body n tail = some (v, rest) → Opened items entries extension (head :: bytes) v rest) :
    Opened items entries extension (head :: bytes) v rest := by
  obtain ⟨n, tail, fits, rfl, inside⟩ := withLength_eq_some.1 read
  exact opened (.wide mem fits) rfl inside

theorem opened_of_readForm (read : readForm items entries extension bytes = some (v, rest)) :
    Opened items entries extension bytes v rest := by
  cases bytes with
  | nil => cases read
  | cons head bytes =>
    obtain ⟨n, small, rfl⟩ : ∃ n, n < 256 ∧ head = UInt8.ofNat n :=
      ⟨head.toNat, head.toNat_lt, UInt8.ofNat_toNat.symm⟩
    change readBody items entries extension (UInt8.ofNat n).toNat bytes = _ at read
    rw [UInt8.toNat_ofNat_of_lt' small] at read
    unfold readBody at read
    -- the heads that hold a number themselves
    split at read
    · rename_i high
      cases read
      exact .scalar (.unsigned (hold_short unsignedHeads (Nat.zero_le n) (by simpa [unsignedHeads] using high))) rfl
    split at read
    · rename_i low high
      exact .map (hold_short mapHeads (Nat.le_of_not_lt low) high) rfl read
    split at read
    · rename_i low high
      exact .list (hold_short listHeads (Nat.le_of_not_lt low) high) rfl read
    split at read
    · rename_i low high
      exact opened_of_text (hold_short textHeads (Nat.le_of_not_lt low) high) rfl read
    split at read
    · rename_i low
      cases read
      have negative := Scalar.negative (z := (n : Int) - 0x100) (by omega) (by omega)
      rw [Int.sub_add_cancel] at negative
      exact .scalar negative rfl
    -- the others, from C0 to DF
    split at read
    · cases read
      exact .scalar .nil rfl
    · cases read
      exact .scalar .no rfl
    · cases read
      exact .scalar .yes rfl
    · exact opened_of_wide binaryHeads (by decide) read opened_of_binary
    · exact opened_of_wide binaryHeads (by decide) read opened_of_binary
    · exact opened_of_wide binaryHeads (by decide) read opened_of_binary
    · exact opened_of_wide extensionHeads (by decide) read fun hold => .extension (.counted hold)
    · exact opened_of_wide extensionHeads (by decide) read fun hold => .extension (.counted hold)
    · exact opened_of_wide extensionHeads (by decide) read fun hold => .extension (.counted hold)
    · obtain ⟨⟨bits, left⟩, found, same⟩ := Option.map_eq_some_iff.1 read
      obtain ⟨fits, rfl⟩ := readNat_eq_some.1 found
      cases same
      refine .scalar (.float32 _) ?_
      rw [UInt32.toNat_ofNat_of_lt' fits]
      rfl
    · obtain ⟨⟨bits, left⟩, found, same⟩ := Option.map_eq_some_iff.1 read
      obtain ⟨fits, rfl⟩ := readNat_eq_some.1 found
      cases same
      refine .scalar (.float64 _) ?_
      rw [UInt64.toNat_ofNat_of_lt' fits]
      rfl
    · exact opened_of_unsigned (by decide) read
    · exact opened_of_unsigned (by decide) read
    · exact opened_of_unsigned (by decide) read
    · exact opened_of_unsigned (by decide) read
    · exact opened_of_signed (by decide) read
    · exact opened_of_signed (by decide) read
    · exact opened_of_signed (by decide) read
    · exact opened_of_signed (by decide) read
    · exact .extension (.fixed (by decide)) rfl read
    · exact .extension (.fixed (by decide)) rfl read
    · exact .extension (.fixed (by decide)) rfl read
    · exact .extension (.fixed (by decide)) rfl read
    · exact .extension (.fixed (by decide)) rfl read
    · exact opened_of_wide textHeads (by decide) read opened_of_text
    · exact opened_of_wide textHeads (by decide) read opened_of_text
    · exact opened_of_wide textHeads (by decide) read opened_of_text
    · exact opened_of_wide listHeads (by decide) read .list
    · exact opened_of_wide listHeads (by decide) read .list
    · exact opened_of_wide mapHeads (by decide) read .map
    · exact opened_of_wide mapHeads (by decide) read .map
    · cases read

theorem readForm_scalar {front : Bytes} (scalar : Scalar v front) :
    readForm items entries extension (front ++ rest) = some (v, rest) := by
  cases scalar with
  | nil => rfl
  | no => rfl
  | yes => rfl
  | unsigned hold => exact readForm_unsigned hold
  | @negative z low high =>
    show readBody items entries extension (UInt8.ofNat (z + 0x100).toNat).toNat rest = _
    rw [UInt8.toNat_ofNat_of_lt' (show (z + 0x100).toNat < 256 by omega)]
    unfold readBody
    rw [if_neg (by omega), if_neg (by omega), if_neg (by omega), if_neg (by omega), if_pos (by omega)]
    rw [Int.toNat_of_nonneg (by omega), Int.add_sub_cancel]
  | @signed z head width mem low high =>
    have read : readSigned width (bigEndian width (z % (256 ^ width : Nat)).toNat ++ rest) =
        some (.int (Int64.ofInt z), rest) := (readSigned_eq_some mem).2 ⟨z, low, high, rfl, rfl⟩
    simp only [signedHeads, List.mem_cons, Prod.mk.injEq, List.not_mem_nil, or_false] at mem
    rcases mem with ⟨rfl, rfl⟩ | ⟨rfl, rfl⟩ | ⟨rfl, rfl⟩ | ⟨rfl, rfl⟩
    all_goals exact read
  | float32 bits =>
    have read : readNat 4 (bigEndian 4 bits.toNat ++ rest) = some (bits.toNat, rest) :=
      readNat_eq_some.2 ⟨bits.toNat_lt, rfl⟩
    show (readNat 4 (bigEndian 4 bits.toNat ++ rest)).map
      (fun left => (Value.float32 (UInt32.ofNat left.1), left.2)) = _
    rw [read]
    exact congrArg (fun bits => some (Value.float32 bits, rest)) UInt32.ofNat_toNat
  | float64 bits =>
    have read : readNat 8 (bigEndian 8 bits.toNat ++ rest) = some (bits.toNat, rest) :=
      readNat_eq_some.2 ⟨bits.toNat_lt, rfl⟩
    show (readNat 8 (bigEndian 8 bits.toNat ++ rest)).map
      (fun left => (Value.float64 (UInt64.ofNat left.1), left.2)) = _
    rw [read]
    exact congrArg (fun bits => some (Value.float64 bits, rest)) UInt64.ofNat_toNat
  | @text utf8 head hold =>
    rw [List.append_assoc, readForm_text hold]
    exact (takeBytes_map_eq_some .text).2 ⟨utf8, rfl, rfl, rfl⟩
  | @binary taken head hold =>
    rw [List.append_assoc, readForm_binary hold]
    exact (takeBytes_map_eq_some .binary).2 ⟨taken, rfl, rfl, rfl⟩

end Form

theorem readValue_zero (bytes : Bytes) :
    readValue 0 bytes = readForm (fun _ _ => none) (fun _ _ => none) (fun _ _ => none) bytes := by
  cases bytes <;> rfl

theorem readValue_succ (depth : Nat) (bytes : Bytes) :
    readValue (depth + 1) bytes = readForm
      (fun n bytes => (readMany (readValue depth) n bytes).map fun (vs, rest) => (.list vs, rest))
      (fun n bytes => (readMany (readPair (readValue depth)) n bytes).map fun (es, rest) => (.map es, rest))
      readExtension bytes := by
  cases bytes <;> rfl

/-- The reader takes off a form of the value, and takes off every form that stands at the front. -/
theorem readValue_exact (depth : Nat) : Exact (readValue depth) (Spells depth) := by
  induction depth with
  | zero =>
    intro bytes v rest
    rw [readValue_zero]
    constructor
    · intro read
      cases opened_of_readForm read with
      | scalar scalar same => exact ⟨_, same, scalar⟩
      | list _ _ none => cases none
      | map _ _ none => cases none
      | extension _ _ none => cases none
    · rintro ⟨front, rfl, scalar⟩
      exact readForm_scalar scalar
  | succ depth ih =>
    intro bytes v rest
    rw [readValue_succ]
    constructor
    · intro read
      cases opened_of_readForm read with
      | scalar scalar same => exact ⟨_, same, .inl scalar⟩
      | @list n head tail hold same inside =>
        obtain ⟨⟨vs, left⟩, found, both⟩ := Option.map_eq_some_iff.1 inside
        cases both
        obtain ⟨body, rfl, rfl, row⟩ := (readMany_exact ih n tail vs rest).1 found
        exact ⟨head ++ body, by rw [same, List.append_assoc], .inr (.list hold row)⟩
      | @map n head tail hold same inside =>
        obtain ⟨⟨es, left⟩, found, both⟩ := Option.map_eq_some_iff.1 inside
        cases both
        obtain ⟨body, rfl, rfl, row⟩ := (readMany_exact (readPair_exact ih) n tail es rest).1 found
        exact ⟨head ++ body, by rw [same, List.append_assoc], .inr (.map hold row)⟩
      | @extension n head tail opens same inside =>
        obtain ⟨tag, taken, rfl, rfl, rfl⟩ := readExtension_eq_some.1 inside
        exact ⟨head ++ tag :: taken, by rw [same, List.append_assoc], .inr (.extension opens)⟩
    · rintro ⟨front, rfl, scalar | container⟩
      · exact readForm_scalar scalar
      · cases container with
        | @list vs head body hold row =>
          have found := (readMany_exact ih vs.length (body ++ rest) vs rest).2 ⟨body, rfl, rfl, row⟩
          rw [List.append_assoc, readForm_list hold]
          exact Option.map_eq_some_iff.2 ⟨(vs, rest), found, rfl⟩
        | @map es head body hold row =>
          have found := (readMany_exact (readPair_exact ih) es.length (body ++ rest) es rest).2
            ⟨body, rfl, rfl, row⟩
          rw [List.append_assoc, readForm_map hold]
          exact Option.map_eq_some_iff.2 ⟨(es, rest), found, rfl⟩
        | @extension tag taken head opens =>
          rw [List.append_assoc, readForm_extension opens]
          exact readExtension_eq_some.2 ⟨tag, taken, rfl, rfl, rfl⟩

theorem read?_eq_some {bytes : Bytes} {v : Value} :
    Value.read? bytes = some v ↔ ∃ front rest, bytes = front ++ rest ∧ Spells nestingLimit v front := by
  unfold Value.read?
  rw [Option.map_eq_some_iff]
  constructor
  · rintro ⟨⟨v, rest⟩, read, rfl⟩
    obtain ⟨front, same, spells⟩ := (readValue_exact nestingLimit bytes v rest).1 read
    exact ⟨front, rest, same, spells⟩
  · rintro ⟨front, rest, same, spells⟩
    exact ⟨(v, rest), (readValue_exact nestingLimit bytes v rest).2 ⟨front, same, spells⟩, rfl⟩

end Steward.Wire
