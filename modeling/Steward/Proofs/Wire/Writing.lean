import Steward.Proofs.Wire.Grammar

/-!
The writer against the forms: what it writes for a value is one of its forms, so the reader gives the
value back, from whatever begins with it and from nothing shorter.
-/
namespace Steward.Wire

inductive Value.Short : Value → Prop where
  | nil : Short .nil
  | bool (b : Bool) : Short (.bool b)
  | uint (n : UInt64) : Short (.uint n)
  | int (n : Int64) : Short (.int n)
  | float32 (bits : UInt32) : Short (.float32 bits)
  | float64 (bits : UInt64) : Short (.float64 bits)
  | text {utf8 : Bytes} : utf8.length < 2 ^ 32 → Short (.text utf8)
  | binary {bytes : Bytes} : bytes.length < 2 ^ 32 → Short (.binary bytes)
  | list {items : List Value} : items.length < 2 ^ 32 → (∀ v ∈ items, v.Short) → Short (.list items)
  | map {entries : List (Value × Value)} : entries.length < 2 ^ 32 →
      (∀ entry ∈ entries, entry.1.Short) → (∀ entry ∈ entries, entry.2.Short) → Short (.map entries)
  | extension {tag : UInt8} {bytes : Bytes} : bytes.length < 2 ^ 32 → Short (.extension tag bytes)

theorem short_list {items : List Value} :
    (Value.list items).Short ↔ items.length < 2 ^ 32 ∧ ∀ v ∈ items, v.Short :=
  ⟨fun | .list fits each => ⟨fits, each⟩, fun ⟨fits, each⟩ => .list fits each⟩

theorem short_map {entries : List (Value × Value)} : (Value.map entries).Short ↔
    entries.length < 2 ^ 32 ∧ ∀ entry ∈ entries, entry.1.Short ∧ entry.2.Short := by
  constructor
  · intro short
    cases short with
    | map fits keys values => exact ⟨fits, fun entry mem => ⟨keys entry mem, values entry mem⟩⟩
  · rintro ⟨fits, each⟩
    exact .map fits (fun entry mem => (each entry mem).1) fun entry mem => (each entry mem).2

/-- A value as the writer's forms have it: signed only where it is negative, and with at most `depth`
levels of lists, maps and extensions. -/
inductive Value.Plain : Nat → Value → Prop where
  | nil {depth : Nat} : Plain depth .nil
  | bool {depth : Nat} (b : Bool) : Plain depth (.bool b)
  | uint {depth : Nat} (n : UInt64) : Plain depth (.uint n)
  | int {depth : Nat} {n : Int64} : n.toInt < 0 → Plain depth (.int n)
  | float32 {depth : Nat} (bits : UInt32) : Plain depth (.float32 bits)
  | float64 {depth : Nat} (bits : UInt64) : Plain depth (.float64 bits)
  | text {depth : Nat} (utf8 : Bytes) : Plain depth (.text utf8)
  | binary {depth : Nat} (bytes : Bytes) : Plain depth (.binary bytes)
  | list {depth : Nat} {items : List Value} : (∀ v ∈ items, v.Plain depth) → Plain (depth + 1) (.list items)
  | map {depth : Nat} {entries : List (Value × Value)} :
      (∀ entry ∈ entries, entry.1.Plain depth) → (∀ entry ∈ entries, entry.2.Plain depth) →
      Plain (depth + 1) (.map entries)
  | extension {depth : Nat} (tag : UInt8) (bytes : Bytes) : Plain (depth + 1) (.extension tag bytes)

/-! The heads that are written. -/

theorem hold_writeUInt {n : Nat} (fits : n < 2 ^ 64) : unsignedHeads.Hold n (writeUInt n) := by
  unfold writeUInt
  split
  · rename_i small
    have short : unsignedHeads.Hold n [UInt8.ofNat (unsignedHeads.base + n)] := .short small
    rwa [show unsignedHeads.base + n = n from Nat.zero_add n] at short
  split
  · exact .wide (by decide) (by omega)
  split
  · exact .wide (by decide) (by omega)
  split
  · exact .wide (by decide) (by omega)
  · exact .wide (by decide) (by omega)

theorem hold_textHead {n : Nat} (fits : n < 2 ^ 32) : textHeads.Hold n (textHead n) := by
  unfold textHead
  split
  · exact Heads.Hold.short (by assumption)
  split
  · exact .wide (by decide) (by omega)
  split
  · exact .wide (by decide) (by omega)
  · exact .wide (by decide) (by omega)

theorem hold_binaryHead {n : Nat} (fits : n < 2 ^ 32) : binaryHeads.Hold n (binaryHead n) := by
  unfold binaryHead
  split
  · exact .wide (by decide) (by omega)
  split
  · exact .wide (by decide) (by omega)
  · exact .wide (by decide) (by omega)

theorem hold_listHead {n : Nat} (fits : n < 2 ^ 32) : listHeads.Hold n (listHead n) := by
  unfold listHead
  split
  · exact Heads.Hold.short (by assumption)
  split
  · exact .wide (by decide) (by omega)
  · exact .wide (by decide) (by omega)

theorem hold_mapHead {n : Nat} (fits : n < 2 ^ 32) : mapHeads.Hold n (mapHead n) := by
  unfold mapHead
  split
  · exact Heads.Hold.short (by assumption)
  split
  · exact .wide (by decide) (by omega)
  · exact .wide (by decide) (by omega)

theorem opens_extensionHead {n : Nat} (fits : n < 2 ^ 32) : ExtensionHead n (extensionHead n) := by
  unfold extensionHead
  split
  · subst n
    exact .fixed (by decide)
  split
  · subst n
    exact .fixed (by decide)
  split
  · subst n
    exact .fixed (by decide)
  split
  · subst n
    exact .fixed (by decide)
  split
  · subst n
    exact .fixed (by decide)
  split
  · exact .counted (.wide (by decide) (by omega))
  split
  · exact .counted (.wide (by decide) (by omega))
  · exact .counted (.wide (by decide) (by omega))

theorem scalar_writeInt {z : Int} (low : -0x8000000000000000 ≤ z) (negative : z < 0) :
    Scalar (.int (Int64.ofInt z)) (writeInt z) := by
  -- the shift by a whole turn is the remainder that the form is written with
  have turned : ∀ width : Nat, -((256 ^ width : Nat) : Int) ≤ z →
      (z + (256 ^ width : Nat)).toNat = (z % (256 ^ width : Nat)).toNat := by
    intro width above
    rw [Int.emod_eq_add_self_emod, Int.emod_eq_of_lt (by omega) (by omega)]
  unfold writeInt
  rw [if_neg (by omega)]
  split
  · exact .negative (by assumption) negative
  split
  · have form := turned 1 (by omega)
    exact form ▸ @Scalar.signed z _ 1 (by decide) (by omega) (by omega)
  split
  · have form := turned 2 (by omega)
    exact form ▸ @Scalar.signed z _ 2 (by decide) (by omega) (by omega)
  split
  · have form := turned 4 (by omega)
    exact form ▸ @Scalar.signed z _ 4 (by decide) (by omega) (by omega)
  · have form := turned 8 (by omega)
    exact form ▸ @Scalar.signed z _ 8 (by decide) (by omega) (by omega)

/-! The values that are written. -/

theorem row_writeItems {spells : Value → Bytes → Prop} {items : List Value}
    (each : ∀ v ∈ items, spells v v.write) : Row spells items (writeItems items) := by
  induction items with
  | nil => exact .nil
  | cons v items ih =>
    exact .cons (each v List.mem_cons_self) (ih fun w mem => each w (List.mem_cons_of_mem _ mem))

theorem row_writeEntries {spells : Value → Bytes → Prop} {entries : List (Value × Value)}
    (each : ∀ entry ∈ entries, spells entry.1 entry.1.write ∧ spells entry.2 entry.2.write) :
    Row (SpellsPair spells) entries (writeEntries entries) := by
  induction entries with
  | nil => exact .nil
  | cons entry entries ih =>
    have here := each entry List.mem_cons_self
    exact .cons ⟨_, _, rfl, here⟩ (ih fun other mem => each other (List.mem_cons_of_mem _ mem))

theorem spells_of_scalar {depth : Nat} {v : Value} {bytes : Bytes} (scalar : Scalar v bytes) :
    Spells depth v bytes := by
  cases depth with
  | zero => exact scalar
  | succ depth => exact .inl scalar

theorem spells_write {depth : Nat} {v : Value} (plain : v.Plain depth) (short : v.Short) :
    Spells depth v v.write := by
  induction plain with
  | nil => exact spells_of_scalar .nil
  | bool b =>
    cases b with
    | false => exact spells_of_scalar .no
    | true => exact spells_of_scalar .yes
  | uint n =>
    have form := Scalar.unsigned (hold_writeUInt n.toNat_lt)
    rw [UInt64.ofNat_toNat] at form
    exact spells_of_scalar form
  | @int depth n negative =>
    have form := scalar_writeInt n.minValue_le_toInt negative
    rw [Int64.ofInt_toInt] at form
    exact spells_of_scalar form
  | float32 bits => exact spells_of_scalar (.float32 bits)
  | float64 bits => exact spells_of_scalar (.float64 bits)
  | text utf8 =>
    cases short with
    | text fits => exact spells_of_scalar (.text (hold_textHead fits))
  | binary bytes =>
    cases short with
    | binary fits => exact spells_of_scalar (.binary (hold_binaryHead fits))
  | list _ ih =>
    cases short with
    | list fits each =>
      exact .inr (.list (hold_listHead fits) (row_writeItems fun v mem => ih v mem (each v mem)))
  | map _ _ keys values =>
    cases short with
    | map fits shortKeys shortValues =>
      refine .inr (.map (hold_mapHead fits) (row_writeEntries fun entry mem => ⟨?_, ?_⟩))
      · exact keys entry mem (shortKeys entry mem)
      · exact values entry mem (shortValues entry mem)
  | extension tag bytes =>
    cases short with
    | extension fits => exact .inr (.extension (opens_extensionHead fits))

/-! Reading what is written. -/

theorem read?_write_append {v : Value} (plain : v.Plain nestingLimit) (short : v.Short) (rest : Bytes) :
    Value.read? (v.write ++ rest) = some v :=
  read?_eq_some.2 ⟨v.write, rest, rfl, spells_write plain short⟩

/-- What is cut short of a form is not read. -/
theorem read?_eq_none_of_cut {v : Value} (plain : v.Plain nestingLimit) (short : v.Short) {front missing : Bytes}
    (cut : missing ≠ []) (same : v.write = front ++ missing) : Value.read? front = none := by
  refine Option.eq_none_iff_forall_ne_some.2 fun other read => cut ?_
  obtain ⟨form, rest, rfl, spells⟩ := read?_eq_some.1 read
  have early := (readValue_exact nestingLimit v.write other (rest ++ missing)).2
    ⟨form, by rw [same, List.append_assoc], spells⟩
  have whole := (readValue_exact nestingLimit v.write v []).2
    ⟨v.write, (List.append_nil _).symm, spells_write plain short⟩
  rw [whole] at early
  obtain ⟨-, none⟩ := Prod.mk.inj (Option.some.inj early)
  exact (List.append_eq_nil_iff.1 none.symm).2

end Steward.Wire
