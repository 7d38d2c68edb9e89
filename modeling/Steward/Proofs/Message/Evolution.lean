import Mathlib.Logic.Relation
import Steward.Proofs.Message.Layout

/-!
Messages whose fields come in another order, under other names, with unknown ones between them or with
defaults written out. What is read stays the same, and a field that is given twice is refused.
-/
namespace Steward.Message

open Steward.Schedule Steward.Wire

def TextKeys (entries : List (Value × Value)) : Prop := ∀ entry ∈ entries, ∃ key, entry.1 = .text key

def Column.IsDefault (c : Column α depth) (v : Value) : Prop := ∃ part, c.absent = some part ∧ c.read v = some part

inductive Layout.Change [Sendable α] (layout : Layout α depth) :
    List (Value × Value) → List (Value × Value) → Prop where
  | reordered {entries entries' : List (Value × Value)} : entries.Perm entries' → Change layout entries entries'
  | inserted {key : Bytes} (v : Value) (front back : List (Value × Value)) :
      (∀ c ∈ layout.columns, ∀ name ∈ c.field.names, Text.utf8 name ≠ key) →
      Change layout (front ++ back) (front ++ (.text key, v) :: back)
  | renamed {c : Column α depth} {name other : String} (v : Value) (front back : List (Value × Value)) :
      c ∈ layout.columns → name ∈ c.field.names → other ∈ c.field.names →
      Change layout (front ++ (.ofText name, v) :: back) (front ++ (.ofText other, v) :: back)
  | dropped {c : Column α depth} {name : String} {v : Value} (front back : List (Value × Value)) :
      c ∈ layout.columns → name ∈ c.field.names → c.IsDefault v →
      Change layout (front ++ (.ofText name, v) :: back) (front ++ back)
  | added {c : Column α depth} {name : String} {v : Value} (front back : List (Value × Value)) :
      c ∈ layout.columns → name ∈ c.field.names → c.IsDefault v →
      (∀ other ∈ c.field.names, ∀ entry ∈ front ++ back, entry.1 ≠ .ofText other) →
      Change layout (front ++ back) (front ++ (.ofText name, v) :: back)

/-! Text keys. -/

theorem placed_of_textKeys {fields : List Field} {entries : List (Value × Value)} (texts : TextKeys entries) :
    Placed fields entries := by
  intro entry mem
  obtain ⟨key, same⟩ := texts entry mem
  rw [same]
  rfl

theorem textKeys_between {key : Bytes} {v : Value} {front back : List (Value × Value)} :
    TextKeys (front ++ (.text key, v) :: back) ↔ TextKeys (front ++ back) := by
  unfold TextKeys
  rw [List.forall_mem_append, List.forall_mem_append, List.forall_mem_cons]
  constructor
  · rintro ⟨before, -, behind⟩
    exact ⟨before, behind⟩
  · rintro ⟨before, behind⟩
    exact ⟨before, ⟨key, rfl⟩, behind⟩

theorem Layout.Change.textKeys [Sendable α] {layout : Layout α depth} {entries entries' : List (Value × Value)}
    (change : layout.Change entries entries') (texts : TextKeys entries) : TextKeys entries' := by
  cases change with
  | reordered perm => exact fun entry mem => texts entry (perm.mem_iff.2 mem)
  | inserted => exact textKeys_between.2 texts
  | renamed => exact textKeys_between.2 (textKeys_between.1 texts)
  | dropped => exact textKeys_between.1 texts
  | added => exact textKeys_between.2 texts

/-! What a map holds for each field. -/

section Reading
variable {α : Type} {depth : Nat} [Sendable α] (layout : Layout α depth) {entries entries' : List (Value × Value)} {a : α}

theorem single_of_read (read : ofValue? (.map entries) = some a) (i : Nat) :
    (held (fieldsOf layout.columns) entries i).length ≤ 1 := by
  rw [layout.reads] at read
  obtain ⟨s, slots, -⟩ := Option.bind_eq_some_iff.1 read
  obtain ⟨-, -, same⟩ := slotsOf?_map.1 slots
  rw [← same]
  exact Option.length_toList_le

theorem ofValue?_map (texts : TextKeys entries)
    (single : ∀ i, (held (fieldsOf layout.columns) entries i).length ≤ 1) :
    ∃ s : Slots, (∀ i, s.get? i = (held (fieldsOf layout.columns) entries i).head?) ∧
      ofValue? (.map entries) = assemble s 0 layout.columns layout.make := by
  obtain ⟨s, slots, same⟩ := exists_slotsOf?_map (placed_of_textKeys texts) single
  refine ⟨s, same, ?_⟩
  rw [layout.reads, slots, Option.bind_some]

theorem exists_place {layout : Layout α depth} {c : Column α depth} (listed : c ∈ layout.columns) :
    ∃ i, layout.columns[i]? = some c ∧
      ∀ name ∈ c.field.names, placeOf? (fieldsOf layout.columns) (.ofText name) = some (.known i) := by
  obtain ⟨i, here⟩ := List.mem_iff_getElem?.1 listed
  refine ⟨i, here, fun name mem => placeOf?_name layout.distinct ?_ mem⟩
  rw [fieldsOf, List.getElem?_map, here]
  rfl

theorem held_between {fields : List Field} {key v : Value} {front back : List (Value × Value)} {i : Nat}
    (place : placeOf? fields key = some (.known i)) (j : Nat) :
    held fields (front ++ (key, v) :: back) j =
      held fields front j ++ ((if j = i then [v] else []) ++ held fields back j) := by
  rw [held_append, held_cons_known place]

theorem ofValue?_congr (texts : TextKeys entries) (texts' : TextKeys entries')
    (read : ofValue? (.map entries) = some a)
    (same : ∀ i, held (fieldsOf layout.columns) entries' i = held (fieldsOf layout.columns) entries i ∨
      (held (fieldsOf layout.columns) entries' i).length ≤ 1 ∧ ∀ c, layout.columns[i]? = some c →
        c.part? (held (fieldsOf layout.columns) entries' i).head? =
          c.part? (held (fieldsOf layout.columns) entries i).head?) :
    ofValue? (.map entries') = some a := by
  have single := single_of_read layout read
  have single' : ∀ i, (held (fieldsOf layout.columns) entries' i).length ≤ 1 := by
    intro i
    rcases same i with eq | ⟨one, -⟩
    · rw [eq]
      exact single i
    · exact one
  obtain ⟨s, slots, from_⟩ := ofValue?_map layout texts single
  obtain ⟨s', slots', from'⟩ := ofValue?_map layout texts' single'
  rw [← read, from_, from']
  refine assemble_congr layout.make fun i c here => ?_
  rw [Nat.zero_add, slots, slots']
  rcases same i with eq | ⟨-, part⟩
  · rw [eq]
  · exact part c here

theorem held_of_missing {layout : Layout α depth} {c : Column α depth} {i : Nat} (here : layout.columns[i]? = some c)
    (texts : TextKeys entries) (missing : ∀ name ∈ c.field.names, ∀ entry ∈ entries, entry.1 ≠ .ofText name) :
    held (fieldsOf layout.columns) entries i = [] := by
  refine List.filterMap_eq_nil_iff.2 fun entry mem => if_neg fun place => ?_
  obtain ⟨key, same⟩ := texts entry mem
  rw [same] at place
  obtain ⟨f, there, name, listed, rfl⟩ := name_of_placeOf? place
  rw [fieldsOf, List.getElem?_map, here] at there
  cases there
  exact missing name listed entry mem same

theorem eq_of_perm_of_length_le_one {values values' : List Value} (perm : values.Perm values')
    (single : values.length ≤ 1) : values' = values := by
  match values, single with
  | [], _ => exact perm.nil_eq.symm
  | [v], _ => exact (List.singleton_perm.1 perm).symm
  | _ :: _ :: _, two => exact absurd two (by simp)

/-- One change keeps what is read. -/
theorem read_of_change {layout : Layout α depth} (change : layout.Change entries entries') (texts : TextKeys entries)
    (read : ofValue? (.map entries) = some a) : ofValue? (.map entries') = some a := by
  have texts' := change.textKeys texts
  have single := single_of_read layout read
  cases change with
  | reordered perm =>
    exact ofValue?_congr layout texts texts' read fun i => .inl (eq_of_perm_of_length_le_one (perm.filterMap _) (single i))
  | @inserted key v front back none =>
    refine ofValue?_congr layout texts texts' read fun i => .inl ?_
    have unknown : placeOf? (fieldsOf layout.columns) (.text key) = some .unknown :=
      placeOf?_unknown (List.forall_mem_map.2 none)
    rw [held_append, held_append, held_cons_unknown unknown]
  | renamed v front back listed mem mem' =>
    obtain ⟨i, -, places⟩ := exists_place listed
    refine ofValue?_congr layout texts texts' read fun j => .inl ?_
    rw [held_between (places _ mem), held_between (places _ mem')]
  | @dropped c name v front back listed mem default =>
    obtain ⟨i, here, places⟩ := exists_place listed
    refine ofValue?_congr layout texts texts' read fun j => ?_
    have one := single j
    rw [held_between (places name mem)] at one ⊢
    by_cases same : j = i
    · -- no other entry stands for the field
      right
      subst same
      rw [if_pos rfl, List.length_append, List.length_append, List.length_singleton] at one
      have before : held (fieldsOf layout.columns) front j = [] := List.length_eq_zero_iff.1 (by omega)
      have behind : held (fieldsOf layout.columns) back j = [] := List.length_eq_zero_iff.1 (by omega)
      rw [held_append, before, behind, if_pos rfl]
      refine ⟨Nat.zero_le 1, fun d there => ?_⟩
      obtain rfl : c = d := Option.some.inj (here.symm.trans there)
      obtain ⟨part, absent, reads⟩ := default
      exact absent.trans reads.symm
    · left
      rw [held_append, if_neg same, List.nil_append]
  | @added c name v front back listed mem default missing =>
    obtain ⟨i, here, places⟩ := exists_place listed
    refine ofValue?_congr layout texts texts' read fun j => ?_
    rw [held_between (places name mem), held_append]
    by_cases same : j = i
    · -- the field had no entry before
      right
      subst same
      have none : held (fieldsOf layout.columns) (front ++ back) j = [] := held_of_missing here texts missing
      rw [held_append, List.append_eq_nil_iff] at none
      rw [none.1, none.2, if_pos rfl]
      refine ⟨Nat.le_refl 1, fun d there => ?_⟩
      obtain rfl : c = d := Option.some.inj (here.symm.trans there)
      obtain ⟨part, absent, reads⟩ := default
      exact reads.trans absent.symm
    · left
      rw [if_neg same, List.nil_append]

theorem read_of_changes {layout : Layout α depth} (changes : Relation.ReflTransGen layout.Change entries entries')
    (texts : TextKeys entries) (read : ofValue? (.map entries) = some a) : ofValue? (.map entries') = some a := by
  have both : TextKeys entries' ∧ ofValue? (.map entries') = some a := by
    induction changes with
    | refl => exact ⟨texts, read⟩
    | tail _ change ih => exact ⟨change.textKeys ih.1, read_of_change change ih.1 ih.2⟩
  exact both.2

theorem not_read_of_twice {c : Column α depth} (listed : c ∈ layout.columns) {name other : String}
    (mem : name ∈ c.field.names) (mem' : other ∈ c.field.names) (v w : Value)
    (front middle back : List (Value × Value)) :
    (ofValue? (.map (front ++ (.ofText name, v) :: (middle ++ (.ofText other, w) :: back))) : Option α) = none := by
  obtain ⟨i, -, places⟩ := exists_place listed
  refine Option.eq_none_iff_forall_ne_some.2 fun a read => ?_
  have single := single_of_read layout read i
  rw [held_between (places name mem), held_between (places other mem')] at single
  simp only [if_pos, List.length_append, List.length_singleton] at single
  omega

end Reading

/-! Messages in bytes. -/

theorem decode?_of_spells [Sendable α] {v : Value} {bytes : Bytes} (spells : Spells nestingLimit v bytes)
    (rest : Bytes) : (decode? (bytes ++ rest) : Option α) = ofValue? v := by
  unfold decode?
  rw [read?_eq_some.2 ⟨bytes, rest, rfl, spells⟩]
  rfl

/-- Messages may be changed as far as the layout allows, and give no field twice. -/
structure Layout.Evolves [Sendable α] (layout : Layout α depth) : Prop where
  kept : ∀ {entries entries' : List (Value × Value)} {bytes bytes' rest rest' : Bytes} {a : α},
    TextKeys entries → Spells nestingLimit (.map entries) bytes → decode? (bytes ++ rest) = some a →
    Relation.ReflTransGen layout.Change entries entries' → Spells nestingLimit (.map entries') bytes' →
    decode? (bytes' ++ rest') = some a
  refused : ∀ {c : Column α depth} {name other : String} {v w : Value} {front middle back : List (Value × Value)}
    {bytes rest : Bytes}, c ∈ layout.columns → name ∈ c.field.names → other ∈ c.field.names →
    Spells nestingLimit (.map (front ++ (.ofText name, v) :: (middle ++ (.ofText other, w) :: back))) bytes →
    (decode? (bytes ++ rest) : Option α) = none

theorem Layout.evolves [Sendable α] (layout : Layout α depth) : layout.Evolves where
  kept texts spells read changes spells' := by
    rw [decode?_of_spells spells] at read
    rw [decode?_of_spells spells']
    exact read_of_changes changes texts read
  refused listed mem mem' spells := by
    rw [decode?_of_spells spells]
    exact not_read_of_twice _ listed mem mem' ..

/-- Commands, task definitions and reply records may gain fields, and have them in any order. -/
theorem records_evolve :
    commandLayout.Evolves ∧ payloadLayout.Evolves ∧ scriptResultLayout.Evolves ∧ processLayout.Evolves ∧
    serviceLayout.Evolves ∧ serviceDetailLayout.Evolves ∧ serviceActionLayout.Evolves ∧
    eventLogLayout.Evolves ∧ softwareLayout.Evolves ∧ osUpdateLayout.Evolves :=
  ⟨commandLayout.evolves, payloadLayout.evolves, scriptResultLayout.evolves, processLayout.evolves,
    serviceLayout.evolves, serviceDetailLayout.evolves, serviceActionLayout.evolves, eventLogLayout.evolves,
    softwareLayout.evolves, osUpdateLayout.evolves⟩

def briefPing : List (Value × Value) := [(.ofText "name", .ofText "ping")]

def grownPing : List (Value × Value) :=
  [(.ofText "hint", .list [.nil, .float32 0]), (.ofText "timeout", .uint 0), (.ofText "func", .ofText "ping")]

theorem briefPing_grows : Relation.ReflTransGen commandLayout.Change briefPing grownPing := by
  have renamed : commandLayout.Change briefPing [(.ofText "func", .ofText "ping")] :=
    .renamed (.ofText "ping") [] [] (List.mem_of_getElem? (show commandLayout.columns[0]? = some _ from rfl))
      (by decide) (by decide)
  have added : commandLayout.Change [(.ofText "func", .ofText "ping")]
      [(.ofText "timeout", .uint 0), (.ofText "func", .ofText "ping")] := by
    have listed : commandColumns[1] ∈ commandLayout.columns := List.getElem_mem (by decide)
    have default : commandColumns[1].IsDefault (.uint 0) := by
      refine ⟨(0 : UInt64), rfl, ?_⟩
      exact commandColumns[1].restores.back (0 : UInt64)
    refine .added [] [(.ofText "func", .ofText "ping")] listed (List.mem_singleton.2 rfl) default ?_
    refine List.forall_mem_singleton.2 (List.forall_mem_singleton.2 fun same => ?_)
    exact absurd (Value.text.inj same) (by decide)
  have inserted : commandLayout.Change [(.ofText "timeout", .uint 0), (.ofText "func", .ofText "ping")] grownPing := by
    refine .inserted _ [] _ ?_
    show ∀ column ∈ commandColumns, _
    unfold commandColumns
    simp only [List.forall_mem_cons]
    decide
  exact .tail (.tail (.single renamed) added) inserted

theorem records_evolve_ping :
    decode? ((Value.map briefPing).write ++ [0xFF]) = some (Command.named "ping") ∧
    Relation.ReflTransGen commandLayout.Change briefPing grownPing ∧
    decode? ((Value.map grownPing).write ++ [0xC1]) = some (Command.named "ping") := by
  have texts : TextKeys briefPing := List.forall_mem_singleton.2 ⟨_, rfl⟩
  have brief : Spells nestingLimit (.map briefPing) (Value.map briefPing).write := by
    have plain : (Value.map briefPing).Plain 1 :=
      .map (List.forall_mem_singleton.2 (.text _)) (List.forall_mem_singleton.2 (.text _))
    refine spells_write (plain_mono plain (by decide)) (short_map.2 ⟨by decide, ?_⟩)
    exact List.forall_mem_singleton.2 ⟨.text (by decide), .text (by decide)⟩
  have grown : Spells nestingLimit (.map grownPing) (Value.map grownPing).write := by
    have inner : (Value.list [.nil, .float32 0]).Plain 1 := by
      refine .list (List.forall_mem_cons.2 ⟨.nil, List.forall_mem_singleton.2 (.float32 0)⟩)
    have plain : (Value.map grownPing).Plain 2 := by
      refine .map ?_ ?_
      · simp only [grownPing, List.forall_mem_cons]
        exact ⟨.text _, .text _, .text _, nofun⟩
      · simp only [grownPing, List.forall_mem_cons]
        exact ⟨inner, .uint 0, .text _, nofun⟩
    refine spells_write (plain_mono plain (by decide)) (short_map.2 ⟨by decide, ?_⟩)
    simp only [grownPing, List.forall_mem_cons]
    refine ⟨⟨.text (by decide), short_list.2 ⟨by decide, ?_⟩⟩, ⟨.text (by decide), .uint 0⟩,
      ⟨.text (by decide), .text (by decide)⟩, nofun⟩
    exact List.forall_mem_cons.2 ⟨.nil, List.forall_mem_singleton.2 (.float32 0)⟩
  have read : decode? ((Value.map briefPing).write ++ [0xFF]) = some (Command.named "ping") := by
    rw [decode?_of_spells brief]
    rfl
  exact ⟨read, briefPing_grows, records_evolve.1.kept texts brief read briefPing_grows grown⟩

end Steward.Message
