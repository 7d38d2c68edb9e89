import Steward.Proofs.Text.Utf8
import Steward.Wire.Record

/-!
Records and the maps they are read from. A slot is filled exactly if one entry of the map stands for its
field, whatever the order of the entries and whatever else the map holds.
-/
namespace Steward.Wire

open Steward.Text

/-! Names and places. -/

def Field.names (f : Field) : List String := f.name :: f.aliases

def Distinct (fields : List Field) : Prop := (fields.flatMap Field.names).Nodup

instance (fields : List Field) : Decidable (Distinct fields) := inferInstanceAs (Decidable (List.Nodup _))

theorem answersTo_iff {f : Field} {key : Bytes} : f.answersTo key = true ↔ ∃ name ∈ f.names, utf8 name = key := by
  simp [Field.answersTo, Field.names]

theorem placeOf?_name {fields : List Field} (distinct : Distinct fields) {i : Nat} {f : Field}
    (here : fields[i]? = some f) {name : String} (mem : name ∈ f.names) :
    placeOf? fields (.ofText name) = some (.known i) := by
  obtain ⟨inside, rfl⟩ := List.getElem?_eq_some_iff.1 here
  have found : fields.findIdx? (·.answersTo (utf8 name)) = some i := by
    refine List.findIdx?_eq_some_iff_getElem.2 ⟨inside, answersTo_iff.2 ⟨name, mem, rfl⟩, fun j before => ?_⟩
    intro answers
    obtain ⟨other, listed, same⟩ := answersTo_iff.1 answers
    have apart := List.pairwise_iff_getElem.1 (List.pairwise_flatMap.1 distinct).2 j i
      (Nat.lt_trans before inside) inside before
    exact apart other listed name mem (utf8_inj.1 same)
  show some (KeyPlace.ofPosition? (fields.findIdx? (·.answersTo (utf8 name)))) = _
  rw [found]
  rfl

theorem placeOf?_unknown {fields : List Field} {key : Bytes} (none : ∀ f ∈ fields, ∀ name ∈ f.names, utf8 name ≠ key) :
    placeOf? fields (.text key) = some .unknown := by
  have missing : fields.findIdx? (·.answersTo key) = .none := by
    refine List.findIdx?_eq_none_iff.2 fun f mem => Bool.eq_false_iff.2 fun answers => ?_
    obtain ⟨name, listed, same⟩ := answersTo_iff.1 answers
    exact none f mem name listed same
  show some (KeyPlace.ofPosition? (fields.findIdx? (·.answersTo key))) = _
  rw [missing]
  rfl

theorem position_of_known {position : Option Nat} {i : Nat} (known : KeyPlace.ofPosition? position = .known i) :
    position = some i := by
  cases position with
  | none => cases known
  | some j =>
    cases known
    rfl

theorem name_of_placeOf? {fields : List Field} {key : Bytes} {i : Nat}
    (place : placeOf? fields (.text key) = some (.known i)) :
    ∃ f, fields[i]? = some f ∧ ∃ name ∈ f.names, utf8 name = key := by
  have found := position_of_known (Option.some.inj place)
  obtain ⟨inside, answers, -⟩ := List.findIdx?_eq_some_iff_getElem.1 found
  exact ⟨fields[i], List.getElem?_eq_getElem inside, answersTo_iff.1 answers⟩

theorem lt_of_placeOf? {fields : List Field} {key : Value} {i : Nat}
    (place : placeOf? fields key = some (.known i)) : i < fields.length := by
  have position : ∀ {key : Bytes}, KeyPlace.ofPosition? (fields.findIdx? (·.answersTo key)) = .known i →
      i < fields.length := by
    intro key known
    exact (List.findIdx?_eq_some_iff_getElem.1 (position_of_known known)).1
  unfold placeOf? at place
  split at place
  · exact position (Option.some.inj place)
  · exact position (Option.some.inj place)
  · split at place
    · cases place
      assumption
    · cases place
  · cases place

/-! The entries that stand for a field. -/

def held (fields : List Field) (entries : List (Value × Value)) (i : Nat) : List Value :=
  entries.filterMap fun entry => if placeOf? fields entry.1 = some (.known i) then some entry.2 else none

def Placed (fields : List Field) (entries : List (Value × Value)) : Prop :=
  ∀ entry ∈ entries, (placeOf? fields entry.1).isSome

theorem held_cons_known {fields : List Field} {key value : Value} {entries : List (Value × Value)} {i : Nat}
    (place : placeOf? fields key = some (.known i)) (j : Nat) :
    held fields ((key, value) :: entries) j = (if j = i then [value] else []) ++ held fields entries j := by
  unfold held
  rw [List.filterMap_cons]
  by_cases same : j = i
  · subst same
    simp [place]
  · have other : ¬ i = j := fun eq => same eq.symm
    simp [place, same, other]

theorem held_cons_unknown {fields : List Field} {key value : Value} {entries : List (Value × Value)}
    (place : placeOf? fields key = some .unknown) (j : Nat) :
    held fields ((key, value) :: entries) j = held fields entries j := by
  unfold held
  rw [List.filterMap_cons]
  simp [place]

theorem held_append (fields : List Field) (front back : List (Value × Value)) (j : Nat) :
    held fields (front ++ back) j = held fields front j ++ held fields back j :=
  List.filterMap_append

/-! Filling the slots. -/

theorem Slots.ext {s t : Slots} (length : s.length = t.length) (same : ∀ i, s.get? i = t.get? i) : s = t := by
  refine List.ext_getElem length fun i left right => ?_
  have here := same i
  unfold Slots.get? at here
  rwa [List.getElem?_eq_getElem left, List.getElem?_eq_getElem right, Option.join_some, Option.join_some] at here

theorem Slots.get?_set {s : Slots} {i j : Nat} (inside : i < s.length) (v : Value) :
    Slots.get? (s.set i (some v)) j = if j = i then some v else s.get? j := by
  unfold Slots.get?
  rw [List.getElem?_set]
  by_cases same : i = j
  · subst same
    simp [inside]
  · have other : ¬ j = i := fun eq => same eq.symm
    simp [same, other]

theorem Slots.get?_replicate (n i : Nat) : Slots.get? (List.replicate n none) i = none := by
  unfold Slots.get?
  rw [List.getElem?_replicate]
  split <;> rfl

theorem Slots.get?_map_some (values : List Value) (i : Nat) : Slots.get? (values.map some) i = values[i]? := by
  unfold Slots.get?
  rw [List.getElem?_map]
  cases values[i]? <;> rfl

/-- Filling succeeds exactly if no slot would be filled twice, and then adds what the entries hold. -/
theorem fillSlots_eq_some {fields : List Field} {entries : List (Value × Value)} {slots out : Slots}
    (width : slots.length = fields.length) : fillSlots fields entries slots = some out ↔
      Placed fields entries ∧ out.length = slots.length ∧
        ∀ i, (out.get? i).toList = (slots.get? i).toList ++ held fields entries i := by
  induction entries generalizing slots with
  | nil =>
    rw [fillSlots, Option.some.injEq]
    constructor
    · rintro rfl
      exact ⟨by simp [Placed], rfl, fun i => (List.append_nil _).symm⟩
    · rintro ⟨-, length, same⟩
      refine (Slots.ext length fun i => ?_).symm
      have here := same i
      rw [held, List.filterMap_nil, List.append_nil] at here
      simpa using congrArg List.head? here
  | cons entry entries ih =>
    obtain ⟨key, value⟩ := entry
    have placed : Placed fields ((key, value) :: entries) ↔
        (placeOf? fields key).isSome ∧ Placed fields entries := List.forall_mem_cons
    rw [placed, fillSlots]
    cases place : placeOf? fields key with
    | none =>
      constructor
      · intro other
        cases other
      · rintro ⟨⟨other, -⟩, -⟩
        cases other
    | some place' =>
      cases place' with
      | unknown =>
        simp only [held_cons_unknown place, Option.isSome_some, true_and]
        exact ih width
      | known i =>
        have inside : i < slots.length := width ▸ lt_of_placeOf? place
        simp only [held_cons_known place, Option.isSome_some, true_and]
        cases filled : slots.get? i with
        | some old =>
          rw [Option.isSome_some, if_pos rfl]
          constructor
          · intro other
            cases other
          · -- the slot would hold two values
            rintro ⟨-, -, same⟩
            have count := congrArg List.length (same i)
            rw [filled, if_pos rfl, List.length_append, List.length_append] at count
            have single := Option.length_toList_le (o := out.get? i)
            simp only [Option.toList_some, List.length_singleton] at count
            omega
        | none =>
          rw [Option.isSome_none, if_neg Bool.false_ne_true, ih (by rw [List.length_set, width]), List.length_set]
          refine and_congr_right fun _ => and_congr_right fun _ => forall_congr' fun j => ?_
          rw [Slots.get?_set inside]
          by_cases same : j = i
          · subst same
            simp [filled]
          · simp [same]

theorem slotsOf?_map {fields : List Field} {entries : List (Value × Value)} {out : Slots} :
    slotsOf? fields (.map entries) = some out ↔
      Placed fields entries ∧ out.length = fields.length ∧ ∀ i, (out.get? i).toList = held fields entries i := by
  show fillSlots fields entries (List.replicate fields.length none) = some out ↔ _
  rw [fillSlots_eq_some List.length_replicate, List.length_replicate]
  simp only [Slots.get?_replicate, Option.toList_none, List.nil_append]

theorem exists_slotsOf?_map {fields : List Field} {entries : List (Value × Value)} (placed : Placed fields entries)
    (single : ∀ i, (held fields entries i).length ≤ 1) :
    ∃ s : Slots, slotsOf? fields (.map entries) = some s ∧ ∀ i, s.get? i = (held fields entries i).head? := by
  have outside : ∀ i, fields.length ≤ i → held fields entries i = [] := by
    intro i beyond
    refine List.filterMap_eq_nil_iff.2 fun entry _ => if_neg fun place => ?_
    exact Nat.not_lt.2 beyond (lt_of_placeOf? place)
  have filled : ∀ i, Slots.get? ((List.range fields.length).map fun i => (held fields entries i).head?) i =
      (held fields entries i).head? := by
    intro i
    unfold Slots.get?
    rw [List.getElem?_map]
    by_cases inside : i < fields.length
    · rw [List.getElem?_range inside, Option.map_some, Option.join_some]
    · rw [List.getElem?_eq_none (by rwa [List.length_range, ← Nat.not_lt]), outside i (Nat.not_lt.1 inside)]
      rfl
  refine ⟨_, slotsOf?_map.2 ⟨placed, by rw [List.length_map, List.length_range], fun i => ?_⟩, filled⟩
  rw [filled]
  have one := single i
  cases values : held fields entries i with
  | nil => rfl
  | cons v rest =>
    rw [values, List.length_cons] at one
    rw [List.length_eq_zero_iff.1 (show rest.length = 0 by omega)]
    rfl

/-! Records as they are written. -/

theorem held_of_places {fields : List Field} {entries : List (Value × Value)} {start : Nat}
    (places : ∀ j entry, entries[j]? = some entry → placeOf? fields entry.1 = some (.known (start + j))) (i : Nat) :
    held fields entries i = if start ≤ i then (entries[i - start]?.map Prod.snd).toList else [] := by
  induction entries generalizing start with
  | nil => simp [held]
  | cons entry entries ih =>
    have here := places 0 entry rfl
    have rest := @ih (start + 1) fun j other there => by
      rw [places (j + 1) other there]
      exact congrArg (fun n => some (KeyPlace.known n)) (by omega)
    rw [held_cons_known here, rest]
    by_cases first : i = start
    · subst first
      simp [show ¬ i + 1 ≤ i by omega]
    · by_cases later : start ≤ i
      · have behind : i - start = (i - (start + 1)) + 1 := by omega
        rw [behind]
        simp [first, later, show start + 1 ≤ i by omega]
      · simp [first, later, show ¬ start + 1 ≤ i by omega]

theorem slotsOf?_ofFields {fields : List Field} (distinct : Distinct fields) {values : List Value}
    (width : values.length = fields.length) :
    slotsOf? fields (.ofFields fields values) = some (values.map some) := by
  have places : ∀ j entry, ((fields.map fun f => Value.ofText f.name).zip values)[j]? = some entry →
      placeOf? fields entry.1 = some (.known (0 + j)) ∧ values[j]? = some entry.2 := by
    intro j entry there
    obtain ⟨key, value⟩ := List.getElem?_zip_eq_some.1 there
    rw [List.getElem?_map, Option.map_eq_some_iff] at key
    obtain ⟨f, here, same⟩ := key
    rw [Nat.zero_add, ← same]
    exact ⟨placeOf?_name distinct here List.mem_cons_self, value⟩
  refine slotsOf?_map.2 ⟨?_, by rw [List.length_map, width], fun i => ?_⟩
  · intro entry mem
    obtain ⟨j, there⟩ := List.mem_iff_getElem?.1 mem
    rw [(places j entry there).1]
    rfl
  · rw [held_of_places fun j entry there => (places j entry there).1, if_pos (Nat.zero_le i), Slots.get?_map_some,
      Nat.sub_zero]
    refine congrArg Option.toList ?_
    cases there : ((fields.map fun f => Value.ofText f.name).zip values)[i]? with
    | some entry => exact (places i entry there).2
    | none =>
      rw [List.getElem?_eq_none_iff, List.length_zip, List.length_map] at there
      rw [List.getElem?_eq_none_iff.2 (by omega)]
      rfl

end Steward.Wire
