import Steward.Proofs.Message.Layout

/-!
Messages are brought back by reading. A command, a task definition, a reply record or one of the plain
replies is read from its bytes whatever follows them, and from no proper beginning of them.
-/
namespace Steward.Message

open Steward.Schedule Steward.Wire

structure Transferred [Sendable α] (a : α) : Prop where
  form : Spells nestingLimit (toValue a) (encode a)
  whole : decode? (encode a) = some a
  followed : ∀ rest, decode? (encode a ++ rest) = some a
  cut : ∀ front missing, missing ≠ [] → encode a = front ++ missing → (decode? front : Option α) = none

/-- Every message of this type, with texts, lists and maps shorter than 2 ^ 32, comes back. -/
def Transfers (α : Type) [Sendable α] : Prop := ∀ a : α, (toValue a).Short → Transferred a

theorem transfers_of_restores [Sendable α] {depth : Nat} (shallow : depth ≤ nestingLimit)
    (restores : Restores (toValue : α → Value) ofValue? depth) : Transfers α := by
  intro a short
  have plain := plain_mono (restores.plain a) shallow
  have followed : ∀ rest, decode? (encode a ++ rest) = some a := by
    intro rest
    unfold decode? encode
    rw [read?_write_append plain short]
    exact restores.back a
  have whole := followed []
  rw [List.append_nil] at whole
  refine ⟨spells_write plain short, whole, followed, fun front missing cut same => ?_⟩
  unfold decode?
  rw [read?_eq_none_of_cut plain short cut same]
  rfl

theorem transfers_of_layout [Sendable α] {depth : Nat} (shallow : depth < nestingLimit)
    (layout : Layout α depth) : Transfers α :=
  transfers_of_restores shallow layout.restores

/-- Commands, task definitions, reply records and plain replies come back from their bytes. -/
theorem messages_transfer :
    Transfers Command ∧ Transfers Payload ∧ Transfers ScriptResult ∧ Transfers ProcessRecord ∧
    Transfers ServiceRecord ∧ Transfers ServiceDetail ∧ Transfers ServiceActionResult ∧
    Transfers EventLogRecord ∧ Transfers SoftwareRecord ∧ Transfers OsUpdateRecord ∧
    Transfers String ∧ Transfers (List String) ∧ Transfers Bool ∧ Transfers UInt32 := by
  refine ⟨?_, ?_, ?_, ?_, ?_, ?_, ?_, ?_, ?_, ?_, ?_, ?_, ?_, ?_⟩
  · exact transfers_of_layout (by decide) commandLayout
  · exact transfers_of_layout (by decide) payloadLayout
  · exact transfers_of_layout (by decide) scriptResultLayout
  · exact transfers_of_layout (by decide) processLayout
  · exact transfers_of_layout (by decide) serviceLayout
  · exact transfers_of_layout (by decide) serviceDetailLayout
  · exact transfers_of_layout (by decide) serviceActionLayout
  · exact transfers_of_layout (by decide) eventLogLayout
  · exact transfers_of_layout (by decide) softwareLayout
  · exact transfers_of_layout (by decide) osUpdateLayout
  · exact transfers_of_restores (Nat.zero_le _) restores_text
  · exact transfers_of_restores (Nat.succ_le_succ (Nat.zero_le _)) (restores_list restores_text)
  · exact transfers_of_restores (Nat.zero_le _) restores_bool
  · exact transfers_of_restores (Nat.zero_le _) restores_uint32

theorem short_of_parts [Sendable α] {depth : Nat} (layout : Layout α depth) {a : α}
    (few : layout.columns.length < 2 ^ 32) (each : ∀ column ∈ layout.columns,
      (Text.utf8 column.field.name).length < 2 ^ 32 ∧ (column.write (column.part a)).Short) :
    (toValue a).Short := by
  rw [layout.writes]
  refine short_map.2 ⟨?_, fun entry mem => ⟨?_, ?_⟩⟩
  · rw [List.length_zip, List.length_map, List.length_map, fieldsOf, List.length_map, Nat.min_self]
    exact few
  · obtain ⟨f, named, same⟩ := List.mem_map.1 (List.of_mem_zip mem).1
    obtain ⟨column, listed, rfl⟩ := List.mem_map.1 named
    rw [← same]
    exact .text (each column listed).1
  · obtain ⟨column, listed, same⟩ := List.mem_map.1 (List.of_mem_zip mem).2
    rw [← same]
    exact (each column listed).2

def probeCommand : Command :=
  { (Command.named "probe").withArg "k" "v" with scriptArgs := ["-v"], pid := some (-200) }

theorem messages_transfer_probe : (toValue probeCommand).Short ∧ Transferred probeCommand := by
  have short : (toValue probeCommand).Short := by
    refine short_of_parts commandLayout (by decide) ?_
    show ∀ column ∈ commandColumns, _
    unfold commandColumns
    simp only [List.forall_mem_cons]
    refine ⟨⟨by decide, ?_⟩, ⟨by decide, ?_⟩, ⟨by decide, ?_⟩, ⟨by decide, ?_⟩, ⟨by decide, ?_⟩, ⟨by decide, .nil⟩,
      ⟨by decide, .nil⟩, ⟨by decide, .nil⟩, ⟨by decide, ?_⟩, ⟨by decide, .nil⟩, ⟨by decide, .nil⟩, nofun⟩
    · exact .text (by decide)
    · exact .uint 0
    · exact short_map.2 ⟨by decide, List.forall_mem_singleton.2 ⟨.text (by decide), .text (by decide)⟩⟩
    · exact short_list.2 ⟨by decide, List.forall_mem_singleton.2 (.text (by decide))⟩
    · exact .int (-200)
    · exact short_list.2 ⟨by decide, nofun⟩
  exact ⟨short, messages_transfer.1 probeCommand short⟩

end Steward.Message
