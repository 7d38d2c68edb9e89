import Steward.Config.Agent
import Steward.Proofs.Text.Utf8

/-!
Which config files are accepted. The config in the file, with the references in three of its fields
replaced, has to be usable; only its id is not looked at closely enough. An id is to be one token of a
subject, in which there are no blanks, and of all blanks the check knows the space alone.
-/
namespace Steward

open Steward.Config Steward.Text

/-- One token of a subject that stands for itself alone. -/
def IsSubjectToken (id : String) : Prop :=
  id ≠ "" ∧ ∀ c ∈ id.toList, isBlank c = false ∧ c ≠ '.' ∧ c ≠ '*' ∧ c ≠ '>'

instance (id : String) : Decidable (IsSubjectToken id) := @instDecidableAnd _ _ _ (List.decidableBAll _ _)

/-- Blanks other than the space, next to something that is none. -/
structure Overlooked (id : String) : Prop where
  blank : ∃ c ∈ id.toList, isBlank c = true
  inked : ∃ c ∈ id.toList, isBlank c = false
  unmarked : ∀ c ∈ id.toList, c ≠ ' ' ∧ c ≠ '.' ∧ c ≠ '*' ∧ c ≠ '>'

namespace AgentConfig

structure Connectable (c : AgentConfig) : Prop where
  controller : "http://".toList <+: c.controllerUrl.toList ∨ "https://".toList <+: c.controllerUrl.toList
  bus : ∃ ch ∈ c.natsUrl.toList, isBlank ch = false
  tasks : c.taskPrefix ≠ ""

theorem isBlankText_eq_false {s : String} : isBlankText s = false ↔ ∃ c ∈ s.toList, isBlank c = false := by
  rw [isBlankText, List.all_eq_false]
  simp

theorem isSubjectMark_eq_false {c : Char} :
    isSubjectMark c = false ↔ c ≠ ' ' ∧ c ≠ '.' ∧ c ≠ '*' ∧ c ≠ '>' := by
  simp only [isSubjectMark, Bool.or_eq_false_iff, decide_eq_false_iff_not, and_assoc]
  exact ⟨fun ⟨point, star, angle, space⟩ => ⟨space, point, star, angle⟩,
    fun ⟨space, point, star, angle⟩ => ⟨point, star, angle, space⟩⟩

theorem id_accepted_iff {id : String} : isBlankText id = false ∧ id.toList.any isSubjectMark = false ↔
    IsSubjectToken id ∨ Overlooked id := by
  rw [isBlankText_eq_false, List.any_eq_false]
  simp only [Bool.not_eq_true, isSubjectMark_eq_false]
  constructor
  · rintro ⟨inked, unmarked⟩
    by_cases blank : ∃ c ∈ id.toList, isBlank c = true
    · exact .inr ⟨blank, inked, unmarked⟩
    · refine .inl ⟨?_, fun c mem => ⟨?_, (unmarked c mem).2⟩⟩
      · rintro rfl
        obtain ⟨c, none, -⟩ := inked
        cases none
      · exact Bool.eq_false_iff.2 fun here => blank ⟨c, mem, here⟩
  · rintro (⟨some, token⟩ | ⟨-, inked, unmarked⟩)
    · have chars : id.toList ≠ [] := fun none => some (String.toList_eq_nil_iff.1 none)
      obtain ⟨c, rest, shape⟩ := List.exists_cons_of_ne_nil chars
      refine ⟨⟨c, ?_, ?_⟩, fun d mem => ⟨?_, (token d mem).2⟩⟩
      · rw [shape]
        exact List.mem_cons_self
      · exact (token c (shape ▸ List.mem_cons_self)).1
      · -- a space would be a blank
        rintro rfl
        exact absurd (token ' ' mem).1 (by decide)
    · exact ⟨inked, unmarked⟩

theorem connectable_iff {c : AgentConfig} : c.Connectable ↔
    isHttpUrl c.controllerUrl = true ∧ isBlankText c.natsUrl = false ∧ c.taskPrefix.isEmpty = false := by
  rw [isHttpUrl, Bool.or_eq_true, List.isPrefixOf_iff_prefix, List.isPrefixOf_iff_prefix,
    isBlankText_eq_false, String.isEmpty_eq_false_iff]
  exact ⟨fun ⟨controller, bus, tasks⟩ => ⟨controller, bus, tasks⟩,
    fun ⟨controller, bus, tasks⟩ => ⟨controller, bus, tasks⟩⟩

theorem check_eq_ok_iff {c : AgentConfig} :
    c.check = .ok () ↔ c.Connectable ∧ (IsSubjectToken c.agentId ∨ Overlooked c.agentId) := by
  rw [← id_accepted_iff, connectable_iff]
  unfold check
  split_ifs with blankId markedId badUrl blankUrl noPrefix
  · simp [blankId]
  · simp [markedId]
  · simp_all
  · simp [blankUrl]
  · simp [noPrefix]
  · simp_all

def ofFile? (file : Option (List UInt8)) : Option AgentConfig := (file.bind ofUtf8?).bind ofText?

section Load
variable {path : String} {file : Option (List UInt8)} {env : Environment} {loaded : AgentConfig}

theorem load_eq_ok_iff : load path file env = .ok loaded ↔
    ∃ given, ofFile? file = some given ∧ loaded = given.expanded env ∧ loaded.check = .ok () := by
  unfold load ofFile?
  cases file.bind ofUtf8? with
  | none => simp
  | some text =>
    simp only [Option.bind_some]
    cases ofText? text with
    | none => simp
    | some c =>
      simp only [Option.some.injEq, exists_eq_left']
      cases checked : (c.expanded env).check with
      | error fault =>
        refine iff_of_false nofun ?_
        rintro ⟨rfl, fine⟩
        rw [checked] at fine
        cases fine
      | ok u =>
        simp only [Except.map, Except.ok.injEq]
        constructor
        · rintro rfl
          exact ⟨rfl, checked⟩
        · rintro ⟨rfl, -⟩
          rfl

/-- A file is accepted exactly if it holds a config that is usable once its references are replaced, or
would be but for blanks in its id that are overlooked. Nothing but the token and the two addresses is
replaced. -/
theorem load_accepts_iff : load path file env = .ok loaded ↔
    ∃ given, ofFile? file = some given ∧
      loaded = { given with
        token := expand env given.token
        controllerUrl := expand env given.controllerUrl
        natsUrl := expand env given.natsUrl } ∧
      loaded.Connectable ∧ (IsSubjectToken loaded.agentId ∨ Overlooked loaded.agentId) := by
  simp only [load_eq_ok_iff, check_eq_ok_iff]
  rfl

/-- An id with a tab in it is accepted. -/
theorem tabbedId_loaded :
    load "agent.yaml" (some (utf8
        "agent_id: \"a\\tb\"\ncontroller_url: https://rmm\ntoken: t\nnats_url: tls://rmm\n")) (fun _ => none) =
      .ok (minimal "a\tb" "https://rmm" "t" "tls://rmm") ∧ ¬IsSubjectToken "a\tb" := by
  refine ⟨load_eq_ok_iff.2 ⟨minimal "a\tb" "https://rmm" "t" "tls://rmm", ?_, by decide, rfl⟩, by decide⟩
  rw [ofFile?, Option.bind_some, ofUtf8?_utf8, Option.bind_some]
  decide +kernel

end Load
end AgentConfig
end Steward
