import Steward.Message.Command
import Steward.Message.Reply
import Steward.Proofs.Wire.Parts

/-!
The layouts of commands, task definitions and reply records: which fields each of them has, under which
names, and what stands for a field that is left out.
-/
namespace Steward.Message

open Steward.Schedule Steward.Wire

/-- A field of a record: its names, the part of the record it holds and, unless it has to be there, the
part that stands for it when it is left out. -/
structure Column (α : Type) (depth : Nat) where
  field : Field
  {Part : Type}
  part : α → Part
  absent : Option Part
  {write : Part → Value}
  {read : Value → Option Part}
  restores : Restores write read depth

def Column.part? (c : Column α depth) : Option Value → Option c.Part
  | none => c.absent
  | some v => c.read v

def Column.at (c : Column α depth) (s : Slots) (i : Nat) : Option c.Part :=
  match c.absent with
  | none => s.required i c.read
  | some absent => s.orElse i absent c.read

theorem Column.at_eq (c : Column α depth) (s : Slots) (i : Nat) : c.at s i = c.part? (s.get? i) := by
  unfold Column.at Column.part? Slots.required Slots.orElse
  cases c.absent <;> cases s.get? i <;> rfl

def fieldsOf (columns : List (Column α depth)) : List Field := columns.map (·.field)

def Maker (β : Type) : List (Column α depth) → Type
  | [] => β
  | c :: columns => c.Part → Maker β columns

def assemble (s : Slots) (i : Nat) : (columns : List (Column α depth)) → Maker β columns → Option β
  | [], whole => some whole
  | c :: columns, make => (c.at s i).bind fun part => assemble s (i + 1) columns (make part)

def remake (a : α) : (columns : List (Column α depth)) → Maker β columns → β
  | [], whole => whole
  | c :: columns, make => remake a columns (make (c.part a))

theorem assemble_of_parts {s : Slots} {a : α} {i : Nat} {columns : List (Column α depth)} (make : Maker β columns)
    (parts : ∀ (j : Nat) (c : Column α depth), columns[j]? = some c → c.part? (s.get? (i + j)) = some (c.part a)) :
    assemble s i columns make = some (remake a columns make) := by
  induction columns generalizing i with
  | nil => rfl
  | cons c columns ih =>
    have first : c.at s i = some (c.part a) := (c.at_eq s i).trans (parts 0 c rfl)
    rw [assemble, first, Option.bind_some, remake]
    refine ih _ fun j d there => ?_
    rw [Nat.add_assoc, Nat.add_comm 1 j]
    exact parts (j + 1) d there

theorem assemble_congr {s t : Slots} {i : Nat} {columns : List (Column α depth)} (make : Maker β columns)
    (same : ∀ (j : Nat) (c : Column α depth), columns[j]? = some c → c.part? (s.get? (i + j)) = c.part? (t.get? (i + j))) :
    assemble s i columns make = assemble t i columns make := by
  induction columns generalizing i with
  | nil => rfl
  | cons c columns ih =>
    have first : c.part? (s.get? i) = c.part? (t.get? i) := same 0 c rfl
    rw [assemble, assemble, c.at_eq, c.at_eq, first]
    refine congrArg _ (funext fun part => ih _ fun j d there => ?_)
    rw [Nat.add_assoc, Nat.add_comm 1 j]
    exact same (j + 1) d there

/-- A record is written column by column, and made of what its columns give. -/
structure Layout (α : Type) (depth : Nat) [Sendable α] where
  columns : List (Column α depth)
  make : Maker α columns
  distinct : Distinct (fieldsOf columns)
  remakes : ∀ a : α, remake a columns make = a
  writes : ∀ a : α, toValue a = .ofFields (fieldsOf columns) (columns.map fun c => c.write (c.part a))
  reads : ∀ v, ofValue? v = (slotsOf? (fieldsOf columns) v).bind fun s => assemble s 0 columns make

theorem Layout.restores [Sendable α] (layout : Layout α depth) :
    Restores (toValue : α → Value) ofValue? (depth + 1) where
  back a := by
    have width : (layout.columns.map fun c => c.write (c.part a)).length =
        (fieldsOf layout.columns).length := by
      rw [fieldsOf, List.length_map, List.length_map]
    rw [layout.reads, layout.writes, slotsOf?_ofFields layout.distinct width, Option.bind_some,
      assemble_of_parts, layout.remakes]
    intro i column here
    rw [Nat.zero_add, Slots.get?_map_some, List.getElem?_map, here]
    exact column.restores.back (column.part a)
  plain a := by
    rw [layout.writes]
    refine .map (fun entry mem => ?_) fun entry mem => ?_
    · obtain ⟨f, -, same⟩ := List.mem_map.1 (List.of_mem_zip mem).1
      rw [← same]
      exact .text _
    · obtain ⟨column, -, same⟩ := List.mem_map.1 (List.of_mem_zip mem).2
      rw [← same]
      exact column.restores.plain (column.part a)

theorem toValue_ne_nil [Sendable α] (layout : Layout α depth) (a : α) : toValue a ≠ .nil := by
  rw [layout.writes]
  exact nofun

/-! Task definitions and commands. -/

theorem putEntry_of_not_mem {name text : String} {entries : List (String × String)}
    (fresh : name ∉ entries.map Prod.fst) : Arguments.putEntry name text entries = entries ++ [(name, text)] := by
  induction entries with
  | nil => rfl
  | cons entry entries ih =>
    rw [List.map_cons, List.mem_cons, not_or] at fresh
    unfold Arguments.putEntry
    rw [if_neg fun same => fresh.1 same.symm, ih fresh.2]
    rfl

theorem ofList_entries (args : Arguments) : Arguments.ofList args.entries = args := by
  have added : ∀ (rest : List (String × String)) (done : Arguments),
      ((done.entries ++ rest).map Prod.fst).Nodup →
      (rest.foldl (fun args entry => args.put entry.1 entry.2) done).entries = done.entries ++ rest := by
    intro rest
    induction rest with
    | nil => exact fun done _ => (List.append_nil _).symm
    | cons entry rest ih =>
      intro done nodup
      have fresh : entry.1 ∉ done.entries.map Prod.fst := by
        rw [List.map_append, List.map_cons] at nodup
        intro mem
        exact (List.nodup_append.1 nodup).2.2 _ mem _ List.mem_cons_self rfl
      have put : (done.put entry.1 entry.2).entries = done.entries ++ [entry] := putEntry_of_not_mem fresh
      rw [List.foldl_cons, ih, put, List.append_assoc]
      · rfl
      · rwa [put, List.append_assoc]
  have entries := added args.entries .empty args.nodup
  unfold Arguments.ofList
  cases args
  exact (Arguments.mk.injEq ..).symm ▸ entries

theorem restores_arguments : Restores Arguments.toValue Arguments.ofValue? 1 where
  back args := by
    have entry : ∀ entry : String × String,
        Arguments.readEntry? (Value.ofText entry.1, Value.ofText entry.2) = some entry := by
      intro entry
      have name : (Value.ofText entry.1).asText? = some entry.1 := Text.ofUtf8?_utf8 entry.1
      have text : (Value.ofText entry.2).asText? = some entry.2 := Text.ofUtf8?_utf8 entry.2
      unfold Arguments.readEntry?
      rw [name, text]
      rfl
    show ((args.entries.map _).mapM Arguments.readEntry?).map Arguments.ofList = some args
    rw [mapM_map entry, Option.map_some, ofList_entries]
  plain args := by
    refine .map (fun entry mem => ?_) fun entry mem => ?_
    all_goals
      obtain ⟨pair, -, rfl⟩ := List.mem_map.1 mem
      exact .text _

def payloadLayout : Layout Payload 0 where
  columns :=
    [⟨field "pk", (·.pk), some 0, restores_int64⟩,
      ⟨field "type", (·.kind), some "", restores_text⟩,
      ⟨field "name", (·.name), none, restores_text⟩,
      ⟨field "trigger", (·.trigger), some "", restores_text⟩,
      ⟨field "enabled", (·.enabled), some false, restores_bool⟩,
      ⟨field "deleteafter", (·.deleteAfter), some false, restores_bool⟩,
      ⟨field "weekdays", (·.weekdays), some 0, restores_uint16⟩,
      ⟨field "year", (·.year), some 0, restores_int32⟩,
      ⟨field "month", (·.month), some "", restores_text⟩,
      ⟨field "day", (·.day), some 0, restores_uint32⟩,
      ⟨field "hour", (·.hour), some 0, restores_uint32⟩,
      ⟨field "min", (·.minute), some 0, restores_uint32⟩,
      ⟨field "path", (·.path), some "", restores_text⟩,
      ⟨field "workdir", (·.workdir), some "", restores_text⟩,
      ⟨field "args", (·.args), some "", restores_text⟩,
      ⟨field "parallel", (·.parallel), some false, restores_bool⟩,
      ⟨field "run_asap_after_missed", (·.runAsapAfterMissed), some false, restores_bool⟩]
  make := Payload.mk
  distinct := by decide
  remakes _ := rfl
  writes _ := rfl
  reads _ := rfl

def commandColumns : List (Column Command 1) :=
  [⟨fieldOr "func" ["name"], (·.name), none, restores_text⟩,
    ⟨field "timeout", (·.timeout), some 0, restores_uint64⟩,
    ⟨field "payload", (·.arguments), some .empty, restores_arguments⟩,
    ⟨field "script_args", (·.scriptArgs), some [], restores_list restores_text⟩,
    ⟨fieldOr "proc_pid" ["pid"], (·.pid), some none, restores_optional restores_int32 fun n => ofInt_ne_nil n.toInt64⟩,
    ⟨field "task_id", (·.taskId), some none, restores_optional restores_int64 ofInt_ne_nil⟩,
    ⟨fieldOr "schedtaskpayload" ["task"], (·.scheduledTask), some none,
      restores_optional payloadLayout.restores (toValue_ne_nil payloadLayout)⟩,
    ⟨field "recoverycommand", (·.recoveryCommand), some none, restores_optional restores_text ofText_ne_nil⟩,
    ⟨field "guids", (·.updateIds), some [], restores_list restores_text⟩,
    ⟨field "package_name", (·.packageName), some none, restores_optional restores_text ofText_ne_nil⟩,
    ⟨field "pending_action_pk", (·.pendingAction), some none, restores_optional restores_int64 ofInt_ne_nil⟩]

def commandLayout : Layout Command 1 where
  columns := commandColumns
  make := Command.mk
  distinct := by decide
  remakes _ := rfl
  writes _ := rfl
  reads _ := rfl

/-! Reply records. -/

def scriptResultLayout : Layout ScriptResult 0 where
  columns :=
    [⟨field "stdout", (·.stdout), none, restores_text⟩,
      ⟨field "stderr", (·.stderr), none, restores_text⟩,
      ⟨field "retcode", (·.retcode), none, restores_int32⟩,
      ⟨field "execution_time", (·.executionTime), none, restores_float⟩]
  make := ScriptResult.mk
  distinct := by decide
  remakes _ := rfl
  writes _ := rfl
  reads _ := rfl

def processLayout : Layout ProcessRecord 0 where
  columns :=
    [⟨field "pid", (·.pid), none, restores_int32⟩,
      ⟨field "ppid", (·.ppid), none, restores_int32⟩,
      ⟨field "name", (·.name), none, restores_text⟩,
      ⟨field "cmdline", (·.cmdline), some "", restores_text⟩,
      ⟨field "username", (·.username), some "", restores_text⟩,
      ⟨field "membytes", (·.membytes), none, restores_uint64⟩]
  make := ProcessRecord.mk
  distinct := by decide
  remakes _ := rfl
  writes _ := rfl
  reads _ := rfl

def serviceLayout : Layout ServiceRecord 0 where
  columns :=
    [⟨field "name", (·.name), none, restores_text⟩,
      ⟨field "display_name", (·.displayName), none, restores_text⟩,
      ⟨field "status", (·.status), none, restores_text⟩,
      ⟨field "start_type", (·.startType), none, restores_text⟩]
  make := ServiceRecord.mk
  distinct := by decide
  remakes _ := rfl
  writes _ := rfl
  reads _ := rfl

def serviceDetailLayout : Layout ServiceDetail 0 where
  columns :=
    [⟨field "name", (·.name), none, restores_text⟩,
      ⟨field "display_name", (·.displayName), none, restores_text⟩,
      ⟨field "description", (·.description), none, restores_text⟩,
      ⟨field "status", (·.status), none, restores_text⟩,
      ⟨field "start_type", (·.startType), none, restores_text⟩,
      ⟨field "binpath", (·.binpath), none, restores_text⟩,
      ⟨field "pid", (·.pid), none, restores_uint32⟩]
  make := ServiceDetail.mk
  distinct := by decide
  remakes _ := rfl
  writes _ := rfl
  reads _ := rfl

def serviceActionLayout : Layout ServiceActionResult 0 where
  columns :=
    [⟨field "success", (·.success), none, restores_bool⟩,
      ⟨field "errormsg", (·.errormsg), none, restores_text⟩]
  make := ServiceActionResult.mk
  distinct := by decide
  remakes _ := rfl
  writes _ := rfl
  reads _ := rfl

def eventLogLayout : Layout EventLogRecord 0 where
  columns :=
    [⟨field "time", (·.time), none, restores_text⟩,
      ⟨field "level", (·.level), none, restores_text⟩,
      ⟨field "source", (·.source), none, restores_text⟩,
      ⟨field "message", (·.message), none, restores_text⟩]
  make := EventLogRecord.mk
  distinct := by decide
  remakes _ := rfl
  writes _ := rfl
  reads _ := rfl

def softwareLayout : Layout SoftwareRecord 0 where
  columns :=
    [⟨field "name", (·.name), none, restores_text⟩,
      ⟨field "version", (·.version), none, restores_text⟩,
      ⟨field "publisher", (·.publisher), some "", restores_text⟩,
      ⟨field "size", (·.size), some 0, restores_uint64⟩]
  make := SoftwareRecord.mk
  distinct := by decide
  remakes _ := rfl
  writes _ := rfl
  reads _ := rfl

def osUpdateLayout : Layout OsUpdateRecord 0 where
  columns :=
    [⟨field "id", (·.id), none, restores_text⟩,
      ⟨field "title", (·.title), none, restores_text⟩,
      ⟨field "version", (·.version), none, restores_text⟩]
  make := OsUpdateRecord.mk
  distinct := by decide
  remakes _ := rfl
  writes _ := rfl
  reads _ := rfl

end Steward.Message
