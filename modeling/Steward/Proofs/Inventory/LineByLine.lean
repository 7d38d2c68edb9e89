import Steward.Inventory.Journal
import Steward.Inventory.Package
import Steward.Inventory.Service
import Steward.Proofs.Text.Lines
import Steward.Proofs.Text.Numeral

/-!
The listings of the system are read line by line: what a line gives depends on that line alone, and a line
that gives nothing leaves the records of the other lines as they are.
-/
namespace Steward.Json

open Steward.Text

theorem readNumber?_of_start {cs : List Char} (sign : cs.head? ≠ some '-') (digit : NoDigit cs) :
    readNumber? cs = none := by
  have empty : cs.takeWhile isDigit = [] := by
    cases cs with
    | nil => rfl
    | cons c cs => rw [List.takeWhile_cons, digit c rfl, if_neg (by decide)]
  unfold readNumber?
  split
  rename_i negative rest same
  split at same
  · exact absurd rfl sign
  · cases same
    rw [readWhole?, empty]
    rfl

theorem readValue?_of_blank {cs : List Char} (blank : cs.all isBlank = true) (depth : Nat) :
    readValue? depth cs = none := by
  have behind : (skipSpace cs).all isBlank = true :=
    List.all_eq_true.2 fun c mem => List.all_eq_true.1 blank c ((List.dropWhile_suffix _).subset mem)
  unfold readValue?
  generalize skipSpace cs = rest at behind
  split
  case h_7 =>
    cases rest with
    | nil => rfl
    | cons c rest =>
      rw [List.all_cons, Bool.and_eq_true] at behind
      apply readNumber?_of_start
      · intro minus
        cases minus
        exact absurd behind.1 (by decide)
      · exact noDigit_cons (not_isDigit_of_isBlank behind.1) rest
  all_goals exact absurd behind Bool.false_ne_true

end Steward.Json

namespace Steward.Inventory

open Steward.Message Steward.Text

/-- `read` takes a listing apart at its line feeds and makes a record of every line that `takes` it. -/
structure LineByLine (takes : String → Prop) (read : String → List α) : Prop where
  joins : ∀ a b : String, a.toList.getLast? ≠ some '\r' → read (a ++ "\n" ++ b) = read a ++ read b
  returned : ∀ a b : String, a.toList.getLast? ≠ some '\r' → read (a ++ "\r\n" ++ b) = read a ++ read b
  ordered : ∀ listing, read listing = (lines listing).flatMap read
  single : ∀ line : String, '\n' ∉ line.toList → (read line).length ≤ 1
  taken : ∀ line : String, '\n' ∉ line.toList → (read line ≠ [] ↔ takes line)
  blank : ∀ listing, isBlankText listing = true → read listing = []
  /-- A line that gives nothing can be left out, its line feed with it. -/
  silent : ∀ a line b : String, a.toList.getLast? ≠ some '\r' → line.toList.getLast? ≠ some '\r' →
    read line = [] → read (a ++ "\n" ++ line ++ "\n" ++ b) = read (a ++ "\n" ++ b)

theorem toList_fed (a b : String) : (a ++ "\n" ++ b).toList = a.toList ++ '\n' :: b.toList := by
  rw [String.toList_append, String.toList_append, List.append_assoc]
  rfl

section Reader
variable {read : String → List α} {line? : String → Option α}

theorem reader_joins (reads : ∀ listing, read listing = (lines listing).filterMap line?)
    (unread : line? "" = none) {a : String} (unreturned : a.toList.getLast? ≠ some '\r') (b : String) :
    read (a ++ "\n" ++ b) = read a ++ read b := by
  rw [reads, reads, reads, lines, lines, lines, toList_fed]
  rw [List.filterMap_map, List.filterMap_map, List.filterMap_map]
  exact filterMap_linesOf_append unread unreturned b.toList

theorem reader_returned (reads : ∀ listing, read listing = (lines listing).filterMap line?)
    {a : String} (unreturned : a.toList.getLast? ≠ some '\r') (b : String) :
    read (a ++ "\r\n" ++ b) = read (a ++ "\n" ++ b) := by
  have cut : (a ++ "\r\n" ++ b).toList = a.toList ++ '\r' :: '\n' :: b.toList := by
    rw [String.toList_append, String.toList_append, List.append_assoc]
    rfl
  rw [reads, reads, lines, lines, cut, toList_fed, linesOf_returned unreturned]

theorem reader_line (reads : ∀ listing, read listing = (lines listing).filterMap line?)
    (unread : line? "" = none) {line : String} (whole : '\n' ∉ line.toList) :
    read line = (line? line).toList := by
  rw [reads, lines, linesOf_line whole]
  split
  · rename_i none
    rw [List.isEmpty_iff, String.toList_eq_nil_iff] at none
    rw [none, unread]
    rfl
  · rw [List.map_singleton, String.ofList_toList, List.filterMap_cons, List.filterMap_nil]
    cases line? line <;> rfl

theorem reader_blank (reads : ∀ listing, read listing = (lines listing).filterMap line?)
    (unread : ∀ line, isBlankText line = true → line? line = none) {listing : String}
    (blank : isBlankText listing = true) : read listing = [] := by
  rw [reads, List.filterMap_eq_nil_iff]
  intro line mem
  apply unread
  obtain ⟨characters, here, rfl⟩ := List.mem_map.1 mem
  apply List.all_eq_true.2
  intro c inside
  rw [String.toList_ofList] at inside
  exact List.all_eq_true.1 blank c (mem_of_mem_linesOf here inside)

theorem lineByLine_of_reader {takes : String → Prop}
    (reads : ∀ listing, read listing = (lines listing).filterMap line?)
    (taken : ∀ line, (line? line).isSome = true ↔ takes line)
    (unread : ∀ line, isBlankText line = true → line? line = none) : LineByLine takes read := by
  have empty : line? "" = none := unread "" rfl
  have joins (a b : String) (unreturned : a.toList.getLast? ≠ some '\r') :
      read (a ++ "\n" ++ b) = read a ++ read b := reader_joins reads empty unreturned b
  constructor
  case joins => exact joins
  case returned =>
    intro a b unreturned
    rw [reader_returned reads unreturned, joins a b unreturned]
  case ordered =>
    intro listing
    have each : ∀ line ∈ lines listing, read line = (line? line).toList := by
      intro line mem
      obtain ⟨characters, here, rfl⟩ := List.mem_map.1 mem
      apply reader_line reads empty
      rw [String.toList_ofList]
      exact whole_of_mem_linesOf here
    rw [reads, List.filterMap_eq_flatMap_toList]
    exact (List.flatMap_congr each).symm
  case single =>
    intro line whole
    rw [reader_line reads empty whole]
    exact Option.length_toList_le
  case taken =>
    intro line whole
    rw [reader_line reads empty whole, ← taken]
    cases line? line <;> simp
  case blank =>
    intro listing blank
    exact reader_blank reads unread blank
  case silent =>
    intro a line b unreturned whole nothing
    have behind : a ++ "\n" ++ line ++ "\n" ++ b = a ++ "\n" ++ (line ++ "\n" ++ b) := by
      simp only [String.append_assoc]
    rw [behind, joins a _ unreturned, joins line b whole, nothing, List.nil_append, joins a b unreturned]

end Reader

/-! Which lines the readers take. A blank line is none of them. -/

def TellsMessage (line : String) : Prop :=
  ∃ entry message, Json.Value.read? line = some entry ∧ entry.get? "MESSAGE" = some (.text message)

def NamesSoftware (line : String) : Prop := ∃ c ∈ line.toList.takeWhile (· != '\t'), isBlank c = false

def OffersVersion (line : String) : Prop :=
  ∃ name rest, line = name ++ "/" ++ rest ∧ '/' ∉ name.toList ∧ 2 ≤ (words rest).length

def ListsUnit (line : String) : Prop := 4 ≤ (words line).length

section Lines
variable {line : String}

theorem journalLine?_of_blank (blank : isBlankText line = true) : journalLine? line = none := by
  rw [journalLine?, Json.Value.read?, Json.readValue?_of_blank blank]
  rfl

theorem journalLine?_isSome (line : String) : (journalLine? line).isSome = true ↔ TellsMessage line := by
  unfold journalLine? TellsMessage
  cases Json.Value.read? line with
  | none => simp
  | some entry =>
    unfold journalRecord?
    cases found : entry.get? "MESSAGE" with
    | none => simp [found]
    | some v =>
      cases v <;> simp [found, Json.Value.asText?]

theorem head_tabColumns (line : String) :
    (tabColumns line).getD 0 "" = String.ofList (line.toList.takeWhile (· != '\t')) := by
  have untabbed {cs : List Char} (absent : '\t' ∉ cs) : ∀ c ∈ cs, (c != '\t') = true := by
    intro c mem
    rw [bne, unbroken absent c mem]
    rfl
  rw [tabColumns]
  cases cut : cutAt '\t' line.toList with
  | none =>
    have absent := cutAt_eq_none.1 cut
    rw [List.splitOnP_eq_singleton (unbroken absent), List.takeWhile_eq_self_iff.2 (untabbed absent)]
    rfl
  | some parts =>
    obtain ⟨front, rest⟩ := parts
    obtain ⟨same, absent⟩ := cutAt_eq_some.1 cut
    rw [same, List.splitOnP_append_cons_of_forall_mem (unbroken absent) '\t' rfl,
      List.takeWhile_append_of_pos (untabbed absent), List.takeWhile_cons_of_neg (by decide), List.append_nil]
    rfl

theorem softwareLine?_isSome (unit : UInt64) (line : String) :
    (softwareLine? unit line).isSome = true ↔ NamesSoftware line := by
  have named : (trim ((tabColumns line).getD 0 "")).isEmpty = true ↔
      (line.toList.takeWhile (· != '\t')).all isBlank = true := by
    rw [head_tabColumns, trim, String.toList_ofList, ← trimChars_eq_nil, String.isEmpty_iff,
      ← String.toList_eq_nil_iff, String.toList_ofList]
  unfold softwareLine? NamesSoftware
  dsimp only
  split
  · rename_i nameless
    have blank := List.all_eq_true.1 (named.1 nameless)
    constructor
    · intro none
      cases none
    · rintro ⟨c, mem, solid⟩
      exact absurd (blank c mem) (by rw [solid]; decide)
  · rename_i nonempty
    rw [named, List.all_eq_true] at nonempty
    constructor
    · intro some
      simpa using nonempty
    · intro solid
      rfl

theorem softwareLine?_of_blank (blank : isBlankText line = true) (unit : UInt64) :
    softwareLine? unit line = none := by
  rw [← Option.not_isSome_iff_eq_none, softwareLine?_isSome]
  rintro ⟨c, mem, solid⟩
  have here := List.all_eq_true.1 blank c ((List.takeWhile_prefix _).subset mem)
  rw [solid] at here
  cases here

theorem aptLine?_isSome (line : String) : (aptLine? line).isSome = true ↔ OffersVersion line := by
  unfold aptLine?
  cases cut : cutAt '/' line.toList with
  | none =>
    constructor
    · intro none
      cases none
    · rintro ⟨name, rest, rfl, -, -⟩
      apply absurd _ (cutAt_eq_none.1 cut)
      simp
  | some parts =>
    obtain ⟨name, rest⟩ := parts
    obtain ⟨same, first⟩ := cutAt_eq_some.1 cut
    have offers : OffersVersion line ↔ 2 ≤ (words (String.ofList rest)).length := by
      constructor
      · rintro ⟨name', rest', rfl, first', long⟩
        have cut' : cutAt '/' (name' ++ "/" ++ rest').toList = some (name'.toList, rest'.toList) :=
          cutAt_eq_some.2 ⟨by simp, first'⟩
        cases cut.symm.trans cut'
        rwa [String.ofList_toList]
      · intro long
        refine ⟨String.ofList name, String.ofList rest, ?_, ?_, long⟩
        · rw [← String.toList_inj, same]
          simp
        · rwa [String.toList_ofList]
    rw [offers, Option.bind_some]
    dsimp only
    generalize words (String.ofList rest) = columns
    rcases columns with _ | ⟨source, _ | ⟨version, more⟩⟩ <;> simp

theorem aptLine?_of_blank (blank : isBlankText line = true) : aptLine? line = none := by
  rw [aptLine?, cutAt_of_blank (by decide) blank]
  rfl

theorem serviceLine?_isSome (states : List (String × String)) (line : String) :
    (serviceLine? states line).isSome = true ↔ ListsUnit line := by
  unfold serviceLine? ListsUnit
  generalize words line = columns
  rcases columns with _ | ⟨unit, _ | ⟨load, _ | ⟨active, _ | ⟨sub, description⟩⟩⟩⟩ <;> simp

theorem serviceLine?_of_blank (blank : isBlankText line = true)
    (states : List (String × String)) : serviceLine? states line = none := by
  rw [serviceLine?, words, wordsOf_of_blank blank]
  rfl

end Lines

theorem listings_read_by_line (unit : UInt64) (files : String) :
    LineByLine TellsMessage readJournal ∧ LineByLine NamesSoftware (readSoftware · unit) ∧
      LineByLine OffersVersion readAptUpgradable ∧ LineByLine ListsUnit (readServices · files) := by
  have journal : LineByLine TellsMessage readJournal :=
    lineByLine_of_reader (fun _ => rfl) journalLine?_isSome fun _ => journalLine?_of_blank
  have software : LineByLine NamesSoftware (readSoftware · unit) :=
    lineByLine_of_reader (fun _ => rfl) (softwareLine?_isSome unit) fun _ blank => softwareLine?_of_blank blank unit
  have apt : LineByLine OffersVersion readAptUpgradable :=
    lineByLine_of_reader (fun _ => rfl) aptLine?_isSome fun _ => aptLine?_of_blank
  have services : LineByLine ListsUnit (readServices · files) :=
    lineByLine_of_reader (fun _ => rfl) (serviceLine?_isSome (unitFileStates files)) fun _ blank =>
      serviceLine?_of_blank blank (unitFileStates files)
  exact ⟨journal, software, apt, services⟩

example : readAptUpgradable "Listing...\r\nvim/stable 9.1 amd64\r\n\r\nnano/stable\nzsh/stable 5.9 amd64" =
    [updateRecord "vim" "9.1", updateRecord "zsh" "5.9"] := by
  decide

end Steward.Inventory
