import Steward.Wire.Record

/-!
The free-form arguments of a command: a map from names to texts. Putting a name again replaces its
text, so of several entries with one name in a message the last counts.
-/
namespace Steward.Message

open Steward.Wire

structure Arguments where
  entries : List (String × String)
  nodup : (entries.map Prod.fst).Nodup

namespace Arguments

def empty : Arguments := ⟨[], List.nodup_nil⟩

def get? (args : Arguments) (name : String) : Option String := args.entries.lookup name

/-- Replaces the text of `name` where it stands, or adds the entry at the end. -/
def putEntry (name text : String) : List (String × String) → List (String × String)
  | [] => [(name, text)]
  | (n, t) :: rest => if n = name then (name, text) :: rest else (n, t) :: putEntry name text rest

theorem mem_putEntry {name text n : String} {entries : List (String × String)} :
    n ∈ (putEntry name text entries).map Prod.fst ↔ n = name ∨ n ∈ entries.map Prod.fst := by
  induction entries with
  | nil => simp [putEntry]
  | cons e rest ih =>
    obtain ⟨k, t⟩ := e
    by_cases h : k = name
    · simp [putEntry, h]
    · simp only [putEntry, h, if_false, List.map_cons, List.mem_cons, ih]
      constructor
      · rintro (h | h | h) <;> simp [h]
      · rintro (h | h | h) <;> simp [h]

theorem nodup_putEntry {name text : String} {entries : List (String × String)}
    (h : (entries.map Prod.fst).Nodup) : ((putEntry name text entries).map Prod.fst).Nodup := by
  induction entries with
  | nil => simp [putEntry]
  | cons e rest ih =>
    obtain ⟨k, t⟩ := e
    simp only [List.map_cons, List.nodup_cons] at h
    by_cases hk : k = name
    · subst hk
      simpa [putEntry] using h
    · simp only [putEntry, hk, if_false, List.map_cons, List.nodup_cons]
      refine ⟨fun mem => ?_, ih h.2⟩
      rcases mem_putEntry.1 mem with same | old
      · exact hk same
      · exact h.1 old

def put (args : Arguments) (name text : String) : Arguments :=
  ⟨putEntry name text args.entries, nodup_putEntry args.nodup⟩

def ofList (entries : List (String × String)) : Arguments :=
  entries.foldl (fun args (name, text) => args.put name text) empty

def readEntry? (entry : Value × Value) : Option (String × String) := do
  let name ← entry.1.asText?
  let text ← entry.2.asText?
  return (name, text)

def ofValue? : Value → Option Arguments
  | .map entries => (entries.mapM readEntry?).map ofList
  | _ => none

def toValue (args : Arguments) : Value :=
  .map (args.entries.map fun (name, text) => (.ofText name, .ofText text))

instance : Sendable Arguments := ⟨toValue, ofValue?⟩

end Arguments
end Steward.Message
