import Steward.Json.Value
import Steward.Wire.Record

/-!
JSON documents in messages. The members of an object are written in the order of their names, each
name once; a float that is no number comes back as null.
-/
namespace Steward.Wire

/-- Replaces or adds the member in a list ordered by name. -/
def insertMember (name : String) (v : α) : List (String × α) → List (String × α)
  | [] => [(name, v)]
  | (n, w) :: rest =>
    if n = name then (name, v) :: rest
    else if name < n then (name, v) :: (n, w) :: rest
    else (n, w) :: insertMember name v rest

/-- Ordered by name; of equal names the last one stays. -/
def orderedMembers (members : List (String × α)) : List (String × α) :=
  members.foldl (fun done (name, v) => insertMember name v done) []

mutual

def Value.ofJson : Json.Value → Value
  | .null => .nil
  | .bool b => .bool b
  | .int n => if 0 ≤ n then .uint (UInt64.ofNat n.toNat) else .int (Int64.ofInt n)
  | .real bits => .float64 bits
  | .text s => .ofText s
  | .list items => .list (ofJsonItems items)
  | .object members =>
    .map ((orderedMembers (ofJsonMembers members)).map fun (name, v) => (.ofText name, v))

def ofJsonItems : List Json.Value → List Value
  | [] => []
  | v :: vs => Value.ofJson v :: ofJsonItems vs

def ofJsonMembers : List (String × Json.Value) → List (String × Value)
  | [] => []
  | (name, v) :: rest => (name, Value.ofJson v) :: ofJsonMembers rest

end

def jsonOfFloat (bits : UInt64) : Json.Value :=
  if (Float.ofBits bits).isFinite then .real bits else .null

def jsonKey? : Value → Option String
  | .text bytes => Steward.Text.ofUtf8? bytes
  | _ => none

mutual

def Value.toJson? : Value → Option Json.Value
  | .nil => some .null
  | .bool b => some (.bool b)
  | .uint n => some (.int n.toNat)
  | .int n => some (.int n.toInt)
  | .float32 bits => some (jsonOfFloat (widened bits))
  | .float64 bits => some (jsonOfFloat bits)
  | .text bytes => (Steward.Text.ofUtf8? bytes).map .text
  | .binary _ => none
  | .list items => (toJsonItems? items).map .list
  | .map entries => (toJsonMembers? entries).map fun ms => .object (orderedMembers ms)
  | .extension _ _ => none

def toJsonItems? : List Value → Option (List Json.Value)
  | [] => some []
  | v :: vs => do
    let j ← v.toJson?
    let js ← toJsonItems? vs
    return j :: js

def toJsonMembers? : List (Value × Value) → Option (List (String × Json.Value))
  | [] => some []
  | (key, v) :: rest => do
    let name ← jsonKey? key
    let j ← v.toJson?
    let js ← toJsonMembers? rest
    return (name, j) :: js

end

instance : Sendable Json.Value := ⟨Value.ofJson, Value.toJson?⟩

end Steward.Wire
