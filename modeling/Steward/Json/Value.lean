/-!
JSON values. Integers are kept apart from other numbers, whose 64-bit float is kept by its bits. The
members of an object stand in the order in which they were put; a look-up takes the last of equal names.
-/
namespace Steward.Json

inductive Value where
  | null
  | bool (b : Bool)
  | int (n : Int)
  | real (bits : UInt64)
  | text (s : String)
  | list (items : List Value)
  | object (members : List (String × Value))

namespace Value

def get? (name : String) : Value → Option Value
  | object members => members.reverse.lookup name
  | _ => none

def asText? : Value → Option String
  | text s => some s
  | _ => none

def asInt? : Value → Option Int
  | int n => some n
  | _ => none

def asBool? : Value → Option Bool
  | bool b => some b
  | _ => none

def asList? : Value → Option (List Value)
  | list items => some items
  | _ => none

/-- Replaces or adds a member of an object; other values stay as they are. -/
def put (name : String) (v : Value) : Value → Value
  | object members => object (members.filter (·.1 ≠ name) ++ [(name, v)])
  | other => other

def ofOption (write : α → Value) : Option α → Value
  | none => null
  | some a => write a

end Value
end Steward.Json
