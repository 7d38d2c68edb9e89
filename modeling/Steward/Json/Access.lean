import Steward.Json.Value

/-!
Lenient access to documents. A member that is not there reads as null, and a value of another kind
than the one asked for as the stated default.
-/
namespace Steward.Json.Value

def at_ (j : Value) (name : String) : Value := (j.get? name).getD .null

def has (j : Value) (name : String) : Bool := (j.get? name).isSome

def textOr (other : String) (j : Value) : String := j.asText?.getD other

def textAt? (j : Value) (name : String) : Option String := (j.at_ name).asText?

def textAt (j : Value) (name : String) : String := (j.textAt? name).getD ""

def intAt (j : Value) (name : String) (other : Int) : Int := (j.at_ name).asInt?.getD other

def natAt (j : Value) (name : String) (other : Nat) : Nat := (j.intAt name other).toNat

def boolAt (j : Value) (name : String) : Bool := (j.at_ name).asBool?.getD false

/-- Whether a member is there and neither null, false nor zero. -/
def flagAt (j : Value) (name : String) : Bool :=
  match j.at_ name with
  | .null => false
  | .bool b => b
  | .int n => n != 0
  | _ => true

def items (j : Value) : List Value := j.asList?.getD []

def listAt (j : Value) (name : String) : List Value := (j.at_ name).items

def textsAt (j : Value) (name : String) : List String := (j.listAt name).map (textOr "")

def members : Value → List (String × Value)
  | object ms => ms
  | _ => []

def nat (n : Nat) : Value := .int n

def texts (ss : List String) : Value := .list (ss.map .text)

end Steward.Json.Value
