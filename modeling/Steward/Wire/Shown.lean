import Steward.Text.Decimal
import Steward.Text.Hex
import Steward.Wire.Document

/-!
Message values shown as JSON documents. Other than with `Value.toJson?`, every value can be shown: a
float by the bits of a double, bytes as text where they are text, an extension by its digits.
-/
namespace Steward.Wire

def shownFloat (bits : UInt64) : Json.Value := .text ("f64:" ++ Steward.Text.hex16 bits)

def shownName : Json.Value → String
  | .text name => name
  | _ => ""

mutual

def Value.shown : Value → Json.Value
  | .nil => .null
  | .bool b => .bool b
  | .uint n => .int n.toNat
  | .int n => .int n.toInt
  | .float32 bits => shownFloat (widened bits)
  | .float64 bits => shownFloat bits
  | .text utf8 => .text (Steward.Text.decodeLossy utf8)
  | .binary bytes => .text (Steward.Text.decodeLossy bytes)
  | .list items => .list (shownItems items)
  | .map entries => .object (shownEntries entries)
  | .extension _ bytes => .text (Steward.Text.hexOfBytes bytes)

def shownItems : List Value → List Json.Value
  | [] => []
  | v :: vs => v.shown :: shownItems vs

def shownEntries : List (Value × Value) → List (String × Json.Value)
  | [] => []
  | (k, v) :: rest => (shownName k.shown, v.shown) :: shownEntries rest

end

end Steward.Wire
