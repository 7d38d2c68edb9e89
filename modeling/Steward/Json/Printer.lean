import Steward.Json.Value
import Steward.Text.Decimal

/-!
Writing JSON texts, without blanks. Quotes, backslashes and control characters are escaped; all other
characters stand for themselves.
-/
namespace Steward.Json

open Steward.Text

def writtenChar (c : Char) : String :=
  if c = '"' then "\\\""
  else if c = '\\' then "\\\\"
  else if c = '\n' then "\\n"
  else if c = '\r' then "\\r"
  else if c = '\t' then "\\t"
  else if c = Char.ofNat 8 then "\\b"
  else if c = Char.ofNat 12 then "\\f"
  else if c.toNat < 0x20 then
    "\\u00" ++ String.ofList [hexDigit (c.toNat / 16), hexDigit (c.toNat % 16)]
  else c.toString

def writtenText (s : String) : String :=
  "\"" ++ String.join (s.toList.map writtenChar) ++ "\""

mutual

def Value.write : Value → String
  | .null => "null"
  | .bool true => "true"
  | .bool false => "false"
  | .int n => signed n
  | .real bits => decimalOfBits bits
  | .text s => writtenText s
  | .list items => "[" ++ String.intercalate "," (writeItems items) ++ "]"
  | .object members => "\x7b" ++ String.intercalate "," (writeMembers members) ++ "\x7d"

def writeItems : List Value → List String
  | [] => []
  | v :: vs => v.write :: writeItems vs

def writeMembers : List (String × Value) → List String
  | [] => []
  | (name, v) :: rest => (writtenText name ++ ":" ++ v.write) :: writeMembers rest

end

end Steward.Json
