import Steward.Web.Address
import Steward.Web.Domain.Name
import Steward.Web.Escape

/-!
Hosts in their written form. A host is an address in brackets, or else, in a URL of the web, a domain name
or an address with dots, and in other URLs any text without delimiters.
-/
namespace Steward.Web

open Steward.Text

/-- An address in brackets. -/
def bracketed? (host : List Char) : Option String :=
  match host, host.getLast? with
  | '[' :: rest, some ']' => (colonPieces? rest.dropLast).map fun pieces => "[" ++ writtenColons pieces ++ "]"
  | _, _ => none

/-- A domain name or an address with dots. -/
def webHost? (host : List Char) : Option String := do
  if host.head? = some '[' then bracketed? host
  else
    let name ← Domain.written? (← unescaped? host)
    if name.isEmpty then none
    else if endsInNumber name then (dotted? name).map writtenDotted
    else some (String.ofList name)

def isDelimiter (c : Char) : Bool :=
  c.toNat = 0 || c.toNat = 9 || c.toNat = 10 || c.toNat = 13 || " #/:<>?@[\\]^|".toList.contains c

/-- A host of which nothing is known; it may be empty. -/
def opaqueHost? (host : List Char) : Option String :=
  if host.head? = some '[' then bracketed? host
  else if host.any isDelimiter then none
  else some (String.ofList (escape .opaquePart host))

end Steward.Web
