import Steward.Web.Domain.Composition
import Steward.Web.Domain.Direction
import Steward.Web.Domain.Folding
import Steward.Web.Domain.Joining
import Steward.Web.Domain.Punycode

/-!
Domain names in ASCII. A name is folded and composed; then each of its labels has to be in order, and a
label with other characters is written as Punycode behind `xn--`. A label that comes in this form has to
be the one that would be written.
-/
namespace Steward.Web.Domain

open Steward.Text

def isAscii (ns : List Nat) : Bool := ns.all (· < 0x80)

/-- Characters of ASCII that no name has. -/
def isDenied (n : Nat) : Bool :=
  n ≤ 0x20 || n = 0x7F || ("%#/:<>?@[\\]^|".toList.map Char.toNat).contains n

/-- What stands in front of a label in Punycode. -/
def encodedMark : List Char := "xn--".toList

/-- The longest labels that are encoded, in code points, and decoded, in characters. -/
def encodeLimit : Nat := 1000

def decodeLimit : Nat := 2000

structure Label where
  points : List Nat
  /-- The label in ASCII, if it came so. -/
  given : Option (List Char)

/-- The label that stands behind the mark in Punycode. -/
def Label.decode? (cs : List Char) : Option Label := do
  let ns ← if cs.getLast? = some '-' || cs.isEmpty || decodeLimit < cs.length then none else Punycode.decode? cs
  let unchanged := ns.all (fun n => fold? n = some [n]) && compose ns = ns
  if unchanged && !isAscii ns && !ns.contains '.'.toNat && !(encodedMark.map Char.toNat).isPrefixOf ns then
    some ⟨ns, some (encodedMark ++ cs)⟩
  else none

def Label.ofPoints? (ns : List Nat) : Option Label :=
  match dropStart? encodedMark (ns.map Char.ofNat) with
  | some rest => if isAscii ns then Label.decode? rest else none
  | none => some ⟨ns, none⟩

/-- Whether the characters of a label may stand where they do. -/
def Label.isSound (l : Label) : Bool :=
  !l.points.any isDenied && !(l.points.head?.any isMark) && joinersFit [] l.points

def Label.ascii? (l : Label) : Option (List Char) :=
  match l.given with
  | some cs => some cs
  | none =>
    if isAscii l.points then some (l.points.map Char.ofNat)
    else if encodeLimit < l.points.length then none
    else some (encodedMark ++ Punycode.encode l.points)

/-- A name in its written form, if it is one. -/
def written? (name : List Char) : Option (List Char) := do
  let folded ← name.mapM fun c => fold? c.toNat
  let labels ← ((compose folded.flatten).splitOnP (· == '.'.toNat)).mapM Label.ofPoints?
  let directions := labels.map fun l => l.points.map direction
  let isStrict := directions.any fun ds => ds.any Direction.isStrict
  if labels.all Label.isSound && (!isStrict || directions.all keepsDirection) then
    let parts ← labels.mapM Label.ascii?
    return List.intercalate ['.'] parts
  else none

end Steward.Web.Domain
