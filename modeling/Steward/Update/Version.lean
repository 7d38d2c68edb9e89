import Steward.Text.Line
import Steward.Text.Numeral

/-!
Versions of the agent, after Semantic Versioning 2.0: three numbers below 2^64, then perhaps
identifiers of a pre-release and of a build. Texts that are not exactly a version are refused.

`Version.le` orders by precedence first, and versions that differ in their build alone by the build;
`samePrecedence` looks at precedence only.
-/
namespace Steward.Update

open Steward.Text

/-- One identifier of a pre-release or a build. -/
abbrev Identifier := List Char

structure Version where
  major : Nat
  minor : Nat
  patch : Nat
  pre : List Identifier
  build : List Identifier
deriving DecidableEq

def isIdentifierChar (c : Char) : Bool :=
  isDigit c || ('a' ≤ c && c ≤ 'z') || ('A' ≤ c && c ≤ 'Z') || c = '-'

def isNumeric (i : Identifier) : Bool := i.all isDigit

def hasLeadingZero (i : Identifier) : Bool :=
  match i with
  | '0' :: _ :: _ => true
  | _ => false

/-- A number of the version proper, without zeros in front. -/
def number? (cs : List Char) : Option Nat :=
  if hasLeadingZero cs then none else (digits? cs).filter (· < 0x10000000000000000)

def identifiers? (admits : Identifier → Bool) (cs : List Char) : Option (List Identifier) :=
  let is := cs.splitOnP (· == '.')
  if is.all fun i => !i.isEmpty && i.all isIdentifierChar && admits i then some is else none

/-- Splits at the first separator; without one there is nothing behind it. -/
def cutOptional (sep : Char) (cs : List Char) : List Char × Option (List Char) :=
  match cutAt sep cs with
  | some (before, after) => (before, some after)
  | none => (cs, none)

/-- The identifiers behind a separator, none when the separator is not there. -/
def optionalIdentifiers? (admits : Identifier → Bool) : Option (List Char) → Option (List Identifier)
  | none => some []
  | some cs => identifiers? admits cs

def Version.ofChars? (cs : List Char) : Option Version := do
  let (front, build) := cutOptional '+' cs
  let (core, pre) := cutOptional '-' front
  let build ← optionalIdentifiers? (fun _ => true) build
  let pre ← optionalIdentifiers? (fun i => !(isNumeric i && hasLeadingZero i)) pre
  match core.splitOnP (· == '.') with
  | [a, b, c] =>
    let major ← number? a
    let minor ← number? b
    let patch ← number? c
    return { major, minor, patch, pre, build }
  | _ => none

def Version.ofText? (s : String) : Option Version := Version.ofChars? s.toList

def joined (is : List Identifier) : String := join "." (is.map String.ofList)

def Version.text (v : Version) : String :=
  join "." [padded 1 v.major, padded 1 v.minor, padded 1 v.patch] ++
    (if v.pre.isEmpty then "" else "-" ++ joined v.pre) ++
    (if v.build.isEmpty then "" else "+" ++ joined v.build)

/-- Compares texts character by character; a text comes before its continuations. -/
def compareChars : List Char → List Char → Ordering
  | [], [] => .eq
  | [], _ :: _ => .lt
  | _ :: _, [] => .gt
  | a :: as, b :: bs => (compare a.toNat b.toNat).then (compareChars as bs)

/-- Numeric identifiers by value and below the others. Of equal values that differ in their zeros in
front the shorter comes first. -/
def compareIdentifiers (a b : Identifier) : Ordering :=
  match isNumeric a, isNumeric b with
  | true, true => (compare (valueOf a) (valueOf b)).then (compare a.length b.length)
  | true, false => .lt
  | false, true => .gt
  | false, false => compareChars a b

/-- Identifier by identifier; a list comes before its continuations. -/
def compareLists : List Identifier → List Identifier → Ordering
  | [], [] => .eq
  | [], _ :: _ => .lt
  | _ :: _, [] => .gt
  | a :: as, b :: bs => (compareIdentifiers a b).then (compareLists as bs)

/-- A release comes after all its pre-releases. -/
def comparePre : List Identifier → List Identifier → Ordering
  | [], [] => .eq
  | [], _ :: _ => .gt
  | _ :: _, [] => .lt
  | as, bs => compareLists as bs

namespace Version

def comparePrecedence (a b : Version) : Ordering :=
  (compare a.major b.major).then ((compare a.minor b.minor).then
    ((compare a.patch b.patch).then (comparePre a.pre b.pre)))

def compareAll (a b : Version) : Ordering := (a.comparePrecedence b).then (compareLists a.build b.build)

def le (a b : Version) : Bool := (a.compareAll b).isLE

def samePrecedence (a b : Version) : Bool := a.comparePrecedence b == .eq

end Version
end Steward.Update
