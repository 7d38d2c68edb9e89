import Steward.Yaml.Token

/-!
The document that a YAML text holds. Anchors are numbered by how many names there were before; an alias
stands for the last scalar that got the number of its name.
-/
namespace Steward.Yaml

structure Scalar where
  isPlain : Bool
  tag : Option String
  text : String
deriving DecidableEq

/-- A scalar that stands for nothing. -/
def Scalar.empty : Scalar := ⟨true, none, ""⟩

inductive Node where
  | scalar (s : Scalar)
  | alias (number : Nat)
  | list (items : List Node)
  | mapping (entries : List (Node × Node))

structure Document where
  root : Node
  /-- The anchored nodes by number, newest first, each with its scalar if it is one. -/
  anchored : List (Nat × Option Scalar)

/-- The words for nothing in a plain scalar. -/
def isNullWord (text : String) : Bool := ["~", "null", "Null", "NULL"].contains text

def nullTag : String := "tag:yaml.org,2002:null"

/-- The text of a scalar where there need not be any: no text when the scalar stands for nothing, and a
failure when it is marked as nothing and yet something. -/
def Scalar.optional? (s : Scalar) : Option (Option String) :=
  match s.isPlain, s.tag with
  | true, none => some (if s.text.isEmpty || isNullWord s.text then none else some s.text)
  | true, some tag =>
    if tag = nullTag then if isNullWord s.text then some none else none else some (some s.text)
  | false, _ => some (some s.text)

/-! From tokens to nodes. -/

structure Parse where
  tokens : List Token
  handles : List (String × String)
  names : List (String × Nat)
  anchored : List (Nat × Option Scalar)

abbrev ParseM := StateT Parse Option

namespace Parse

def peek? : ParseM (Option Token) := do return (← get).tokens.head?

def advance : ParseM Unit := modify fun p => { p with tokens := p.tokens.drop 1 }

/-- Numbers an anchor. -/
def anchor (name : String) (scalar : Option Scalar) : ParseM Unit :=
  modify fun p =>
    let number := p.names.length
    let names := if (p.names.lookup name).isSome
      then p.names.map fun (n, old) => if n = name then (n, number) else (n, old)
      else (name, number) :: p.names
    { p with names, anchored := (number, scalar) :: p.anchored }

/-- An anchor and a tag in front of a node, in either order. -/
def properties : ParseM (Option String × Option (String × String)) := do
  match ← peek? with
  | some (.anchor name) =>
    advance
    match ← peek? with
    | some (.tag handle suffix) =>
      advance
      return (some name, some (handle, suffix))
    | _ => return (some name, none)
  | some (.tag handle suffix) =>
    advance
    match ← peek? with
    | some (.anchor name) =>
      advance
      return (some name, some (handle, suffix))
    | _ => return (none, some (handle, suffix))
  | _ => return (none, none)

/-- The tag that a handle and a suffix stand for. -/
def resolve (tag : String × String) : ParseM String := do
  if tag.1.isEmpty then return tag.2
  match (← get).handles.lookup tag.1 with
  | some start => return start ++ tag.2
  | none => failure

mutual

/-- A node; where it stands decides whether it may be a block, and whether the items of a list need no
deeper indentation than the key they belong to. -/
def node (block flat : Bool) : Nat → ParseM Node
  | 0 => failure
  | fuel + 1 => do
    match ← peek? with
    | some (.alias name) =>
      advance
      match (← get).names.lookup name with
      | some number => return .alias number
      | none => failure
    | _ =>
      let (name, tag) ← properties
      let tag ← tag.mapM resolve
      let mark (scalar : Option Scalar) : ParseM Unit := do
        if let some name := name then anchor name scalar
      match ← peek?, block with
      | some (.scalar isPlain text), _ =>
        advance
        mark (some ⟨isPlain, tag, text⟩)
        return .scalar ⟨isPlain, tag, text⟩
      | some .listStart, _ =>
        advance
        mark none
        return .list (← flowItems true fuel)
      | some .mappingStart, _ =>
        advance
        mark none
        return .mapping (← flowEntries true fuel)
      | some .blockList, true =>
        advance
        mark none
        return .list (← blockItems fuel)
      | some .blockMapping, true =>
        advance
        mark none
        return .mapping (← blockEntries fuel)
      | next, _ =>
        if flat && next = some .item then
          mark none
          return .list (← flatItems fuel)
        else if name.isSome || tag.isSome then
          mark (some { Scalar.empty with tag })
          return .scalar { Scalar.empty with tag }
        else failure

/-- A node, or nothing in front of one of these tokens. -/
def nodeBefore (ends : List Token) (block flat : Bool) : Nat → ParseM Node
  | 0 => failure
  | fuel + 1 => do
    match ← peek? with
    | some t => if ends.contains t then return .scalar .empty else node block flat fuel
    | none => node block flat fuel

def blockItems : Nat → ParseM (List Node)
  | 0 => failure
  | fuel + 1 => do
    match ← peek? with
    | some .item =>
      advance
      let first ← nodeBefore [.item, .blockEnd] true false fuel
      return first :: (← blockItems fuel)
    | some .blockEnd =>
      advance
      return []
    | _ => failure

/-- The items of a list without a block of its own. -/
def flatItems : Nat → ParseM (List Node)
  | 0 => failure
  | fuel + 1 => do
    match ← peek? with
    | some .item =>
      advance
      let first ← nodeBefore [.item, .key, .value, .blockEnd] true false fuel
      return first :: (← flatItems fuel)
    | _ => return []

def blockEntries : Nat → ParseM (List (Node × Node))
  | 0 => failure
  | fuel + 1 => do
    match ← peek? with
    | some .key =>
      advance
      let key ← nodeBefore [.key, .value, .blockEnd] true true fuel
      let value ← valueBefore [.key, .value, .blockEnd] true fuel
      return (key, value) :: (← blockEntries fuel)
    | some .blockEnd =>
      advance
      return []
    | _ => failure

/-- The value behind a colon, or nothing. -/
def valueBefore (ends : List Token) (block : Bool) : Nat → ParseM Node
  | 0 => failure
  | fuel + 1 => do
    match ← peek? with
    | some .value =>
      advance
      nodeBefore ends block block fuel
    | _ => return .scalar .empty

/-- The items of a list in brackets; behind the first one each needs a comma. -/
def flowItems (isFirst : Bool) : Nat → ParseM (List Node)
  | 0 => failure
  | fuel + 1 => do
    if (← peek?) = some .listEnd then
      advance
      return []
    unless isFirst do
      if (← peek?) ≠ some .comma then failure
      advance
    match ← peek? with
    | some .listEnd =>
      advance
      return []
    | some .key =>
      advance
      let key ← keyOfItem fuel
      let value ← valueBefore [.comma, .listEnd] false fuel
      return .mapping [(key, value)] :: (← flowItems false fuel)
    | _ =>
      let first ← node false false fuel
      return first :: (← flowItems false fuel)

/-- The key of an item that is an entry; when it is missing, the token that shows it is lost. -/
def keyOfItem : Nat → ParseM Node
  | 0 => failure
  | fuel + 1 => do
    match ← peek? with
    | some .value | some .comma | some .listEnd =>
      advance
      return .scalar .empty
    | _ => node false false fuel

def flowEntries (isFirst : Bool) : Nat → ParseM (List (Node × Node))
  | 0 => failure
  | fuel + 1 => do
    if (← peek?) = some .mappingEnd then
      advance
      return []
    unless isFirst do
      if (← peek?) ≠ some .comma then failure
      advance
    match ← peek? with
    | some .mappingEnd =>
      advance
      return []
    | some .key =>
      advance
      let key ← nodeBefore [.value, .comma, .mappingEnd] false false fuel
      let value ← valueBefore [.comma, .mappingEnd] false fuel
      return (key, value) :: (← flowEntries false fuel)
    | _ =>
      let key ← node false false fuel
      return (key, .scalar .empty) :: (← flowEntries false fuel)

end

/-- The directives in front of a document: at most one version, and each handle at most once. -/
def directives : Nat → Bool → List (String × String) → ParseM (List (String × String))
  | 0, _, _ => failure
  | fuel + 1, versioned, handles => do
    match ← peek? with
    | some (.directive (.version major minor)) =>
      if versioned || major ≠ 1 || (minor ≠ 1 && minor ≠ 2) then failure
      advance
      directives fuel true handles
    | some (.directive (.handle name start)) =>
      if (handles.lookup name).isSome then failure
      advance
      directives fuel versioned ((name, start) :: handles)
    | _ => return handles

def defaultHandles : List (String × String) := [("!", "!"), ("!!", "tag:yaml.org,2002:")]

/-- A document with its marker and directives. -/
def explicitDocument (fuel : Nat) : ParseM Node := do
  let handles ← directives fuel false []
  modify fun p => { p with handles := handles ++ defaultHandles }
  if (← peek?) ≠ some .documentStart then failure
  advance
  match ← peek? with
  | none | some (.directive _) | some .documentStart | some .documentEnd => return .scalar .empty
  | _ => node true false fuel

/-- The first document; none in a text without any. -/
def document (fuel : Nat) : ParseM (Option Node) := do
  match ← peek? with
  | none => return none
  | some (.directive _) | some .documentStart => return some (← explicitDocument fuel)
  | _ =>
    modify fun p => { p with handles := defaultHandles }
    return some (← node true false fuel)

end Parse

/-- The only document of a text. -/
def Document.read? (text : String) : Option Document := do
  let tokens ← tokens? text
  let (root, p) ← (Parse.document (4 * tokens.length + 8)).run ⟨tokens, [], [], []⟩
  let root ← root
  if p.tokens.all (· = .documentEnd) then some ⟨root, p.anchored⟩ else none

/-- The scalar that a node is or stands for. -/
def Document.scalar? (d : Document) : Node → Option Scalar
  | .scalar s => some s
  | .alias number => (d.anchored.lookup number).join
  | _ => none

/-- The entries of the mapping that a text consists of, in their order. The keys are scalars; a value
that is none is absent. -/
def readEntries? (text : String) : Option (List (String × Option Scalar)) := do
  let d ← Document.read? text
  match d.root with
  | .mapping entries => entries.mapM fun (key, value) => (d.scalar? key).map fun k => (k.text, d.scalar? value)
  | _ => none

end Steward.Yaml
