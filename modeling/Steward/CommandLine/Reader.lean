/-!
Reading command lines: options with a value each, written as two words or with an equals sign, then
the name of a command and all that stands behind it. A word that starts with a hyphen is never a
value, except a hyphen alone. Two hyphens alone say that only plain words follow, of which there must
be none.

A value is looked at when the next option comes or the words have ended. A call for help behind a
command therefore wins over an unusable value in front of it.
-/
namespace Steward.CommandLine

structure OptionRule where
  name : String
  about : String
  /-- Whether a value can be used. -/
  accepts : String → Bool
  required : Bool
  /-- What an option that is not given stands for. -/
  fallback : Option String
  /-- The only values, where there are few. -/
  choices : List String

structure Grammar where
  /-- The command whose words these are, if they are not those of the program. -/
  topic : Option String
  options : List OptionRule
  commands : List String
  tellsVersion : Bool

/-- Why there is nothing to carry out. -/
inductive Stop where
  /-- Help is asked for, on a command or on the program. -/
  | help (topic : Option String)
  | version
  | unusable
deriving DecidableEq

/-- Options that were given, with their values. -/
abbrev Given := List (String × String)

def Given.add (given : Given) (rule : OptionRule) (value : String) : Except Stop Given :=
  if (given.lookup rule.name).isSome || !rule.accepts value then .error .unusable
  else .ok (given ++ [(rule.name, value)])

/-- What was read so far; the last option waits for its value, or has one that was not looked at. -/
structure Reading where
  given : Given
  pending : Option (OptionRule × Option String)

namespace Reading

def start : Reading := ⟨[], none⟩

def isWaiting (r : Reading) : Bool := r.pending.any (·.2.isNone)

def settle (r : Reading) : Except Stop Given :=
  match r.pending with
  | none => .ok r.given
  | some (_, none) => .error .unusable
  | some (rule, some value) => r.given.add rule value

/-- Stops for a good reason, unless what came before was unusable. -/
def stop (r : Reading) (why : Stop) : Except Stop α := do
  let _ ← r.settle
  .error why

end Reading

inductive Word where
  | ending
  | long (name : String) (attached : Option String)
  | short (letter : Char)
  | plain (text : String)
deriving DecidableEq

def Word.ofText (text : String) : Word :=
  match text.toList with
  | ['-', '-'] => .ending
  | '-' :: '-' :: cs =>
    let name := String.ofList (cs.takeWhile (· ≠ '='))
    match cs.dropWhile (· ≠ '=') with
    | _ :: value => .long name (some (String.ofList value))
    | [] => .long name none
  | '-' :: letter :: _ => .short letter
  | _ => .plain text

namespace Grammar

/-- The stop that an option asks for, if it is one of those. -/
def longStop? (g : Grammar) (name : String) : Option Stop :=
  if name = "help" then some (.help g.topic)
  else if g.tellsVersion && name = "version" then some .version
  else none

def shortStop? (g : Grammar) (letter : Char) : Option Stop :=
  if letter = 'h' then some (.help g.topic)
  else if g.tellsVersion && letter = 'V' then some .version
  else none

def readLong (g : Grammar) (r : Reading) (name : String) (attached : Option String) :
    Except Stop Reading := do
  match g.longStop? name, attached with
  | some why, none => r.stop why
  | some _, some _ => .error .unusable
  | none, _ =>
    match g.options.find? (·.name = name) with
    | none => .error .unusable
    | some rule =>
      let given ← r.settle
      match attached with
      | some value => return ⟨← given.add rule value, none⟩
      | none => return ⟨given, some (rule, none)⟩

def readPlain (r : Reading) (text : String) : Except Stop Reading :=
  match r.pending with
  | some (rule, none) => .ok { r with pending := some (rule, some text) }
  | _ => .error .unusable

/-- Reads up to the name of a command, and answers it with the words behind it. -/
def read (g : Grammar) : Reading → List String → Except Stop (Reading × Option (String × List String))
  | r, [] => .ok (r, none)
  | r, word :: words =>
    if !r.isWaiting && g.commands.contains word then .ok (r, some (word, words))
    else
      match Word.ofText word with
      | .ending => if words.isEmpty then .ok (r, none) else .error .unusable
      | .long name attached =>
        match g.readLong r name attached with
        | .ok r => read g r words
        | .error why => .error why
      | .short letter =>
        match g.shortStop? letter with
        | some why => r.stop why
        | none => .error .unusable
      | .plain text =>
        match readPlain r text with
        | .ok r => read g r words
        | .error why => .error why

end Grammar
end Steward.CommandLine
