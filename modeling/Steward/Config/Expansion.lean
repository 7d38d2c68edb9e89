import Steward.Text.Line

/-!
References to environment variables in configured texts. A reference starts with a dollar sign and an
opening brace and ends at the first closing brace behind it; the text is read once from left to right,
and what a variable holds is not read again.
-/
namespace Steward.Config

open Steward.Text

/-- The environment: the values of the variables that are set. -/
abbrev Environment := String → Option String

/-- The variables that are listed. -/
def Environment.ofList (listed : List (String × String)) : Environment := fun name =>
  listed.lookup name

/-- A piece of a text with references. -/
inductive Piece where
  | literal (c : Char)
  | reference (name : List Char)
deriving DecidableEq

/-- Splits a text into its pieces. An opening without a closing brace behind it is literal, together
with all that follows. -/
def pieces : Nat → List Char → List Piece
  | 0, _ => []
  | _ + 1, [] => []
  | fuel + 1, '$' :: '\x7b' :: rest =>
    match cutAt '\x7d' rest with
    | some (name, after) => .reference name :: pieces fuel after
    | none => ('$' :: '\x7b' :: rest).map .literal
  | fuel + 1, c :: rest => .literal c :: pieces fuel rest

def Piece.value (env : Environment) : Piece → List Char
  | literal c => [c]
  | reference name => ((env (String.ofList name)).getD "").toList

/-- Replaces each reference by the value of its variable; a variable that is not set counts as
empty. -/
def expand (env : Environment) (text : String) : String :=
  String.ofList ((pieces (text.length + 1) text.toList).flatMap (Piece.value env))

/-- The names of the variables that a text refers to. -/
def references (text : String) : List String :=
  (pieces (text.length + 1) text.toList).filterMap fun
    | .reference name => some (String.ofList name)
    | .literal _ => none

end Steward.Config
