/-!
Shell command lines as trees. A word is a list of parts, some of them quoted; a script is a list of
items, each of which is a chain of pipelines.
-/
namespace Steward.Shell

/-- The two shells: the one that keeps to the standard and the one with arrays and conditions. -/
inductive Dialect where
  | posix
  | bash
deriving DecidableEq

/-- When a parameter counts as missing. -/
inductive Missing where
  | unset
  /-- Also when its value is empty. -/
  | empty
deriving DecidableEq

/-- Where a match is replaced. -/
inductive Place where
  | first
  | every
  | front
  | back
deriving DecidableEq

/-- What is done with the value of a parameter, with the words that say how. -/
inductive ParamOp where
  | value
  | length
  /-- The value is the name of another parameter. -/
  | named
  | ifSet (m : Missing)
  | orElse (m : Missing)
  | orAssign (m : Missing)
  | orFail (m : Missing)
  | dropFront (longest : Bool)
  | dropBack (longest : Bool)
  /-- From a position on, perhaps with a length. -/
  | slice
  | replace (place : Place)
  | upper (all : Bool)
  | lower (all : Bool)
  /-- No such operation; the whole text is kept. -/
  | unknown (text : String)
deriving DecidableEq

inductive RedirectMode where
  | read
  | write
  | append
  | duplicate
  /-- The text itself is read. -/
  | here
deriving DecidableEq

mutual

inductive Part where
  | text (quoted : Bool) (cs : List Char)
  | param (quoted : Bool) (name : String) (index : Option String) (op : ParamOp)
      (words : List (List Part))
  /-- What a script writes. -/
  | output (quoted : Bool) (body : List Item)
  /-- An arithmetic expression. -/
  | sum (quoted : Bool) (expression : List Part)

inductive Redirect where
  | mk (fd : Nat) (mode : RedirectMode) (target : List Part)

inductive Assignment where
  | scalar (name : String) (index : Option String) (appends : Bool) (word : List Part)
  | array (name : String) (appends : Bool) (words : List (List Part))

inductive Command where
  /-- A command of words, with the number of characters that are left where it starts. -/
  | simple (left : Nat) (assignments : List Assignment) (words : List (List Part))
      (redirects : List Redirect)
  | redirected (command : Command) (redirects : List Redirect)
  | group (body : List Item)
  | subshell (body : List Item)
  | branch (test yes no : List Item)
  | loop (goal : Bool) (test body : List Item)
  /-- Without words it goes through the arguments. -/
  | each (name : String) (words : Option (List (List Part))) (body : List Item)
  /-- A loop over three arithmetic expressions. -/
  | count (first test next : List Part) (body : List Item)
  /-- Each arm with whether the arm behind it is run as well. -/
  | choice (word : List Part) (arms : List (List (List Part) × List Item × Bool))
  /-- A condition in double brackets. -/
  | condition (words : List (List Part))
  /-- An arithmetic expression in double parentheses. -/
  | sum (expression : List Part)
  | define (name : String) (body : Command)

inductive Pipeline where
  | mk (negated : Bool) (stages : List Command)

/-- Pipelines, each but the first with whether it is run after a success or after a failure. -/
inductive Item where
  | mk (first : Pipeline) (rest : List (Bool × Pipeline)) (background : Bool)

end

abbrev Word := List Part

abbrev Script := List Item

end Steward.Shell
