import Steward.Shell.State

/-!
The conditions of `test`: one word, an operator with its operand, two operands around an operator, and
whole expressions of these when there are more than four words.
-/
namespace Steward.Shell

open Steward.Text

inductive TestFault where
  /-- A word stands where an operator with one operand has to be. -/
  | noUnary (word : String)
  /-- No operator stands between the two other words. -/
  | noBinary (left word : String)
  | tooMany (first : String)
  | noInteger (text : String)
deriving DecidableEq

def TestFault.message (d : Dialect) : TestFault → String
  | noUnary word => word ++ (if d = .posix then ": unexpected operator" else ": unary operator expected")
  | noBinary left word =>
    if d = .posix then left ++ ": unexpected operator" else word ++ ": binary operator expected"
  | tooMany first => if d = .posix then first ++ ": unexpected operator" else "too many arguments"
  | noInteger text =>
    if d = .posix then "Illegal number: " ++ text else text ++ ": integer expression expected"

/-- An operator with one operand, when it is one. -/
def unaryTest? (s : State) (op operand : String) : Option Bool :=
  let found := if operand.isEmpty then .nothing else s.changes.find (s.path operand)
  let isTool := (toolName? (s.path operand)).isSome
  match op with
  | "-n" => some !operand.isEmpty
  | "-z" => some operand.isEmpty
  | "-e" | "-r" | "-w" => some (found ≠ .nothing)
  | "-f" => some (match found with
    | .file _ => true
    | _ => false)
  | "-d" => some (found = .folder)
  | "-c" => some (found = .device)
  | "-x" => some (found = .folder || isTool)
  | "-s" => some (match found with
    | .file contents => !contents.isEmpty || plainFiles.contains (s.path operand) || isTool
    | .folder => true
    | _ => false)
  | "-L" | "-h" | "-b" | "-p" | "-S" | "-t" | "-g" | "-u" | "-k" => some false
  | "-O" | "-G" => some (found ≠ .nothing)
  | "-v" => if s.dialect = .bash then some (s.value? operand).isSome else none
  | _ => none

def integer (text : String) : Except TestFault Int :=
  match (trim text).toInt?, (trim text).toList with
  | some n, _ => .ok n
  | none, '+' :: cs => (digits? cs).elim (.error (.noInteger text)) fun n => .ok n
  | none, _ => .error (.noInteger text)

/-- An operator between two operands, when it is one. -/
def binaryTest? (d : Dialect) (left op right : String) : Except TestFault (Option Bool) :=
  let compare (holds : Int → Int → Bool) : Except TestFault (Option Bool) := do
    let a ← integer left
    let b ← integer right
    return some (holds a b)
  match op with
  | "=" => .ok (some (left = right))
  | "==" => .ok (if d = .bash then some (left = right) else none)
  | "!=" => .ok (some (left ≠ right))
  | "<" => .ok (some (left < right))
  | ">" => .ok (some (right < left))
  | "-eq" => compare fun a b => a = b
  | "-ne" => compare fun a b => a ≠ b
  | "-lt" => compare fun a b => a < b
  | "-le" => compare fun a b => a ≤ b
  | "-gt" => compare fun a b => b < a
  | "-ge" => compare fun a b => b ≤ a
  | "-nt" | "-ot" => .ok (some false)
  | "-ef" => .ok (some (left = right))
  | _ => .ok none

mutual

/-- Terms with `-o` and `-a` between them, and the words that are left. -/
def readTerms (s : State) : Nat → List String → Except TestFault (Bool × List String)
  | 0, ws => .ok (false, ws)
  | fuel + 1, ws => do
    let (a, rest) ← readTerm s fuel ws
    match rest with
    | "-a" :: rest =>
      let (b, rest) ← readTerms s fuel rest
      return (a && b, rest)
    | "-o" :: rest =>
      let (b, rest) ← readTerms s fuel rest
      return (a || b, rest)
    | rest => return (a, rest)

def readTerm (s : State) : Nat → List String → Except TestFault (Bool × List String)
  | 0, ws => .ok (false, ws)
  | fuel + 1, ws => do
    match ws with
    | [] => return (false, [])
    | [a] => return (!a.isEmpty, [])
    | "!" :: rest =>
      let (a, rest) ← readTerm s fuel rest
      return (!a, rest)
    | "(" :: rest =>
      let (a, rest) ← readTerms s fuel rest
      return (a, rest.drop 1)
    | a :: b :: rest =>
      match ← (rest.head?.elim (.ok none) fun c => binaryTest? s.dialect a b c), unaryTest? s a b with
      | some holds, _ => return (holds, rest.drop 1)
      | none, some holds => return (holds, rest)
      | none, none => return (!a.isEmpty, b :: rest)

end

/-- Whether a whole expression holds. -/
def holdsTerms (s : State) (ws : List String) : Except TestFault Bool := do
  match ← readTerms s (2 * ws.length + 2) ws with
  | (a, []) => return a
  | (_, _) => throw (.tooMany (ws.headD ""))

def holdsTest (s : State) (ws : List String) : Except TestFault Bool :=
  match ws with
  | [] => .ok false
  | [a] => .ok !a.isEmpty
  | [a, b] =>
    match a, unaryTest? s a b with
    | "!", _ => .ok b.isEmpty
    | _, some holds => .ok holds
    | a, none => .error (.noUnary a)
  | [a, b, c] => do
    match ← binaryTest? s.dialect a b c, a, b, c with
    | some holds, _, _, _ => return holds
    | none, a, "-a", c => return !a.isEmpty && !c.isEmpty
    | none, a, "-o", c => return !a.isEmpty || !c.isEmpty
    | none, "!", b, c =>
      match unaryTest? s b c with
      | some holds => return !holds
      | none => throw (.noUnary b)
    | none, "(", b, ")" => return !b.isEmpty
    | none, a, b, _ => throw (.noBinary a b)
  | [a, b, c, d] => do
    match ← binaryTest? s.dialect b c d, a with
    | some holds, "!" => return !holds
    | _, _ => holdsTerms s [a, b, c, d]
  | ws => holdsTerms s ws

end Steward.Shell
