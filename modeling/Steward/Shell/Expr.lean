import Steward.Shell.Filters

/-!
The expressions of `expr`, whose operators and operands are words of their own. A value counts as false
when it is empty or zero.
-/
namespace Steward.Shell

open Steward.Text

/-- Operators of `expr` from the loosest to the tightest. -/
def exprLevels : List (List String) :=
  [["|"], ["&"], ["=", "==", "!=", "<", "<=", ">", ">="], ["+", "-"], ["*", "/", "%"], [":"]]

inductive ExprFault where
  | syntax_ (message : String)
  | zeroDivisor
  | noInteger

def exprNull (a : String) : Bool := a.isEmpty || a.toInt? = some 0

def exprApply (op a b : String) : Except ExprFault String :=
  let numbers (f : Int → Int → Except ExprFault Int) : Except ExprFault String :=
    match a.toInt?, b.toInt? with
    | some x, some y => (f x y).map signed
    | _, _ => .error .noInteger
  let compare (byNumber : Int → Int → Bool) (byText : String → String → Bool) : Except ExprFault String :=
    let holds := match a.toInt?, b.toInt? with
      | some x, some y => byNumber x y
      | _, _ => byText a b
    .ok (if holds then "1" else "0")
  match op with
  | "|" => .ok (if exprNull a then if exprNull b then "0" else b else a)
  | "&" => .ok (if exprNull a || exprNull b then "0" else a)
  | "=" | "==" => compare (fun x y => x = y) (fun x y => x = y)
  | "!=" => compare (fun x y => x ≠ y) (fun x y => x ≠ y)
  | "<" => compare (fun x y => x < y) (fun x y => x < y)
  | "<=" => compare (fun x y => x ≤ y) (fun x y => x = y || x < y)
  | ">" => compare (fun x y => y < x) (fun x y => y < x)
  | ">=" => compare (fun x y => y ≤ x) (fun x y => x = y || y < x)
  | "+" => numbers fun x y => .ok (x + y)
  | "-" => numbers fun x y => .ok (x - y)
  | "*" => numbers fun x y => .ok (x * y)
  | "/" => numbers fun x y => if y = 0 then .error .zeroDivisor else .ok (x.tdiv y)
  | "%" => numbers fun x y => if y = 0 then .error .zeroDivisor else .ok (x.tmod y)
  | _ =>
    let found := (Regex.readBasic? ("^" ++ b)).bind fun r => r.firstMatch? a.toList
    .ok (padded 1 ((found.map List.length).getD 0))

mutual

def exprLevel : Nat → List (List String) → String → List String → Except ExprFault (String × List String)
  | 0, _, _, ws => .ok ("", ws)
  | fuel + 1, [], before, ws => exprOne fuel before ws
  | fuel + 1, ops :: tighter, before, ws => do
    let (a, rest) ← exprLevel fuel tighter before ws
    exprMore fuel ops tighter a rest

def exprMore : Nat → List String → List (List String) → String → List String →
    Except ExprFault (String × List String)
  | 0, _, _, a, ws => .ok (a, ws)
  | fuel + 1, ops, tighter, a, ws =>
    match ws with
    | op :: rest =>
      if ops.contains op then do
        let (b, rest) ← exprLevel fuel tighter op rest
        exprMore fuel ops tighter (← exprApply op a b) rest
      else .ok (a, ws)
    | [] => .ok (a, [])

def exprOne : Nat → String → List String → Except ExprFault (String × List String)
  | 0, _, ws => .ok ("", ws)
  | fuel + 1, before, ws =>
    match ws with
    | [] => .error (.syntax_ ("missing argument after '" ++ before ++ "'"))
    | "(" :: rest => do
      let (a, rest) ← exprLevel fuel exprLevels "(" rest
      return (a, rest.drop 1)
    | "length" :: a :: rest => .ok (padded 1 a.utf8ByteSize, rest)
    | a :: rest => .ok (a, rest)

end

def expression (tool : String) (args : List String) : Sh Unit := do
  match args, exprLevel (20 * args.length + 20) exprLevels "" args with
  | [], _ => misuse tool "missing operand" 2
  | _, .error .zeroDivisor => report tool "division by zero" 2
  | _, .error .noInteger => report tool "non-integer argument" 2
  | _, .error (.syntax_ message) => report tool ("syntax error: " ++ message) 2
  | _, .ok (a, []) =>
    write (utf8 (a ++ "\n"))
    setStatus (if exprNull a then 1 else 0)
  | _, .ok (_, rest) => report tool ("syntax error: unexpected argument '" ++ rest.headD "" ++ "'") 2

end Steward.Shell
