import Steward.Shell.Reader

/-!
Arithmetic expressions of shells. Numbers are integers of 64 bits that wrap around. An expression is
read whole before anything in it is computed; an assignment changes what later names stand for.
-/
namespace Steward.Shell

open Steward.Text

inductive SumFault where
  /-- An operand is missing where this is left. -/
  | operand (rest : Chars)
  /-- Something is left behind the expression. -/
  | trailing (rest : Chars)
  | badOperator (rest : Chars)
  | zeroDivisor (rest : Chars)
  /-- Digits that the base does not have. -/
  | tooGreat (digits : Chars)
  /-- The value of a name is no number. -/
  | noNumber (text : String)
  /-- Only variables can be assigned to. -/
  | noVariable (rest : Chars)

def SumFault.message (d : Dialect) (text : String) (fault : SumFault) : String :=
  let place (what : String) (rest : Chars) : String :=
    String.ofList (text.toList.dropWhile isBlank) ++ ": " ++ what ++ " (error token is \"" ++
      String.ofList rest ++ "\")"
  match d, fault with
  | .posix, noNumber value => "Illegal number: " ++ value
  | .posix, operand _ => "arithmetic expression: expecting primary: \"" ++ text ++ "\""
  | .posix, zeroDivisor _ => "arithmetic expression: division by zero: \"" ++ text ++ "\""
  | .posix, _ => "arithmetic expression: expecting EOF: \"" ++ text ++ "\""
  | .bash, operand rest => place "syntax error: operand expected" rest
  | .bash, trailing rest => place "syntax error in expression" rest
  | .bash, badOperator rest => place "syntax error: invalid arithmetic operator" rest
  | .bash, zeroDivisor rest => place "division by 0" rest
  | .bash, tooGreat digits => place "value too great for base" digits
  | .bash, noNumber value => place "syntax error in expression" value.toList
  | .bash, noVariable rest => place "attempted assignment to non-variable" rest

def wrap (n : Int) : Int := n.bmod 0x10000000000000000

inductive Token where
  | number (n : Int)
  | name (s : String)
  | mark (s : String)
deriving DecidableEq

/-- Marks, those that start with another one first. -/
def sumMarks (d : Dialect) : List String :=
  (if d = .bash then ["**=", "**", "++", "--", ","] else []) ++
    ["<<=", ">>=", "<=", ">=", "==", "!=", "&&", "||", "<<", ">>", "+=", "-=", "*=", "/=", "%=", "&=",
     "|=", "^=", "+", "-", "*", "/", "%", "(", ")", "<", ">", "!", "~", "&", "|", "^", "?", ":", "="]

/-- The value of digits in a base, letters standing for the digits from ten on. -/
def inBase? (base : Nat) (cs : Chars) : Option Nat :=
  cs.foldl (fun n c => n.bind fun n =>
    let digit :=
      if isDigit c then digitValue c
      else if c.isLower then c.toNat - 'a'.toNat + 10
      else if c.isUpper then c.toNat - 'A'.toNat + 10
      else base
    if digit < base then some (n * base + digit) else none) (some 0)

/-- A number in front of a text, and its length. -/
def readNumber (d : Dialect) (cs : Chars) : Except SumFault (Int × Nat) :=
  let clamp (n : Nat) : Int := if d = .posix then min n 0x7fffffffffffffff else wrap n
  let word := cs.takeWhile fun c => c.isAlphanum || (d = .bash && c = '#')
  match word with
  | '0' :: x :: digits =>
    if x = 'x' || x = 'X' then
      let digits := if d = .bash then digits else digits.takeWhile fun c => (hexDigitValue? c).isSome
      match inBase? 16 digits with
      | some n => .ok (clamp n, digits.length + 2)
      | none => .error (.tooGreat word)
    else
      let octal := if d = .bash then x :: digits else (x :: digits).takeWhile fun c => '0' ≤ c && c ≤ '7'
      match inBase? 8 octal with
      | some n => .ok (clamp n, octal.length + 1)
      | none => .error (.tooGreat word)
  | word =>
    match cutAt '#' word with
    | some (base, digits) =>
      match inBase? (valueOf base) digits with
      | some n => .ok (clamp n, word.length)
      | none => .error (.tooGreat word)
    | none =>
      let digits := word.takeWhile isDigit
      if d = .bash && digits.length < word.length then .error (.tooGreat word)
      else .ok (clamp (valueOf digits), digits.length)

/-- The tokens of an expression, each with the text from it on. -/
def sumTokens (d : Dialect) : Nat → Chars → Except SumFault (List (Token × Chars))
  | 0, _ => .ok []
  | _ + 1, [] => .ok []
  | fuel + 1, c :: cs =>
    if isBlank c then sumTokens d fuel cs
    else if isDigit c then do
      let (n, width) ← readNumber d (c :: cs)
      return (.number n, c :: cs) :: (← sumTokens d fuel ((c :: cs).drop width))
    else if isNameStart c then do
      let name := (c :: cs).takeWhile isNameChar
      return (.name (String.ofList name), c :: cs) :: (← sumTokens d fuel ((c :: cs).drop name.length))
    else match (sumMarks d).find? fun m => m.toList.isPrefixOf (c :: cs) with
      | some m => do
        return (.mark m, c :: cs) :: (← sumTokens d fuel ((c :: cs).drop m.length))
      | none => if c = '"' || c = '\'' || c = '$' then .error (.operand (c :: cs)) else .error (.badOperator (c :: cs))

inductive Expression where
  | number (n : Int)
  | named (s : String)
  | unary (op : String) (a : Expression)
  | binary (op : String) (a b : Expression) (rest : Chars)
  | choice (test yes no : Expression)
  | assign (name : String) (op : String) (a : Expression) (rest : Chars)
  /-- Changes a name by a number; the value is that before or after the change. -/
  | step (name : String) (by_ : Int) (after : Bool)

/-- Operators from the loosest to the tightest. -/
def precedence : List (List String) :=
  [["||"], ["&&"], ["|"], ["^"], ["&"], ["==", "!="], ["<", "<=", ">", ">="], ["<<", ">>"], ["+", "-"],
   ["*", "/", "%"]]

def assignMarks : List String := ["=", "+=", "-=", "*=", "/=", "%=", "<<=", ">>=", "&=", "|=", "^="]

/-- The text at the first token, or at the last one when none is left. -/
def restOf (last : Chars) (ts : List (Token × Chars)) : Chars := (ts.head?.map Prod.snd).getD last

mutual

/-- Expressions with commas between them; the last one counts. -/
def readSums (last : Chars) : Nat → List (Token × Chars) → Except SumFault (Expression × List (Token × Chars))
  | 0, ts => .error (.operand (restOf last ts))
  | fuel + 1, ts => do
    let (a, ts) ← readSum last fuel ts
    match ts with
    | (.mark ",", rest) :: ts =>
      let (b, ts) ← readSums last fuel ts
      return (.binary "," a b rest, ts)
    | ts => return (a, ts)

/-- An assignment or a choice. -/
def readSum (last : Chars) : Nat → List (Token × Chars) → Except SumFault (Expression × List (Token × Chars))
  | 0, ts => .error (.operand (restOf last ts))
  | fuel + 1, ts => do
    let choice : Except SumFault (Expression × List (Token × Chars)) := do
      let (a, ts) ← readLevel last fuel precedence ts
      match ts with
      | (.mark "?", _) :: ts =>
        let (yes, ts) ← readSums last fuel ts
        match ts with
        | (.mark ":", _) :: ts =>
          let (no, ts) ← readSum last fuel ts
          return (.choice a yes no, ts)
        | ts => .error (.operand (restOf last ts))
      | ts => return (a, ts)
    match ts with
    | (.name s, _) :: (.mark m, rest) :: more =>
      if assignMarks.contains m then
        let (a, ts) ← readSum last fuel more
        return (.assign s (String.ofList (m.toList.dropLast)) a (restOf rest more), ts)
      else choice
    | _ => choice

def readLevel (last : Chars) :
    Nat → List (List String) → List (Token × Chars) → Except SumFault (Expression × List (Token × Chars))
  | 0, _, ts => .error (.operand (restOf last ts))
  | fuel + 1, [], ts => readPower last fuel ts
  | fuel + 1, ops :: tighter, ts => do
    let (a, ts) ← readLevel last fuel tighter ts
    readMore last fuel ops tighter a ts

/-- More operands on one level, from the left. -/
def readMore (last : Chars) : Nat → List String → List (List String) → Expression → List (Token × Chars) →
    Except SumFault (Expression × List (Token × Chars))
  | 0, _, _, a, ts => .ok (a, ts)
  | fuel + 1, ops, tighter, a, ts =>
    match ts with
    | (.mark m, _) :: more =>
      if ops.contains m then do
        let (b, more') ← readLevel last fuel tighter more
        readMore last fuel ops tighter (.binary m a b (restOf last more)) more'
      else .ok (a, ts)
    | ts => .ok (a, ts)

def readPower (last : Chars) : Nat → List (Token × Chars) → Except SumFault (Expression × List (Token × Chars))
  | 0, ts => .error (.operand (restOf last ts))
  | fuel + 1, ts => do
    let (a, ts) ← readUnary last fuel ts
    match ts with
    | (.mark "**", rest) :: ts =>
      let (b, ts) ← readPower last fuel ts
      return (.binary "**" a b rest, ts)
    | ts => return (a, ts)

def readUnary (last : Chars) : Nat → List (Token × Chars) → Except SumFault (Expression × List (Token × Chars))
  | 0, ts => .error (.operand (restOf last ts))
  | fuel + 1, ts =>
    match ts with
    | (.mark "++", _) :: (.name s, _) :: ts => .ok (.step s 1 true, ts)
    | (.mark "--", _) :: (.name s, _) :: ts => .ok (.step s (-1) true, ts)
    | (.name s, _) :: (.mark "++", _) :: ts => .ok (.step s 1 false, ts)
    | (.name s, _) :: (.mark "--", _) :: ts => .ok (.step s (-1) false, ts)
    | (.name s, _) :: ts => .ok (.named s, ts)
    | (.number n, _) :: ts => .ok (.number n, ts)
    | (.mark "(", _) :: ts => do
      let (a, ts) ← readSums last fuel ts
      match ts with
      | (.mark ")", _) :: ts => return (a, ts)
      | ts => .error (.operand (restOf last ts))
    | (.mark m, rest) :: ts =>
      if ["-", "+", "!", "~"].contains m then do
        let (a, ts) ← readUnary rest fuel ts
        return (.unary m a, ts)
      else .error (.operand rest)
    | [] => .error (.operand last)

end

/-- The expression that a text is; an empty one is zero in the larger shell. -/
def Expression.read (d : Dialect) (text : String) : Except SumFault Expression := do
  let ts ← sumTokens d (text.length + 1) text.toList
  if ts.isEmpty && d = .bash then return .number 0
  else
    let last := (ts.getLast?.map Prod.snd).getD []
    let (a, rest) ← readSums last (20 * ts.length + 40) ts
    match rest with
    | [] => return a
    | (_, rest) :: _ => .error (.trailing rest)

def truth (b : Bool) : Int := if b then 1 else 0

/-- The natural number of 64 bits that an integer is stored as. -/
def bits (n : Int) : Nat := (n % 0x10000000000000000).toNat

/-- Powers with exponents below two to the `fuel`. -/
def power : Nat → Int → Nat → Int
  | 0, _, _ => 1
  | fuel + 1, a, n =>
    if n = 0 then 1
    else
      let half := power fuel (wrap (a * a)) (n / 2)
      if n % 2 = 1 then wrap (half * a) else half

def calculate (op : String) (a b : Int) (rest : Chars) : Except SumFault Int :=
  match op with
  | "||" => .ok (truth (a ≠ 0 || b ≠ 0))
  | "&&" => .ok (truth (a ≠ 0 && b ≠ 0))
  | "==" => .ok (truth (a = b))
  | "!=" => .ok (truth (a ≠ b))
  | "<" => .ok (truth (a < b))
  | "<=" => .ok (truth (a ≤ b))
  | ">" => .ok (truth (b < a))
  | ">=" => .ok (truth (b ≤ a))
  | "+" => .ok (wrap (a + b))
  | "-" => .ok (wrap (a - b))
  | "*" => .ok (wrap (a * b))
  | "/" => if b = 0 then .error (.zeroDivisor rest) else .ok (wrap (a.tdiv b))
  | "%" => if b = 0 then .error (.zeroDivisor rest) else .ok (wrap (a.tmod b))
  | "**" => .ok (power 64 a b.toNat)
  | "<<" => .ok (wrap (a * (1 <<< (bits b % 64) : Nat)))
  | ">>" => .ok (a.fdiv (1 <<< (bits b % 64) : Nat))
  | "&" => .ok (wrap (bits a &&& bits b : Nat))
  | "|" => .ok (wrap (bits a ||| bits b : Nat))
  | "^" => .ok (wrap (bits a ^^^ bits b : Nat))
  | _ => .ok b

/-- What names stand for while an expression is computed, and the assignments so far, newest first. -/
structure Names where
  dialect : Dialect
  lookup : String → Option String
  assigned : List (String × Int)

abbrev Computing := StateT Names (Except SumFault)

mutual

/-- The value of a name. In the larger shell it may be an expression itself. -/
def Expression.valueOfName : Nat → String → Computing Int
  | 0, _ => return 0
  | fuel + 1, name => do
    let names ← get
    match names.assigned.lookup name, names.lookup name with
    | some n, _ => return n
    | none, none => return 0
    | none, some "" => return 0
    | none, some text =>
      if names.dialect = .posix then
        match Expression.read .posix text with
        | .ok (.number n) => return n
        | .ok (.unary "-" (.number n)) => return -n
        | .ok (.unary "+" (.number n)) => return n
        | _ => throw (.noNumber text)
      else Expression.eval fuel (← Expression.read .bash text)

def Expression.eval : Nat → Expression → Computing Int
  | 0, _ => return 0
  | _ + 1, .number n => return n
  | fuel + 1, .named s => Expression.valueOfName fuel s
  | fuel + 1, .unary op a => do
    let n ← Expression.eval fuel a
    return match op with
      | "-" => wrap (-n)
      | "!" => truth (n = 0)
      | "~" => -n - 1
      | _ => n
  | fuel + 1, .binary op a b rest => do
    let n ← Expression.eval fuel a
    if op = "&&" && n = 0 then return 0
    else if op = "||" && n ≠ 0 then return 1
    else calculate op n (← Expression.eval fuel b) rest
  | fuel + 1, .choice test yes no => do
    if (← Expression.eval fuel test) ≠ 0 then Expression.eval fuel yes else Expression.eval fuel no
  | fuel + 1, .assign name op a rest => do
    let n ← Expression.eval fuel a
    let n ← if op.isEmpty then pure n else do
      let old ← Expression.valueOfName fuel name
      calculate op old n rest
    modify fun names => { names with assigned := (name, n) :: names.assigned }
    return n
  | fuel + 1, .step name by_ after => do
    let old ← Expression.valueOfName fuel name
    let new := wrap (old + by_)
    modify fun names => { names with assigned := (name, new) :: names.assigned }
    return if after then new else old

end

/-- The value of an expression, and its assignments, the last one first. -/
def arithmetic (d : Dialect) (lookup : String → Option String) (text : String) :
    Except SumFault (Int × List (String × Int)) := do
  let a ← Expression.read d text
  let (n, names) ← (Expression.eval (100 * text.length + 100) a).run ⟨d, lookup, []⟩
  return (n, names.assigned)

end Steward.Shell
