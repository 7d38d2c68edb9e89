import Steward.Shell.Fault
import Steward.Text.Line

/-!
Reading shell scripts. Reading proceeds by fuel, of which a multiple of the length of the text is
enough. The standard shell has no arrays, no conditions in double brackets and no arithmetic commands,
and reads what looks like them in its own way.
-/
namespace Steward.Shell

open Steward.Text

def isNameStart (c : Char) : Bool := c.isAlpha || c = '_'

def isNameChar (c : Char) : Bool := c.isAlphanum || c = '_'

def isName (cs : Chars) : Bool := cs.all isNameChar && (cs.head?.map isNameStart).getD false

/-- Drops blanks, joined lines and a comment. -/
def skipBlanks : Nat → Chars → Chars
  | fuel + 1, ' ' :: cs => skipBlanks fuel cs
  | fuel + 1, '\t' :: cs => skipBlanks fuel cs
  | fuel + 1, '\\' :: '\n' :: cs => skipBlanks fuel cs
  | _ + 1, '#' :: cs => cs.dropWhile (· ≠ '\n')
  | _, cs => cs

/-- Drops blanks, line ends and comments. -/
def skipLines : Nat → Chars → Chars
  | 0, cs => cs
  | fuel + 1, cs =>
    match skipBlanks (fuel + 1) cs with
    | '\n' :: rest => skipLines fuel rest
    | rest => rest

/-- What follows a token that has to stand here, perhaps in a later line. -/
def expect (fuel : Nat) (token : String) (cs : Chars) : Except Fault Chars :=
  let cs := skipLines fuel cs
  let found := match markAt? cs with
    | some m => m
    | none => bareWord cs
  if found = token then .ok (cs.drop token.length) else .error (.unexpected cs (some (quote token)) true)

def closingWords : List String := ["then", "else", "elif", "fi", "do", "done", "esac", "\x7d"]

/-- Whether a list of items is over here. -/
def atClose (cs : Chars) : Bool :=
  match cs with
  | [] => true
  | ')' :: _ => true
  | ';' :: ';' :: _ => true
  | ';' :: '&' :: _ => true
  | cs => closingWords.contains (bareWord cs)

/-- How a redirection goes on behind its mark. -/
inductive RedirectStart where
  | plain (mode : RedirectMode)
  /-- Lines up to one that is the word that follows; tabs before them may be dropped. -/
  | lines (dropsTabs : Bool)
  /-- Output and errors. -/
  | both (mode : RedirectMode)

def redirectMarks (d : Dialect) : List (String × RedirectStart) :=
  (if d = .bash then [("&>>", .both .append), ("&>", .both .write), ("<<<", .plain .here)] else []) ++
    [(">>", .plain .append), (">&", .plain .duplicate), (">|", .plain .write), (">", .plain .write),
     ("<<-", .lines true), ("<<", .lines false), ("<&", .plain .duplicate), ("<>", .plain .read),
     ("<", .plain .read)]

/-- A redirection that starts here: its descriptor, its kind and what follows. -/
def redirectStart? (d : Dialect) (cs : Chars) : Option (Nat × RedirectStart × Chars) :=
  let digits := cs.takeWhile isDigit
  let rest := cs.drop digits.length
  ((redirectMarks d).find? fun (mark, _) => mark.toList.isPrefixOf rest).bind fun (mark, start) =>
    let reads := mark.startsWith "<"
    if mark.startsWith "&" && !digits.isEmpty then none
    else some (if digits.isEmpty then (if reads then 0 else 1) else valueOf digits, start,
      rest.drop mark.length)

/-- The text up to the closing mark that matches, and what follows the mark. -/
def upToClose (opening closing : Char) : Nat → Chars → Option (Chars × Chars)
  | _, [] => none
  | depth, c :: cs =>
    if c = closing then
      match depth with
      | 0 => some ([], cs)
      | n + 1 => (upToClose opening closing n cs).map fun (text, rest) => (c :: text, rest)
    else (upToClose opening closing (if c = opening then depth + 1 else depth) cs).map
      fun (text, rest) => (c :: text, rest)

/-- The expression up to two closing parentheses. -/
def sumText (start cs : Chars) : Except Fault (Chars × Chars) :=
  match upToClose '(' ')' 0 cs with
  | some (text, ')' :: rest) => .ok (text, rest)
  | _ => .error (.unclosedSum start)

/-- The text between backquotes, where a backslash keeps a backquote, a dollar sign or a backslash. -/
def upToBackquote : Chars → Option (Chars × Chars)
  | [] => none
  | '`' :: cs => some ([], cs)
  | '\\' :: c :: cs =>
    (upToBackquote cs).map fun (text, rest) =>
      (if "`$\\".toList.contains c then c :: text else '\\' :: c :: text, rest)
  | c :: cs => (upToBackquote cs).map fun (text, rest) => (c :: text, rest)

/-- Lines up to the one that is the word, and what follows them. -/
def linesUpTo (word : Chars) (dropsTabs : Bool) : List Chars → Chars × List Chars
  | [] => ([], [])
  | line :: rest =>
    let line := if dropsTabs then line.dropWhile (· = '\t') else line
    if line = word then ([], rest)
    else
      let (text, rest) := linesUpTo word dropsTabs rest
      (line ++ '\n' :: text, rest)

/-- The lines that a script gives to a command, and the text without them. They stand behind the line
that asks for them. -/
def takeLines (word : Chars) (dropsTabs : Bool) (cs : Chars) : Chars × Chars :=
  let line := cs.takeWhile (· ≠ '\n')
  match cs.drop line.length with
  | [] => ([], cs)
  | _ :: behind =>
    let given := if behind.getLast? = some '\n' then (behind.splitOn '\n').dropLast else behind.splitOn '\n'
    let (text, rest) := linesUpTo word dropsTabs (if behind.isEmpty then [] else given)
    (text, line ++ '\n' :: List.intercalate ['\n'] rest)

def specialParams : Chars := "@*#?$!-0123456789".toList

/-- The operators of a condition in double brackets. -/
def conditionMark? : Chars → Option (String × Chars)
  | '&' :: '&' :: cs => some ("&&", cs)
  | '|' :: '|' :: cs => some ("||", cs)
  | '(' :: cs => some ("(", cs)
  | ')' :: cs => some (")", cs)
  | '<' :: cs => some ("<", cs)
  | '>' :: cs => some (">", cs)
  | _ => none

/-- Puts a character in front of a word. -/
def consChar (quoted : Bool) (c : Char) : Word → Word
  | .text q cs :: parts => if q = quoted then .text q (c :: cs) :: parts else .text quoted [c] :: .text q cs :: parts
  | parts => .text quoted [c] :: parts

/-- The operation that starts behind the name of a parameter. -/
def paramOp? (d : Dialect) (cs : Chars) : Option (ParamOp × Nat) :=
  let standard : List (String × ParamOp) :=
    [(":-", .orElse .empty), ("-", .orElse .unset), (":+", .ifSet .empty), ("+", .ifSet .unset),
     (":=", .orAssign .empty), ("=", .orAssign .unset), (":?", .orFail .empty), ("?", .orFail .unset),
     ("##", .dropFront true), ("#", .dropFront false), ("%%", .dropBack true), ("%", .dropBack false)]
  let more : List (String × ParamOp) :=
    [(":", .slice), ("//", .replace .every), ("/#", .replace .front), ("/%", .replace .back),
     ("/", .replace .first), ("^^", .upper true), ("^", .upper false), (",,", .lower true),
     (",", .lower false)]
  ((standard ++ if d = .bash then more else []).find? fun (mark, _) => mark.toList.isPrefixOf cs).map
    fun (mark, op) => (op, mark.length)

/-- The name at the front of a parameter in braces: letters, a number or one special character. -/
def paramName (cs : Chars) : Chars :=
  match cs with
  | [] => []
  | c :: _ =>
    if isNameStart c then cs.takeWhile isNameChar
    else if isDigit c then cs.takeWhile isDigit
    else if specialParams.contains c then [c]
    else []

/-- A parameter in braces: what a mark in front of its name asks for, its name, its index and what
follows. A mark that is itself the name asks for nothing. -/
def paramStart (d : Dialect) (cs : Chars) : ParamOp × String × Option String × Chars :=
  let (op, cs) : ParamOp × Chars :=
    match cs with
    | '#' :: c :: rest => if "\x7d-+:".toList.contains c then (.value, cs) else (.length, c :: rest)
    | '!' :: c :: rest => if d = .posix || c = '\x7d' then (.value, cs) else (.named, c :: rest)
    | cs => (.value, cs)
  let name := paramName cs
  let rest := cs.drop name.length
  match d, rest with
  | .bash, '[' :: behind =>
    match cutAt ']' behind with
    | some (i, behind) => (op, String.ofList name, some (String.ofList i), behind)
    | none => (op, String.ofList name, none, rest)
  | _, rest => (op, String.ofList name, none, rest)

/-- The mark between the two words of an operation. -/
def ParamOp.separator? : ParamOp → Option Char
  | slice => some ':'
  | replace _ => some '/'
  | _ => none

/-- The mark that a text lacks which ends in the middle of a parameter in braces. -/
def braceMark (d : Dialect) (quoted : Bool) : Char := if quoted && d = .posix then '"' else '\x7d'

/-- Whether a word can be the name of a function. -/
def canBeFunction (name : String) : Bool :=
  !name.isEmpty && !name.toList.any fun c => "$`\"'\\=".toList.contains c

mutual

/-- An unquoted word, perhaps empty. -/
def readWord (d : Dialect) : Nat → Chars → Except Fault (Word × Chars)
  | 0, cs => .error (.unexpected cs none true)
  | _ + 1, [] => .ok ([], [])
  | fuel + 1, c :: cs =>
    if endsWord c then .ok ([], c :: cs)
    else do
      let (part, rest) ← readPart d false false fuel (c :: cs)
      let (parts, rest) ← readWord d fuel rest
      match part with
      | [.text quoted [c]] => return (consChar quoted c parts, rest)
      | part => return (part ++ parts, rest)

/-- Text up to a closing mark, in which only a backslash, a dollar sign and backquotes mean something. -/
def readQuoted (d : Dialect) (closing : Char) (start : Chars) : Nat → Chars → Except Fault (Word × Chars)
  | 0, cs => .error (.unexpected cs none true)
  | _ + 1, [] => if closing = '\x00' then .ok ([], []) else .error (.unclosed closing start)
  | fuel + 1, c :: cs =>
    if c = closing then .ok ([], cs)
    else do
      let (part, rest) ← readPart d true (closing = '\x00') fuel (c :: cs)
      let (parts, rest) ← readQuoted d closing start fuel rest
      match part with
      | [.text quoted [c]] => return (consChar quoted c parts, rest)
      | part => return (part ++ parts, rest)

/-- The word of an operation, up to its end or to a mark that is left standing. -/
def readOperand (d : Dialect) (quoted : Bool) (separator : Option Char) (start : Chars) :
    Nat → Chars → Except Fault (Word × Chars)
  | 0, cs => .error (.unexpected cs none true)
  | _ + 1, [] => .error (.unclosed (braceMark d quoted) start)
  | fuel + 1, c :: cs =>
    if c = '\x7d' || some c = separator then .ok ([], c :: cs)
    else do
      let (part, rest) ←
        if c = '"' || (c = '\'' && !quoted) || c = '\\' then readPart d false false fuel (c :: cs)
        else if c = '$' || c = '`' then readPart d quoted false fuel (c :: cs)
        else .ok ([.text false [c]], cs)
      let (parts, rest) ← readOperand d quoted separator start fuel rest
      match part with
      | [.text q [c]] => return (consChar q c parts, rest)
      | part => return (part ++ parts, rest)

/-- What one mark or one character stands for. In quoted text quotation marks are plain; `bare` text is
not quoted by any mark, so that a backslash before a quotation mark stays. -/
def readPart (d : Dialect) (quoted bare : Bool) : Nat → Chars → Except Fault (Word × Chars)
  | 0, cs => .error (.unexpected cs none true)
  | _ + 1, [] => .ok ([], [])
  | fuel + 1, c :: cs =>
    match c, cs with
    | '\\', [] => .ok ([.text true ['\\']], [])
    | '\\', '\n' :: rest => .ok ([], rest)
    | '\\', e :: rest =>
      if !quoted || "$`\\".toList.contains e || (e = '"' && !bare) then .ok ([.text true [e]], rest)
      else .ok ([.text true ['\\', e]], rest)
    | '`', cs =>
      match upToBackquote cs with
      | none => .error (.unclosed '`' (c :: cs))
      | some (text, rest) => do
        let (body, _) ← readItems d fuel text
        return ([.output quoted body], rest)
    | '$', '\'' :: cs =>
      if quoted || d = .posix then .ok ([.text quoted ['$']], '\'' :: cs)
      else match readEscaped fuel cs with
        | none => .error (.unclosed '\'' ('\'' :: cs))
        | some (text, rest) => .ok ([.text true text], rest)
    | '$', '"' :: cs => .ok (if quoted || d = .posix then [.text quoted ['$']] else [], '"' :: cs)
    | '$', cs => do
      let (part, rest) ← readDollar d quoted fuel cs
      return ([part], rest)
    | '\'', cs =>
      if quoted then .ok ([.text true ['\'']], cs)
      else match cutAt '\'' cs with
        | none => .error (.unclosed '\'' (c :: cs))
        | some (text, rest) => .ok ([.text true text], rest)
    | '"', cs =>
      if quoted then .ok ([.text true ['"']], cs)
      else do
        let (inner, rest) ← readQuoted d '"' (c :: cs) fuel cs
        return (if inner.isEmpty then [.text true []] else inner, rest)
    | c, cs => .ok ([.text quoted [c]], cs)

/-- Text in which backslashes stand for control characters, up to a quotation mark. -/
def readEscaped : Nat → Chars → Option (Chars × Chars)
  | 0, _ => none
  | _ + 1, [] => none
  | _ + 1, '\'' :: rest => some ([], rest)
  | fuel + 1, '\\' :: 'x' :: cs =>
    let digits := (cs.take 2).takeWhile fun c => (hexDigitValue? c).isSome
    let n := digits.foldl (fun n c => n * 16 + (hexDigitValue? c).getD 0) 0
    (readEscaped fuel (cs.drop digits.length)).map fun (text, rest) => (Char.ofNat n :: text, rest)
  | fuel + 1, '\\' :: c :: cs =>
    let plain := [('n', '\n'), ('t', '\t'), ('r', '\r'), ('a', '\x07'), ('b', '\x08'), ('e', '\x1b'),
      ('f', '\x0c'), ('v', '\x0b'), ('\\', '\\'), ('\'', '\''), ('"', '"'), ('?', '?')].lookup c
    (readEscaped fuel cs).map fun (text, rest) =>
      (match plain with
       | some e => e :: text
       | none => '\\' :: c :: text, rest)
  | fuel + 1, c :: cs => (readEscaped fuel cs).map fun (text, rest) => (c :: text, rest)

/-- What follows a dollar sign. -/
def readDollar (d : Dialect) (quoted : Bool) : Nat → Chars → Except Fault (Part × Chars)
  | 0, cs => .error (.unexpected cs none true)
  | fuel + 1, cs =>
    match cs with
    | '(' :: '(' :: rest => do
      let (text, rest) ← sumText cs rest
      let (expression, _) ← readQuoted d '\x00' [] fuel text
      return (.sum quoted expression, rest)
    | '(' :: rest => do
      let (body, rest) ← readItems d fuel rest
      match skipLines fuel rest with
      | ')' :: rest => return (.output quoted body, rest)
      | [] => .error .unclosedScript
      | rest => .error (.unexpected rest (some (quote ")")) true)
    | '\x7b' :: rest => readBraced d quoted cs fuel rest
    | c :: rest =>
      if isNameStart c then
        .ok (.param quoted (String.ofList (cs.takeWhile isNameChar)) none .value [], cs.dropWhile isNameChar)
      else if specialParams.contains c then .ok (.param quoted (String.ofList [c]) none .value [], rest)
      else .ok (.text quoted ['$'], cs)
    | [] => .ok (.text quoted ['$'], [])

/-- A parameter in braces, behind the opening brace. -/
def readBraced (d : Dialect) (quoted : Bool) (start : Chars) : Nat → Chars → Except Fault (Part × Chars)
  | 0, cs => .error (.unexpected cs none true)
  | fuel + 1, given => do
    let (op, name, index, rest) := paramStart d given
    let unknown : Except Fault (Part × Chars) :=
      match upToClose '\x7b' '\x7d' 0 given with
      | some (text, rest) => .ok (.param quoted "" none (.unknown (String.ofList text)) [], rest)
      | none => .error (.unclosed (braceMark d quoted) start)
    match rest, op with
    | '\x7d' :: rest, op =>
      if name.isEmpty then unknown else return (.param quoted name index op [], rest)
    | [], _ => .error (.unclosed (braceMark d quoted) start)
    | rest, .value =>
      match name.isEmpty, paramOp? d rest with
      | false, some (op, width) =>
        let (word, rest) ← readOperand d quoted op.separator? start fuel (rest.drop width)
        match op.separator?, rest with
        | some mark, c :: more =>
          if c = mark then
            let (second, more) ← readOperand d quoted none start fuel more
            return (.param quoted name index op [word, second], more.drop 1)
          else return (.param quoted name index op [word], more)
        | _, rest => return (.param quoted name index op [word], rest.drop 1)
      | _, _ => unknown
    | _, _ => unknown

/-- Words up to a mark that ends them. -/
def readWords (d : Dialect) : Nat → Chars → Except Fault (List Word × Chars)
  | 0, cs => .error (.unexpected cs none true)
  | fuel + 1, cs =>
    match skipBlanks fuel cs with
    | [] => .ok ([], [])
    | c :: rest =>
      if endsWord c then .ok ([], c :: rest)
      else do
        let (word, rest) ← readWord d fuel (c :: rest)
        let (words, rest) ← readWords d fuel rest
        return (word :: words, rest)

/-- The words of an array, which may stand on several lines. -/
def readElements (d : Dialect) (start : Chars) : Nat → Chars → Except Fault (List Word × Chars)
  | 0, cs => .error (.unexpected cs none true)
  | fuel + 1, cs => do
    let (words, rest) ← readWords d fuel cs
    match rest with
    | ')' :: rest => return (words, rest)
    | '\n' :: rest =>
      let (more, rest) ← readElements d start fuel rest
      return (words ++ more, rest)
    | [] => .error (.unclosed ')' start)
    | rest => .error (.unexpected rest none true)

/-- The word of a redirection, and the redirections that this makes. -/
def readRedirect (d : Dialect) (fd : Nat) (start : RedirectStart) :
    Nat → Chars → Except Fault (List Redirect × Chars)
  | 0, cs => .error (.unexpected cs none true)
  | fuel + 1, cs => do
    let cs := skipBlanks fuel cs
    let (word, rest) ← readWord d fuel cs
    if word.isEmpty then .error (.unexpected cs none false)
    else match start with
      | .plain .here => return ([.mk fd .here (word ++ [.text true ['\n']])], rest)
      | .plain mode => return ([.mk fd mode word], rest)
      | .both mode => return ([.mk 1 mode word, .mk 2 .duplicate [.text true ['1']]], rest)
      | .lines dropsTabs =>
        let mark := word.flatMap fun
          | .text _ cs => cs
          | _ => []
        let isQuoted := word.any fun
          | .text quoted _ => quoted
          | _ => false
        let (text, rest) := takeLines mark dropsTabs rest
        if isQuoted then return ([.mk fd .here [.text true text]], rest)
        else
          let (body, _) ← readQuoted d '\x00' [] fuel text
          return ([.mk fd .here body], rest)

def readRedirects (d : Dialect) : Nat → Chars → Except Fault (List Redirect × Chars)
  | 0, cs => .error (.unexpected cs none true)
  | fuel + 1, cs =>
    match redirectStart? d (skipBlanks fuel cs) with
    | none => .ok ([], cs)
    | some (fd, start, rest) => do
      let (redirects, rest) ← readRedirect d fd start fuel rest
      let (more, rest) ← readRedirects d fuel rest
      return (redirects ++ more, rest)

/-- An assignment that starts here. -/
def readAssignment (d : Dialect) : Nat → Chars → Except Fault (Option (Assignment × Chars))
  | 0, cs => .error (.unexpected cs none true)
  | fuel + 1, cs =>
    let name := cs.takeWhile isNameChar
    let behind := cs.drop name.length
    if !isName name then .ok none
    else
      let (index, behind) := match d, behind with
        | Dialect.bash, '[' :: more =>
          match cutAt ']' more with
          | some (i, more) => (some (String.ofList i), more)
          | none => (none, behind)
        | _, behind => (none, behind)
      let (appends, behind) := match d, behind with
        | Dialect.bash, '+' :: '=' :: more => (true, '=' :: more)
        | _, behind => (false, behind)
      match d, behind with
      | .bash, '=' :: '(' :: rest => do
        let (elements, rest) ← readElements d ('(' :: rest) fuel rest
        return some (.array (String.ofList name) appends elements, rest)
      | _, '=' :: rest => do
        let (word, rest) ← readWord d fuel rest
        return some (.scalar (String.ofList name) index appends word, rest)
      | _, _ => .ok none

/-- A simple command, of which something has been read already. -/
def readSimple (d : Dialect) (left : Nat) (assignments : List Assignment) (words : List Word)
    (redirects : List Redirect) : Nat → Chars → Except Fault (Command × Chars)
  | 0, cs => .error (.unexpected cs none true)
  | fuel + 1, cs => do
    let cs := skipBlanks fuel cs
    match redirectStart? d cs with
    | some (fd, start, rest) =>
      let (more, rest) ← readRedirect d fd start fuel rest
      readSimple d left assignments words (redirects ++ more) fuel rest
    | none =>
      let assigned ← if words.isEmpty then readAssignment d fuel cs else .ok none
      match assigned, cs with
      | some (a, rest), _ => readSimple d left (assignments ++ [a]) words redirects fuel rest
      | none, [] => return (.simple left assignments words redirects, [])
      | none, c :: _ =>
        if endsWord c then return (.simple left assignments words redirects, cs)
        else
          let (word, rest) ← readWord d fuel cs
          readSimple d left assignments (words ++ [word]) redirects fuel rest

/-- The words of a condition up to the closing brackets. -/
def readCondition (d : Dialect) : Nat → Chars → Except Fault (List Word × Chars)
  | 0, cs => .error (.unexpected cs none true)
  | fuel + 1, cs =>
    let cs := skipLines fuel cs
    if bareWord cs = "]]" then .ok ([], dropWord cs)
    else match conditionMark? cs with
      | some (mark, rest) => do
        let (words, rest) ← readCondition d fuel rest
        return ([.text false mark.toList] :: words, rest)
      | none => do
        let (word, rest) ← readWord d fuel cs
        if word.isEmpty then .error (.unexpected cs none true)
        else
          let (words, rest) ← readCondition d fuel rest
          return (word :: words, rest)

/-- The branches behind a condition. -/
def readBranches (d : Dialect) (test : Script) : Nat → Chars → Except Fault (Command × Chars)
  | 0, cs => .error (.unexpected cs none true)
  | fuel + 1, cs => do
    let (yes, cs) ← readBody d fuel (← expect fuel "then" cs)
    let cs := skipLines fuel cs
    match bareWord cs with
    | "elif" =>
      let (other, cs) ← readBody d fuel (dropWord cs)
      let (no, cs) ← readBranches d other fuel cs
      return (.branch test yes [.mk (.mk false [no]) [] false], cs)
    | "else" =>
      let (no, cs) ← readBody d fuel (dropWord cs)
      return (.branch test yes no, ← expect fuel "fi" cs)
    | _ => return (.branch test yes [], ← expect fuel "fi" cs)

/-- Patterns with bars between them, up to the closing parenthesis. -/
def readPatterns (d : Dialect) : Nat → Chars → Except Fault (List Word × Chars)
  | 0, cs => .error (.unexpected cs none true)
  | fuel + 1, cs => do
    let cs := skipBlanks fuel cs
    let (word, rest) ← readWord d fuel cs
    let rest := skipBlanks fuel rest
    if word.isEmpty && d = .bash then .error (.unexpected cs none cs.isEmpty)
    else if word.isEmpty then
      let behind := skipBlanks fuel (cs.drop (((markAt? cs).map String.length).getD 0))
      .error (.unexpected behind (some (quote ")")) true)
    else match rest with
      | '|' :: rest =>
        let (words, rest) ← readPatterns d fuel rest
        return (word :: words, rest)
      | ')' :: rest => return ([word], rest)
      | rest => .error (.unexpected rest (some (quote ")")) false)

def readArms (d : Dialect) : Nat → Chars → Except Fault (List (List Word × Script × Bool) × Chars)
  | 0, cs => .error (.unexpected cs none true)
  | fuel + 1, cs => do
    let cs := skipLines fuel cs
    if bareWord cs = "esac" then .ok ([], dropWord cs)
    else
      let (patterns, cs) ← readPatterns d fuel (if cs.head? = some '(' then cs.drop 1 else cs)
      let (body, cs) ← readItems d fuel cs
      let cs := skipLines fuel cs
      match d, cs with
      | .bash, ';' :: ';' :: '&' :: cs =>
        let (arms, cs) ← readArms d fuel cs
        return ((patterns, body, false) :: arms, cs)
      | .bash, ';' :: '&' :: cs =>
        let (arms, cs) ← readArms d fuel cs
        return ((patterns, body, true) :: arms, cs)
      | _, ';' :: ';' :: cs =>
        let (arms, cs) ← readArms d fuel cs
        return ((patterns, body, false) :: arms, cs)
      | _, cs =>
        if bareWord cs = "esac" then return ([(patterns, body, false)], dropWord cs)
        else .error (.unexpected cs (some (quote ";;")) true)

/-- A loop through words, behind its first word. -/
def readEach (d : Dialect) : Nat → Chars → Except Fault (Command × Chars)
  | 0, cs => .error (.unexpected cs none true)
  | fuel + 1, cs => do
    let cs := skipBlanks fuel cs
    match d, cs with
    | .bash, '(' :: '(' :: rest =>
      let (text, cs) ← sumText cs rest
      let parts := text.splitOn ';'
      let (first, _) ← readQuoted d '\x00' [] fuel (parts.getD 0 [])
      let (test, _) ← readQuoted d '\x00' [] fuel (parts.getD 1 [])
      let (next, _) ← readQuoted d '\x00' [] fuel (parts.getD 2 [])
      let cs := skipBlanks fuel cs
      let cs := if cs.head? = some ';' then cs.drop 1 else cs
      let (body, cs) ← readBody d fuel (← expect fuel "do" cs)
      return (.count first test next body, ← expect fuel "done" cs)
    | d, cs =>
      let name := bareWord cs
      if d = .posix && !isName name.toList then .error (.badLoopName cs)
      else if name.isEmpty then .error (.unexpected cs none false)
      else
        let cs := skipLines fuel (dropWord cs)
        let (words, cs) ←
          if bareWord cs = "in" then do
            let (words, cs) ← readWords d fuel (dropWord cs)
            match cs with
            | ';' :: cs => pure (some words, cs)
            | '\n' :: cs => pure (some words, cs)
            | cs => .error (.unexpected cs none true)
          else pure (none, if cs.head? = some ';' then cs.drop 1 else cs)
        let (body, cs) ← readBody d fuel (← expect fuel "do" cs)
        return (.each name words body, ← expect fuel "done" cs)

/-- A command that is no simple one, if one starts here. -/
def readCompound (d : Dialect) : Nat → Chars → Except Fault (Option (Command × Chars))
  | 0, cs => .error (.unexpected cs none true)
  | fuel + 1, cs =>
    let behind := dropWord cs
    match bareWord cs, d, cs with
    | "if", _, _ => do
      let (test, cs) ← readBody d fuel behind
      return some (← readBranches d test fuel cs)
    | "while", _, _ => return some (← readLoop d true fuel behind)
    | "until", _, _ => return some (← readLoop d false fuel behind)
    | "for", _, _ => return some (← readEach d fuel behind)
    | "case", _, _ => do
      let cs := skipBlanks fuel behind
      let (subject, rest) ← readWord d fuel cs
      if subject.isEmpty then .error (.unexpected cs (some "word") false)
      else
        let (arms, cs) ← readArms d fuel (← expect fuel "in" rest)
        return some (.choice subject arms, cs)
    | "\x7b", _, _ => do
      let (body, cs) ← readBody d fuel behind
      return some (.group body, ← expect fuel "\x7d" cs)
    | "[[", .bash, _ => do
      let (words, cs) ← readCondition d fuel behind
      return some (.condition words, cs)
    | "function", .bash, _ => do
      let cs := skipBlanks fuel behind
      let name := bareWord cs
      let cs ← match skipBlanks fuel (dropWord cs) with
        | '(' :: rest => expect fuel ")" rest
        | cs => pure cs
      let (body, cs) ← readCommand d fuel (skipLines fuel cs)
      return some (.define name body, cs)
    | _, .bash, '(' :: '(' :: rest => do
      let (text, cs) ← sumText cs rest
      let (expression, _) ← readQuoted d '\x00' [] fuel text
      return some (.sum expression, cs)
    | _, _, '(' :: rest => do
      let (body, cs) ← readBody d fuel rest
      return some (.subshell body, ← expect fuel ")" cs)
    | _, _, _ => .ok none

/-- A command that starts here. -/
def readCommand (d : Dialect) : Nat → Chars → Except Fault (Command × Chars)
  | 0, cs => .error (.unexpected cs none true)
  | fuel + 1, cs => do
    match ← readCompound d fuel cs with
    | some (command, cs) =>
      let (redirects, cs) ← readRedirects d fuel cs
      return (if redirects.isEmpty then command else .redirected command redirects, cs)
    | none =>
      let name := bareWord cs
      match canBeFunction name, skipBlanks fuel (dropWord cs) with
      | true, '(' :: rest =>
        let rest := skipBlanks fuel rest
        match rest with
        | ')' :: rest =>
          if d = .posix && !isName name.toList then .error (.badFunctionName cs)
          else
            let (body, rest) ← readCommand d fuel (skipLines fuel rest)
            match d, body with
            | .bash, .simple left _ _ _ => .error (.unexpected (cs.drop (cs.length - left)) none true)
            | _, body => return (.define name body, rest)
        | rest => .error (.unexpected rest (some (quote ")")) false)
      | _, _ =>
        let (command, rest) ← readSimple d cs.length [] [] [] fuel cs
        if rest.length = cs.length || closingWords.contains name then .error (.unexpected cs none true)
        else return (command, rest)

def readLoop (d : Dialect) (goal : Bool) : Nat → Chars → Except Fault (Command × Chars)
  | 0, cs => .error (.unexpected cs none true)
  | fuel + 1, cs => do
    let (test, cs) ← readBody d fuel cs
    let (body, cs) ← readBody d fuel (← expect fuel "do" cs)
    return (.loop goal test body, ← expect fuel "done" cs)

/-- The stages of a pipeline. -/
def readStages (d : Dialect) : Nat → Chars → Except Fault (List Command × Chars)
  | 0, cs => .error (.unexpected cs none true)
  | fuel + 1, cs => do
    let (command, cs) ← readCommand d fuel cs
    match skipBlanks fuel cs with
    | '|' :: '|' :: rest => return ([command], '|' :: '|' :: rest)
    | '|' :: rest =>
      let (stages, rest) ← readStages d fuel (skipLines fuel rest)
      return (command :: stages, rest)
    | rest => return ([command], rest)

def readPipeline (d : Dialect) : Nat → Chars → Except Fault (Pipeline × Chars)
  | 0, cs => .error (.unexpected cs none true)
  | fuel + 1, cs => do
    if bareWord cs = "!" then
      let cs := skipBlanks fuel (dropWord cs)
      match d, cs.head? with
      | .posix, _ =>
        if bareWord cs = "!" then .error (.unexpected cs none true)
        else
          let (stages, cs) ← readStages d fuel cs
          return (.mk true stages, cs)
      | .bash, none | .bash, some ';' | .bash, some '\n' => return (.mk true [], cs)
      | .bash, _ =>
        let (.mk negated stages, cs) ← readPipeline d fuel cs
        return (.mk (!negated) stages, cs)
    else
      let (stages, cs) ← readStages d fuel cs
      return (.mk false stages, cs)

def readChain (d : Dialect) : Nat → Chars → Except Fault (List (Bool × Pipeline) × Chars)
  | 0, cs => .error (.unexpected cs none true)
  | fuel + 1, cs =>
    let linked (success : Bool) (rest : Chars) : Except Fault (List (Bool × Pipeline) × Chars) := do
      let (pipeline, rest) ← readPipeline d fuel (skipLines fuel rest)
      let (more, rest) ← readChain d fuel rest
      return ((success, pipeline) :: more, rest)
    match skipBlanks fuel cs with
    | '&' :: '&' :: rest => linked true rest
    | '|' :: '|' :: rest => linked false rest
    | rest => .ok ([], rest)

/-- An item, and what ends it. -/
def readItem (d : Dialect) : Nat → Chars → Except Fault (Item × Chars)
  | 0, cs => .error (.unexpected cs none true)
  | fuel + 1, cs => do
    let (first, cs) ← readPipeline d fuel cs
    let (rest, cs) ← readChain d fuel cs
    match cs with
    | '&' :: _ => return (.mk first rest true, cs)
    | cs => return (.mk first rest false, cs)

/-- Items up to where a list may end, perhaps none. -/
def readItems (d : Dialect) : Nat → Chars → Except Fault (Script × Chars)
  | 0, cs => .error (.unexpected cs none true)
  | fuel + 1, cs => do
    let cs := skipLines fuel cs
    if atClose cs then .ok ([], cs)
    else
      let (item, cs) ← readItem d fuel cs
      match cs with
      | ';' :: ';' :: _ => return ([item], cs)
      | ';' :: '&' :: _ => return ([item], cs)
      | c :: rest =>
        if c = ';' || c = '&' || c = '\n' then
          let (items, cs) ← readItems d fuel rest
          return (item :: items, cs)
        else return ([item], cs)
      | [] => return ([item], [])

/-- Items, at least one. -/
def readBody (d : Dialect) : Nat → Chars → Except Fault (Script × Chars)
  | 0, cs => .error (.unexpected cs none true)
  | fuel + 1, cs => do
    let cs := skipLines fuel cs
    if !cs.isEmpty && atClose cs then .error (.unexpected cs none true) else readItems d fuel cs

end

/-- Items up to the end of a line. -/
def readLine (d : Dialect) : Nat → Chars → Except Fault (Script × Chars)
  | 0, cs => .error (.unexpected cs none true)
  | fuel + 1, cs => do
    match skipBlanks (fuel + 1) cs with
    | [] => .ok ([], [])
    | '\n' :: rest => .ok ([], rest)
    | cs =>
      let (item, rest) ← readItem d (16 * cs.length + 64) cs
      match rest with
      | [] => return ([item], [])
      | '\n' :: rest => return ([item], rest)
      | ';' :: ';' :: _ => .error (.unexpected rest none true)
      | c :: behind =>
        if c = ';' || c = '&' then
          let (items, rest) ← readLine d fuel behind
          return (item :: items, rest)
        else .error (.unexpected rest none true)

/-- The items of the first line that has any, and what follows the line. -/
def Script.readLine (d : Dialect) (cs : Chars) : Except Fault (Script × Chars) :=
  Shell.readLine d (cs.length + 1) cs

end Steward.Shell
