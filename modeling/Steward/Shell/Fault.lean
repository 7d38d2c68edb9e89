import Steward.Shell.Syntax
import Steward.Text.Numeral

/-!
What keeps a text from being a script. A fault knows the text from the token on that does not fit, so
that the line and the token can be named.
-/
namespace Steward.Shell

open Steward.Text

abbrev Chars := List Char

inductive Fault where
  /-- A token that cannot stand there, and what alone could stand there. Line ends are tokens only
  where a command cannot go on in the next line. -/
  | unexpected (rest : Chars) (expected : Option String) (acrossLines : Bool)
  /-- A quotation or a substitution that is never closed by its mark. -/
  | unclosed (mark : Char) (rest : Chars)
  /-- A script inside a word that is never closed. -/
  | unclosedScript
  | unclosedSum (rest : Chars)
  | badLoopName (rest : Chars)
  | badFunctionName (rest : Chars)
  /-- A condition in double brackets that is none. -/
  | badCondition (rest : Chars)

/-- Whether an unquoted word ends here. -/
def endsWord (c : Char) : Bool := " \t\n;&|<>()".toList.contains c

/-- The unquoted word that starts here, if nothing in it could be quoted. -/
def bareWord (cs : Chars) : String := String.ofList (cs.takeWhile fun c => !endsWord c)

def dropWord (cs : Chars) : Chars := cs.dropWhile fun c => !endsWord c

def reservedWords : List String :=
  ["!", "case", "do", "done", "elif", "else", "esac", "fi", "for", "if", "in", "then", "until", "while",
   "\x7b", "\x7d"]

/-- An operator or a line end that starts here. -/
def markAt? (cs : Chars) : Option String :=
  [";;", "&&", "||", ";", "&", "|", "(", ")", "<<", ">>", "<", ">", "\n"].find? fun m =>
    m.toList.isPrefixOf cs

def quote (s : String) : String := "\"" ++ s ++ "\""

/-- The kind of a token. -/
def tokenKind (cs : Chars) : String :=
  match markAt? cs with
  | some "\n" => "newline"
  | some m => if m.startsWith "<" || m.startsWith ">" then "redirection" else quote m
  | none =>
    if cs.isEmpty then "end of file"
    else if reservedWords.contains (bareWord cs) then quote (bareWord cs)
    else "word"

def tokenText (cs : Chars) : String :=
  match markAt? cs with
  | some "\n" => "newline"
  | some m => m
  | none => if cs.isEmpty then "newline" else bareWord cs

/-- The number of the line in which a rest of a text starts. -/
def lineOf (text rest : Chars) : Nat := (text.take (text.length - rest.length)).countP (· = '\n') + 1

/-- The number of the line behind a text. -/
def lineBehind (text : Chars) : Nat :=
  text.countP (· = '\n') + (if text.getLast? = some '\n' then 1 else 2)

def lineAt (text : Chars) (n : Nat) : String := String.ofList ((text.splitOn '\n').getD (n - 1) [])

namespace Fault

/-- The message for a standard shell: the line and the text. -/
def plainMessage (text : Chars) : Fault → Nat × String
  | unexpected rest expected _ =>
    (lineOf text (if rest.head? = some '\n' then rest.drop 1 else rest),
      "Syntax error: " ++ tokenKind rest ++ " unexpected" ++
        (expected.elim "" fun e => " (expecting " ++ e ++ ")"))
  | unclosed '`' _ => (lineOf text [], "Syntax error: EOF in backquote substitution")
  | unclosed '\x7d' _ => (lineOf text [], "Syntax error: Missing '\x7d'")
  | unclosed _ _ => (lineOf text [], "Syntax error: Unterminated quoted string")
  | unclosedScript => (lineOf text [], "Syntax error: end of file unexpected (expecting \")\")")
  | unclosedSum _ => (lineOf text [], "Syntax error: Missing '))'")
  | badLoopName rest => (lineOf text rest, "Syntax error: Bad for loop variable")
  | badFunctionName rest => (lineOf text rest, "Syntax error: Bad function name")
  | badCondition rest => (lineOf text rest, "Syntax error")

/-- The messages of the larger shell, each with its line. -/
def bashMessages (text : Chars) : Fault → List (Nat × String)
  | unexpected rest _ acrossLines =>
    if rest.isEmpty && acrossLines then [(lineBehind text, "syntax error: unexpected end of file")]
    else
      let n := lineOf text rest
      [(n, "syntax error near unexpected token `" ++ tokenText rest ++ "'"), (n, "`" ++ lineAt text n ++ "'")]
  | unclosed mark rest =>
    [(lineOf text rest, "unexpected EOF while looking for matching `" ++ String.ofList [mark] ++ "'")]
  | unclosedScript => [(lineBehind text, "unexpected EOF while looking for matching `)'")]
  | unclosedSum rest => [(lineOf text rest, "unexpected EOF while looking for matching `)'")]
  | badLoopName rest | badFunctionName rest | badCondition rest =>
    let n := lineOf text rest
    [(n, "syntax error near `" ++ tokenText rest ++ "'"), (n, "`" ++ lineAt text n ++ "'")]

end Fault
end Steward.Shell
