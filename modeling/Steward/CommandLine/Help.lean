import Steward.CommandLine.Invocation
import Steward.Text.Line

/-!
What the command line says about itself.
-/
namespace Steward.CommandLine

open Steward.Text

def programName : String := "fleetagent"

def programAbout : String := "fleetagent remote management agent"

/-- The placeholder of an option's value. -/
def placeholder (name : String) : String :=
  "<" ++ String.ofList (name.toList.map fun c => if c = '-' then '_' else c.toUpper) ++ ">"

/-- Rows of two columns, the second in line with itself. -/
def table (rows : List (String × String)) : List String :=
  let width := rows.foldl (fun w row => max w row.1.length) 0
  rows.map fun (left, right) =>
    "  " ++ left ++ String.ofList (List.replicate (width + 2 - left.length) ' ') ++ right

def OptionRule.usage (o : OptionRule) : String := "--" ++ o.name ++ " " ++ placeholder o.name

def OptionRule.row (o : OptionRule) : String × String :=
  let fallback := o.fallback.toList.map fun v => " [default: " ++ v ++ "]"
  let choices := if o.choices.isEmpty then "" else " [possible values: " ++ join ", " o.choices ++ "]"
  ("    " ++ o.usage, o.about ++ join "" fallback ++ choices)

def helpRow : String × String := ("-h, --help", "Print help")

def versionRow : String × String := ("-V, --version", "Print version")

def helpAbout : String := "Print this message or the help of the given subcommand(s)"

def topUsage : String := "Usage: " ++ programName ++ " [OPTIONS] <COMMAND>"

def topHelp : String :=
  let commands := modeRules.map (fun m => (m.name, m.about)) ++
    [(helpCommand, helpAbout)]
  let options := topGrammar.options.map OptionRule.row ++ [helpRow, versionRow]
  join "\n" ([programAbout, "", topUsage, "", "Commands:"] ++ table commands ++ ["", "Options:"] ++
    table options) ++ "\n"

def ModeRule.usage (m : ModeRule) : String :=
  let free := if m.options.all OptionRule.required then [] else ["[OPTIONS]"]
  let bound := (m.options.filter OptionRule.required).map OptionRule.usage
  "Usage: " ++ join " " ([programName, m.name] ++ free ++ bound)

def ModeRule.help (m : ModeRule) : String :=
  join "\n" ([m.about, "", m.usage, "", "Options:"] ++ table (m.options.map OptionRule.row ++ [helpRow])) ++
    "\n"

/-- What the help command says about itself. -/
def helpOfHelp : String :=
  join "\n" ([helpAbout, "", "Usage: " ++ programName ++ " " ++ helpCommand ++ " [COMMAND]...", "", "Arguments:"] ++
    table [("[COMMAND]...", "Print help for the subcommand(s)")]) ++ "\n"

/-- The help on a command, or on the program when no command is named. -/
def helpFor : Option String → String
  | none => topHelp
  | some name =>
    match modeRules.find? (·.name = name) with
    | some m => m.help
    | none => helpOfHelp

end Steward.CommandLine
