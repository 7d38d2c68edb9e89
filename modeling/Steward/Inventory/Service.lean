import Steward.Message.Reply
import Steward.Text.Line
import Steward.Text.Numeral

/-!
Service records out of the unit list, the list of unit files and the properties of one unit.
-/
namespace Steward.Inventory

open Steward.Message Steward.Text

def startTypeOf (state : String) : String :=
  match state with
  | "enabled" => "automatic"
  | "enabled-runtime" => "automatic"
  | "disabled" => "disabled"
  | "masked" => "disabled"
  | _ => "manual"

/-- The value of the first line with that key, blanks around both ignored. -/
def keyValue? (text key : String) (sep : Char) : Option String :=
  (lines text).findSome? fun line =>
    (cutAt sep line.toList).bind fun (k, v) =>
      if String.ofList (trimChars k) = key then some (String.ofList (trimChars v)) else none

/-- The unit's name without the endings that mark a service. -/
def serviceName (unit : String) : String :=
  String.ofList (dropEndings ".service".toList unit.toList)

def unitFileState? (line : String) : Option (String × String) :=
  match words line with
  | unit :: state :: _ => some (unit, state)
  | _ => none

/-- The state of each unit file; of two lines for one unit the later counts. -/
def unitFileStates (unitFiles : String) : List (String × String) :=
  ((lines unitFiles).filterMap unitFileState?).reverse

def runState (sub : String) : String := if sub = "running" then "running" else "stopped"

def serviceLine? (states : List (String × String)) (line : String) : Option ServiceRecord :=
  match words line with
  | unit :: _ :: _ :: sub :: description =>
    let name := serviceName unit
    some { name
           displayName := if description.isEmpty then name else join " " description
           status := runState sub
           startType := startTypeOf ((states.lookup unit).getD "") }
  | _ => none

def readServices (units unitFiles : String) : List ServiceRecord :=
  (lines units).filterMap (serviceLine? (unitFileStates unitFiles))

/-- What stands between `argv[]=` and the next ` ;`. -/
def commandLineOf (execStart : String) : String :=
  match cutAtText "argv[]=".toList execStart.toList with
  | none => ""
  | some (_, rest) =>
    let before := match cutAtText " ;".toList rest with
      | some (before, _) => before
      | none => rest
    String.ofList (trimChars before)

def readServiceDetail (name out : String) : ServiceDetail :=
  let property (key : String) : String := (keyValue? out key '=').getD ""
  { name := serviceName name
    displayName := property "Description"
    description := property "Description"
    status := runState (property "SubState")
    startType := startTypeOf (property "UnitFileState")
    binpath := commandLineOf (property "ExecStart")
    pid := UInt32.ofNat ((natural? 0x100000000 (property "MainPID")).getD 0) }

end Steward.Inventory
