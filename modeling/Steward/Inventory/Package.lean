import Steward.Message.Reply
import Steward.Text.Line
import Steward.Text.Numeral

/-!
Installed software and pending updates, read line by line from what the package managers print, and
the names that may be passed on to an installer.
-/
namespace Steward.Inventory

open Steward.Message Steward.Text

def tabColumns (line : String) : List String :=
  (line.toList.splitOnP (· == '\t')).map String.ofList

/-- Name, version, publisher and size in columns; only the name has to be there. -/
def softwareLine? (unit : UInt64) (line : String) : Option SoftwareRecord :=
  let columns := tabColumns line
  let name := trim (columns.getD 0 "")
  if name.isEmpty then none
  else
    let size := (columns[3]?.bind fun s => natural? 0x10000000000000000 (trim s)).getD 0
    some { name
           version := columns.getD 1 ""
           publisher := columns.getD 2 ""
           size := UInt64.ofNat size * unit }

/-- Sizes are counted in `unit` bytes. -/
def readSoftware (out : String) (unit : UInt64) : List SoftwareRecord :=
  (lines out).filterMap (softwareLine? unit)

def updateRecord (name version : String) : OsUpdateRecord :=
  { id := name, title := name ++ " " ++ version, version }

/-- `name/source version …`. -/
def aptLine? (line : String) : Option OsUpdateRecord :=
  (cutAt '/' line.toList).bind fun (name, rest) =>
    match words (String.ofList rest) with
    | _ :: version :: _ => some (updateRecord (String.ofList name) version)
    | _ => none

def readAptUpgradable (out : String) : List OsUpdateRecord := (lines out).filterMap aptLine?

/-- `name version source`. -/
def dnfLine? (line : String) : Option OsUpdateRecord :=
  match words line with
  | name :: version :: _ :: _ => some (updateRecord name version)
  | _ => none

/-- Nothing counts from the list of obsoleted packages on. -/
def readDnfUpdates (out : String) : List OsUpdateRecord :=
  ((lines out).takeWhile fun line => (dropStart? "Obsoleting".toList line.toList).isNone).filterMap
    dnfLine?

inductive PackageNameFault where
  | blank
  /-- It would be read as an option of the installer. -/
  | option (name : String)
deriving DecidableEq

def PackageNameFault.message : PackageNameFault → String
  | blank => "package name is empty"
  | option name => "invalid package name: " ++ name

/-- The check looks at the name without blanks around it. -/
def checkPackageName (name : String) : Except PackageNameFault Unit :=
  match trimChars name.toList with
  | [] => .error .blank
  | '-' :: rest => .error (.option (String.ofList ('-' :: rest)))
  | _ => .ok ()

end Steward.Inventory
