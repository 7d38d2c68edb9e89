import Steward.Inventory.Service
import Steward.Text.Decimal

/-!
Facts about the machine, read from the texts in which the system publishes them.
-/
namespace Steward.Inventory

open Steward.Text

def trimQuotes (s : String) : String :=
  String.ofList (dropEndWhile (· == '"') (s.toList.dropWhile (· == '"')))

def prettyName (osRelease : String) : String :=
  match keyValue? osRelease "PRETTY_NAME" '=' with
  | some v => trimQuotes v
  | none => "Linux"

inductive LoadFault where
  | empty
  | malformed
deriving DecidableEq

def LoadFault.message : LoadFault → String
  | empty => "empty /proc/loadavg"
  | malformed => "malformed /proc/loadavg"

/-- The load of the last minute as a share of the processors, in whole percent from 0 to 100. -/
def loadPercent (loadavg : String) (cpus : UInt64) : Except LoadFault UInt32 :=
  match words loadavg with
  | [] => .error .empty
  | first :: _ =>
    match float? first with
    | none => .error .malformed
    | some load =>
      let percent := (load / (if cpus = 0 then 1 else cpus).toFloat * 100).round
      .ok (if percent.isNaN || percent < 0 then 0 else if 100 < percent then 100 else percent.toUInt32)

/-- Memory in kilobytes from its text, with or without the unit. -/
def ramKb (text : String) : Nat :=
  let digits := String.ofList (trimChars (dropEndings "kB".toList text.toList))
  (natural? 0x10000000000000000 digits).getD 0

end Steward.Inventory
