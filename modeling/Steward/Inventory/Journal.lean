import Steward.Calendar.Written
import Steward.Json.Reader
import Steward.Message.Reply
import Steward.Text.Line

/-!
Event records out of the system journal, which is exported as one JSON object per line. A line that is
no JSON, or has no text as its message, gives no record and does not disturb the other lines.
-/
namespace Steward.Inventory

open Steward.Calendar Steward.Message Steward.Text

def levelOfPriority (priority : String) : String :=
  match priority with
  | "0" => "CRITICAL"
  | "1" => "CRITICAL"
  | "2" => "CRITICAL"
  | "3" => "ERROR"
  | "4" => "WARNING"
  | "7" => "DEBUG"
  | _ => "INFO"

/-- The written UTC time of a count of microseconds since 1970, empty when it is none. -/
def timeOfMicros (micros : Option Int) : String :=
  match micros.bind (fun n => Instant.ofNanos? (n * 1000)) with
  | some t => t.written ++ "+00:00"
  | none => ""

def journalRecord? (entry : Json.Value) : Option EventLogRecord := do
  let message ← (entry.get? "MESSAGE").bind Json.Value.asText?
  let textAt (name : String) : Option String := (entry.get? name).bind Json.Value.asText?
  let source := ((entry.get? "SYSLOG_IDENTIFIER").or (entry.get? "_COMM")).bind Json.Value.asText?
  return { time := timeOfMicros ((textAt "__REALTIME_TIMESTAMP").bind (integer? 0x8000000000000000))
           level := levelOfPriority ((textAt "PRIORITY").getD "6")
           source := source.getD ""
           message }

def journalLine? (line : String) : Option EventLogRecord :=
  (Json.Value.read? line).bind journalRecord?

def readJournal (out : String) : List EventLogRecord := (lines out).filterMap journalLine?

end Steward.Inventory
