import Steward.Agent.Call
import Steward.Update.Descriptor
import Steward.Update.Digest

/-!
Updating, uninstalling and rebooting. A sequence that ends the agent answers first, does its work,
flushes what is still to be sent, stops taking commands and only then exits.
-/
namespace Steward.Agent

open Steward.Message Steward.Update Steward.Web

inductive UpdateOutcome where
  | upToDate
  | installed (v : Version)
deriving DecidableEq

/-- Whether bytes have the digest that was promised, if one was. -/
def checkDigest (promised : Option String) (bytes : List UInt8) : Except Chain Unit :=
  match promised with
  | none => .ok ()
  | some expected =>
    let found := sha256Hex bytes
    if found = expected then .ok ()
    else .error ["checksum mismatch: expected " ++ expected ++ ", got " ++ found]

/-- Downloads what is at `url`; an error status is a failure. -/
def download (url : String) : Job (List UInt8) := do
  let failed : Chain := ["failed to download " ++ url]
  match destination url >>= requestedUrl with
  | .error e => throw (failed ++ [e.message])
  | .ok address =>
    let answer : Exchange ← call (.request { method := .get, url := address, headers := [], body := none })
    match answer with
    | .answered status body =>
      if isClientError status || isServerError status then
        throw [(WebError.badStatus status address).message]
      else return body
    | _ => throw (failed ++ ["error sending request for url (" ++ address ++ ")"])

/-- Replaces the agent's binary by a newer one. -/
def update (current : Version) (d : Descriptor) : Job UpdateOutcome := do
  if d.version.le current then return .upToDate
  else
    let bytes ← download d.url
    orFail (checkDigest d.sha256 bytes)
    orFail (← call (.install bytes))
    return .installed d.version

/-- The update that a command asks for. -/
def updateFor (current : Version) (c : Command) : Job UpdateOutcome := do
  update current (← orSay DescriptorFault.message (Descriptor.ofCommand c))

/-- Flushes, however that ends, and exits. -/
def terminate : Job Unit := do
  let _ ← call .flush
  call .beginStop
  call (.exit 0)

/-- The agent exits whatever becomes of an update that was begun: it is started again from the binary
that is in place then. -/
def selfUpdate (current : Version) (c : Command) : Job Unit := do
  let begun ← guarded .selfUpdate do
    reply replyOk
    Action.attempt (updateFor current c)
  match begun with
  | none => reply replyUpdateRunning
  | some _ => terminate

/-- Removes the agent's own tasks and itself; nothing that fails keeps it from exiting. -/
def uninstall : Job Unit := do
  let _ ← Action.attempt (reply replyOk)
  let _ ← call (.tasks .cleanup)
  let _ ← call (.host .uninstall)
  terminate

def reboot : Job Unit := do
  reply replyOk
  let _ ← call .flush
  orFail (← call (.host .reboot))

end Steward.Agent
