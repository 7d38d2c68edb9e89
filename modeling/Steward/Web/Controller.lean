import Steward.Json.Reader
import Steward.Text.Utf8
import Steward.Web.Status
import Steward.Web.Url
import Steward.Wire.Document

/-!
Requests to the controller. A `Client` turns a method, a route and a body into a request, which the
network answers with an `Exchange`; `Client.conclude` says what that means. Downloads are requests
without the client's headers.
-/
namespace Steward.Web

open Steward.Text

inductive Method where
  | get
  | patch
  | post
deriving DecidableEq

def Method.name : Method → String
  | get => "GET"
  | patch => "PATCH"
  | post => "POST"

structure Request where
  method : Method
  /-- In its written form. -/
  url : String
  /-- Name and value of each header. -/
  headers : List (String × String)
  body : Option Json.Value

/-- What became of a request. -/
inductive Exchange where
  | unreachable
  | timedOut
  | answered (status : Nat) (body : List UInt8)
deriving DecidableEq

inductive WebError where
  /-- The request could not be formed. -/
  | builder (url : Option String)
  | unreachable (route url : String)
  | timedOut (route : String)
  | refused (status : Nat) (route body : String)
  | undecodable
  /-- A download was answered with an error status. -/
  | badStatus (status : Nat) (url : String)
deriving DecidableEq

def requestTimeoutSecs : Nat := 30

def WebError.message : WebError → String
  | builder none => "builder error"
  | builder (some url) => "builder error for url (" ++ url ++ ")"
  | unreachable route url =>
    "controller unreachable for " ++ route ++ ": error sending request for url (" ++ url ++ ")"
  | timedOut route =>
    "controller request " ++ route ++ " timed out after " ++ padded 1 requestTimeoutSecs ++ "s"
  | refused status route body =>
    "controller returned " ++ writtenStatus status ++ " for " ++ route ++
      (if body.isEmpty then "" else ": " ++ body)
  | undecodable => "error decoding response body"
  | badStatus status url =>
    "HTTP status " ++ (if isClientError status then "client" else "server") ++ " error (" ++
      writtenStatus status ++ ") for url (" ++ url ++ ")"

/-- The URL of a request; it has to have a host. -/
def destination (s : String) : Except WebError Url :=
  match Url.read? s with
  | none => .error (.builder none)
  | some url => if url.host.isSome then .ok url else .error (.builder (some url.text))

/-- The longest URL that is requested, in bytes. -/
def urlLimit : Nat := 65534

/-- The written form of a URL to which a request can go. User name and password are not part of it. Some
signs that a host can have are not sent. -/
def requestedUrl (url : Url) : Except WebError String :=
  let url := url.withoutUser
  let unsent (host : String) : Bool := host.toList.any ['"', Char.ofNat 0x60, '\x7b', '\x7d'].contains
  if (url.scheme = "http" || url.scheme = "https") && !url.host.any unsent && url.text.utf8ByteSize ≤ urlLimit then
    .ok url.text
  else .error (.builder (some url.text))

/-- Whether a text can be the value of a header. -/
def isHeaderValue (s : String) : Bool :=
  s.toList.all fun c => c = '\t' || (0x20 ≤ c.toNat && c.toNat ≠ 0x7F)

structure Client where
  /-- Without slashes at its end. -/
  baseUrl : String
  token : String
deriving DecidableEq

namespace Client

def new (baseUrl token : String) : Client :=
  { baseUrl := String.ofList (dropEndWhile (· == '/') baseUrl.toList), token }

def prepare (c : Client) (method : Method) (route : String) (body : Option Json.Value) :
    Except WebError Request := do
  let url ← destination (c.baseUrl ++ route)
  let authorization := "Token " ++ c.token
  if isHeaderValue authorization then
    return { method, url := ← requestedUrl url, body
             headers := [("authorization", authorization), ("content-type", "application/json")] }
  else .error (.builder none)

/-- The body of a successful answer, or the error that the exchange means for this route. -/
def conclude (route url : String) : Exchange → Except WebError (List UInt8)
  | .unreachable => .error (.unreachable route url)
  | .timedOut => .error (.timedOut route)
  | .answered status body =>
    if isSuccess status then .ok body
    else .error (.refused status route (trim (decodeLossy body)))

end Client

/-- The document in a body. -/
def document (body : List UInt8) : Except WebError Json.Value :=
  match (ofUtf8? body).bind Json.Value.read? with
  | some j => .ok j
  | none => .error .undecodable

/-- The value in a body. -/
def decoded (α : Type) [Wire.Sendable α] (body : List UInt8) : Except WebError α := do
  let j ← document body
  match Wire.ofValue? (Wire.Value.ofJson j) with
  | some a => .ok a
  | none => .error .undecodable

end Steward.Web
