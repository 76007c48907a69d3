import FeatureGraph.Edit.Outcome
import FeatureGraph.Json.Reader
import FeatureGraph.Platform
import FeatureGraph.Text.Encoding
import FeatureGraph.Url.Percent
import FeatureGraph.Wire.Model

/-! # Requests to a graph service and what comes back -/
namespace FeatureGraph

inductive Method where
  | get
  | post
  deriving DecidableEq, Repr

def Method.name : Method → String
  | get => "GET"
  | post => "POST"

/-- The body of an edit: a header, and the objects to add in a frame of their own. -/
structure EditsBody where
  header : Wire.EditsHeader
  adds : Wire.Adds

/-- The body as bytes. The frame is compressed. -/
def EditsBody.encode (compress : List UInt8 → List UInt8) (b : EditsBody) (order : Wire.EntryOrder := .byName) :
    List UInt8 :=
  Wire.frame b.header.encode ++ Wire.frame (compress (Wire.encodeEditsFrame b.adds order))

structure Request where
  method : Method
  url : String
  contentType : String
  referer : Option String := none
  body : Option EditsBody := none

structure Answer where
  status : Nat
  contentType : Option String := none
  body : List UInt8 := []

/-- What a request leads to: an answer, an error of the transport with its name, or an error of another kind, such as for
an address that is too long to be sent. -/
inductive Reply where
  | failed (error : String)
  | broken (d : Defect)
  | answered (a : Answer)

/-- A service as it is seen from here: its reply may depend on the requests before, the oldest first. -/
abbrev Remote := List Request → Request → Reply

namespace Answer

def isJson (a : Answer) : Bool :=
  "application/json".toList.isPrefixOf (a.contentType.getD "").toList

/-- The body as JSON, in the encoding that its first bytes tell; none where it is no JSON. -/
def json (a : Answer) (platform : Platform := {}) : Except Defect (Option Json) :=
  match Text.Encoding.textOf? a.body with
  | none => .ok none
  | some text => Json.loads text platform.calls

/-- The character set that the content type names, in lower case. -/
def charset (a : Answer) : Option String :=
  let parts := (Text.splitAt ';' (a.contentType.getD "").toList).drop 1
  parts.findSome? fun part =>
    let name := Text.trim (part.takeWhile (· ≠ '='))
    let value := Text.trim ((part.dropWhile (· ≠ '=')).drop 1)
    if Text.lower (String.ofList name) = "charset" then
      some (Text.lower (String.ofList (Text.trimSet ['"'] value)))
    else none

def messageOnly (s : String) : Json := .object [("message", .text s)]

/-- The error that a JSON body tells, always an object; the text of a body that is no JSON. -/
def errorPayload (a : Answer) (platform : Platform := {}) : Except Defect Json := do
  match ← a.json platform with
  | none => return messageOnly (← platform.codec a.charset a.body)
  | some (.object ms) =>
    match (ms.lookup "error").getD (.object ms) with
    | .object e => return .object e
    | e => return messageOnly e.display
  | some v => return messageOnly v.display

def errorMessage (default : String) (payload : Json) : String :=
  ((payload.get "message").truthy?.map Json.display).getD default

end Answer

/-- The address of a request as failures show it. -/
def Request.shownUrl (r : Request) : Json := .text (String.ofList (Url.redact r.url.toList))

/-- The answer to a request. An error status is a failure of the transport unless the body is JSON. -/
def Request.answer (r : Request) : Reply → Except Fault Answer
  | .failed error =>
    .error (Failure.of .transport s!"{r.method.name} request failed: {error}" [("url", r.shownUrl)])
  | .broken d => .error d
  | .answered a =>
    if 400 ≤ a.status ∧ !a.isJson then
      .error (Failure.of .transport s!"{r.method.name} request failed with status {a.status}"
        [("url", r.shownUrl), ("status", .int a.status)])
    else .ok a

namespace Answer

variable (a : Answer) (platform : Platform := {})

def model : Except Fault DataModel :=
  if a.isJson then do
    let payload ← (a.errorPayload platform).mapError .defect
    .error (Failure.of .schemaFetch "data model request returned an error payload" [("error", payload)])
  else (DataModel.decode a.body).mapError .failure

def graphFailure (default : String) : Except Defect Failure := do
  let payload ← a.errorPayload platform
  return .of .graphQuery (errorMessage default payload) [("error", payload)]

def rows : Except Fault QueryResponse :=
  if a.isJson then do
    let f ← (a.graphFailure platform "graph query failed").mapError .defect
    .error (.failure f)
  else QueryResponse.decode a.body

def edits : Except Defect EditsResult :=
  if a.isJson then do return { error := some (← a.graphFailure platform "apply edits failed") }
  else .ok (EditsResult.decode a.body platform.complaint)

end Answer
end FeatureGraph
