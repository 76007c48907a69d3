import FeatureGraph.Service.Handler

/-! # The service on the web

Three paths lead to features: a service, a layer of it, and a method of a layer. -/
namespace FeatureGraph.Web

structure Request where
  method : String := "GET"
  /-- Decoded already. -/
  path : String
  /-- What follows the question mark, as it was sent. -/
  query : String := ""

structure Response where
  status : Nat
  body : Json

inductive Route where
  | info
  | features (service : String) (layer method : Option String)
  deriving DecidableEq, Repr

/-- The route of a path; no part of a path is empty. -/
def Route.ofPath? (path : String) : Option Route :=
  match (Text.splitAt '/' path.toList).map String.ofList with
  | ["", "rest", "info"] => some .info
  | "" :: "rest" :: "services" :: service :: "FeatureServer" :: more =>
    if service.isEmpty || more.any (·.isEmpty) then none
    else
      match more with
      | [] => some (.features service none none)
      | [layer] => some (.features service (some layer) none)
      | [layer, method] => some (.features service (some layer) (some method))
      | _ => none
  | _ => none

def serviceInfo : Json :=
  .object [("currentVersion", .float 11.0), ("fullVersion", .text "11.0.0"), ("owningSystemUrl", .text ""),
    ("authInfo", .object [("isTokenBasedSecurity", .bool false)])]

/-- The parameters of a query. The last of several with one name counts. -/
def parameters (query : String) : Json :=
  .object (Assoc.putAll [] ((Url.pairs query.toList).map fun p => (p.1, .text p.2)))

def detail (status : Nat) (message : String) : Response := ⟨status, .object [("detail", .text message)]⟩

/-- The response to a request. Only a body that has no form in JSON is a defect. -/
def respond (remote : Remote) (servers : List Server) (r : Request) : StateM World (Except Defect Response) := do
  match Route.ofPath? r.path with
  | none => return .ok (detail 404 "Not Found")
  | some route =>
    if r.method ≠ "GET" then return .ok (detail 405 "Method Not Allowed")
    else
      match route with
      | .info => return .ok ⟨200, serviceInfo⟩
      | .features service layer method =>
        let response ← FeatureRequest.respond remote servers
          { service, layer := .ofOption .text layer, method := .ofOption .text method, query := parameters r.query }
        return response.body.toJson.map fun body => ⟨response.status, body⟩

end FeatureGraph.Web
