import FeatureGraph.Cypher.Query
import FeatureGraph.Edit.Build
import FeatureGraph.Feature.Collection
import FeatureGraph.Service.World

/-! # A graph service as a source of layers

The schema is fetched at the first use and kept. A query is settled against the schema before anything is
sent. -/
namespace FeatureGraph

structure Server where
  /-- The name under which its schema is kept. -/
  name : String
  url : String
  /-- Empty when there is none. -/
  token : String := ""
  policy : Cypher.SpatialPolicy := .skip
  referer : Json := .null
  platform : Platform := {}

def defaultReferer : String := "http://koopjs.esri.com"

def tokenText (token : Json) : String := if token.isTruthy then token.display else ""

namespace Server

/-- A server at a URL, whose slashes at the end do not count. -/
def ofUrl (name url : String) (token : Json) (policy : Cypher.SpatialPolicy) (referer : Json) : Server :=
  { name, url := String.ofList (Text.trimEnd ['/'] url.toList), token := tokenText token, policy, referer }

/-! ## URLs -/

/-- The token of the caller, or else that of the server. -/
def tokenFor (s : Server) (caller : String) : String := if caller.isEmpty then s.token else caller

def urlOf (s : Server) (path : String) (blank : Url.Blank) (ps : List (String × String)) (caller : String) : String :=
  s.url ++ path ++ "?" ++ String.ofList (Url.query blank (ps ++ [("f", "pbf"), ("token", s.tokenFor caller)]))

def modelUrl (s : Server) (caller : String) : String := s.urlOf "/dataModel/queryDataModel" .plus [] caller

def queryUrl (s : Server) (cypher caller : String) : String :=
  s.urlOf "/graph/query" .percent [("openCypherQuery", cypher)] caller

def editsUrl (s : Server) (caller : String) : String := s.urlOf "/graph/applyEdits" .plus [] caller

/-! ## Requests -/

/-- The referer as a header: a text in ASCII. -/
def refererHeader (s : Server) : Except Defect (Option String) :=
  if !s.referer.isTruthy then .ok none
  else
    match s.referer with
    | .text r =>
      if r.toList.all fun c => c.toNat < 128 then .ok (some r)
      else .error (.notAscii r)
    | v => .error (.wrongType s!"Header value must be str or bytes, not <class '{v.typeName}'>")

def getRequest (s : Server) (url : String) : Except Defect Request := do
  return { method := .get, url, contentType := "application/x-www-form-urlencoded", referer := ← s.refererHeader }

def postRequest (url : String) (body : EditsBody) : Request :=
  { method := .post, url, contentType := "application/octet-stream", body := some body }

variable (remote : Remote)

def fetch (s : Server) (url : String) : Session Answer := do
  let r ← Session.ofDefect (s.getRequest url)
  Session.ofFailure (← Session.send remote r)

/-! ## Schema -/

def fetchModel (s : Server) (caller : String) : Session DataModel := do
  Session.count "schema_fetches" 1
  Session.ofFault ((← s.fetch remote (s.modelUrl caller)).model s.platform)

def schema (s : Server) (caller : String) : Session Schema := do
  match (← get).schemas.lookup s.name with
  | some schema => return schema
  | none =>
    let answer ← ExceptT.lift (s.fetchModel remote caller).run
    let schema ← Session.ofFault (Schema.load answer)
    modify fun w => { w with schemas := Assoc.put s.name schema w.schemas }
    return schema

def dataModel (s : Server) (caller : String) : Session DataModel :=
  Session.observed "get_data_model" none do return (← s.schema remote caller).model

def layer (s : Server) (ref : Json) (caller : String) : Session Layer := do
  Session.ofFault ((← s.schema remote caller).layer ref)

/-! ## Queries -/

/-- A failure in the midst of a response says how many rows came before it. -/
def withPartialRows (f : Failure) (rows : Nat) : Failure :=
  if (f.details.lookup "partial_rows").isSome then f
  else { f with details := f.details ++ [("partial_rows", .int rows)] }

/-- The response to a query. An error in it is raised. -/
def query (s : Server) (cypher caller : String) : Session QueryResponse := do
  let r ← Session.ofFault ((← s.fetch remote (s.queryUrl cypher caller)).rows s.platform)
  match r.error with
  | some f => throw (.failure (withPartialRows f r.rows.length))
  | none =>
    Session.count "query_rows" r.rows.length
    return r

def queryLayer (s : Server) (l : Layer) (params : Json) (caller : String) : Session FeatureCollection :=
  Session.observed "query_entity" (some l.id) do
    let q ← Session.ofFault (FeatureQuery.ofParameters params)
    let cypher ← Session.ofFault (Cypher.entityQuery s.policy l.name l.geometryField q s.platform)
    let r ← s.query remote cypher caller
    Session.ofDefect
      (if q.countOnly then FeatureCollection.ofCount r.rows
        else FeatureCollection.ofRows l.geometryField r.transform r.rows)

def relationshipEnd (l : Layer) (ref : Json) : Except Fault RelationshipEnd :=
  match Number.integer? (Text.trim ref.display.toList) with
  | none => .error (.showing ref (.of .invalidRelationship ("invalid relationship id " ++ ref.literal)))
  | some id =>
    match l.relationship? id with
    | some r => .ok r
    | none =>
      .error (Failure.of .invalidRelationship s!"relationship {Number.integerText id} is not defined on layer {l.id}"
        [("layer_id", .int l.id), ("relationship_id", .int id)])

def queryRelated (s : Server) (l : Layer) (ref params : Json) (caller : String) : Session FeatureCollection :=
  Session.observed "query_relationship" (some l.id) do
    let r ← Session.ofFault (relationshipEnd l ref)
    let related ← s.layer remote (.int r.related) caller
    let q ← Session.ofFault (FeatureQuery.ofParameters params)
    let cypher ← Session.ofFault
      (Cypher.relationshipQuery s.policy l.name related.name r.name r.role l.geometryField q s.platform)
    let response ← s.query remote cypher caller
    Session.ofDefect
      (if q.countOnly then FeatureCollection.ofCount response.rows
        else FeatureCollection.ofRelatedRows related.geometryField response.transform response.rows)

/-! ## Edits -/

/-- Sends an edit. What goes wrong is told in the result, if it is a failure. -/
def applyEdits (s : Server) (adds : Wire.Adds) (q : Option (Quantization Float)) (caller : String) :
    Session EditsResult := do
  let body : EditsBody := ⟨{ minorVersion := 2, transform := q.map Wire.Transform.ofQuantization }, adds⟩
  let result : EditsResult ←
    match ← Session.send remote (postRequest (s.editsUrl caller) body) with
    | .error f => pure { error := some f }
    | .ok a => Session.ofDefect (a.edits s.platform)
  match result.error with
  | some f => Session.observe "apply_edits" false (f.code.getD "EDITS_ERROR") none
  | none => Session.observe "apply_edits" true "OK" none
  return result

def addEntity (s : Server) (type : String) (properties : List (String × Edit.Assignment))
    (q : Option (Quantization Float)) (caller : String) : Session EditsResult := do
  let adds ← Session.ofDefect (Edit.addEntity type properties q)
  s.applyEdits remote adds q caller

def addRelationship (s : Server) (origin destination type caller : String) : Session EditsResult := do
  let adds ← Session.ofDefect (Edit.addRelationship origin destination type)
  s.applyEdits remote adds none caller

end Server
end FeatureGraph
