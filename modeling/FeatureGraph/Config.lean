import FeatureGraph.Cypher.Query
import FeatureGraph.Json.Reader
import FeatureGraph.Service.Server
import FeatureGraph.Text.LetterCase

/-! # Configuration

Settings come from a section of a file and then from the environment, which counts more. A setting that is
null, false, zero or empty counts as not given. -/
namespace FeatureGraph

structure Source where
  url : String
  /-- Null when there is none. -/
  token : Json := .null

structure Config where
  sources : List (String × Source) := []
  logLevel : String := "INFO"
  policy : Cypher.SpatialPolicy := .skip
  referer : Json := .text defaultReferer

inductive ConfigError where
  | sourcesNotObject
  | sourceNotObject (name : String)
  | fileNotJson (path : String)
  | fileNotObject (path : String)
  | fileMissing (path : String)
  | environmentNotJson
  | unknownPolicy (given : Json)

def ConfigError.message : ConfigError → String
  | sourcesNotObject => "sources must be a JSON object"
  | sourceNotObject name => s!"source {Text.quoted name} must be an object"
  | fileNotJson path => s!"config file {path} is not valid JSON"
  | fileNotObject path => s!"config file {path} must contain a JSON object"
  | fileMissing path => s!"config file {path} does not exist"
  | environmentNotJson => "KNOWLEDGE_SOURCES is not valid JSON"
  | unknownPolicy given => "spatial filter policy must be one of ('skip', 'raise'), got " ++ given.literal

/-- Why a configuration cannot be had: it is not a valid one, or a value has another shape than its use
needs. -/
inductive ConfigFault where
  | invalid (e : ConfigError)
  | defect (d : Defect)

inductive FileState where
  | missing
  | directory
  | file (content : List UInt8)
  deriving DecidableEq, Repr

abbrev Environment := List (String × String)

/-- A variable that is set and not empty. -/
def Environment.get? (env : Environment) (name : String) : Option String :=
  (env.lookup name).filter fun v => !v.isEmpty

namespace Config

/-- A source with a URL; none where the URL is blank. -/
def source? (v : Json) : Option Source :=
  let url := Text.trim (((v.get "url").truthy?.map Json.display).getD "").toList
  if url.isEmpty then none else some ⟨String.ofList url, (v.get "token").truthy?.getD .null⟩

def addSource (sources : List (String × Source)) (name : String) (v : Json) :
    Except ConfigError (List (String × Source)) :=
  match v with
  | .object _ => .ok (((source? v).map fun s => Assoc.put name s sources).getD sources)
  | _ => .error (.sourceNotObject name)

def sourcesOf (v : Json) : Except ConfigError (List (String × Source)) :=
  match v with
  | .null => .ok []
  | .object ms => ms.foldlM (fun sources m => addSource sources m.1 m.2) []
  | _ => .error .sourcesNotObject

/-- The path of the file, and whether it was asked for. -/
def place (path : Option String) (env : Environment) : String × Bool :=
  match (path.filter fun p => !p.isEmpty).or (env.get? "KNOWLEDGE_CONFIG") with
  | some p => (p, true)
  | none => ("config/default.json", false)

def section? (path : String) (content : List UInt8) (calls : Nat := callLimit) : Except ConfigFault Json :=
  match Text.Utf8.decode content with
  | none => .error (.invalid (.fileNotJson path))
  | some text => do
    match ← (Json.loads text calls).mapError .defect with
    | none => .error (.invalid (.fileNotJson path))
    | some (.object ms) => return ((Json.object ms).get "provider-knowledge").truthy?.getD (.object [])
    | some _ => .error (.invalid (.fileNotObject path))

def settings (path : Option String) (env : Environment) (files : String → FileState) (calls : Nat := callLimit) :
    Except ConfigFault Json :=
  let (p, asked) := place path env
  match files p with
  | .file content => section? p content calls
  | .directory => .error (.defect (.foreign "IsADirectoryError" s!"[Errno 21] Is a directory: {Text.quoted p}"))
  | .missing => if asked then .error (.invalid (.fileMissing p)) else .ok (.object [])

def environmentSources (env : Environment) (calls : Nat := callLimit) :
    Except ConfigFault (List (String × Source)) :=
  match env.get? "KNOWLEDGE_SOURCES" with
  | none => .ok []
  | some text => do
    match ← (Json.loads text calls).mapError .defect with
    | none => .error (.invalid .environmentNotJson)
    | some v => (sourcesOf v).mapError .invalid

/-- The setting that counts: from the environment, or from the file, or a default. -/
def setting (env : Environment) (variableName : String) (settings : Json) (name default : String) : Json :=
  (((env.get? variableName).map Json.text).or (settings.get name).truthy?).getD (.text default)

def policyOf (v : Json) : Except ConfigError Cypher.SpatialPolicy :=
  match v with
  | .text s => (Cypher.SpatialPolicy.ofName? s).elim (.error (.unknownPolicy v)) .ok
  | _ => .error (.unknownPolicy v)

def logLevelOf : Json → Except Defect String
  | .text s => .ok (Text.upper s)
  | v => .error (.missingMember v.typeName "upper")

def load (path : Option String) (env : Environment) (files : String → FileState) (calls : Nat := callLimit) :
    Except ConfigFault Config := do
  let settings ← settings path env files calls
  match settings with
  | .object _ =>
    let fromFile ← (sourcesOf (settings.get "sources")).mapError .invalid
    let fromEnvironment ← environmentSources env calls
    let named := setting env "KNOWLEDGE_SPATIAL_FILTER_ERRORS" settings "spatialFilterErrors" "skip"
    let policy ← (policyOf named).mapError .invalid
    let logLevel ← (logLevelOf (setting env "KNOWLEDGE_LOG_LEVEL" settings "logLevel" "INFO")).mapError .defect
    return {
      sources := Assoc.putAll fromFile fromEnvironment
      logLevel
      policy
      referer := (settings.get? "referer").getD (.text defaultReferer) }
  | v => .error (.defect (.missingMember v.typeName "get"))

/-- The server of a source, with a token that counts more than the one of the source. -/
def server (c : Config) (name : String) (s : Source) (token : String) : Server :=
  .ofUrl name s.url (if token.isEmpty then s.token else .text token) c.policy c.referer

def servers (c : Config) : List Server := c.sources.map fun p => c.server p.1 p.2 ""

end Config
end FeatureGraph
