import FeatureGraph.CommandLine.Options
import FeatureGraph.Config

/-! # The commands of the program

One command serves the sources that are configured, the other writes the query text of a layer. -/
namespace FeatureGraph.CommandLine

def programOptions : List Flag := [⟨"config", .text⟩, ⟨"log-level", .text⟩]

def serveOptions : List Flag := [⟨"host", .text⟩, ⟨"port", .whole⟩]

def cypherOptions : List Flag :=
  [⟨"service", .text⟩, ⟨"layer", .text⟩, ⟨"token", .text⟩, ⟨"entity", .text⟩, ⟨"geometry-field", .text⟩,
    ⟨"where", .text⟩, ⟨"object-ids", .text⟩, ⟨"geometry", .text⟩, ⟨"in-sr", .text⟩, ⟨"spatial-rel", .text⟩,
    ⟨"ids-only", .flag⟩, ⟨"count-only", .flag⟩, ⟨"limit", .whole⟩]

inductive Command where
  | serve (s : Settings)
  | cypher (s : Settings)

structure Invocation where
  config : Option String
  command : Command

def Invocation.ofArguments (args : List String) : Except Stop Invocation := do
  let top ← read true programOptions args
  let command : Read × Command ←
    match top.rest with
    | "serve" :: r => do
      let s ← read false serveOptions r
      pure (s, Command.serve s.settings)
    | "cypher" :: r => do
      let s ← read false cypherOptions r
      pure (s, Command.cypher s.settings)
    | _ => throw .usage
  if top.stray || command.1.stray then throw .usage
  return ⟨top.settings.get? "config", command.2⟩

structure Address where
  host : String
  portNumber : Int
  logLevel : String
  deriving DecidableEq, Repr

/-- What the program leaves behind: its exit code, a line for the output, a line for the errors, and the
address at which it serves. -/
structure Outcome where
  exit : Nat
  output : Option String := none
  error : Option String := none
  served : Option Address := none
  deriving DecidableEq, Repr

def wholeOption (s : Settings) (name : String) : Option Int :=
  (s.get? name).bind fun v => Number.integer? v.toList

/-- The query parameters that options give; empty ones are left out. -/
def parameters (s : Settings) : Json :=
  let text (option name : String) : List (String × Json) :=
    match s.get? option with
    | some v => if v.isEmpty then [] else [(name, .text v)]
    | none => []
  let on (option name : String) : List (String × Json) := if s.has option then [(name, .text "true")] else []
  .object (text "where" "where" ++ text "object-ids" "objectIds" ++ text "geometry" "geometry" ++
    text "in-sr" "inSR" ++ text "spatial-rel" "spatialRel" ++ on "ids-only" "returnIdsOnly" ++
    on "count-only" "returnCountOnly" ++
    ((wholeOption s "limit").map fun n => ("resultRecordCount", Json.int n)).toList)

def queryText (c : Config) (s : Settings) (entity : String) (field : Option String) : Except Fault String := do
  Cypher.entityQuery c.policy entity field (← FeatureQuery.ofParameters (parameters s))

def layerQueryText (remote : Remote) (c : Config) (s : Settings) (service layer : String) : Session String := do
  match c.sources.lookup service with
  | none => throw (.failure (.of .serviceNotFound s!"Service {service} not found"))
  | some source =>
    let server := c.server service source ((s.get? "token").getD "")
    let l ← server.layer remote (.text layer) ""
    Session.ofFault (queryText c s l.name l.geometryField)

def Settings.nonempty? (s : Settings) (name : String) : Option String := (s.get? name).filter fun v => !v.isEmpty

def cypher (remote : Remote) (c : Config) (s : Settings) : StateM World (Except Defect Outcome) := do
  let text : Option (Session String) :=
    match s.nonempty? "entity", s.nonempty? "service", s.get? "layer" with
    | some entity, _, _ => some (Session.ofFault (queryText c s entity ((s.get? "geometry-field").getD "shape")))
    | none, some service, some layer => some (layerQueryText remote c s service layer)
    | none, _, _ => none
  match text with
  | none => return .ok { exit := 2, error := some "error: --service and --layer are required without --entity" }
  | some text =>
    match ← text.run with
    | .ok t => return .ok { exit := 0, output := some t }
    | .error (.failure f) => return .ok { exit := 1, error := some ("error: " ++ f.text) }
    | .error (.defect d) => return .error d

def serve (c : Config) (s : Settings) : Outcome where
  exit := 0
  served := some ⟨(s.get? "host").getD "127.0.0.1", (wholeOption s "port").getD 8080, Text.lower c.logLevel⟩

/-- Carries out an invocation in an environment with some files. -/
def run (remote : Remote) (files : String → FileState) (env : Environment) (args : List String) :
    StateM World (Except Defect Outcome) := do
  match Invocation.ofArguments args with
  | .error .help => return .ok { exit := 0 }
  | .error .usage => return .ok { exit := 2 }
  | .ok i =>
    match Config.load i.config env files with
    | .error (.invalid e) => return .ok { exit := 2, error := some ("error: " ++ e.message) }
    | .error (.defect d) => return .error d
    | .ok c =>
      match i.command with
      | .serve s => return .ok (serve c s)
      | .cypher s => cypher remote c s

end FeatureGraph.CommandLine
