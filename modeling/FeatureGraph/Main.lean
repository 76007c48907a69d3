import FeatureGraph.CommandLine.Program
import FeatureGraph.Json.Printer
import FeatureGraph.Service.Web

/-! # The program

It reads the environment and the configuration file and carries out its arguments. There is no network
here: a request to a graph service fails, and a service that is served takes its requests from standard
input, each a line with a path and a query. -/

namespace FeatureGraph.Program

def variableNames : List String :=
  ["KNOWLEDGE_CONFIG", "KNOWLEDGE_SOURCES", "KNOWLEDGE_LOG_LEVEL", "KNOWLEDGE_SPATIAL_FILTER_ERRORS"]

def readEnvironment : IO Environment := do
  let values ← variableNames.mapM fun name => do return (name, (← IO.getEnv name).getD "")
  return values.filter fun p => !p.2.isEmpty

def readFile (path : String) : IO FileState := do
  try return .file (← IO.FS.readBinFile path).data.toList
  catch _ => return .missing

def unreachable : Remote := fun _ _ => .failed "ConnectError"

/-- Responds to each line until the input ends. -/
partial def serveLines (servers : List Server) (w : World) : IO Unit := do
  let line ← (← IO.getStdin).getLine
  if line.isEmpty then return
  let target := Text.trim line.toList
  let request : Web.Request :=
    { path := Url.path (target.takeWhile (· ≠ '?')), query := String.ofList (Url.queryOf target) }
  let (response, w) := (Web.respond unreachable servers request).run w
  match response with
  | .ok r => IO.println s!"{r.status} {r.body.write}"
  | .error d => IO.eprintln s!"error: {d.message}"
  serveLines servers w

def configPath (args : List String) (env : Environment) : String :=
  match CommandLine.Invocation.ofArguments args with
  | .ok i => (Config.place i.config env).1
  | .error _ => ""

end FeatureGraph.Program

open FeatureGraph FeatureGraph.Program in
def main (args : List String) : IO UInt32 := do
  let env ← readEnvironment
  let path := configPath args env
  let state ← readFile path
  let files (p : String) : FileState := if p = path then state else .missing
  match ((CommandLine.run unreachable files env args).run {}).1 with
  | .error d =>
    IO.eprintln s!"error: {d.message}"
    return 1
  | .ok o =>
    if let some line := o.output then IO.println line
    if let some line := o.error then IO.eprintln line
    if let some address := o.served then
      IO.println s!"serving at {address.host}:{address.portNumber}"
      if let .ok i := CommandLine.Invocation.ofArguments args then
        if let .ok c := Config.load i.config env files then serveLines c.servers {}
    return o.exit.toUInt32
