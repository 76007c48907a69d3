import FeatureGraph.Remote.Exchange
import FeatureGraph.Schema.Cache

/-! # What happens while a service runs -/
namespace FeatureGraph

inductive Metric where
  | counter (name : String) (value : Nat)
  | observation (operation : String) (ok : Bool) (code : String) (layer : Option Nat)
  deriving DecidableEq, Repr

/-- What earlier operations left behind: the schemas of the servers by name, the requests and the
metrics, each the oldest first. -/
structure World where
  schemas : List (String × Schema) := []
  sent : List Request := []
  metrics : List Metric := []

/-- An operation in a world. What it did stays done when it fails. -/
abbrev Session (α : Type) := ExceptT Fault (StateM World) α

namespace Session

def count (name : String) (value : Nat) : Session Unit :=
  modify fun w => { w with metrics := w.metrics ++ [.counter name value] }

def observe (operation : String) (ok : Bool) (code : String) (layer : Option Nat) : Session Unit :=
  modify fun w => { w with metrics := w.metrics ++ [.observation operation ok code layer] }

/-- Observes how an operation ends. A defect is not observed. -/
def observed {α : Type} (operation : String) (layer : Option Nat) (x : Session α) : Session α := do
  let a ← tryCatch x fun e => do
    match e with
    | .failure f => observe operation false f.metricCode layer
    | .defect _ => pure ()
    throw e
  observe operation true "OK" layer
  return a

def ofFailure {α : Type} (x : Except Failure α) : Session α := ExceptT.mk (pure (x.mapError .failure))

def ofDefect {α : Type} (x : Except Defect α) : Session α := ExceptT.mk (pure (x.mapError .defect))

def ofFault {α : Type} (x : Except Fault α) : Session α := ExceptT.mk (pure x)

/-- A result or a failure; a defect stays an error. -/
def settled {α : Type} : Except Fault α → Except Fault (Except Failure α)
  | .ok a => .ok (.ok a)
  | .error (.failure f) => .ok (.error f)
  | .error (.defect d) => .error (.defect d)

def send (remote : Remote) (r : Request) : Session (Except Failure Answer) := do
  let w ← get
  set { w with sent := w.sent ++ [r] }
  ofFault (settled (r.answer (remote w.sent r)))

end Session
end FeatureGraph
