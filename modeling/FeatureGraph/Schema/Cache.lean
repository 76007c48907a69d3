import FeatureGraph.Assoc
import FeatureGraph.Schema.Layer

/-! # A schema that is fetched once

Callers share one fetch until it is done. A schema that arrived stays; after a failure the next caller
starts a new fetch. Events may come in any order; one that does not apply changes nothing. -/
namespace FeatureGraph

/-- The schema of a model that was fetched. Whatever fails in the fetch is a failure to fetch the schema;
a defect stays what it is. -/
def Schema.load : Except Fault DataModel → Except Fault Schema
  | .ok m => .ok (Schema.ofModel m)
  | .error (.failure f) =>
    if f.kind = .schemaFetch then .error f
    else
      .error (Failure.of .schemaFetch ("could not fetch data model: " ++ f.message)
        [("cause", .ofOption .text f.code)])
  | .error (.defect d) => .error d

inductive Caller where
  | waiting (fetch : Nat)
  | returned (s : Schema)
  | raised (e : Fault)
  | cancelled

structure SchemaCache where
  snapshot : Option Schema := none
  /-- The fetch that the next caller shares. -/
  shared : Option Nat := none
  /-- All fetches, each with its result once it is done. -/
  fetches : List (Option (Except Fault Schema)) := []
  callers : List (String × Caller) := []

namespace SchemaCache

inductive Event where
  | call (caller : String)
  /-- The fetch that runs is answered. -/
  | finish (answer : Except Fault DataModel)
  | resume (caller : String)
  | cancel (caller : String)

def running (c : SchemaCache) : Nat := c.fetches.countP (·.isNone)

def result? (c : SchemaCache) (fetch : Nat) : Option (Except Fault Schema) := (c.fetches[fetch]?).join

def setCaller (c : SchemaCache) (name : String) (state : Caller) : SchemaCache :=
  { c with callers := Assoc.put name state c.callers }

/-- Whoever leaves a fetch that is done makes room for a new one. -/
def leave (c : SchemaCache) (fetch : Nat) : SchemaCache :=
  if c.shared = some fetch ∧ (c.result? fetch).isSome then { c with shared := none } else c

/-- What a caller has of a fetch: its result once it is done. -/
def outcome (c : SchemaCache) (fetch : Nat) : Caller :=
  match c.result? fetch with
  | some (.ok s) => .returned s
  | some (.error e) => .raised e
  | none => .waiting fetch

/-- A caller awaits a fetch. With the result of one that is done it leaves. -/
def await (c : SchemaCache) (name : String) (fetch : Nat) : SchemaCache :=
  (c.leave fetch).setCaller name (c.outcome fetch)

/-- A new fetch runs and is shared. -/
def start (c : SchemaCache) : SchemaCache :=
  { c with shared := some c.fetches.length, fetches := c.fetches ++ [none] }

/-- A caller gets the schema that is there, or awaits the shared fetch, or starts one. -/
def call (c : SchemaCache) (name : String) : SchemaCache :=
  if (c.callers.lookup name).isSome then c
  else
    match c.snapshot, c.shared with
    | some s, _ => c.setCaller name (.returned s)
    | none, some fetch => c.await name fetch
    | none, none => c.start.await name c.fetches.length

/-- The result of the fetch that runs. A schema is kept and a failure forgets the one that was kept; a defect
leaves it. -/
def finish (c : SchemaCache) (answer : Except Fault DataModel) : SchemaCache :=
  match c.fetches.findIdx? (·.isNone) with
  | none => c
  | some fetch =>
    let result := Schema.load answer
    { c with
      fetches := c.fetches.set fetch (some result)
      snapshot :=
        match result with
        | .ok s => some s
        | .error (.failure _) => none
        | .error (.defect _) => c.snapshot }

/-- A caller that waits looks again at its fetch. -/
def resume (c : SchemaCache) (name : String) : SchemaCache :=
  match c.callers.lookup name with
  | some (.waiting fetch) => c.await name fetch
  | _ => c

/-- The fetch goes on without the caller. -/
def cancel (c : SchemaCache) (name : String) : SchemaCache :=
  match c.callers.lookup name with
  | some (.waiting fetch) => (c.leave fetch).setCaller name .cancelled
  | _ => c

def step (c : SchemaCache) : Event → SchemaCache
  | .call name => c.call name
  | .finish answer => c.finish answer
  | .resume name => c.resume name
  | .cancel name => c.cancel name

def run (c : SchemaCache) (events : List Event) : SchemaCache := events.foldl step c

def settle (c : SchemaCache) : SchemaCache := c.run (c.callers.map fun p => .resume p.1)

end SchemaCache
end FeatureGraph
