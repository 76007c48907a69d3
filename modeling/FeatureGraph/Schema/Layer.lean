import FeatureGraph.Fault
import FeatureGraph.Schema.Model

/-! # Layers and tables derived from a data model

Entity types with a geometry are layers and come first, the others are tables; both are numbered in one
sequence. A relationship type joins every pair of its origin and destination types, and each pair is seen
from both of its ends. -/
namespace FeatureGraph

inductive Role where
  | origin
  | destination
  deriving DecidableEq, Repr

def Role.name : Role → String
  | origin => "esriRelRoleOrigin"
  | destination => "esriRelRoleDestination"

/-- One end of a relationship, as the layer at that end sees it. -/
structure RelationshipEnd where
  id : Nat
  name : String
  related : Nat
  role : Role
  cardinality : String
  deriving DecidableEq, Repr

structure Layer where
  id : Nat
  entity : EntityType
  /-- The kind of shape, none for a table. -/
  shape : Option String := none
  relationships : List RelationshipEnd := []
  deriving DecidableEq, Repr

namespace Layer

def name (l : Layer) : String := l.entity.name

def isTable (l : Layer) : Bool := l.shape.isNone

def geometryField (l : Layer) : Option String := l.entity.shapeProperty?.map (·.name)

def relationship? (l : Layer) (id : Int) : Option RelationshipEnd :=
  l.relationships.find? fun r => (r.id : Int) == id

end Layer

structure Schema where
  model : DataModel
  layers : List Layer
  tables : List Layer
  deriving DecidableEq, Repr

namespace Schema

/-- Layers first, then tables. -/
def all (s : Schema) : List Layer := s.layers ++ s.tables

def named? (s : Schema) (name : String) : Option Layer := s.all.find? (·.name == name)

def ordered (m : DataModel) : List EntityType :=
  m.entityTypes.filter (·.shapeProperty?.isSome) ++ m.entityTypes.filter (·.shapeProperty?.isNone)

/-- The number of the last entity type with a name. -/
def number? (name : String) (es : List EntityType) : Option Nat :=
  (es.zipIdx.reverse.find? (·.1.name == name)).map (·.2)

/-- The ends attached to each layer so far, and the id of the next relationship. -/
structure Attachment where
  ends : List (List RelationshipEnd)
  next : Nat := 0

namespace Attachment

def attach (a : Attachment) (layer : Nat) (e : RelationshipEnd) : Attachment :=
  { a with ends := a.ends.modify layer (· ++ [e]) }

/-- Joins an origin type and a destination type, if both names are known, under the next id. A layer joined
to itself has one end. -/
def join (es : List EntityType) (r : RelationshipType) (a : Attachment) (origin destination : String) : Attachment :=
  match number? origin es, number? destination es with
  | some i, some j =>
    let left := a.attach i ⟨a.next, r.name, j, .origin, r.cardinality⟩
    let both := if i = j then left else left.attach j ⟨a.next, r.name, i, .destination, r.cardinality⟩
    { both with next := a.next + 1 }
  | _, _ => a

end Attachment

/-- The ends that the relationship types of a model attach, one pair of types after the other. -/
def attached (m : DataModel) : Attachment :=
  let es := ordered m
  m.relationshipTypes.foldl (fun a r =>
    r.origins.foldl (fun a o => r.destinations.foldl (fun a d => a.join es r o d) a) a)
    { ends := List.replicate es.length [] }

def layerOf (ends : List (List RelationshipEnd)) (e : EntityType) (id : Nat) : Layer where
  id := id
  entity := e
  shape := e.shapeProperty?.map fun p => shapeKind (p.geometryType.getD "")
  relationships := ends[id]?.getD []

def ofModel (m : DataModel) : Schema :=
  let ends := (attached m).ends
  let all := (ordered m).zipIdx.map fun p => layerOf ends p.1 p.2
  let count := (m.entityTypes.filter (·.shapeProperty?.isSome)).length
  { model := m, layers := all.take count, tables := all.drop count }

theorem all_ofModel (m : DataModel) :
    (ofModel m).all = (ordered m).zipIdx.map fun p => layerOf (attached m).ends p.1 p.2 := by
  simp [ofModel, all]

end Schema

def invalidLayer (ref : Json) : Failure := .of .invalidLayer ("invalid layer id " ++ ref.literal)

/-- The number that a layer reference denotes: a whole number or the text of one. -/
def layerNumber (ref : Json) : Except Fault Nat :=
  match ref with
  | .bool _ => .error (invalidLayer ref)
  | .int n => if n < 0 then .error (.naming n (invalidLayer ref)) else .ok n.toNat
  | _ =>
    let cs := Text.trim ref.display.toList
    if cs.isEmpty || !cs.all Text.isDigitLike then .error (.showing ref (invalidLayer ref))
    else
      match Number.integer? cs with
      | some n => .ok n.toNat
      | none =>
        let count := (cs.takeWhile Text.isDecimal).length
        let defect : Defect :=
          if Number.digitLimit < count then .tooManyDigits count else .invalidInteger (String.ofList cs)
        .error defect

def Schema.layer (s : Schema) (ref : Json) : Except Fault Layer := do
  let index ← layerNumber ref
  match s.all[index]? with
  | some l => pure l
  | none =>
    .error (.naming index (.of .invalidLayer s!"layer {index} does not exist"
      [("layer_id", .int index), ("count", .int s.all.length)]))

end FeatureGraph
