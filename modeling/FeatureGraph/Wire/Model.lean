import FeatureGraph.Schema.Model
import FeatureGraph.Wire.Query

/-! # The data model on the wire -/
namespace FeatureGraph.Wire

structure PropertyMessage where
  name : String := ""
  label : String := ""
  fieldType : Int := 0
  geometryType : Int := 0
  deriving DecidableEq, Repr

structure TypeMessage where
  name : String := ""
  label : String := ""
  properties : List PropertyMessage := []
  deriving DecidableEq, Repr

structure RelationshipMessage where
  type : TypeMessage := {}
  origins : List String := []
  destinations : List String := []
  cardinality : Int := 0
  deriving DecidableEq, Repr

structure ModelMessage where
  spatialReference : Int := 0
  objectIdProperty : String := ""
  globalIdProperty : String := ""
  entityTypes : List TypeMessage := []
  relationshipTypes : List RelationshipMessage := []
  deriving DecidableEq, Repr

def PropertyMessage.read? (levels : Nat) (bs : List UInt8) : Option PropertyMessage :=
  foldFields (levels - 1) (fun p f =>
    match f with
    | ⟨1, .bytes b⟩ => (text? b).map fun s => { p with name := s }
    | ⟨2, .bytes b⟩ => (text? b).map fun s => { p with label := s }
    | ⟨3, .varint n⟩ => some { p with fieldType := signed32 n }
    | ⟨4, .varint n⟩ => some { p with geometryType := signed32 n }
    | _ => some p) {} bs

/-- The role, field 3, is not kept but must be a text. -/
def TypeMessage.merge (levels : Nat) (t : TypeMessage) (bs : List UInt8) : Option TypeMessage :=
  foldFields (levels - 1) (fun t f =>
    match f with
    | ⟨1, .bytes b⟩ => (text? b).map fun s => { t with name := s }
    | ⟨2, .bytes b⟩ => (text? b).map fun s => { t with label := s }
    | ⟨3, .bytes b⟩ => (text? b).map fun _ => t
    | ⟨5, .bytes b⟩ =>
      (PropertyMessage.read? (levels - 1) b).map fun p => { t with properties := t.properties ++ [p] }
    | _ => some t) t bs

def readEntityType (levels : Nat) (bs : List UInt8) : Option TypeMessage :=
  foldFields (levels - 1) (fun t f =>
    match f with
    | ⟨1, .bytes b⟩ => TypeMessage.merge (levels - 1) t b
    | _ => some t) {} bs

def RelationshipMessage.read? (levels : Nat) (bs : List UInt8) : Option RelationshipMessage :=
  foldFields (levels - 1) (fun r f =>
    match f with
    | ⟨1, .bytes b⟩ => (TypeMessage.merge (levels - 1) r.type b).map fun t => { r with type := t }
    | ⟨2, .bytes b⟩ => (text? b).map fun s => { r with origins := r.origins ++ [s] }
    | ⟨3, .bytes b⟩ => (text? b).map fun s => { r with destinations := r.destinations ++ [s] }
    | ⟨4, .varint n⟩ => some { r with cardinality := signed32 n }
    | _ => some r) {} bs

def ModelMessage.read? (bs : List UInt8) : Option ModelMessage :=
  foldFields rootLevels (fun m f =>
    match f with
    | ⟨2, .varint n⟩ => some { m with spatialReference := signed32 n }
    | ⟨4, .bytes b⟩ => (text? b).map fun s => { m with objectIdProperty := s }
    | ⟨5, .bytes b⟩ => (text? b).map fun s => { m with globalIdProperty := s }
    | ⟨6, .bytes b⟩ => (readEntityType rootLevels b).map fun t => { m with entityTypes := m.entityTypes ++ [t] }
    | ⟨7, .bytes b⟩ =>
      (RelationshipMessage.read? rootLevels b).map fun r => { m with relationshipTypes := m.relationshipTypes ++ [r] }
    | _ => some m) {} bs

/-- Only a geometry has a geometry type. -/
def PropertyMessage.property (p : PropertyMessage) : Property :=
  let type := Wire.fieldType.name p.fieldType
  { name := p.name
    label := p.label
    fieldType := type
    geometryType := if type == "esriFieldTypeGeometry" then some (Wire.geometryType.name p.geometryType) else none }

def TypeMessage.entityType (t : TypeMessage) : EntityType :=
  ⟨t.name, t.label, t.properties.map PropertyMessage.property⟩

def RelationshipMessage.relationshipType (r : RelationshipMessage) : RelationshipType :=
  ⟨r.type.name, r.origins, r.destinations, Wire.cardinality.name r.cardinality,
    r.type.properties.map PropertyMessage.property⟩

def ModelMessage.model (m : ModelMessage) : DataModel where
  entityTypes := m.entityTypes.map TypeMessage.entityType
  relationshipTypes := m.relationshipTypes.map RelationshipMessage.relationshipType
  objectIdProperty := if m.objectIdProperty.isEmpty then FeatureGraph.objectIdProperty else m.objectIdProperty
  globalIdProperty := m.globalIdProperty
  spatialReference := if m.spatialReference = 0 then none else some m.spatialReference

end FeatureGraph.Wire

namespace FeatureGraph

open Wire in
/-- The data model in a framed message; what follows the message is not read. A model names the property
that holds global ids. -/
def DataModel.decode (buffer : List UInt8) : Except Failure DataModel := do
  let (message, _) ← readFrame buffer 0
  let m ← decoded "data model" (ModelMessage.read? message)
  if m.globalIdProperty.isEmpty then
    .error (.of .schemaFetch "payload is not a data model (no globalid property)")
  return m.model

end FeatureGraph
