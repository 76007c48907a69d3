/-! # The data model of a graph: its entity and relationship types

Types of fields, geometries and cardinalities are named by open tags: a newer service may send one that
is not known here. -/
namespace FeatureGraph

def objectIdProperty : String := "objectid"

def objectIdField : String := "OBJECTID"

def publicName (name : String) : String := if name == objectIdProperty then objectIdField else name

structure Property where
  name : String
  label : String := ""
  fieldType : String := "esriFieldTypeString"
  geometryType : Option String := none
  deriving DecidableEq, Repr

def Property.isGeometry (p : Property) : Bool := p.fieldType == "esriFieldTypeGeometry"

structure EntityType where
  name : String
  label : String := ""
  properties : List Property := []
  deriving DecidableEq, Repr

namespace EntityType

def property? (e : EntityType) (name : String) : Option Property := e.properties.find? (·.name == name)

def shapeProperty? (e : EntityType) : Option Property := e.properties.find? Property.isGeometry

end EntityType

structure RelationshipType where
  name : String
  origins : List String := []
  destinations : List String := []
  cardinality : String := "esriRelCardinalityOneToMany"
  properties : List Property := []
  deriving DecidableEq, Repr

structure DataModel where
  entityTypes : List EntityType := []
  relationshipTypes : List RelationshipType := []
  objectIdProperty : String := FeatureGraph.objectIdProperty
  globalIdProperty : String := ""
  spatialReference : Option Int := none
  deriving DecidableEq, Repr

/-- The kind of shape that a geometry tag stands for; a point where the tag is not known or left out. -/
def shapeKind (tag : String) : String :=
  match tag with
  | "esriGeometryTypePolygon" => "Polygon"
  | "esriGeometryTypePolyline" => "LineString"
  | "esriGeometryTypeMultipoint" => "MultiPoint"
  | _ => "Point"

end FeatureGraph
