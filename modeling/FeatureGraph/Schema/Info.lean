import FeatureGraph.Schema.Layer
import FeatureGraph.Text.Replace

/-! # What a service tells about its layers -/
namespace FeatureGraph

def RelationshipEnd.info (r : RelationshipEnd) : Json :=
  .object [("id", .int r.id), ("name", .text r.name), ("relatedTableId", .int r.related),
    ("cardinality", .text r.cardinality), ("role", .text r.role.name), ("keyField", .text objectIdField)]

/-- A field without the vendor's mark on its type. -/
def Property.info (p : Property) : Json :=
  .object [("name", .text (publicName p.name)), ("alias", .text p.label),
    ("type", .text (Text.remove "esriFieldType" p.fieldType))]

/-- The whole world, in degrees: no layer knows a smaller extent. -/
def worldExtent : Json :=
  .list [.list [.float (-180.0), .float (-90.0)], .list [.float 180.0, .float 90.0]]

def Layer.info (l : Layer) : Json :=
  .object [("type", .text "FeatureCollection"), ("features", .list []),
    ("metadata", .object [("id", .int l.id), ("name", .text l.name), ("description", .text l.name),
      ("extent", worldExtent), ("fields", .list (l.entity.properties.map Property.info)),
      ("geometryType", .ofOption .text l.shape), ("idField", .text objectIdField),
      ("relationships", .list (l.relationships.map RelationshipEnd.info))])]

def Schema.info (s : Schema) : Json :=
  .object [("layers", .list (s.layers.map Layer.info)), ("tables", .list (s.tables.map Layer.info))]

end FeatureGraph
