import FeatureGraph.Number.Integer

/-! # Named numbers of the wire format

A number without a name is kept and named by its digits. -/
namespace FeatureGraph.Wire

abbrev Enumeration := List (String × Int)

def quantizeOrigin : Enumeration := [("upperLeft", 0), ("lowerLeft", 1)]

def geometryType : Enumeration :=
  [("esriGeometryTypePoint", 0), ("esriGeometryTypeMultipoint", 1), ("esriGeometryTypePolyline", 2),
    ("esriGeometryTypePolygon", 3), ("esriGeometryTypeMultipatch", 4), ("esriGeometryTypeNone", 127)]

def fieldType : Enumeration :=
  [("esriFieldTypeSmallInteger", 0), ("esriFieldTypeInteger", 1), ("esriFieldTypeSingle", 2),
    ("esriFieldTypeDouble", 3), ("esriFieldTypeString", 4), ("esriFieldTypeDate", 5), ("esriFieldTypeOID", 6),
    ("esriFieldTypeGeometry", 7), ("esriFieldTypeBlob", 8), ("esriFieldTypeRaster", 9),
    ("esriFieldTypeGUID", 10), ("esriFieldTypeGlobalID", 11), ("esriFieldTypeXML", 12),
    ("esriFieldTypeBigInteger", 13)]

def cardinality : Enumeration :=
  [("esriRelCardinalityOneToOne", 0), ("esriRelCardinalityOneToMany", 1), ("esriRelCardinalityManyToMany", 2)]

def enumerations : List (String × Enumeration) :=
  [("QuantizeOriginPostion", quantizeOrigin), ("GeometryType", geometryType), ("FieldType", fieldType),
    ("Cardinality", cardinality)]

namespace Enumeration

def name (e : Enumeration) (number : Int) : String :=
  ((e.find? (·.2 == number)).map (·.1)).getD (Number.integerText number)

def number? (e : Enumeration) (name : String) : Option Int := e.lookup name

end Enumeration
end FeatureGraph.Wire
