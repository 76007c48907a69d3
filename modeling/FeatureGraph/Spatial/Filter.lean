import FeatureGraph.Fault
import FeatureGraph.Json.Reader
import FeatureGraph.Spatial.Projection
import FeatureGraph.Text.Split

/-! # Spatial filters: from request parameters to a shape in degrees -/
namespace FeatureGraph.Spatial

def failure (message : String) (details : List (String × Json) := []) : Failure :=
  .of .spatialFilter message details

def looksLikeObject (s : String) : Bool := (Text.trim s.toList).head? == some '\x7b'

/-- What a spatial reference refers on to, if it does: an object to one of its members, the text of an object to what it
holds. -/
def referred (calls : Nat) (v : Json) : Except Defect (Option Json) :=
  match v with
  | .object _ => .ok (some ((v.get? "latestWkid").getD (v.get "wkid")))
  | .text s => if looksLikeObject s then Json.loads s calls else .ok none
  | _ => .ok none

/-- What a spatial reference comes down to, followed by one call for each step. -/
def identifier : Nat → Json → Except Defect Json
  | 0, v => do
    match ← referred 0 v with
    | none => return v
    | some _ => .error (.tooDeep "")
  | calls + 1, v => do
    match ← referred (calls + 1) v with
    | none => return v
    | some w => identifier calls w

/-- The well-known id that a value denotes, if it denotes one: a number or its text. A whole number that cannot be written
is no id, nor can a message show it. -/
def reference (v : Json) (calls : Nat := callLimit) : Except Fault (Option Int) := do
  let id ← (identifier calls v).mapError .defect
  if id.isBlank then return none
  else if id.isWritable then
    match Number.integer? (Text.trim id.display.toList) with
    | some n => return some n
    | none => .error (failure ("invalid inSR " ++ id.literal))
  else .error Defect.unwritableInteger

def webMercator : List Int := [102100, 102113, 900913, 3857]

/-- What a geometry parameter holds: numbers, or an object with the reference it names. -/
inductive Given where
  | numbers (xs : List Float)
  | object (members : Json) (reference : Option Int)

/-- Reads a geometry parameter: an object, the text of one, or numbers with commas between. -/
def given (geometry : Json) (calls : Nat := callLimit) : Except Fault Given :=
  let ofObject (o : Json) : Except Fault Given := do
    return .object o (← reference (o.get "spatialReference") calls)
  match geometry with
  | .object _ => ofObject geometry
  | _ =>
    if !geometry.isWritable then .error Defect.unwritableInteger
    else
      let cs := Text.trim geometry.display.toList
      if cs.head? == some '\x7b' then do
        match ← (Json.loads (String.ofList cs) calls).mapError Fault.defect with
        | none => .error (failure "geometry is not valid JSON")
        | some (.object ms) => ofObject (.object ms)
        | some _ => .error (failure "geometry JSON must be an object")
      else
        match (Text.splitAt ',' cs).mapM Number.float? with
        | some xs => .ok (.numbers xs)
        | none => .error (failure ("invalid geometry " ++ Text.quoted (String.ofList cs)))

/-- A coordinate of an object. A whole number beyond the doubles is a defect, not a failure. -/
def coordinate (o : Json) (name : String) : Except Fault Float :=
  match (o.get name).toFloat with
  | .ok x => .ok x
  | .error .numberTooLarge => .error (Defect.numberTooLarge)
  | .error _ => .error (failure "geometry has non-numeric coordinates")

def shapeOfObject (o : Json) : Except Fault (Shape Float) :=
  let has (name : String) : Bool := (o.get? name).isSome
  if ["xmin", "ymin", "xmax", "ymax"].all has then do
    let xmin ← coordinate o "xmin"
    let ymin ← coordinate o "ymin"
    let xmax ← coordinate o "xmax"
    let ymax ← coordinate o "ymax"
    return .envelope ⟨xmin, ymin, xmax, ymax⟩
  else if has "x" && has "y" then do
    let x ← coordinate o "x"
    let y ← coordinate o "y"
    return .point x y
  else .error (failure "unsupported geometry object (need an envelope or point)")

def shapeOfNumbers : List Float → Except Failure (Shape Float)
  | [x, y] => .ok (.point x y)
  | [xmin, ymin, xmax, ymax] => .ok (.envelope ⟨xmin, ymin, xmax, ymax⟩)
  | xs => .error (failure s!"expected 2 or 4 coordinates, got {xs.length}")

/-- The reference given beside the geometry wins, unless it is zero. -/
def chosen (beside : Option Int) (inside : Option Int) : Option Int :=
  match beside with
  | some n => if n = 0 then inside else some n
  | none => inside

/-- The shape of a geometry parameter as it is given, and the reference that it is read in. -/
def located (geometry inReference : Json) (calls : Nat := callLimit) : Except Fault (Shape Float × Option Int) := do
  if geometry.isBlank then .error (failure "empty geometry")
  let g ← given geometry calls
  let beside ← reference inReference calls
  match g with
  | .numbers xs => do return ((← (shapeOfNumbers xs).mapError .failure), chosen beside none)
  | .object o inside => do return ((← shapeOfObject o), chosen beside inside)

def inDegrees (projection : Projection) (s : Shape Float) : Except Fault (Shape Float) :=
  (projection.shape? s).elim (.error (failure "could not reproject geometry")) .ok

def shape (geometry inReference : Json) (projection : Projection := .sphere) (calls : Nat := callLimit) :
    Except Fault (Shape Float) := do
  let (s, reference) ← located geometry inReference calls
  if reference.any webMercator.contains then inDegrees projection s else return s

def relations : List (String × String) :=
  [("esriSpatialRelIntersects", "esri.graph.ST_Intersects"),
    ("esriSpatialRelContains", "esri.graph.ST_Contains")]

/-- The function of a relation; intersection is the default. -/
def functionOf (relation : Json) : Except Fault String :=
  let v := relation.truthy?.getD (.text "esriSpatialRelIntersects")
  match v with
  | .list _ => .error (Defect.wrongType "unhashable type: 'list'")
  | .object _ => .error (Defect.wrongType "unhashable type: 'dict'")
  | _ =>
    match v with
    | .text s =>
      match relations.lookup s with
      | some function => .ok function
      | none => .error (unsupported v)
    | _ => .error (unsupported v)
where
  unsupported (v : Json) : Fault :=
    .showing v (failure ("unsupported spatialRel " ++ v.literal)
      [("supported", .list [.text "esriSpatialRelContains", .text "esriSpatialRelIntersects"])])

def part (function namespaceName field : String) (s : Shape Float) : String :=
  s!"{function}(esri.graph.ST_WKTToGeometry('{s.wkt}'), {namespaceName}.{field})"

/-- The predicate of a whole shape: its parts are alternatives. -/
def alternatives (function namespaceName field : String) (s : Shape Float) : String :=
  match s.parts.map (part function namespaceName field) with
  | [p] => p
  | ps => "(" ++ String.intercalate " OR " ps ++ ")"

structure Parameters where
  geometry : Json
  inReference : Json := .null
  relation : Json := .null

def predicate (namespaceName : String) (field : Option String) (p : Parameters) (projection : Projection := .sphere)
    (calls : Nat := callLimit) : Except Fault String := do
  match field with
  | none => .error (failure "layer has no geometry field")
  | some field =>
    if field.isEmpty then .error (failure "layer has no geometry field")
    let function ← functionOf p.relation
    let s ← shape p.geometry p.inReference projection calls
    return alternatives function namespaceName field s

end FeatureGraph.Spatial
