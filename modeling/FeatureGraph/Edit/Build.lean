import FeatureGraph.Edit.Guid
import FeatureGraph.Text.Encoding
import FeatureGraph.Wire.Edits

/-! # Edits that add one entity or one relationship -/
namespace FeatureGraph.Edit

open Wire

def wholeIn (low high : Int) (v : Value) : Except Defect Int :=
  match v.asInt? with
  | some n => if low ≤ n ∧ n ≤ high then .ok n else .error .outOfRange
  | none => .error (.wrongType "expected a whole number")

def number (v : Value) : Except Defect Float :=
  match v with
  | .float x => .ok x
  | _ =>
    match v.asInt? with
    | some n => (Number.ofInt? n).elim (.error .numberTooLarge) .ok
    | none => .error .notNumeric

def bytes : Value → Except Defect (List UInt8)
  | .bytes bs => .ok bs
  | _ => .error (.wrongType "expected bytes")

def string : Value → Except Defect String
  | .text s => .ok s
  | .bytes bs => (Text.Utf8.decode bs).elim (.error (.foreign "UnicodeDecodeError" "invalid UTF-8")) .ok
  | _ => .error (.wrongType "expected a text")

/-- A value as a primitive of a variant. Null gives a primitive without a variant. -/
def assign (variant : String) (v : Value) : Except Defect Primitive :=
  let whole := wholeIn (-0x8000000000000000) 0x7FFFFFFFFFFFFFFF v
  let assigned : Except Defect Primitive :=
    match variant with
    | "sint32_value" => .sint32 <$> wholeIn (-0x80000000) 0x7FFFFFFF v
    | "uint32_value" => (fun n => .uint32 n.toNat) <$> wholeIn 0 0xFFFFFFFF v
    | "sint64_value" => .sint64 <$> whole
    | "uint64_value" => (fun n => .uint64 n.toNat) <$> wholeIn 0 0xFFFFFFFFFFFFFFFF v
    | "string_value" => .string <$> string v
    | "float_value" => (fun x => .float x.toFloat32.toBits) <$> number v
    | "double_value" => (fun x => .double x.toBits) <$> number v
    | "date_value" => .date <$> whole
    | "uuid_value" => .uuid <$> bytes v
    | "bool_value" => (fun n => .bool (n != 0)) <$> whole
    | "blob_value" => .blob <$> bytes v
    | _ => .error (.unsupportedVariant variant)
  match v, assigned with
  | .null, .error (.unsupportedVariant name) => .error (.unsupportedVariant name)
  | .null, _ => .ok .unset
  | _, r => r

section

variable {α : Type} [Add α] [Sub α] [Mul α] [Div α] [Neg α] [BEq α] [OfNat α 0] [OfNat α 1] [GridCoordinate α]

/-- The grid position nearest to a point. Without a quantization the world is the grid. -/
def gridPoint (x y : α) (q : Option (Quantization α)) : Except Defect (List Int) := do
  let coords ←
    match q with
    | none => pure [x, y]
    | some q => (q.quantize? [(x, y)]).elim (.error .divisionByZero) .ok
  coords.mapM GridCoordinate.toGrid

def pointValue (x y : α) (q : Option (Quantization α)) : Except Defect Any := do
  let coords ← gridPoint x y q
  let coords ← coords.mapM fun n => wholeIn (-0x8000000000000000) 0x7FFFFFFFFFFFFFFF (.int n)
  return .primitive (.geometry { lengths := [1], coords })

end

/-- A property to write: the variant and the value. -/
structure Assignment where
  variant : String
  value : Value

def numeral (s : String) : Except Defect Float := (Number.float? s.toList).elim (.error (.invalidNumber s)) .ok

/-- A coordinate of a point that is given by its members. Bytes are a text in ASCII. -/
def coordinate (name : String) (v : Value) : Except Defect Float :=
  match v with
  | .object ms =>
    match ms.lookup name with
    | none => .error (.missingKey name)
    | some (.text s) => numeral s
    | some (.bytes bs) => numeral (Text.ofSingleBytes 0x80 bs)
    | some w => number w
  | _ => .error (.wrongType "a point has members")

/-- The value of a property on the wire. A geometry is a point. -/
def propertyValue (q : Option (Quantization Float)) (a : Assignment) : Except Defect Any :=
  if a.variant = "geometry_value" then do
    let x ← coordinate "x" a.value
    let y ← coordinate "y" a.value
    pointValue x y q
  else .primitive <$> assign a.variant a.value

def addEntity (type : String) (properties : List (String × Assignment)) (q : Option (Quantization Float)) :
    Except Defect Adds := do
  let ps ← properties.mapM fun p => do return (p.1, ← propertyValue q p.2)
  return { entities := [(type, [ps])] }

/-- The addition of one relationship between two entities, which their global ids name. -/
def addRelationship (origin destination type : String) : Except Defect Adds := do
  let origin ← Guid.ofText origin
  let destination ← Guid.ofText destination
  return { relationships := [(type, [[("id", .primitive (.sint64 (-1))),
    ("originGlobalID", .primitive (.uuid origin)),
    ("destinationGlobalID", .primitive (.uuid destination))]])] }

end FeatureGraph.Edit
