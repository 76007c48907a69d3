import FeatureGraph.Assoc
import FeatureGraph.Text.Hex
import FeatureGraph.Value
import FeatureGraph.Wire.Enumeration
import FeatureGraph.Wire.Scalar

/-! # Values on the wire

A value is one of several variants or none. Reading a message into a value merges: a scalar replaces, a
repeated field appends, the same variant merges and another variant starts anew. -/
namespace FeatureGraph.Wire

structure Geometry where
  type : Int := 0
  /-- Whether the message of lengths and coordinates is there; without it both lists are empty. -/
  hasParts : Bool := true
  lengths : List Nat := []
  coords : List Int := []
  hasZ : Bool := false
  hasM : Bool := false
  deriving DecidableEq, Repr

/-- Floating-point numbers are kept as their bits. -/
inductive Primitive where
  | unset
  | sint32 (n : Int)
  | uint32 (n : Nat)
  | sint64 (n : Int)
  | uint64 (n : Nat)
  | string (s : String)
  | float (bits : UInt32)
  | double (bits : UInt64)
  | date (n : Int)
  | uuid (bs : List UInt8)
  | geometry (g : Geometry)
  | bool (b : Bool)
  | blob (bs : List UInt8)
  deriving DecidableEq, Repr

inductive Any where
  | unset
  | primitive (p : Primitive)
  | entity (typeName : String) (properties : List (String × Any)) (id : Option Any)
  | relationship (typeName : String) (properties : List (String × Any)) (id origin destination : Option Any)
  | path (entities relationships : List Any)
  | array (values : List Any)
  | object (members : List (String × Any))
  deriving Inhabited

/-! ## Reading -/

def Geometry.partStep (g : Geometry) (f : Field) : Option Geometry :=
  match f.number with
  | 1 => (numbers? f.payload).map fun ns => { g with lengths := g.lengths ++ ns.map low32 }
  | 2 => (numbers? f.payload).map fun ns => { g with coords := g.coords ++ ns.map unzigzag }
  | _ => some g

def Geometry.step (levels : Nat) (g : Geometry) (f : Field) : Option Geometry :=
  match f with
  | ⟨1, .varint n⟩ => some { g with type := signed32 n }
  | ⟨2, .bytes b⟩ =>
    if levels = 0 then none else foldFields (levels - 1) Geometry.partStep { g with hasParts := true } b
  | ⟨3, .varint n⟩ => some { g with hasZ := n != 0 }
  | ⟨4, .varint n⟩ => some { g with hasM := n != 0 }
  | _ => some g

/-- Merges a geometry message with some levels left, its own included. -/
def Geometry.merge : Nat → Geometry → List UInt8 → Option Geometry
  | 0, _, _ => none
  | levels + 1, g, bs => foldFields levels (Geometry.step levels) g bs

def Primitive.geometryOf : Primitive → Geometry
  | geometry g => g
  | _ => { hasParts := false }

def Primitive.step (levels : Nat) (p : Primitive) (f : Field) : Option Primitive :=
  match f with
  | ⟨1, .varint n⟩ => some (.sint32 (unzigzag (low32 n)))
  | ⟨2, .varint n⟩ => some (.uint32 (low32 n))
  | ⟨3, .varint n⟩ => some (.sint64 (unzigzag n))
  | ⟨4, .varint n⟩ => some (.uint64 n)
  | ⟨5, .bytes b⟩ => (text? b).map .string
  | ⟨6, .fixed32 n⟩ => some (.float (.ofNat n))
  | ⟨7, .fixed64 n⟩ => some (.double (.ofNat n))
  | ⟨8, .varint n⟩ => some (.date (unzigzag n))
  | ⟨9, .bytes b⟩ => some (.uuid b)
  | ⟨10, .bytes b⟩ => (Geometry.merge levels p.geometryOf b).map .geometry
  | ⟨11, .varint n⟩ => some (.bool (n != 0))
  | ⟨12, .bytes b⟩ => some (.blob b)
  | _ => some p

def Primitive.merge : Nat → Primitive → List UInt8 → Option Primitive
  | 0, _, _ => none
  | levels + 1, p, bs => foldFields levels (Primitive.step levels) p bs

namespace Any

def primitiveOf : Any → Primitive
  | primitive p => p
  | _ => .unset

structure Record where
  typeName : String := ""
  properties : List (String × Any) := []
  id : Option Any := none
  origin : Option Any := none
  destination : Option Any := none

def entityOf : Any → Record
  | entity typeName properties id => { typeName, properties, id }
  | _ => {}

def relationshipOf : Any → Record
  | relationship typeName properties id origin destination => ⟨typeName, properties, id, origin, destination⟩
  | _ => {}

def pathOf : Any → List Any × List Any
  | path entities relationships => (entities, relationships)
  | _ => ([], [])

def arrayOf : Any → List Any
  | array values => values
  | _ => []

def objectOf : Any → List (String × Any)
  | object members => members
  | _ => []

/-- Takes a field of an entity or a relationship. Entities have no ends, relationships have two. -/
def Record.step (entry : List UInt8 → Option (Option (String × Any))) (value : Any → List UInt8 → Option Any)
    (ends : Bool) (r : Record) (f : Field) : Option Record :=
  match f with
  | ⟨1, .bytes b⟩ => (text? b).map fun s => { r with typeName := s }
  | ⟨2, .bytes b⟩ => (entry b).map fun e => { r with properties := Assoc.putAll r.properties e.toList }
  | ⟨3, .bytes b⟩ => (value (r.id.getD .unset) b).map fun v => { r with id := some v }
  | ⟨4, .bytes b⟩ =>
    if ends then (value (r.origin.getD .unset) b).map fun v => { r with origin := some v } else some r
  | ⟨5, .bytes b⟩ =>
    if ends then (value (r.destination.getD .unset) b).map fun v => { r with destination := some v } else some r
  | _ => some r

/-- Takes a field of an entry of a map: a name and a value. -/
def entryStep (value : Any → List UInt8 → Option Any) (e : String × Any) (f : Field) : Option (String × Any) :=
  match f with
  | ⟨1, .bytes b⟩ => (text? b).map fun s => (s, e.2)
  | ⟨2, .bytes b⟩ => (value e.2 b).map fun v => (e.1, v)
  | _ => some e

def pathStep (value : Any → List UInt8 → Option Any) (p : List Any × List Any) (f : Field) :
    Option (List Any × List Any) :=
  match f with
  | ⟨1, .bytes b⟩ => (value .unset b).map fun v => (p.1 ++ [v], p.2)
  | ⟨2, .bytes b⟩ => (value .unset b).map fun v => (p.1, p.2 ++ [v])
  | _ => some p

def arrayStep (value : Any → List UInt8 → Option Any) (vs : List Any) (f : Field) : Option (List Any) :=
  match f with
  | ⟨1, .bytes b⟩ => (value .unset b).map fun v => vs ++ [v]
  | _ => some vs

def objectStep (entry : List UInt8 → Option (Option (String × Any))) (ms : List (String × Any)) (f : Field) :
    Option (List (String × Any)) :=
  match f with
  | ⟨1, .bytes b⟩ => (entry b).map fun e => Assoc.putAll ms e.toList
  | _ => some ms

mutual

/-- Merges a value message with some levels left, its own included. -/
def merge : Nat → Any → List UInt8 → Option Any
  | 0, _, _ => none
  | levels + 1, v, bs =>
    foldFields levels (fun v f =>
      match f with
      | ⟨1, .bytes b⟩ => (Primitive.merge levels v.primitiveOf b).map .primitive
      | ⟨2, .bytes b⟩ => (mergeRecord levels false v.entityOf b).map fun r => .entity r.typeName r.properties r.id
      | ⟨3, .bytes b⟩ =>
        (mergeRecord levels true v.relationshipOf b).map fun r =>
          .relationship r.typeName r.properties r.id r.origin r.destination
      | ⟨4, .bytes b⟩ => (mergePath levels v.pathOf b).map fun p => .path p.1 p.2
      | ⟨5, .bytes b⟩ => (mergeArray levels v.arrayOf b).map .array
      | ⟨6, .bytes b⟩ => (mergeObject levels v.objectOf b).map .object
      | _ => some v) v bs

def mergeRecord : Nat → Bool → Record → List UInt8 → Option Record
  | 0, _, _, _ => none
  | levels + 1, ends, r, bs =>
    foldFields levels (Record.step (mergeEntry levels ("", .unset)) (merge levels) ends) r bs

def mergeEntry : Nat → String × Any → List UInt8 → Option (Option (String × Any))
  | 0, _, _ => none
  | levels + 1, e, bs => foldEntry levels (entryStep (merge levels)) e bs

def mergePath : Nat → List Any × List Any → List UInt8 → Option (List Any × List Any)
  | 0, _, _ => none
  | levels + 1, p, bs => foldFields levels (pathStep (merge levels)) p bs

def mergeArray : Nat → List Any → List UInt8 → Option (List Any)
  | 0, _, _ => none
  | levels + 1, vs, bs => foldFields levels (arrayStep (merge levels)) vs bs

def mergeObject : Nat → List (String × Any) → List UInt8 → Option (List (String × Any))
  | 0, _, _ => none
  | levels + 1, ms, bs => foldFields levels (objectStep (mergeEntry levels ("", .unset))) ms bs

end

def read? (bs : List UInt8) : Option Any := merge (rootLevels + 1) .unset bs

end Any

/-! ## Writing -/

def Geometry.encodeParts (g : Geometry) : List UInt8 := packedField 1 g.lengths ++ packedField 2 (g.coords.map zigzag)

def Geometry.encode (g : Geometry) : List UInt8 :=
  nonzeroField 1 (low64 g.type) ++ (if g.hasParts then bytesField 2 g.encodeParts else []) ++
    nonzeroField 3 g.hasZ.toNat ++ nonzeroField 4 g.hasM.toNat

/-- A variant is written even when it is zero. -/
def Primitive.encode : Primitive → List UInt8
  | unset => []
  | sint32 n => varintField 1 (zigzag n)
  | uint32 n => varintField 2 n
  | sint64 n => varintField 3 (zigzag n)
  | uint64 n => varintField 4 n
  | string s => bytesField 5 (Text.Utf8.encode s)
  | float bits => fixed32Field 6 bits.toNat
  | double bits => fixed64Field 7 bits.toNat
  | date n => varintField 8 (zigzag n)
  | uuid bs => bytesField 9 bs
  | geometry g => bytesField 10 g.encode
  | bool b => varintField 11 b.toNat
  | blob bs => bytesField 12 bs

namespace Any

mutual

def encode : Any → List UInt8
  | unset => []
  | primitive p => bytesField 1 p.encode
  | entity typeName properties id =>
    bytesField 2 (textField 1 typeName ++ encodeEntries 2 properties ++ encodeOption 3 id)
  | relationship typeName properties id origin destination =>
    bytesField 3 (textField 1 typeName ++ encodeEntries 2 properties ++ encodeOption 3 id ++
      encodeOption 4 origin ++ encodeOption 5 destination)
  | path entities relationships => bytesField 4 (encodeAll 1 entities ++ encodeAll 2 relationships)
  | array values => bytesField 5 (encodeAll 1 values)
  | object members => bytesField 6 (encodeEntries 1 members)

/-- The entries of a map, name and value always written. -/
def encodeEntries (number : Nat) : List (String × Any) → List UInt8
  | [] => []
  | (n, v) :: r =>
    bytesField number (bytesField 1 (Text.Utf8.encode n) ++ bytesField 2 v.encode) ++ encodeEntries number r

def encodeAll (number : Nat) : List Any → List UInt8
  | [] => []
  | v :: r => bytesField number v.encode ++ encodeAll number r

def encodeOption (number : Nat) : Option Any → List UInt8
  | none => []
  | some v => bytesField number v.encode

end

end Any

/-! ## What a value stands for -/

/-- An identifier of 16 bytes in capitals, with hyphens and braces. -/
def uuidText (bs : List UInt8) : String :=
  let hex := Text.Hex.ofBytesUpper bs
  let part (start count : Nat) : List Char := (hex.drop start).take count
  String.ofList ('\x7b' :: part 0 8 ++ '-' :: part 8 4 ++ '-' :: part 12 4 ++ '-' :: part 16 4 ++
    '-' :: part 20 12 ++ ['\x7d'])

def Geometry.quantized (g : Geometry) : QuantizedGeometry :=
  ⟨geometryType.name g.type, g.coords, g.lengths.map fun (n : Nat) => (n : Int)⟩

def Primitive.value : Primitive → Except Defect Value
  | unset => .ok .null
  | sint32 n | sint64 n | date n => .ok (.int n)
  | uint32 n | uint64 n => .ok (.int n)
  | string s => .ok (.text s)
  | float bits => .ok (.float (Float32.ofBits bits).toFloat)
  | double bits => .ok (.float (Float.ofBits bits))
  | uuid bs => if bs.length = 16 then .ok (.text (uuidText bs)) else .error .identifierLength
  | geometry g => .ok (.geometry g.quantized)
  | bool b => .ok (.bool b)
  | blob bs => .ok (.bytes bs)

namespace Any

mutual

def value : Any → Except Defect Value
  | unset => .ok .null
  | primitive p => p.value
  | entity typeName properties id => do
    return .entity typeName (← valueMembers properties) (← valueOption id)
  | relationship typeName properties id origin destination => do
    return .relationship typeName (← valueMembers properties) (← valueOption id) (← valueOption origin)
      (← valueOption destination)
  | path entities relationships => do return .path (← valueAll entities) (← valueAll relationships)
  | array values => do return .list (← valueAll values)
  | object members => do return .object (← valueMembers members)

def valueAll : List Any → Except Defect (List Value)
  | [] => .ok []
  | v :: r => do return (← v.value) :: (← valueAll r)

def valueMembers : List (String × Any) → Except Defect (List (String × Value))
  | [] => .ok []
  | (n, v) :: r => do return (n, ← v.value) :: (← valueMembers r)

def valueOption : Option Any → Except Defect Value
  | none => .ok .null
  | some v => v.value

end

end Any
end FeatureGraph.Wire
