import FeatureGraph.Quantization
import FeatureGraph.Wire.Any
import FeatureGraph.Wire.Frame

/-! # Responses to queries

A response is a framed header and then framed rows. An error in the header or in a frame of rows ends the
response; rows from the frames before it are kept. -/
namespace FeatureGraph.Wire

structure ErrorMessage where
  code : Int := 0
  message : String := ""
  deriving DecidableEq, Repr

/-- The quantization of a response, as bits. The scale is present or absent as a whole. -/
structure Transform where
  scale : Option (UInt64 × UInt64) := none
  translate : UInt64 × UInt64 := (0, 0)
  deriving DecidableEq, Repr

structure Header where
  transform : Option Transform := none
  keys : List String := []
  exceededLimit : Bool := false
  error : Option ErrorMessage := none
  deriving DecidableEq, Repr

structure RowFrame where
  rows : List (List Any) := []
  error : Option ErrorMessage := none

/-! ## Reading -/

def ErrorMessage.step (e : ErrorMessage) (f : Field) : Option ErrorMessage :=
  match f with
  | ⟨1, .varint n⟩ => some { e with code := signed32 n }
  | ⟨2, .bytes b⟩ => (text? b).map fun s => { e with message := s }
  | _ => some e

def ErrorMessage.merge (levels : Nat) (e : ErrorMessage) (bs : List UInt8) : Option ErrorMessage :=
  foldFields (levels - 1) ErrorMessage.step e bs

def pairStep (p : UInt64 × UInt64) (f : Field) : Option (UInt64 × UInt64) :=
  match f with
  | ⟨1, .fixed64 n⟩ => some (.ofNat n, p.2)
  | ⟨2, .fixed64 n⟩ => some (p.1, .ofNat n)
  | _ => some p

/-- Two doubles, in the fields 1 and 2. -/
def mergePair (levels : Nat) (p : UInt64 × UInt64) (bs : List UInt8) : Option (UInt64 × UInt64) :=
  foldFields (levels - 1) pairStep p bs

def Transform.step (levels : Nat) (t : Transform) (f : Field) : Option Transform :=
  match f with
  | ⟨2, .bytes b⟩ => (mergePair levels (t.scale.getD (0, 0)) b).map fun p => { t with scale := some p }
  | ⟨3, .bytes b⟩ => (mergePair levels t.translate b).map fun p => { t with translate := p }
  | _ => some t

def Transform.merge (levels : Nat) (t : Transform) (bs : List UInt8) : Option Transform :=
  foldFields (levels - 1) (Transform.step (levels - 1)) t bs

def Header.step (h : Header) (f : Field) : Option Header :=
  match f with
  | ⟨2, .bytes b⟩ => (ErrorMessage.merge rootLevels (h.error.getD {}) b).map fun e => { h with error := some e }
  | ⟨3, .bytes b⟩ => (Transform.merge rootLevels (h.transform.getD {}) b).map fun t => { h with transform := some t }
  | ⟨4, .bytes b⟩ => (text? b).map fun s => { h with keys := h.keys ++ [s] }
  | ⟨5, .varint n⟩ => some { h with exceededLimit := n != 0 }
  | _ => some h

def Header.read? (bs : List UInt8) : Option Header := foldFields rootLevels Header.step {} bs

def readRow (levels : Nat) (bs : List UInt8) : Option (List Any) := Any.mergeArray levels [] bs

def RowFrame.step (r : RowFrame) (f : Field) : Option RowFrame :=
  match f with
  | ⟨1, .bytes b⟩ => (readRow rootLevels b).map fun row => { r with rows := r.rows ++ [row] }
  | ⟨2, .bytes b⟩ => (ErrorMessage.merge rootLevels (r.error.getD {}) b).map fun e => { r with error := some e }
  | _ => some r

def RowFrame.read? (bs : List UInt8) : Option RowFrame := foldFields rootLevels RowFrame.step {} bs

/-! ## Writing -/

def ErrorMessage.encode (e : ErrorMessage) : List UInt8 :=
  nonzeroField 1 (low64 e.code) ++ textField 2 e.message

def encodePair (p : UInt64 × UInt64) : List UInt8 := doubleField 1 p.1 ++ doubleField 2 p.2

/-- The scale and the shift are both written, even when they are zero. -/
def Transform.encode (t : Transform) : List UInt8 :=
  bytesField 2 (encodePair (t.scale.getD (0, 0))) ++ bytesField 3 (encodePair t.translate)

def Transform.ofQuantization (q : Quantization Float) : Transform :=
  ⟨some (q.xScale.toBits, q.yScale.toBits), (q.xTranslate.toBits, q.yTranslate.toBits)⟩

def Transform.quantization? (t : Transform) : Option (Quantization Float) :=
  t.scale.map fun s =>
    ⟨Float.ofBits s.1, Float.ofBits s.2, Float.ofBits t.translate.1, Float.ofBits t.translate.2⟩

def encodeOptional {α : Type} (number : Nat) (encode : α → List UInt8) : Option α → List UInt8
  | none => []
  | some a => bytesField number (encode a)

/-- A header of the first minor version. -/
def Header.encode (h : Header) : List UInt8 :=
  varintField 1 1 ++ encodeOptional 2 ErrorMessage.encode h.error ++ encodeOptional 3 Transform.encode h.transform ++
    h.keys.flatMap (fun k => bytesField 4 (Text.Utf8.encode k)) ++ nonzeroField 5 h.exceededLimit.toNat

def RowFrame.encode (r : RowFrame) : List UInt8 :=
  r.rows.flatMap (fun row => bytesField 1 (Any.encodeAll 1 row)) ++ encodeOptional 2 ErrorMessage.encode r.error

/-- A whole response: a header, a frame for each list of rows, and a frame for the error if there is
one. -/
def encodeResponse (frames : List (List (List Any))) (transform : Option (Quantization Float))
    (keys : List String) (error : Option ErrorMessage) : List UInt8 :=
  frame (Header.encode { transform := transform.map Transform.ofQuantization, keys }) ++
    frames.flatMap (fun rows => frame (RowFrame.encode { rows })) ++
    (match error with
      | some e => frame (RowFrame.encode { error := some e })
      | none => [])

end FeatureGraph.Wire

namespace FeatureGraph

/-! ## Decoding -/

structure ResponseHeader where
  transform : Option (Quantization Float) := none
  keys : List String := []
  exceededLimit : Bool := false

def ResponseHeader.ofHeader (h : Wire.Header) : ResponseHeader :=
  ⟨h.transform.bind Wire.Transform.quantization?, h.keys, h.exceededLimit⟩

/-- A decoded response. Rows that came before an error are kept beside it. -/
structure QueryResponse where
  header : Option ResponseHeader := none
  rows : List (List Value) := []
  error : Option Failure := none

namespace QueryResponse

def transform (r : QueryResponse) : Option (Quantization Float) := r.header.bind (·.transform)

open Wire

def graphFailure (e : ErrorMessage) (rows : Nat) : Failure :=
  .of .graphQuery (if e.message.isEmpty then "graph query failed" else e.message)
    [("error_code", .int e.code), ("rows_received", .int rows)]

/-- Takes a frame after some rows: more rows, or the error that ends the response. -/
def absorb (rows : List (List Value)) (message : List UInt8) : Except Fault (List (List Value) × Option Failure) := do
  let r ← (decoded "query frame" (RowFrame.read? message)).mapError .failure
  match r.error with
  | some e => return (rows, some (graphFailure e rows.length))
  | none =>
    let more ← (r.rows.mapM Any.valueAll).mapError .defect
    return (rows ++ more, none)

def readRows (buffer : List UInt8) (pos : Nat) (rows : List (List Value)) :
    Except Fault (List (List Value) × Option Failure) :=
  if pos < buffer.length then
    match _h : readFrame buffer pos with
    | .error f => .error f
    | .ok (message, next) => do
      match ← absorb rows message with
      | (rows, some f) => return (rows, some f)
      | (rows, none) => readRows buffer next rows
  else .ok (rows, none)
termination_by buffer.length - pos
decreasing_by
  have := readFrame_next _h
  omega

/-- The header at the front of a response and the position after it. -/
def readHeader (buffer : List UInt8) : Except Failure (Header × Nat) := do
  let (message, next) ← readFrame buffer 0
  return (← decoded "query header" (Header.read? message), next)

/-- A response whose header cannot be read is taken to be frames of rows from the start. -/
def decode (buffer : List UInt8) : Except Fault QueryResponse := do
  match readHeader buffer with
  | .error _ =>
    let (rows, error) ← readRows buffer 0 []
    return { rows, error }
  | .ok (h, next) =>
    match h.error with
    | some e => return { header := some (.ofHeader h), error := some (graphFailure e 0) }
    | none =>
      let (rows, error) ← readRows buffer next []
      return { header := some (.ofHeader h), rows, error }

end QueryResponse
end FeatureGraph
