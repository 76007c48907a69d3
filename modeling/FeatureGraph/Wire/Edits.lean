import FeatureGraph.Wire.Query

/-! # Edits and their results on the wire -/
namespace FeatureGraph.Wire

abbrev Properties := List (String × Any)

structure Adds where
  entities : List (String × List Properties) := []
  relationships : List (String × List Properties) := []

structure EditsHeader where
  minorVersion : Nat := 0
  transform : Option Transform := none
  deriving DecidableEq, Repr

/-! ## Writing -/

/-- An order in which the entries of a map are written. -/
structure EntryOrder where
  arrange : {α : Type} → List (String × α) → List (String × α)
  perm : ∀ {α : Type} (entries : List (String × α)), (arrange entries).Perm entries

def EntryOrder.byName : EntryOrder where
  arrange entries := entries.mergeSort fun a b => decide (a.1 ≤ b.1)
  perm _ := List.mergeSort_perm _ _

def encodeObjects (objects : List Properties) (order : EntryOrder := .byName) : List UInt8 :=
  objects.flatMap fun ps => bytesField 1 (Any.encodeEntries 1 (order.arrange ps))

def encodeAddsOf (number : Nat) (types : List (String × List Properties)) (order : EntryOrder := .byName) :
    List UInt8 :=
  (order.arrange types).flatMap fun t =>
    bytesField number (bytesField 1 (Text.Utf8.encode t.1) ++ bytesField 2 (encodeObjects t.2 order))

def Adds.encode (a : Adds) (order : EntryOrder := .byName) : List UInt8 :=
  encodeAddsOf 1 a.entities order ++ encodeAddsOf 2 a.relationships order

def EditsHeader.encode (h : EditsHeader) : List UInt8 :=
  nonzeroField 1 h.minorVersion ++ encodeOptional 2 Transform.encode h.transform

def encodeEditsFrame (a : Adds) (order : EntryOrder := .byName) : List UInt8 := bytesField 1 (a.encode order)

/-! ## Reading -/

def readObjects (levels : Nat) (objects : List Properties) (bs : List UInt8) : Option (List Properties) :=
  foldFields (levels - 1) (fun os f =>
    match f with
    | ⟨1, .bytes b⟩ => (Any.mergeObject (levels - 1) [] b).map fun ps => os ++ [ps]
    | _ => some os) objects bs

def readAddsEntry (levels : Nat) (bs : List UInt8) : Option (Option (String × List Properties)) :=
  foldEntry (levels - 1) (fun e f =>
    match f with
    | ⟨1, .bytes b⟩ => (text? b).map fun s => (s, e.2)
    | ⟨2, .bytes b⟩ => (readObjects (levels - 1) e.2 b).map fun os => (e.1, os)
    | _ => some e) ("", []) bs

def Adds.merge (levels : Nat) (a : Adds) (bs : List UInt8) : Option Adds :=
  foldFields (levels - 1) (fun a f =>
    match f with
    | ⟨1, .bytes b⟩ =>
      (readAddsEntry (levels - 1) b).map fun e => { a with entities := Assoc.putAll a.entities e.toList }
    | ⟨2, .bytes b⟩ =>
      (readAddsEntry (levels - 1) b).map fun e => { a with relationships := Assoc.putAll a.relationships e.toList }
    | _ => some a) a bs

def readEditsFrame (bs : List UInt8) : Option Adds :=
  foldFields rootLevels (fun a f =>
    match f with
    | ⟨1, .bytes b⟩ => Adds.merge rootLevels a b
    | _ => some a) {} bs

def EditsHeader.read? (bs : List UInt8) : Option EditsHeader :=
  foldFields rootLevels (fun h f =>
    match f with
    | ⟨1, .varint n⟩ => some { h with minorVersion := low32 n }
    | ⟨2, .bytes b⟩ =>
      (Transform.merge rootLevels (h.transform.getD {}) b).map fun t => { h with transform := some t }
    | _ => some h) {} bs

/-! ## Results -/

structure EditResult where
  globalId : String := ""
  objectId : Int := 0
  error : Option ErrorMessage := none
  deriving DecidableEq, Repr

structure EditResults where
  error : Option ErrorMessage := none
  entities : List (String × List EditResult) := []
  relationships : List (String × List EditResult) := []
  deriving DecidableEq, Repr

def EditResult.read? (levels : Nat) (bs : List UInt8) : Option EditResult :=
  foldFields (levels - 1) (fun r f =>
    match f with
    | ⟨1, .bytes b⟩ => (text? b).map fun s => { r with globalId := s }
    | ⟨2, .varint n⟩ => some { r with objectId := unzigzag n }
    | ⟨3, .bytes b⟩ =>
      (ErrorMessage.merge (levels - 1) (r.error.getD {}) b).map fun e => { r with error := some e }
    | _ => some r) {} bs

def readResultList (levels : Nat) (results : List EditResult) (bs : List UInt8) : Option (List EditResult) :=
  foldFields (levels - 1) (fun rs f =>
    match f with
    | ⟨1, .bytes b⟩ => (EditResult.read? (levels - 1) b).map fun r => rs ++ [r]
    | _ => some rs) results bs

def readResultEntry (levels : Nat) (bs : List UInt8) : Option (Option (String × List EditResult)) :=
  foldEntry (levels - 1) (fun e f =>
    match f with
    | ⟨1, .bytes b⟩ => (text? b).map fun s => (s, e.2)
    | ⟨2, .bytes b⟩ => (readResultList (levels - 1) e.2 b).map fun rs => (e.1, rs)
    | _ => some e) ("", []) bs

def EditResults.read? (bs : List UInt8) : Option EditResults :=
  foldFields rootLevels (fun r f =>
    match f with
    | ⟨1, .bytes b⟩ => (ErrorMessage.merge rootLevels (r.error.getD {}) b).map fun e => { r with error := some e }
    | ⟨2, .bytes b⟩ =>
      (readResultEntry rootLevels b).map fun e => { r with entities := Assoc.putAll r.entities e.toList }
    | ⟨3, .bytes b⟩ =>
      (readResultEntry rootLevels b).map fun e => { r with relationships := Assoc.putAll r.relationships e.toList }
    | _ => some r) {} bs

end FeatureGraph.Wire
