import FeatureGraph.Json.Literal
import FeatureGraph.Number.Decimal

/-! # What can go wrong

A `Failure` is an error that callers tell apart by its kind and code. A `Defect` is a fault outside that
taxonomy, such as a division by zero. -/
namespace FeatureGraph

inductive FailureKind where
  | general
  | schemaFetch
  | transport
  | decode
  | invalidLayer
  | invalidRelationship
  | filterParse
  | spatialFilter
  | graphQuery
  | edits
  | serviceNotFound
  deriving DecidableEq, Repr

namespace FailureKind

def name : FailureKind → String
  | general => "KnowledgeGraphError"
  | schemaFetch => "SchemaFetchError"
  | transport => "TransportError"
  | decode => "DecodeError"
  | invalidLayer => "InvalidLayerId"
  | invalidRelationship => "InvalidRelationshipId"
  | filterParse => "FilterParseError"
  | spatialFilter => "SpatialFilterError"
  | graphQuery => "GraphQueryError"
  | edits => "EditsError"
  | serviceNotFound => "ServiceNotFound"

def all : List FailureKind :=
  [general, schemaFetch, transport, decode, invalidLayer, invalidRelationship, filterParse, spatialFilter,
    graphQuery, edits, serviceNotFound]

def ofName? (name : String) : Option FailureKind := all.find? (·.name == name)

def code? : FailureKind → Option String
  | general => none
  | schemaFetch => some "SCHEMA_FETCH_ERROR"
  | transport => some "TRANSPORT_ERROR"
  | decode => some "DECODE_ERROR"
  | invalidLayer => some "INVALID_LAYER_ID"
  | invalidRelationship => some "INVALID_RELATIONSHIP_ID"
  | filterParse => some "FILTER_PARSE_ERROR"
  | spatialFilter => some "SPATIAL_FILTER_ERROR"
  | graphQuery => some "GRAPH_QUERY_ERROR"
  | edits => some "EDITS_ERROR"
  | serviceNotFound => some "SERVICE_NOT_FOUND"

/-- The status a service answers with: 400 and 404 are the caller's faults, 502 those of the graph. -/
def status : FailureKind → Nat
  | serviceNotFound => 404
  | invalidLayer | invalidRelationship | filterParse | spatialFilter => 400
  | transport | graphQuery | schemaFetch | decode => 502
  | general | edits => 500

end FailureKind

structure Failure where
  kind : FailureKind
  message : String
  code : Option String
  retryAfterMs : Option Int := none
  details : List (String × Json) := []

namespace Failure

def of (kind : FailureKind) (message : String) (details : List (String × Json) := []) : Failure :=
  { kind, message, code := kind.code?, details }

/-- The message, or the name of the kind, with what is known besides. -/
def text (f : Failure) : String :=
  (if f.message.isEmpty then f.kind.name else f.message) ++
    (match f.code with
      | some c => if c.isEmpty then "" else s!" [code={c}]"
      | none => "") ++
    (match f.retryAfterMs with
      | some ms => " retry_after_ms=" ++ Number.integerText ms
      | none => "") ++
    (if f.details.isEmpty then "" else " details=" ++ Json.literal (.object f.details))

def metricCode (f : Failure) : String :=
  match f.code with
  | some c => if c.isEmpty then f.kind.name else c
  | none => f.kind.name

end Failure

/-- How many calls may stand within each other where a request is looked at. Showing a value is taken to need none. -/
def callLimit : Nat := 960

inductive Defect where
  | divisionByZero
  | numberTooLarge
  | infiniteNumber
  | notANumber
  | invalidInteger (text : String)
  /-- A text of too many digits for a whole number. -/
  | tooManyDigits (count : Nat)
  /-- A whole number of too many digits for a text. -/
  | unwritableInteger
  | invalidNumber (text : String)
  | notNumeric
  | pointSize
  | identifierLength
  | identifierText
  | unsupportedVariant (name : String)
  | unsupportedPolicy
  | outOfRange
  | wrongType (message : String)
  | missingKey (name : String)
  | missingMember (type member : String)
  | notFiniteInJson
  | notInJson (type : String)
  /-- More calls within each other than there is room for, and during what. -/
  | tooDeep (during : String)
  /-- A text in which ASCII only is allowed. -/
  | notAscii (text : String)
  /-- An error of another program part, known by name and message only. -/
  | foreign (name message : String)
  deriving DecidableEq, Repr

/-- What is said of the first characters of a text that ASCII has not. -/
def beyondAscii (text : String) : String :=
  let isAscii := fun c : Char => c.toNat < 128
  let start := (text.toList.takeWhile isAscii).length
  let size := ((text.toList.drop start).takeWhile fun c => !isAscii c).length
  let place :=
    match text.toList.drop start with
    | [] => ""
    | c :: _ =>
      if size = 1 then s!"character '{String.ofList (Text.escapeCode c)}' in position {start}"
      else s!"characters in position {start}-{start + size - 1}"
  s!"'ascii' codec can't encode {place}: ordinal not in range(128)"

namespace Defect

def name : Defect → String
  | divisionByZero => "ZeroDivisionError"
  | numberTooLarge | infiniteNumber => "OverflowError"
  | notANumber | invalidInteger _ | tooManyDigits _ | unwritableInteger | invalidNumber _ | pointSize
  | identifierLength | identifierText | unsupportedVariant _ | unsupportedPolicy | outOfRange
  | notFiniteInJson => "ValueError"
  | notNumeric | wrongType _ | notInJson _ => "TypeError"
  | missingKey _ => "KeyError"
  | missingMember _ _ => "AttributeError"
  | tooDeep _ => "RecursionError"
  | notAscii _ => "UnicodeEncodeError"
  | foreign name _ => name

def message : Defect → String
  | divisionByZero => "float division by zero"
  | numberTooLarge => "int too large to convert to float"
  | infiniteNumber => "cannot convert float infinity to integer"
  | notANumber => "cannot convert float NaN to integer"
  | invalidInteger text => "invalid literal for int() with base 10: " ++ Text.quoted text
  | tooManyDigits count =>
    s!"Exceeds the limit ({Number.digitLimit} digits) for integer string conversion: value has {count} digits; "
      ++ "use sys.set_int_max_str_digits() to increase the limit"
  | unwritableInteger =>
    s!"Exceeds the limit ({Number.digitLimit} digits) for integer string conversion; "
      ++ "use sys.set_int_max_str_digits() to increase the limit"
  | invalidNumber text => "could not convert string to float: " ++ Text.quoted text
  | notNumeric => "float() argument must be a string or a real number"
  | pointSize => "a point has two coordinates"
  | identifierLength => "bytes is not a 16-char string"
  | identifierText => "badly formed hexadecimal UUID string"
  | unsupportedVariant name => s!"unsupported primitive variant '{name}'"
  | unsupportedPolicy => "spatial_filter_errors must be one of ('skip', 'raise')"
  | outOfRange => "value out of range"
  | wrongType message => message
  | missingKey name => Text.quoted name
  | missingMember type member => s!"'{type}' object has no attribute '{member}'"
  | notFiniteInJson => "Out of range float values are not JSON compliant"
  | notInJson type => s!"Object of type {type} is not JSON serializable"
  | tooDeep during => "maximum recursion depth exceeded" ++ during
  | notAscii text => beyondAscii text
  | foreign _ message => message

end Defect

inductive Fault where
  | failure (f : Failure)
  | defect (d : Defect)

namespace Fault

def name : Fault → String
  | failure f => f.kind.name
  | defect d => d.name

def message : Fault → String
  | failure f => f.message
  | defect d => d.message

/-- A defect is the service's own fault. -/
def status : Fault → Nat
  | failure f => f.kind.status
  | defect _ => 500

def details : Fault → List (String × Json)
  | failure f => f.details
  | defect _ => []

end Fault

instance : Coe Failure Fault := ⟨.failure⟩
instance : Coe Defect Fault := ⟨.defect⟩

/-- A fault where failures only are known: a defect is one of no kind. -/
def Fault.toFailure : Fault → Failure
  | failure f => f
  | defect d => .of .general d.message

instance : MonadLift (Except Fault) (Except Failure) := ⟨Except.mapError Fault.toFailure⟩

/-- A failure with a whole number in its message, which cannot be written if the number has too many digits. -/
def Fault.naming (n : Int) (f : Failure) : Fault :=
  if Number.WithinLimit n then f else Defect.unwritableInteger

/-- A failure with a value in its message, which cannot be written if a whole number in it has too many digits. -/
def Fault.showing (v : Json) (f : Failure) : Fault := if v.isWritable then f else Defect.unwritableInteger

def Json.typeName : Json → String
  | null => "NoneType"
  | bool _ => "bool"
  | int _ => "int"
  | float _ => "float"
  | text _ => "str"
  | list _ => "list"
  | object _ => "dict"

/-- The double that a value denotes: truth values count as 1 and 0, texts are read as numerals. -/
def Json.toFloat : Json → Except Defect Float
  | bool b => .ok (if b then 1.0 else 0.0)
  | int n => (Number.ofInt? n).elim (.error .numberTooLarge) .ok
  | float x => .ok x
  | text s => (Number.float? s.toList).elim (.error (.invalidNumber s)) .ok
  | null | list _ | object _ => .error .notNumeric

end FeatureGraph
