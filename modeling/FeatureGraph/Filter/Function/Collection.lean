import FeatureGraph.Filter.Expr
import FeatureGraph.Filter.Interval
import FeatureGraph.Number.Integer

/-! # Functions on arrays and documents in filters -/
namespace FeatureGraph.Filter

namespace Expr

/-- A query in parentheses after a name, or elements in brackets. -/
def array (elements : List Expr) : Expr :=
  match elements with
  | [form .query first parts] => enclosed .call "ARRAY(".toList [form .query first parts] [')']
  | _ => enclosed .plain "ARRAY[".toList elements [']']

/-- An operand of an operation in parentheses, if it is an operation itself. -/
def wrapped (e : Expr) : Expr := if e.isBinary then e.grouped else e

/-- Whether an array has an element; unknown if the element is. -/
def hasElement (whole element : Expr) : Expr :=
  let isAny := binary .equal element.wrapped (form .call "ANY(".toList [(whole, [')'])]) []
  choice [(binary .is element null [], null)] (some (call "COALESCE" [isAny, word "FALSE".toList]))

/-- All elements of some arrays, two arrays at a time from the right. -/
def concatenated (first : Expr) : List Expr → Expr
  | [] => first
  | e :: rest => call "ARRAY_CAT" [first, concatenated e rest]

def isCondition (e : Expr) : Bool :=
  match e.bare with
  | binary op .. => op.isComparison || [Operator.is, .like, .ilike, .similarTo, .glob].contains op
  | form .plain [] ((_, words) :: _) => " IN (".toList.isPrefixOf words || " BETWEEN ".toList.isPrefixOf words
  | _ => false

/-- The elements of an array that pass a test: a function of one name, or a condition. Any other test leaves
nothing to write. -/
def filtered (whole test : Expr) : Expr :=
  let passing (element condition : Expr) : Expr :=
    form .call "ARRAY(SELECT ".toList
      [(element, " FROM UNNEST(".toList), (whole, ") AS _t0(".toList), (element, ") WHERE ".toList), (condition, [')'])]
  match test.bare with
  | form .plain [] [(name n, [' ', '-', '>', ' ']), (condition, [])] => passing (name n) condition
  | e => if e.isCondition then passing (word "_u".toList) test else word []

def size (whole : Expr) : Expr := call "ARRAY_LENGTH" [whole, number ['1']]

/-- Whether an array is empty or has an element that passes a test. -/
def anyPasses (whole test : Expr) : Expr :=
  let isEmpty := binary .equal whole.size (number ['0']) []
  (binary .or isEmpty (binary .notEqual (whole.filtered test).size (number ['0']) []) []).grouped

/-- A rank over the rows of a group: the rank, then the key of the order. -/
def ranked (function : String) (key rank : Expr) : Expr :=
  form .call (function.toList ++ ['(']) [(rank, ") WITHIN GROUP (ORDER BY ".toList), (key, [')'])]

end Expr

/-- The text of a key in a document: an index is a number without leading zeros. -/
def keyText (text : List Char) : List Char :=
  match Number.integer? text with
  | some n => (Number.integerText n).toList
  | none => text

def literalKey? (e : Expr) : Option (List Char) :=
  match e.bare with
  | .string text | .number text => some (keyText text)
  | _ => none

/-- The keys of a path such as `$.a.b[0]`. The dollar sign may be left out. -/
def pathKeys? (path : List Char) : Option (List (List Char)) :=
  let isKeyPart (c : Char) : Bool := c.isAlphanum || c == '_'
  let rec keys : Nat → List Char → Option (List (List Char))
    | _, [] => some []
    | 0, _ => none
    | bound + 1, '.' :: r =>
      let key := r.takeWhile isKeyPart
      if key.head?.all Char.isDigit then none else (keys bound (r.drop key.length)).map (key :: ·)
    | bound + 1, '[' :: r =>
      let key := r.takeWhile (· ≠ ']')
      let inner? : Option (List Char) :=
        match key with
        | [] => none
        | quote :: body =>
          if (quote == '\'' || quote == '"') && body.getLast? == some quote then some body.dropLast
          else if key.all Char.isDigit then some (keyText key) else none
      if key.length = r.length then none
      else inner?.bind fun inner => (keys bound (r.drop (key.length + 1))).map (inner :: ·)
    | _, _ => none
  match path with
  | '$' :: r => keys path.length r
  | c :: _ => if isKeyPart c then keys (path.length + 1) ('.' :: path) else keys path.length path
  | [] => none

def memberCall (name : String) (document : Expr) (keys : List (List Char)) : Expr :=
  Expr.call name (document :: keys.map fun k => .word ('\'' :: k ++ ['\'']))

/-- A member of a document: literal keys are texts; several keys that are not literal count for their first. -/
def memberOf (name operator : String) (document : Expr) (keys : List Expr) : Expr :=
  match keys.mapM literalKey? with
  | some texts => memberCall name document texts
  | none =>
    match keys with
    | key :: _ :: _ => .form .operation [] [(document, (" " ++ operator ++ " ").toList), (key, [])]
    | _ => Expr.call name (document :: keys)

/-- A member of a document by a path: one that does not read as a path is a key itself. -/
def memberAt (name : String) (document path : Expr) (more : List Expr) : Expr :=
  let keys? : Option (List (List Char)) :=
    match path.bare with
    | .string text => pathKeys? text
    | .number text => pathKeys? ('[' :: text ++ [']'])
    | _ => none
  match keys? with
  | some keys => memberCall name document keys
  | none => Expr.call name (document :: path :: more)

/-- The step of a series: a text of a number and a unit is an interval. -/
def stepArgument (e : Expr) : Expr :=
  match e.bare with
  | .string text =>
    match amounts text.length text with
    | [(number, unit)] => intervalOf number (unit.map Char.toUpper) false
    | _ => e
  | _ => e

/-- A call of a known function on arrays or documents: nothing where no such function is known, and no
expression where its arguments are refused. -/
def collectionCall? (name : String) (arguments : List Expr) : Option (Option Expr) :=
  let count := arguments.length
  let within (least most : Nat) (e : Expr) : Option (Option Expr) :=
    some (if least ≤ count && count ≤ most then some e else none)
  let a := arguments.getD 0 .null
  let b := arguments.getD 1 .null
  match name with
  | "ARRAY" => some (some (Expr.array arguments))
  | "ARRAY_LENGTH" | "ARRAY_SIZE" =>
    within 1 2 (Expr.call "ARRAY_LENGTH" [a, arguments[1]?.getD (.number ['1'])])
  | "ARRAY_AGG" | "ARRAYAGG" => within 1 2 (.enclosed .aggregate "ARRAY_AGG(".toList [a] [')'])
  | "ARRAY_CAT" | "ARRAY_CONCAT" =>
    some (if count = 0 then none
      else if count = 1 then some (Expr.call "ARRAY_CAT" [a, Expr.array []])
      else some (Expr.concatenated a (arguments.drop 1)))
  | "ARRAY_CONTAINS" | "ARRAY_HAS" => within 2 4 (Expr.hasElement a b)
  | "ARRAY_CONTAINS_ALL" | "ARRAY_HAS_ALL" => within 2 2 (.binary .contains a b [])
  | "FILTER" | "ARRAY_FILTER" => within 2 2 (Expr.filtered a b)
  | "ARRAY_ANY" => within 2 2 (Expr.anyPasses a b)
  | "ARRAY_OVERLAPS" => within 2 2 (.binary .intersects a b [])
  | "GENERATE_SERIES" =>
    within 2 4 (Expr.call name (arguments.take 2 ++ ((arguments.drop 2).take 1).map stepArgument))
  | "UNNEST" | "EXPLODE" => some (if count = 0 then none else some (Expr.call "UNNEST" arguments))
  | "PERCENTILE_CONT" | "PERCENTILE_DISC" =>
    within 1 2 (if count = 2 then Expr.ranked name a b else .enclosed .aggregate (name.toList ++ ['(']) arguments [')'])
  | "COUNT_IF" | "COUNTIF" =>
    within 1 1 (.enclosed .aggregate "SUM(".toList [Expr.choice [(a, .number ['1'])] (some (.number ['0']))] [')'])
  | "JSON_EXTRACT_PATH" => some (if count = 0 then none else some (memberOf name "->" a (arguments.drop 1)))
  | "JSON_EXTRACT_PATH_TEXT" =>
    some (if count = 0 then none else some (memberOf name "->>" a (arguments.drop 1)))
  | "JSON_EXTRACT" =>
    some (if count < 2 then none else some (memberAt "JSON_EXTRACT_PATH" a b (arguments.drop 2)))
  | "JSON_EXTRACT_SCALAR" =>
    some (if count < 2 then none else some (memberAt "JSON_EXTRACT_PATH_TEXT" a b []))
  | "JSONB_EXTRACT" => within 2 3 (.binary .path a b [])
  | "JSONB_EXTRACT_SCALAR" => within 2 3 (.binary .pathText a b [])
  | "JSONB_CONTAINS" => within 2 2 (.binary .hasKey a b [])
  | "PARSE_JSON" | "JSON_PARSE" => within 1 3 (a.cast "JSON".toList)
  | _ => none

end FeatureGraph.Filter
