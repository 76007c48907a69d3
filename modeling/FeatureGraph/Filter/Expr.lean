import FeatureGraph.Text.Blank
import FeatureGraph.Text.Digit
import FeatureGraph.Text.Word

/-! # Filter expressions

The tree of a filter, its normalized text, and the names of its columns. Parentheses are part of the tree
and none are added, so the text of an expression shows its tree. -/
namespace FeatureGraph.Filter

/-- A name without its quotes. -/
structure Name where
  text : List Char
  isQuoted : Bool := false
  deriving DecidableEq, Repr

/-- A letter of the basic alphabet or an underscore, and word characters after it. A line break may end it. -/
def isPlainName (text : List Char) : Bool :=
  let body := if text.getLast? = some '\n' then text.dropLast else text
  body.head?.any (fun c => c.isAlpha || c == '_') && body.all Text.isWord

/-- A text as a name: in quotes unless it is a plain one. -/
def Name.ofText (text : List Char) : Name := ⟨text, !isPlainName text⟩

inductive Operator where
  | or
  | and
  | equal
  | notEqual
  | less
  | lessEqual
  | greater
  | greaterEqual
  | isDistinctFrom
  | isNotDistinctFrom
  | is
  | isNot
  | like
  | notLike
  | ilike
  | notIlike
  | escape
  | similarTo
  | glob
  | regex
  | regexAnyCase
  | overlaps
  | contains
  | intersects
  | hasKey
  | hasKeys
  | hasAnyKey
  | deletePath
  | adjacent
  | extendsLeft
  | extendsRight
  | named (symbol : List Char)
  | path
  | pathText
  | assign
  | concat
  | bitAnd
  | bitOr
  | bitXor
  | shiftLeft
  | shiftRight
  | add
  | subtract
  | modulo
  | collate
  | multiply
  | divide
  | distance
  deriving DecidableEq, Repr

def Operator.text : Operator → List Char
  | or => "OR".toList
  | and => "AND".toList
  | equal => "=".toList
  | notEqual => "<>".toList
  | less => "<".toList
  | lessEqual => "<=".toList
  | greater => ">".toList
  | greaterEqual => ">=".toList
  | isDistinctFrom => "IS DISTINCT FROM".toList
  | isNotDistinctFrom => "IS NOT DISTINCT FROM".toList
  | is => "IS".toList
  | isNot => "IS NOT".toList
  | like => "LIKE".toList
  | notLike => "NOT LIKE".toList
  | ilike => "ILIKE".toList
  | notIlike => "NOT ILIKE".toList
  | escape => "ESCAPE".toList
  | similarTo => "SIMILAR TO".toList
  | glob => "GLOB".toList
  | regex => "~".toList
  | regexAnyCase => "~*".toList
  | overlaps => "OVERLAPS".toList
  | contains => "@>".toList
  | intersects => "&&".toList
  | hasKey => "?".toList
  | hasKeys => "?&".toList
  | hasAnyKey => "?|".toList
  | deletePath => "#-".toList
  | adjacent => "-|-".toList
  | extendsLeft => "&<".toList
  | extendsRight => "&>".toList
  | named symbol => "OPERATOR(".toList ++ symbol ++ [')']
  | path => "#>".toList
  | pathText => "#>>".toList
  | assign => ":=".toList
  | concat => "||".toList
  | bitAnd => "&".toList
  | bitOr => "|".toList
  | bitXor => "#".toList
  | shiftLeft => "<<".toList
  | shiftRight => ">>".toList
  | add => "+".toList
  | subtract => "-".toList
  | modulo => "%".toList
  | collate => "COLLATE".toList
  | multiply => "*".toList
  | divide => "/".toList
  | distance => "<->".toList

def Operator.isComparison (op : Operator) : Bool :=
  [equal, notEqual, less, lessEqual, greater, greaterEqual, isDistinctFrom, isNotDistinctFrom].contains op

/-- What operands between fixed words are, as far as their surroundings ask. -/
inductive Construct where
  | plain
  | negation
  | sign
  | call
  /-- A call over the rows of a group. -/
  | aggregate
  /-- A call over a window of rows. -/
  | window
  /-- Parentheses around one expression. -/
  | group
  /-- Parentheses around none or several. -/
  | row
  /-- A query without parentheses. -/
  | query
  /-- A query in parentheses. -/
  | subquery
  | interval
  /-- A conversion to a floating point number. -/
  | toDouble
  /-- Two operands whose operator is not written between them; it shows no remarks. -/
  | operation
  deriving DecidableEq, Repr

inductive Expr where
  /-- A fixed text, such as `NULL` or a parameter. -/
  | word (text : List Char)
  | number (text : List Char)
  /-- A text literal without its quotes. -/
  | string (text : List Char)
  /-- A name that is no column. -/
  | name (n : Name)
  /-- All columns, as the argument of `COUNT`. -/
  | star
  | column (qualifiers : List Expr) (member : Expr)
  | binary (op : Operator) (left right : Expr) (remarks : List (List Char))
  /-- Operands between fixed words: `first`, then each operand with the words after it. -/
  | form (construct : Construct) (first : List Char) (parts : List (Expr × List Char))
  | remarked (e : Expr) (remarks : List (List Char))

/-- A mark of a remark inside a remark is broken up: neither opens nor closes a second one. -/
def brokenUp (first second : Char) : List Char → List Char
  | c :: d :: r =>
    if c = first ∧ d = second then first :: ' ' :: second :: brokenUp first second r
    else c :: brokenUp first second (d :: r)
  | r => r

def remarkText (remark : List Char) : List Char :=
  let blank (c : Option Char) : List Char := if c.all Text.isBlank then [] else [' ']
  let padded := blank remark.head? ++ remark ++ blank remark.getLast?
  "/*".toList ++ brokenUp '/' '*' (brokenUp '*' '/' padded) ++ "*/".toList

/-- Remarks with a blank before each; those without a character are dropped. -/
def remarksText (remarks : List (List Char)) : List Char :=
  (remarks.filter (!·.isEmpty)).flatMap fun r => ' ' :: remarkText r

/-- A name is quoted if it was, or if it begins with a digit. -/
def Name.rendered (n : Name) : List Char :=
  if n.isQuoted || n.text.head?.any Text.isDecimal then
    '"' :: n.text.flatMap (fun c => if c = '"' then ['"', '"'] else [c]) ++ ['"']
  else n.text

def joined (separator : String) (parts : List (List Char)) : List Char :=
  separator.toList.intercalate parts

namespace Expr

mutual

/-- The normalized text: one blank around an operator and after a comma. -/
def rendered : Expr → List Char
  | word text => text
  | number text => text
  | string text => '\'' :: text.flatMap (fun c => if c = '\'' then ['\'', '\''] else [c]) ++ ['\'']
  | name n => n.rendered
  | star => ['*']
  | column qualifiers member => joined "." (renderedAll qualifiers ++ [member.rendered])
  | binary op left right remarks =>
    left.rendered ++ ' ' :: op.text ++ remarksText remarks ++ ' ' :: right.rendered
  | form _ first parts => first ++ renderedParts parts
  | remarked e remarks => e.rendered ++ remarksText remarks

def renderedAll : List Expr → List (List Char)
  | [] => []
  | e :: r => e.rendered :: renderedAll r

def renderedParts : List (Expr × List Char) → List Char
  | [] => []
  | (e, words) :: r => e.rendered ++ words ++ renderedParts r

end

mutual

/-- Another expression in place of every column, the innermost first. -/
def mapColumns (f : List Expr → Expr → Expr) : Expr → Expr
  | word text => word text
  | number text => number text
  | string text => string text
  | name n => name n
  | star => star
  | column qualifiers member => f (mapColumnsAll f qualifiers) (member.mapColumns f)
  | binary op left right remarks => binary op (left.mapColumns f) (right.mapColumns f) remarks
  | form construct first parts => form construct first (mapColumnsParts f parts)
  | remarked e remarks => remarked (e.mapColumns f) remarks

def mapColumnsAll (f : List Expr → Expr → Expr) : List Expr → List Expr
  | [] => []
  | e :: r => e.mapColumns f :: mapColumnsAll f r

def mapColumnsParts (f : List Expr → Expr → Expr) : List (Expr × List Char) → List (Expr × List Char)
  | [] => []
  | (e, words) :: r => (e.mapColumns f, words) :: mapColumnsParts f r

end

/-- The expression below its remarks. -/
def bare : Expr → Expr
  | remarked e _ => e
  | e => e

/-- What an expression is called: the text of a name or literal, the last name of a column. -/
def title : Expr → List Char
  | word text | number text | string text => text
  | name n => n.text
  | star => ['*']
  | column _ (name n) => n.text
  | column _ (number text) | column _ (string text) => text
  | column _ star => ['*']
  | remarked (name n) _ => n.text
  | remarked (number text) _ | remarked (string text) _ => text
  | remarked (column _ (name n)) _ => n.text
  | _ => []

def inNamespace (namespaceName : Name) (qualifiers : List Expr) (member : Expr) : Expr :=
  match qualifiers.getLast? with
  | none => column [name namespaceName] member
  | some q => column (if q.title.isEmpty then qualifiers.dropLast ++ [name namespaceName] else qualifiers) member

/-- Gives a qualifier to every column that has none. -/
def qualify (namespaceName : Name) (e : Expr) : Expr := e.mapColumns (inNamespace namespaceName)

def chain (qualifiers : List Expr) (member : Expr) : Expr :=
  if qualifiers.isEmpty then member
  else form .operation [] (qualifiers.map (·, ['.']) ++ [(member, [])])

def unqualified (e : Expr) : Expr := e.mapColumns chain

/-- Plain names in place of the columns that some names begin. -/
def bind (names : List (List Char)) (e : Expr) : Expr :=
  e.mapColumns fun qualifiers member =>
    if names.contains ((qualifiers ++ [member]).head?.elim [] title) then chain qualifiers member
    else column qualifiers member

/-- Remarks in front of an expression that begins with its own words. -/
def led (e : Expr) (remarks : List (List Char)) : Expr :=
  match e with
  | form construct first parts =>
    let shown := (remarksText remarks).drop 1
    form construct (if shown.isEmpty then first else shown ++ ' ' :: first) parts
  | e => e

/-- Adds remarks to an expression: an operator shows its own, a query shows them in front. -/
def addRemarks (e : Expr) (remarks : List (List Char)) : Expr :=
  if remarks.isEmpty then e
  else
    match e with
    | binary op left right old => binary op left right (old ++ remarks)
    | remarked e old => remarked e (old ++ remarks)
    | form .operation first parts => form .operation first parts
    | form .query first parts => (form .query first parts).led remarks
    | e => remarked e remarks

def popRemarks : Expr → Expr × List (List Char)
  | binary op left right remarks => (binary op left right [], remarks)
  | remarked e remarks => (e, remarks)
  | e => (e, [])

def remarks (e : Expr) : List (List Char) := e.popRemarks.2

/-- Operands with commas between them, and words after the last. -/
def listed (last : List Char) : List Expr → List (Expr × List Char)
  | [] => []
  | [e] => [(e, last)]
  | e :: r => (e, ", ".toList) :: listed last r

def enclosed (construct : Construct) (first : List Char) (elements : List Expr) (last : List Char) : Expr :=
  if elements.isEmpty then form construct (first ++ last) [] else form construct first (listed last elements)

/-- Expressions with commas between two texts, after another expression. -/
def followed (e : Expr) (first : List Char) (elements : List Expr) (last : List Char) : Expr :=
  if elements.isEmpty then form .plain [] [(e, first ++ last)] else form .plain [] ((e, first) :: listed last elements)

/-- A choice between results, each with its condition, and another result. -/
def choice (cases : List (Expr × Expr)) (otherwise : Option Expr) : Expr :=
  let parts := cases.flatMap fun (condition, result) => [(condition, " THEN ".toList), (result, " WHEN ".toList)]
  match otherwise with
  | none =>
    let last := parts.getLast?.map fun p => (p.1, " END".toList)
    form .plain "CASE WHEN ".toList (parts.dropLast ++ last.toList)
  | some e =>
    form .plain "CASE WHEN ".toList
      (parts.dropLast ++ (parts.getLast?.map fun p => (p.1, " ELSE ".toList)).toList ++ [(e, " END".toList)])

def call (function : String) (arguments : List Expr) : Expr :=
  enclosed .call (function.toList ++ ['(']) arguments [')']

def null : Expr := word "NULL".toList

def grouped (e : Expr) : Expr := form .group ['('] [(e, [')'])]

def negated (e : Expr) : Expr := form .negation "NOT ".toList [(e, [])]

/-- A sign before an operand, apart from the sign that the operand begins with. -/
def negative (e : Expr) : Expr :=
  form .sign (if e.rendered.head? = some '-' then "- ".toList else ['-']) [(e, [])]

def cast (e : Expr) (type : List Char) : Expr :=
  form (if type = "DOUBLE PRECISION".toList then .toDouble else .plain) "CAST(".toList
    [(e, " AS ".toList ++ type ++ [')'])]

/-- What a `NOT` denies, with its `NOT`. -/
def isDenial (e : Expr) : Bool :=
  match e.bare with
  | form .negation .. => true
  | _ => false

/-- A test of identity, such as `IS NULL`, or a denial. -/
def isTest (e : Expr) : Bool :=
  match e.bare with
  | binary .is .. | binary .isNot .. => true
  | _ => e.isDenial

def isComparison (e : Expr) : Bool :=
  match e.bare with
  | binary op .. => op.isComparison
  | _ => false

def isBinary (e : Expr) : Bool :=
  match e.bare with
  | binary .. | form .operation .. => true
  | _ => false

def isRemainder (e : Expr) : Bool :=
  match e.bare with
  | binary .modulo .. => true
  | _ => false

/-- An operand that binds more tightly than a sum: parentheses set off a remainder. -/
def factor (e : Expr) : Expr := if e.isRemainder then e.grouped else e

/-- An operand of a comparison or of a test of range: parentheses set off a test of identity and a denial. -/
def compared (e : Expr) : Expr := if e.isTest then e.grouped else e

/-- An operand of a test of identity: parentheses set off a comparison and a denial. -/
def tested (e : Expr) : Expr := if e.isComparison || e.isDenial then e.grouped else e

/-- An operation without remarks. Parentheses set off what the operator does not bind by itself. -/
def operated (op : Operator) (left right : Expr) : Expr :=
  match op with
  | .is | .isNot => binary op left.tested right []
  | .or | .and => binary op left right []
  | .add | .subtract | .modulo => binary op left.compared right.factor []
  | .multiply | .divide | .distance => binary op left.compared.factor right.factor []
  | _ => binary op left.compared right []

def isNumber (e : Expr) : Bool :=
  match e.bare with
  | number _ => true
  | form .sign _ [(inner, _)] => match inner.bare with | number _ => true | _ => false
  | _ => false

end Expr
end FeatureGraph.Filter
