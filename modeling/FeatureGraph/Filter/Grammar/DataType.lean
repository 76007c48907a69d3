import FeatureGraph.Filter.Function.Collection
import FeatureGraph.Filter.Grammar.Name
import FeatureGraph.Filter.Grammar.Rules

/-! # The types of values in filters -/
namespace FeatureGraph.Filter.Grammar
open Reader

structure DataType where
  text : List Char
  /-- What the type is usually called, if it has no name of its own. -/
  usual : String := ""
  /-- Whether it has arguments or dimensions. -/
  hasArguments : Bool := false
  /-- The value of the type that was written after it in brackets or parentheses. -/
  value : Option Expr := none

def momentTypes : List String :=
  ["DATE", "DATETIME", "TIME", "TIMETZ", "TIMESTAMP", "TIMESTAMPLTZ", "TIMESTAMPNTZ", "TIMESTAMPTZ"]

/-- The types that are written otherwise than they are usually called. -/
def typeTexts : List (String × String) :=
  [("BINARY", "BYTEA"), ("DATETIME", "TIMESTAMP"), ("DOUBLE", "DOUBLE PRECISION"), ("FLOAT", "REAL"),
    ("LONGBLOB", "BLOB"), ("LONGTEXT", "TEXT"), ("MEDIUMBLOB", "BLOB"), ("MEDIUMTEXT", "TEXT"), ("NCHAR", "CHAR"),
    ("NVARCHAR", "VARCHAR"), ("TIMESTAMPNTZ", "TIMESTAMP"), ("TINYBLOB", "BLOB"), ("TINYINT", "SMALLINT"),
    ("TINYTEXT", "TEXT"), ("VARBINARY", "BYTEA")]

def unsignedTypes : List (String × String) :=
  [("BIGINT", "UBIGINT"), ("DECIMAL", "UDECIMAL"), ("DOUBLE", "UDOUBLE"), ("INT", "UINT"), ("MEDIUMINT", "UMEDIUMINT"),
    ("SMALLINT", "USMALLINT"), ("TINYINT", "UTINYINT")]

def nestedTypes : List String := ["ARRAY", "LIST", "MAP", "NULLABLE", "OBJECT", "RANGE", "STRUCT"]

/-- A type with its arguments. A floating point number with a size has a name of its own. -/
def typeText (usual : String) (arguments : List (List Char)) : List Char :=
  if arguments.isEmpty then ((typeTexts.lookup usual).getD usual).toList
  else
    let inner := joined ", " arguments
    if usual = "ARRAY" then inner ++ "[]".toList
    else if nestedTypes.contains usual then usual.toList ++ '<' :: inner ++ ['>']
    else if usual = "DOUBLE" || usual = "FLOAT" then "FLOAT(".toList ++ inner ++ [')']
    else ((typeTexts.lookup usual).getD usual).toList ++ '(' :: inner ++ [')']

/-- A size of a type: a number, or a word in upper case. A word after it is dropped. -/
def typeSize (g : Rules) : Reader (Option (List Char)) := do
  match ← g.operand with
  | none => return none
  | some e =>
    let _ ← wordWhere anyWord false
    match e.bare with
    | .column [] member => return some (Text.upper (String.ofList member.title)).toList
    | e => return some e.rendered

def unitSpan : Reader (List Char) := do
  match ← takeIf fun t => intervalUnits.contains t.upper with
  | none => return []
  | some t =>
    if ← acceptWords ["TO"] then
      let last ← wordWhere (·.kind == .name) true
      return ' ' :: t.upper.toList ++ " TO ".toList ++ last.elim [] Expr.rendered
    else return ' ' :: t.upper.toList

def isTypeWord (t : Token) : Bool := match t.kind with | .fixed s => typeWords.contains s | _ => false

/-- The name at the start of a type: a usual one, or a name of its own with parts after points. -/
inductive TypeName where
  | usual (spelling : String)
  | own (text : List Char)
  /-- A type of the catalogue, which takes no arguments. -/
  | catalogue (text : List Char)

def typeName (allowNames : Bool) : Reader (Option TypeName) := do
  match ← takeIf isTypeWord with
  | some t =>
    match t.kind with
    | .fixed "OID" => return some (.catalogue t.upper.toList)
    | .fixed s => return some (.usual s)
    | _ => return none
  | none =>
    if !allowNames then return none
    match ← takeIf fun t => t.kind == .name || t.kind == .quoted with
    | none => return none
    | some t =>
      match keyword? t.upper with
      | some usual => if typeWords.contains usual then return some (.usual usual)
      | none => pure ()
      let more ← repeated (fun (text : List Char) => do
        if ← accept "." then return some (text ++ '.' :: (← takeIf anyWord).elim "None".toList Token.text)
        else return none) t.text
      return some (.own more)

/-- The brackets after a type, or the word `ARRAY`, each for one more dimension. Brackets right after the word
count for none, and brackets with a size do not belong to the type. -/
def dimensions (g : Rules) (type : DataType) : Reader DataType := do
  let start ← get
  let isWord ← accept "ARRAY"
  let step (state : DataType × Bool) : Reader (Option (DataType × Bool)) := do
    let (type, isWord) := state
    if (← peek).isNone then return none
    let afterWord := (← get).last.any (·.is "ARRAY")
    let isBracket ← accept "["
    if !isBracket && !isWord then return none
    if ← acceptIf afterWord "]" then return none
    if !(← separated g.disjunction).isEmpty then
      backTo start
      return none
    let _ ← accept "]"
    return some ({ text := type.text ++ "[]".toList, usual := "ARRAY", hasArguments := true }, false)
  return (← repeated step (type, isWord)).1

/-- Elements of an array or members of a structure, right after their type. -/
def inlineValue (g : Rules) (ofStructure : Bool) (type : List Char) : Reader (Option Expr) := do
  let start ← get
  match ← acceptAny ["[", "("] with
  | none => return none
  | some _ =>
    let elements ← separated g.disjunction
    if elements.isEmpty && ofStructure then
      backTo start
      return none
    let _ ← acceptAny ["]", ")"]
    let whole := if ofStructure then Expr.call "STRUCT" elements else .array elements
    return some (← built (whole.cast type))

mutual

/-- A type, with a bound on how deep types stand in it. Before a literal, parentheses after the type belong
to it only if a text literal follows them. -/
def typeOf (g : Rules) (beforeLiteral allowNames : Bool) : Nat → Reader (Option DataType)
  | 0 => failure
  | depth + 1 => do
    let start ← get
    match ← typeName allowNames with
    | none => return none
    | some (.catalogue text) => return some { text }
    | some head =>
      let usual := match head with | .usual s => s | _ => ""
      let nested := nestedTypes.contains usual
      let parenthesized ← accept "("
      let arguments ←
        if !parenthesized then pure []
        else if usual = "STRUCT" then structureFields g depth
        else if nested then typeArguments g beforeLiteral allowNames depth
        else separatedBy (typeSize g)
      if (← acceptIf parenthesized ")") != parenthesized then
        backTo start
        return none
      let isNullable := parenthesized && usual = "NULLABLE" && arguments.length = 1
      if isNullable then return some { text := arguments.flatten }
      let (arguments, value) ←
        if ← acceptIf nested "<" then do
          let inner ←
            if usual = "STRUCT" then structureFields g depth
            else typeArguments g beforeLiteral allowNames depth
          expect ">"
          pure (inner, ← inlineValue g (usual = "STRUCT") (typeText usual inner))
        else pure (arguments, none)
      let isTime := ["TIME", "TIMETZ"].contains usual
      let isStamp := isTime || ["TIMESTAMP", "TIMESTAMPTZ", "TIMESTAMPLTZ", "TIMESTAMPNTZ"].contains usual
      let zone ←
        if !isStamp then pure none
        else
          if ← acceptWords ["WITH", "TIME", "ZONE"] then pure (some (if isTime then "TIMETZ" else "TIMESTAMPTZ"))
          else if ← acceptWords ["WITH", "LOCAL", "TIME", "ZONE"] then pure (some "TIMESTAMPLTZ")
          else if ← acceptWords ["WITHOUT", "TIME", "ZONE"] then pure (some usual)
          else pure none
      let span ← if usual = "INTERVAL" then unitSpan else pure []
      if parenthesized && beforeLiteral && zone.isNone && !(← peek).any (·.kind == .string) then
        backTo start
        return none
      let isUnsigned ← if zone.isNone && usual ≠ "INTERVAL" then acceptWords ["UNSIGNED"] else pure false
      let usual ← if isUnsigned then need (return unsignedTypes.lookup usual) else pure usual
      if usual = "NULLABLE" && arguments.isEmpty then
        backTo start
        return none
      let text :=
        match head with
        | .own text => if arguments.isEmpty then text else text ++ '(' :: joined ", " arguments ++ [')']
        | _ => typeText (zone.getD usual) arguments ++ span
      dimensions g { text, usual := zone.getD usual, hasArguments := !arguments.isEmpty, value }

def typeArguments (g : Rules) (beforeLiteral allowNames : Bool) : Nat → Reader (List (List Char))
  | 0 => failure
  | depth + 1 => separatedBy do return (← typeOf g beforeLiteral allowNames depth).map DataType.text

/-- The fields of a structure: a type each, with a name before it or not. -/
def structureFields (g : Rules) : Nat → Reader (List (List Char))
  | 0 => failure
  | depth + 1 => separatedBy do
    let start ← get
    let isTwice := (← peek).any isTypeWord && (← peekSecond).any isTypeWord
    let unnamed ← if isTwice then pure none else typeOf g true false depth
    match unnamed.filter (·.hasArguments) with
    | some type => return some type.text
    | none =>
      backTo start
      let name ← anyName
      let _ ← accept ":"
      match name, (← peek).any isTypeWord with
      | some n, true => return (← typeOf g false true depth).map fun type => n.rendered ++ ' ' :: type.text
      | _, _ =>
        backTo start
        return (← typeOf g false true depth).map DataType.text

end

/-- A type after `AS` or `::`, or before a literal. -/
def dataType (g : Rules) (beforeLiteral allowNames : Bool) : Reader (Option DataType) := do
  typeOf g beforeLiteral allowNames (2 * (← get).total + 2)

end FeatureGraph.Filter.Grammar
