import FeatureGraph.Filter.Function
import FeatureGraph.Filter.Grammar.DataType
import FeatureGraph.Filter.Grammar.Window
import FeatureGraph.Filter.Interval

/-! # The operands of filters

Literals, parentheses, calls, columns with what follows them, values of a type, intervals. -/
namespace FeatureGraph.Filter.Grammar
open Reader

def literalOf (t : Token) : Option Expr :=
  match t.kind with
  | .string => some (.string t.text)
  | .block => some (.word (Expr.rendered (.string t.text)))
  | .national => some (.word ('N' :: Expr.rendered (.string t.text)))
  | .escaped => some (.word ('e' :: Expr.rendered (.string t.text)))
  | .bits => some (.word ("b'".toList ++ t.text ++ ['\'']))
  | .hex => some (.word ("x'".toList ++ t.text ++ ['\'']))
  | .number => some (.number t.text)
  | .fixed "NULL" => some .null
  | .fixed "TRUE" => some (.word "TRUE".toList)
  | .fixed "FALSE" => some (.word "FALSE".toList)
  | .fixed "*" => some .star
  | _ => none

def adjacent (first : Expr) : Reader Expr := do
  let all ← repeated (fun (found : List Expr) => do
    match ← takeIf (·.kind == .string) with
    | some t => return some (found ++ [.string t.text])
    | none => return none) [first]
  if all.length = 1 then return first else built (.call "CONCAT" all)

/-- Parentheses: a query, one expression, or a row of none or several. -/
def parentheses (g : Rules) : Reader (Option Expr) := do
  if !(← accept "(") then return none
  let remarks ← waiting
  let elements ←
    match ← g.query false with
    | some q => pure [q]
    | none => separated g.titled
  let afterComma := (← get).last.any (·.is ",")
  let inner ←
    match elements with
    | [] =>
      if ← isAhead ")" then built (.form .row "()".toList []) else failure
    | first :: more =>
      match first.bare with
      | .form .query .. => built (.form .subquery ['('] [(first, [')'])])
      | .form .subquery .. => do built (.form .subquery ['('] [(← g.continued first, [')'])])
      | _ =>
        if afterComma || !more.isEmpty then built (.enclosed .row ['('] elements [')'])
        else built first.grouped
  let whole ← expectFor ")" (inner.addRemarks remarks)
  match inner.bare, elements with
  | .form .group .., [.form .aggregate ..] => return some (← overRows g whole)
  | _, _ => return some whole

/-- A literal or parentheses. A fraction that begins with its point has a zero before it. -/
def primary (g : Rules) : Reader (Option Expr) := do
  match ← takeIf fun t => (literalOf t).isSome with
  | some t =>
    let e ← built ((literalOf t).getD .null)
    if t.kind == .string then return some (← adjacent e) else return some e
  | none =>
    let start ← get
    if ← accept "." then
      match ← takeIf (·.kind == .number) with
      | some t => return some (.number ("0.".toList ++ t.text))
      | none => backTo start
    parentheses g

/-- One result of a choice, after `WHEN`: its condition and itself. -/
def case (g : Rules) : Reader (Option (Expr × Expr)) := do
  if ← accept "WHEN" then
    let condition ← need g.disjunction
    let _ ← accept "THEN"
    let result ← need g.disjunction
    modify fun c => { c with waiting := [] }
    return some (condition, result)
  else return none

def choiceForm (g : Rules) : Reader (Option Expr) := do
  let remarks ← waiting
  let subject ← g.disjunction
  let cases ← repeated (fun found => do return (← case g).map fun c => found ++ [c]) ([] : List (Expr × Expr))
  let otherwise ← if ← accept "ELSE" then g.disjunction else pure none
  expect "END"
  if cases.isEmpty then failure
  match subject with
  | none => return some (← builtWith remarks (Expr.choice cases otherwise))
  | some e =>
    match Expr.choice cases otherwise with
    | .form construct _ parts =>
      return some (← builtWith remarks (.form construct "CASE ".toList ((e, " WHEN ".toList) :: parts)))
    | whole => return some whole

/-- A choice between two results, after `IF`: in parentheses, or with words between its parts. -/
def condition (g : Rules) (start : Cursor) : Reader (Option Expr) := do
  if ← accept "(" then
    let arguments ← separated do titledAs g true (← g.assignment)
    match arguments with
    | [a, b] => return some (← expectFor ")" (Expr.choice [(a, b)] none))
    | [a, b, c] => return some (← expectFor ")" (Expr.choice [(a, b)] (some c)))
    | _ => failure
  else
    match ← g.disjunction with
    | none =>
      backTo start
      return none
    | some a =>
      let _ ← accept "THEN"
      let b ← need g.disjunction
      let c ← if ← accept "ELSE" then g.disjunction else pure none
      let _ ← accept "END"
      return some (← built (Expr.choice [(a, b)] c))

/-- Distinct values. Several values at once count only where none is empty. -/
def distinct (elements : List Expr) : Expr :=
  match elements with
  | [] | [_] => .form .plain "DISTINCT ".toList (Expr.listed [] elements)
  | es =>
    let cases := es.map fun e => (Expr.binary .is e .null [], Expr.null)
    .form .plain "DISTINCT ".toList [(Expr.choice cases (some (.enclosed .row ['('] es [')'])), [])]

def queryOrExpression (g : Rules) (explicit : Bool) : Reader (Option Expr) :=
  orElse (g.query false) do
    let e ← g.assignment
    if explicit then titledAs g true e else return e

/-- A function from names to an expression, or a value for a named parameter. -/
def binding (g : Rules) : Reader (Option Expr) := do
  let start ← get
  let names ←
    if ← accept "(" then do
      let names ← separated anyName
      if ← accept ")" then pure names
      else
        backTo start
        pure []
    else pure (← anyName).toList
  if ← accept "->" then
    let body ← need g.disjunction
    let parameters := if names.length = 1 then Expr.listed " -> ".toList names
      else [(.enclosed .plain ['('] names ") -> ".toList, [])]
    return some (← built (.form .plain [] (parameters ++ [(body.bind (names.map Expr.title), [])])))
  else if ← accept "=>" then
    let value ← need g.disjunction
    return some (← built (.form .plain ((names.head?.elim [] Expr.title) ++ " => ".toList) [(value, [])]))
  else
    backTo start
    return none

/-- An argument of a call, with an order and a limit of its own. -/
def argument (g : Rules) (explicit : Bool) : Reader (Option Expr) := do
  match ← binding g with
  | some e => return some e
  | none =>
    let e ←
      if ← accept "DISTINCT" then do
        let elements ← separated g.disjunction
        pure (some (← built (distinct elements)))
      else queryOrExpression g explicit
    let after (e : Option Expr) (more : Option Expr) : Option Expr :=
      match more with
      | none => e
      | some m => some (e.elim m fun e => .form .plain [] [(e, [' ']), (m, [])])
    let e ← match e with
      | some e => do pure (some (← emptyValues e))
      | none => pure none
    let e := after e (← orderBy g)
    return after e ((← limit g).map Prod.fst)

def momentPart : Reader (List Char) := do
  match ← takeIf (·.kind == .string) with
  | some t => return (← built (.string t.text)).rendered
  | none => return (← need (wordWhere anyWord true)).rendered

def textLiteral : Reader (Option Expr) := do
  match ← takeIf (·.kind == .string) with
  | some t => return some (← built (.string t.text))
  | none => return none

/-- The format of a conversion, and the words of the time zone after it. -/
def conversionFormat (g : Rules) : Reader (Option (Option Expr × Option Expr)) := do
  match ← acceptAny ["FORMAT", ","] with
  | none => return none
  | some _ =>
    let isGrouped ← accept "("
    let format ← textLiteral
    if isGrouped then expect ")"
    if ← acceptWords ["AT", "TIME", "ZONE"] then return some (format, some (← need g.unary))
    else return some (format, none)

/-- A conversion to a type after its first parenthesis, with a result where it cannot be done and with a format.
A moment in a format is read by a function of its own. -/
def conversion (g : Rules) : Reader Expr := do
  let e ← need g.assignment
  if !(← accept "AS") then
    expect ","
    let type ← need textLiteral
    return ← built (.call "CAST_TO_STR_TYPE" [e, type])
  let type ← dataType g false true
  let otherwise ←
    if ← accept "DEFAULT" then do
      let otherwise ← g.bitwise
      let _ ← acceptWords ["ON", "CONVERSION", "ERROR"]
      pure otherwise
    else pure none
  let format ← conversionFormat g
  let usual := type.elim "" DataType.usual
  if format.isSome && momentTypes.contains usual then
    let text := (format.bind Prod.fst).elim [] fun f => f.title
    let shown := if text.isEmpty then Expr.string "None".toList else formatArgument (.string text)
    return ← built (.call (if usual = "DATE" then "TO_DATE" else "TO_TIMESTAMP") [e, shown])
  let typeText ← match type, format with
    | some type, _ => pure type.text
    | none, some _ => pure "UNKNOWN".toList
    | none, none => failure
  if ← acceptIf (usual = "CHAR" && format.isNone) "CHARACTER SET" then
    let set ← need (wordWhere (fun t => t.kind == .name || t.kind == .string) false)
    return ← built (e.cast ("CHAR CHARACTER SET ".toList ++ set.rendered))
  let action ←
    if ← acceptWords ["RENAME", "FIELDS"] then pure " RENAME FIELDS".toList
    else
      if ← acceptWords ["ADD", "FIELDS"] then pure " ADD FIELDS".toList else pure []
  let zoned (f : Expr) (zone : Option Expr) : Expr :=
    zone.elim f fun z => .form .plain [] [(f, " AT TIME ZONE ".toList), (z, [])]
  let extras : List (String × Expr × String) :=
    (otherwise.map (" DEFAULT ", ·, " ON CONVERSION ERROR")).toList ++
      (format.bind fun (f, zone) => f.map (" FORMAT ", zoned · zone, "")).toList
  if extras.isEmpty then built (e.cast (typeText ++ action))
  else
    let converted := Expr.form .plain "CAST(".toList [(e, " AS ".toList ++ typeText)]
    let whole := extras.foldl (fun whole (before, extra, after) =>
      Expr.form .plain [] [(whole, before.toList), (extra, after.toList)]) converted
    built (.form .plain [] [(whole, action ++ [')'])])

/-- Calls with words between their arguments, or with arguments of a kind of their own. -/
def specialForms (g : Rules) : List (String × Reader Expr) :=
  let cast : Reader Expr := conversion g
  let convert : Reader Expr := do
    let e ← need g.bitwise
    if ← accept "USING" then
      let set ← need (wordWhere (fun t => t.kind == .name || t.is "BINARY") false)
      built (e.cast ("CHAR CHARACTER SET ".toList ++ set.rendered))
    else
      expect ","
      built (e.cast (← need (dataType g false true)).text)
  let rounded (name : String) : Reader Expr := do
    let arguments ← separated (argument g false)
    if arguments.isEmpty then failure
    let unit ← if ← acceptWords ["TO"] then wordWhere (·.kind == .name) false else pure none
    let last := unit.elim [')'] fun u => " TO ".toList ++ u.rendered ++ [')']
    built (.enclosed .call (name.toList ++ ['(']) (arguments.take 2) last)
  let character : Reader Expr := do
    let codes ← separated g.assignment
    if ← accept "USING" then
      let set ← need (wordWhere (·.kind == .name) false)
      built (.enclosed .call "CHR(".toList codes (" USING ".toList ++ set.rendered ++ [')']))
    else built (.call "CHR" codes)
  let decode : Reader Expr := do
    let arguments ← separated g.disjunction
    match arguments with
    | [] => failure
    | [_] | [_, _] => built (.call "DECODE" arguments)
    | subject :: rest =>
      let equal (e : Expr) : Expr := .binary .equal subject.wrapped e []
      let isEmpty (e : Expr) : Expr := .binary .is e.wrapped .null []
      let condition (e : Expr) : Expr :=
        match e.bare with
        | .number _ | .string _ => equal e
        | .word ['N', 'U', 'L', 'L'] => isEmpty subject
        | _ =>
          let e := e.wrapped
          .binary .or (equal e) (Expr.binary .and (isEmpty subject) (isEmpty e) []).grouped []
      let rec cases : List Expr → List (Expr × Expr) × Option Expr
        | search :: result :: r => let (cs, e) := cases r; ((condition search, result) :: cs, e)
        | [e] => ([], some e)
        | [] => ([], none)
      let (cs, otherwise) := cases rest
      built (.choice cs otherwise)
  let extract : Reader Expr := do
    let part ← momentPart
    if (← acceptAny ["FROM", ","]).isNone then failure
    built (.extract part (← need g.bitwise))
  let datePart : Reader Expr := do
    let part ← need g.operand
    let _ ← accept ","
    let moment ← need g.bitwise
    match part.bare with
    | .column .. | .string _ | .number _ => built (.extract part.title moment)
    | _ => built (.extract part.rendered moment)
  let normalize : Reader Expr := do
    let e ← need g.bitwise
    let kind ← if ← accept "," then wordWhere (·.kind == .name) false else pure none
    built (.call "NORMALIZE" (e :: kind.toList))
  let overlay : Reader Expr := do
    let e ← need g.bitwise
    let part (word : String) : Reader (Option Expr) := do
      if ← acceptWords [word] then g.bitwise
      else if ← accept "," then g.bitwise
      else return none
    let placed ← need (part "PLACING")
    let start ← need (part "FROM")
    let size ← part "FOR"
    let last := size.elim [(start, [')'])] fun s => [(start, " FOR ".toList), (s, [')'])]
    built (.form .call "OVERLAY(".toList ((e, " PLACING ".toList) :: (placed, " FROM ".toList) :: last))
  let position : Reader Expr := do
    let arguments ← separated g.bitwise
    if ← accept "IN" then
      let whole ← need g.bitwise
      match arguments with
      | part :: _ => built (.position part whole)
      | [] => failure
    else
      match arguments with
      | [part, whole] => built (.position part whole)
      | part :: whole :: start :: _ => built (.positionFrom part whole start)
      | _ => failure
  let gathered : Reader Expr := do
    let arguments ←
      if ← accept "DISTINCT" then do
        let first ← built (distinct [← need g.disjunction])
        if ← accept "," then pure (first :: (← separated g.disjunction)) else pure [first]
      else separated g.disjunction
    match arguments with
    | [] => failure
    | first :: rest =>
      let separator := rest.headD (.string [','])
      let order ← orderBy g
      let rows := (← limit g).map Prod.fst
      let more := order.toList ++ rows.toList
      let parts := (first, ", ".toList) :: (separator, if more.isEmpty then [')'] else [' ']) ::
        more.dropLast.map (·, [' ']) ++ more.getLast?.toList.map (·, [')'])
      if 3 < arguments.length then failure
      let e ← built (.form .aggregate "STRING_AGG(".toList parts)
      let inGroup ← get
      if (← accept ")") && (← acceptWords ["WITHIN", "GROUP"]) then
        expect "("
        let order ← need (orderBy g)
        return .form .aggregate "STRING_AGG(".toList [(first, ", ".toList), (separator, [' ']), (order, [')'])]
      else
        backTo inGroup
        return e
  let substring : Reader Expr := do
    let arguments ← separated g.bitwise
    let bounds ← repeated (fun (b : Option Expr × Option Expr) => do
      if ← accept "FROM" then return some (some (← need g.bitwise), b.2)
      else if ← accept "FOR" then return some (b.1.orElse fun _ => some (.number ['1']), some (← need g.bitwise))
      else return none) ((none, none) : Option Expr × Option Expr)
    match arguments ++ bounds.1.toList ++ bounds.2.toList with
    | [e] => built (.substring e none none)
    | [e, s] => built (.substring e (some s) none)
    | [e, s, l] => built (.substring e (some s) (some l))
    | _ => failure
  let trim : Reader Expr := do
    let ends ← acceptWordOf ["LEADING", "TRAILING", "BOTH"]
    let first ← g.bitwise
    let (whole, characters) ←
      match ← acceptAny ["FROM", ","] with
      | none => pure (first, none)
      | some t =>
        let second ← g.bitwise
        pure (if t.is "FROM" then (second, first) else (first, second))
    let whole ← need (return whole)
    built (.trimmed (ends.elim "" Token.upper) characters whole)
  let greatest (name : String) : Reader Expr := do
    let first ←
      if ← accept "DISTINCT" then do
        let e ← need (argument g false)
        let _ ← accept ","
        pure [← built (distinct [e])]
      else pure []
    let arguments := first ++ (← separated (argument g false))
    if arguments.length < 2 then failure
    built (.enclosed .aggregate (name.toList ++ ['(']) (arguments.take 3) [')'])
  let capitalized : Reader Expr := do
    let arguments ← separated (argument g false)
    return .call "INITCAP" (arguments.take 1)
  let document (name : String) : Reader Expr := do
    let pairs ←
      if ← accept "*" then pure [Expr.star]
      else separated do
        let _ ← acceptWords ["KEY"]
        let key ← g.column
        let _ ← acceptAny [":", ",", "IS"]
        let _ ← acceptWords ["VALUE"]
        let value ← g.bitwise
        match key, value with
        | none, none => return none
        | some key, some value =>
          let pair ← built (.form .plain [] [(key, ": ".toList), (value, [])])
          if ← acceptWords ["FORMAT", "JSON"] then return some (.form .plain [] [(pair, " FORMAT JSON".toList)])
          else return some pair
        | _, _ => failure
    let empty ←
      if ← acceptWords ["NULL", "ON", "NULL"] then pure " NULL ON NULL"
      else
        if ← acceptWords ["ABSENT", "ON", "NULL"] then pure " ABSENT ON NULL" else pure ""
    let unique ←
      if ← acceptWords ["WITH", "UNIQUE"] then pure " WITH UNIQUE KEYS"
      else
        if ← acceptWords ["WITHOUT", "UNIQUE"] then pure " WITHOUT UNIQUE KEYS" else pure ""
    let _ ← acceptWords ["KEYS"]
    let result ←
      if ← acceptWords ["RETURNING"] then do pure (" RETURNING ".toList ++ (← need (dataType g false true)).text)
      else pure []
    built (.enclosed .call (name.toList ++ ['(']) pairs (empty.toList ++ unique.toList ++ result ++ [')']))
  let search : Reader Expr := do
    let columns ← separated g.column
    let start ← get
    if !((← accept ")") && (← acceptWords ["AGAINST"]) && (← accept "(")) then backTo start
    let pattern ← need (takeIf (·.kind == .string))
    let pattern ← built (.string pattern.text)
    let _ ← acceptWords ["IN", "NATURAL", "LANGUAGE", "MODE"]
    let _ ← acceptWords ["IN", "BOOLEAN", "MODE"]
    let _ ← acceptWords ["WITH", "QUERY", "EXPANSION"]
    built (.searched columns pattern)
  let mark : Reader Expr := do
    let name ←
      if ← acceptWords ["EVALNAME"] then do pure (Expr.form .plain "EVALNAME ".toList [(← need g.bitwise, [])])
      else do
        let _ ← acceptWords ["NAME"]
        pure (Expr.form .plain "NAME ".toList [(← need (nameWhere mayName), [])])
    let parts ← if ← accept "," then separated g.bitwise else pure []
    built (.enclosed .call "XMLELEMENT(".toList (name :: parts) [')'])
  [("CAST", cast), ("TRY_CAST", cast), ("SAFE_CAST", cast), ("CONVERT", convert), ("TRY_CONVERT", convert),
    ("CEIL", rounded "CEIL"), ("FLOOR", rounded "FLOOR"), ("CHAR", character), ("CHR", character),
    ("DECODE", decode), ("EXTRACT", extract), ("DATE_PART", datePart), ("NORMALIZE", normalize),
    ("OVERLAY", overlay), ("POSITION", position), ("STRING_AGG", gathered), ("SUBSTRING", substring),
    ("TRIM", trim), ("ARG_MAX", greatest "ARG_MAX"), ("ARGMAX", greatest "ARG_MAX"), ("MAX_BY", greatest "ARG_MAX"),
    ("ARG_MIN", greatest "ARG_MIN"), ("ARGMIN", greatest "ARG_MIN"), ("MIN_BY", greatest "ARG_MIN"),
    ("INITCAP", capitalized), ("JSON_OBJECT", document "JSON_OBJECT"),
    ("JSON_OBJECTAGG", document "JSON_OBJECT_AGG"), ("MATCH", search), ("XMLELEMENT", mark)]

/-- A call of a function of some name, after its opening parenthesis. -/
def callOf (g : Rules) (function : Token) (isMember : Bool) (remarks : List (List Char)) :
    Reader Expr := do
  let name := function.upper
  let isKnown := !isMember && (knownCall? name []).isSome
  let arguments ← separated (argument g !isKnown)
  let e ←
    match if isMember then none else knownCall? name arguments with
    | some (some e) => pure e
    | some none => failure
    | none =>
      let shown :=
        if function.kind == .quoted then Name.rendered ⟨function.text, true⟩
        else if isMember then function.text else name.toList
      built (.enclosed .call (shown ++ ['(']) arguments [')'])
  overRows g (← expectFor ")" (e.addRemarks remarks))

/-- The operand of `ALL`, `SOME` and `EXISTS` with a query, after the opening parenthesis. -/
def overQuery (g : Rules) (function : Token) (afterLike : Bool) (start : Cursor) : Reader (Option Expr) := do
  if !(["ALL", "EXISTS", "SOME"].any (function.is ·)) then return none
  let all (e : Expr) : Expr :=
    match e.bare with
    | .form .group .. | .form .row .. => .form .call "ALL ".toList [(e, [])]
    | _ => .form .call "ALL (".toList [(e, [')'])]
  let some_ (e : Expr) : Expr :=
    match e.bare with
    | .form .query .. => .form .call "ANY(".toList [(e, [')'])]
    | .form .group .. => .form .call "ANY".toList [(e, [])]
    | _ => .form .call "ANY ".toList [(e, [])]
  let exists_ (e : Expr) : Expr := .form .call "EXISTS(".toList [(e, [')'])]
  let whole := if function.is "ALL" then all else if function.is "SOME" then some_ else exists_
  if (← isAhead "SELECT") || (← isAhead "WITH") then
    let q ← need (g.query false)
    expect ")"
    return some (← builtWith function.remarks (whole q))
  else if afterLike then
    backTo start
    return some (← builtWith function.remarks (whole (← need g.bitwise)))
  else return none

def functionCall (g : Rules) (isMember : Bool) : Reader (Option Expr) := do
  let start ← get
  let marked ← do
    if (← isAhead "\x7b") && (← peekSecond).any (reads "FN") then
      advance
      advance
      pure true
    else pure false
  let before ← get
  let afterDot := before.last.any (·.is ".")
  let called ← do
    match ← peek with
    | none => pure none
    | some t =>
      let form : Option (Reader (Option Expr)) :=
        if afterDot || t.kind == .quoted || t.kind == .string then none
        else
          match t.upper with
          | "CASE" => some do
            if ← isAhead "." then
              backTo before
              return none
            choiceForm g
          | "IF" => some (condition g before)
          | "ANY" => some do
            let e ← need g.bitwise
            match e.bare with
            | .form .group .. => return some (← built (.form .call "ANY".toList [(e, [])]))
            | _ => return some (← built (.form .call "ANY ".toList [(e, [])]))
          | "VARIADIC" => some do return some (← built (.form .plain "VARIADIC ".toList [(← need g.bitwise, [])]))
          | "CONNECT_BY_ROOT" => some do
            return some (← built (.form .plain "CONNECT_BY_ROOT ".toList [(← need g.operand, [])]))
          | _ => none
      match form with
      | some read =>
        advance
        match ← read with
        | some e => pure (some (← overRows g e))
        | none => pure none
      | none =>
        if !(← peekSecond).any (·.is "(") then
          let isMoment := match t.kind with
            | .fixed s => momentNames.contains s || s == "CURRENT_TIME"
            | _ => false
          if isMoment && !afterDot then
            advance
            pure (some (← built (if t.is "CURRENT_TIME" then .call "CURRENT_TIME" [] else .word t.upper.toList)))
          else pure none
        else if !mayCall isMember t then pure none
        else
          let afterLike := before.last.any fun p => p.is "LIKE" || p.is "ILIKE"
          advance
          let opening ← get
          advance
          match if isMember then none else (specialForms g).lookup t.upper with
          | some read =>
            let e := (← read).addRemarks t.remarks
            let e := (← acceptFor ")" e).getD e
            pure (some (← overRows g e))
          | none =>
            match ← overQuery g t afterLike opening with
            | some e => pure (some e)
            | none => pure (some (← callOf g t isMember t.remarks))
  if marked then
    if called.isSome then
      let _ ← accept "\x7d"
    else backTo start
  return called

/-- A literal, a call or a name; after a point almost any word is a name. -/
def field (g : Rules) (isMember : Bool) : Reader (Option Expr) :=
  if isMember then orElse (functionCall g true) (orElse (primary g) anyName)
  else orElse (primary g) (orElse (functionCall g false) (nameWhere mayName))

def reference (g : Rules) : Reader (Option Expr) := do
  let found ← orElse (field g false) do
    if (← isAhead "VALUES") && !(← peekSecond).any (·.is "(") then anyName else return none
  match found with
  | none => return none
  | some e =>
    match e.popRemarks with
    | (.name n, remarks) => return some (← builtWith remarks (.column [] (.name n)))
    | _ => return some e

def constant? : Expr → Option Int
  | .number text => if text.all isFigure then Number.integer? text else none
  | .remarked e _ => constant? e
  | .form .sign _ [(e, _)] => (constant? e).map (- ·)
  | .form .group _ [(e, _)] => constant? e
  | .binary .add a b _ => do return (← constant? a) + (← constant? b)
  | .binary .subtract a b _ => do return (← constant? a) - (← constant? b)
  | .binary .multiply a b _ => do return (← constant? a) * (← constant? b)
  | _ => none

/-- An index in brackets; whole numbers are worked out. -/
def index (e : Expr) : Expr :=
  match constant? e with
  | some n => .word (Number.integerText n).toList
  | none => e

/-- An element in brackets: an expression, or a stretch between two. -/
def element (g : Rules) : Reader (Option Expr) := do
  let first ← titledAs g true (← g.assignment)
  if !(← accept ":") then return first
  let last ←
    if (← isAhead "-") && (← peekSecond).any (·.is ":") then do
      advance
      pure (some (Expr.negative (.number ['1'])))
    else g.assignment
  let step ← if ← accept ":" then g.unary else pure none
  let parts := first.toList.map (·, [':']) ++ last.toList.map fun e => (e, if step.isSome then [':'] else [])
  let parts := parts ++ step.toList.map (·, [])
  return some (← built (.form .plain (if first.isSome then [] else [':']) parts))

/-- A member of a structure: a value with its name, if it has one. -/
def structureMember (g : Rules) : Reader (Option Expr) := do
  let named (value : Expr) (key : Expr) : Expr :=
    .form .plain [] [(value, " AS ".toList), (.name (Name.ofText key.title), [])]
  match ← titledAs g true (← g.assignment) with
  | none => return none
  | some key =>
    if ← accept ":" then
      let value ← need g.assignment
      return some (← built (named value key))
    else
      match key with
      | .binary .equal key value _ => return some (named value key)
      | _ => return some key

/-- A structure in braces, after the first: its members, or a moment such as `d '2020-01-01'`. -/
def structureAfterBrace (g : Rules) : Reader Expr := do
  let moments := [("D", "DATE"), ("T", "TIME"), ("TS", "TIMESTAMP")]
  let e ←
    match ← takeIf fun t => t.kind == .name && (moments.lookup t.upper).isSome with
    | some t =>
      let text ← takeIf (·.kind == .string)
      let arguments ← match text with
        | some s => do pure [← built (.string s.text)]
        | none => pure []
      built (.call ((moments.lookup t.upper).getD "") arguments)
    | none => do
      let members ← separated (structureMember g)
      built (.call "STRUCT" members)
  expect "\x7d"
  return e

/-- Brackets after an operand, or elements of an array without one, or a structure in braces. -/
def bracketed (g : Rules) (e : Option Expr) : Reader (Option Expr) := do
  if ← accept "\x7b" then return some (← structureAfterBrace g)
  if !(← accept "[") then return none
  let elements ← separated (element g)
  expect "]"
  match e with
  | none => return some (← built (.array elements))
  | some e =>
    if (Text.upper (String.ofList e.title)) = "ARRAY" then return some (.array elements)
    else
      let (e, remarks) := e.popRemarks
      let elements := if elements.length = 1 then elements.map index else elements
      let whole ← builtWith remarks (e.followed ['['] elements [']'])
      return some (← built whole)

def brackets (g : Rules) (e : Expr) : Reader Expr := repeated (fun e => bracketed g (some e)) e

/-- A member of a document, by its name or number; of any other key it is a call. -/
def documentMember (function operator : String) (document : Expr) (key : Expr) : Expr :=
  let step (text : List Char) : Expr :=
    .form .operation [] [(document, ' ' :: operator.toList ++ ' ' :: text)]
  match key.bare with
  | .string text => step ('\'' :: text ++ ['\''])
  | .number text =>
    match Number.integer? text with
    | some n => step (Number.integerText n).toList
    | none => step ('\'' :: text ++ ['\''])
  | _ => .enclosed .operation (function.toList ++ ['(']) [document, key] [')']

/-- A member after a point: of a column it is a longer column, of anything else a step of its own. -/
def member (e : Expr) (last : Expr) : Reader Expr := do
  let e :=
    match last.bare with
    | .form .call .. | .form .window .. => e.unqualified
    | _ => e
  match e.popRemarks with
  | (.column qualifiers inner, remarks) =>
    if qualifiers.length < 3 then builtWith remarks (.column (qualifiers ++ [inner]) last)
    else built (.form .operation [] [(e, ['.']), (last, [])])
  | _ =>
    match last with
    | .form .window first ((function, words) :: rest) =>
      return .form .window first ((.form .operation [] [(e, ['.']), (function, [])], words) :: rest)
    | _ => built (.form .operation [] [(e, ['.']), (last, [])])

/-- One thing that follows an operand: a cast, a member, brackets. -/
def suffix (g : Rules) (e : Expr) : Reader (Option Expr) := do
  match ← acceptAny [".", "::", "?::", "->", "->>", "#>", "#>>", "?"] with
  | none => return none
  | some t =>
    let whole ←
      if t.is "::" || t.is "?::" then do built (e.cast (← need (dataType g false true)).text)
      else if t.is "." then do
        let last ← need (field g true)
        let (last, remarks) := match last with
          | .form .window .. => (last, [])
          | last => last.popRemarks
        pure ((← member e last).addRemarks remarks)
      else do
        let key ← need (orElse (reference g) g.bitwise)
        let key ←
          match key.bare with
          | .column .. => do
            if ← isAhead "." then g.suffixed key else pure key
          | _ => pure key
        let (key, remarks) := key.popRemarks
        let joined ←
          if t.is "->" then pure (documentMember "JSON_EXTRACT_PATH" "->" e key)
          else if t.is "->>" then pure (documentMember "JSON_EXTRACT_PATH_TEXT" "->>" e key)
          else if t.is "#>" then built (.binary .path e key [])
          else if t.is "#>>" then built (.binary .pathText e key [])
          else built (.binary .hasKey e key [])
        pure (joined.addRemarks remarks)
    return some (← brackets g whole)

def suffixes (g : Rules) (e : Expr) : Reader Expr := do repeated (suffix g) (← brackets g e)

def column (g : Rules) : Reader (Option Expr) := do
  match ← reference g with
  | some e => return some (← suffixes g e)
  | none =>
    match ← bracketed g none with
    | some e => return some (← brackets g e)
    | none => return none

def unit : Reader (Option Expr) := do
  if ← isAhead "AS" then return none
  wordWhere anyWord true

/-- An interval of some amount. An amount in quotes may hold its unit, and then none follows. -/
def spanOf (amount : Expr) : Reader Expr := do
  let start ← get
  let following ← unit
  let (amount, following) ←
    match amount.bare with
    | .string text => do
      let parts := amounts text.length text
      if !parts.isEmpty && following.isSome then backTo start
      let following := if parts.isEmpty then following else none
      match parts with
      | [(number, name)] => do
        let name ← built (.word (Text.upper (String.ofList name)).toList)
        pure (number, some name)
      | _ => pure (text, following)
    | _ => pure (amountOf amount, following)
  if ← acceptWords ["TO"] then
    let last ← wordWhere anyWord true
    let span := following.elim [] Expr.rendered ++ " TO ".toList ++ last.elim [] Expr.rendered
    built (intervalOf amount span true)
  else built (intervalOf amount (following.elim [] Expr.rendered) false)

/-- What an interval is made of: a text, or a sum; a bare name only if a unit follows it. -/
def amount (g : Rules) : Reader (Option Expr) := do
  let found ← if (← peek).any (·.kind == .string) then primary g else g.sum
  match found with
  | none => return none
  | some e =>
    match e.bare with
    | .column [] (.name n) =>
      if !n.isQuoted && (← peek).any fun t => !intervalUnits.contains t.upper then return none else return some e
    | _ => return some e

def interval (g : Rules) : Reader (Option Expr) := do
  let start ← get
  if !(← accept "INTERVAL") then return none
  match ← amount g with
  | none =>
    backTo start
    return none
  | some e =>
    let first ← spanOf e
    let more ← repeated (fun (found : List Expr) => do
      let before ← get
      let _ ← accept "+"
      if (← peek).any fun t => t.kind == .string || t.kind == .number then
        let e ← need (amount g)
        return some (found ++ [← spanOf e])
      else
        backTo before
        return none) [first]
    match more.reverse with
    | [] => return none
    | last :: rest => return some (← suffixes g (← rest.foldlM (fun sum e => built (.binary .add e sum [])) last))

/-- A literal of a type, as a cast. A type with arguments also stands for itself. -/
def typedLiteral (g : Rules) : Reader (Option Expr) := do
  let start ← get
  match ← dataType g true false with
  | none => return none
  | some type =>
    if let some e := type.value then return some (← suffixes g e)
    let afterType ← get
    let isLiteral := fun (e : Expr) => match e.bare with | .string _ | .number _ => true | _ => false
    match (← primary g).filter isLiteral with
    | some e => return some (← built ((← suffixes g e).cast type.text))
    | none =>
      if type.hasArguments && start.place + 1 < afterType.place then
        backTo afterType
        return some (← suffixes g (← built (.word type.text)))
      backTo start
      return none

/-- An operand of the strongest binding, with all that follows it. -/
def operand (g : Rules) : Reader (Option Expr) :=
  orElse (interval g) (orElse (typedLiteral g) do
    match ← column g with
    | some e => return some (← suffixes g e)
    | none => return none)

end FeatureGraph.Filter.Grammar
