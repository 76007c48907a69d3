import FeatureGraph.Filter.Grammar.Operand

/-! # The operators of filters

From the strongest to the weakest: signs, `NOT` (whose operand is a test of identity); `^`; `* /` and `AT TIME
ZONE`; `+ - %` and `COLLATE`; `& | # || << >>`; tests of range such as `BETWEEN`, `IN` and `LIKE`; `< > <= >=`;
`= <>`; `IS`; `AND`; `OR`; `:=`. Operators of one level group from the left. -/
namespace FeatureGraph.Filter.Grammar
open Reader

/-- Operands with operators between them. The remarks of an operator go to the operation, or else those
that wait after its right operand. -/
def chainFrom (operators : List (String × (Expr → Expr → Expr))) (right : Reader (Option Expr)) (left : Expr) :
    Reader Expr :=
  repeated (fun left => do
    match ← takeIf fun t => operators.any fun o => t.is o.1 with
    | none => return none
    | some t =>
      let remarks ← waiting
      let right ← need right
      match operators.find? fun o => t.is o.1 with
      | some o => return some (← builtWith remarks (o.2 left right))
      | none => return none) left

/-- A first operand, with the operators after it; an operator without one fails. -/
def chainOf (operators : List (String × (Expr → Expr → Expr))) (operand : Reader (Option Expr)) :
    Reader (Option Expr) := do
  match ← operand with
  | some e => return some (← chainFrom operators operand e)
  | none => if (← peek).any fun t => operators.any fun o => t.is o.1 then failure else return none

/-- An operand with its signs and negations. A plus sign is dropped. -/
def unary (g : Rules) : Reader (Option Expr) := do
  if ← accept "-" then return some (← built (← need g.unary).factor.negative)
  else if ← accept "+" then g.unary
  else if ← accept "NOT" then return some (← built (← need g.identity).negated)
  else if ← accept "RLIKE" then return some (← built (.form .plain ['~'] [(← need g.unary, [])]))
  else if ← accept "|/" then return some (← built (.call "SQRT" [← need g.unary]))
  else if ← accept "||/" then return some (← built (.call "CBRT" [← need g.unary]))
  else operand g

/-- Powers are written as calls. -/
def power (g : Rules) : Reader (Option Expr) :=
  chainOf [("^", fun a b => .enclosed .operation "POWER(".toList [a, b] [')'])] (unary g)

def zoned (g : Rules) (e : Expr) : Reader Expr :=
  repeated (fun e => do
    if ← acceptWords ["AT", "TIME", "ZONE"] then
      return some (← built (.form .plain [] [(e, " AT TIME ZONE ".toList), (← need (unary g), [])]))
    else return none) e

def product (g : Rules) : Reader (Option Expr) := do
  let operators : List (String × (Expr → Expr → Expr)) :=
    [("*", fun a b => .operated .multiply a b), ("/", fun a b => .operated .divide a b),
      ("<->", fun a b => .operated .distance a b)]
  match ← power g with
  | some e => return some (← chainFrom operators (power g) (← zoned g e))
  | none => if (← acceptAny ["/", "<->"]).isSome then failure else return none

/-- A collation: a bare column is its name. -/
def collation (e : Expr) : Expr :=
  match e.bare with
  | .column [] (.name n) => if n.isQuoted then .name n else .word n.text
  | _ => e

def sum (g : Rules) : Reader (Option Expr) :=
  chainOf [("+", fun a b => .operated .add a b), ("-", fun a b => .operated .subtract a b),
    ("%", fun a b => .operated .modulo a b), ("COLLATE", fun a b => .operated .collate a (collation b))] (product g)

def bitwiseStep (g : Rules) (e : Expr) : Reader (Option Expr) := do
  let joined (op : Operator) : Reader (Option Expr) := do return some (← built (.operated op e (← need (sum g))))
  match ← acceptAny ["&", "|", "#", "||", "??"] with
  | some t =>
    if t.is "&" then joined .bitAnd
    else if t.is "|" then joined .bitOr
    else if t.is "#" then joined .bitXor
    else if t.is "||" then joined .concat
    else return some (← built (.call "COALESCE" [e, ← need (sum g)]))
  | none =>
    if ← acceptPair "<" "<" then joined .shiftLeft
    else if ← acceptPair ">" ">" then joined .shiftRight
    else return none

def bitwise (g : Rules) : Reader (Option Expr) := do
  match ← sum g with
  | some e => return some (← repeated (bitwiseStep g) e)
  | none => if (← acceptAny ["&", "|", "#", "||", "??"]).isSome then failure else return none

def escapeText : Reader Expr := do
  match ← takeIf fun t => t.kind == .string || t.is "NULL" || t.kind == .national with
  | some t => built ((literalOf t).getD .null)
  | none => need parameter

/-- A test with a pattern, and its escape character if one is given. -/
def escaped (e : Expr) : Reader Expr := do
  if ← accept "ESCAPE" then built (.binary .escape e (← escapeText) []) else return e

/-- The denial of a test: patterns have operators of their own for it. -/
def denied (e : Expr) : Reader Expr :=
  match e with
  | .binary .like a b remarks => return .binary .notLike a b remarks
  | .binary .ilike a b remarks => return .binary .notIlike a b remarks
  | .binary .escape (.binary .like a b inner) c remarks =>
    return .binary .escape (.binary .notLike a b inner) c remarks
  | .binary .escape (.binary .ilike a b inner) c remarks =>
    return .binary .escape (.binary .notIlike a b inner) c remarks
  | e => built e.negated

def between (g : Rules) (e : Expr) : Reader Expr := do
  let kind ←
    if ← acceptWords ["SYMMETRIC"] then pure " BETWEEN SYMMETRIC "
    else
      if ← acceptWords ["ASYMMETRIC"] then pure " BETWEEN ASYMMETRIC " else pure " BETWEEN "
  let low ← need (bitwise g)
  let _ ← accept "AND"
  let high ← need (bitwise g)
  built (.form .plain [] [(e.compared, kind.toList), (low, " AND ".toList), (high, [])])

/-- What follows `IN`: a list or query, or one operand, or nothing, which counts as no elements. -/
def membership (g : Rules) (e : Expr) : Reader Expr := do
  let e := e.compared
  let elementsOf (elements : List Expr) : Expr := e.followed " IN (".toList elements [')']
  if ← acceptPair "UNNEST" "(" then
    let arrays ← separated g.identity
    expect ")"
    built (e.followed " IN (SELECT UNNEST(".toList arrays "))".toList)
  else
    match ← acceptAny ["(", "["] with
    | some opening =>
      let elements ← separated (queryOrExpression g false)
      expectFor (if opening.is "(" then ")" else "]") (← built (elementsOf elements))
    | none =>
      match ← column g with
      | some whole => built (.form .plain [] [(e, " IN ".toList), (whole, [])])
      | none => built (elementsOf [])

/-- What follows `OPERATOR`: the name of an operator in parentheses, and its right operand. -/
def namedOperation (g : Rules) (e : Expr) : Reader Expr := do
  repeated (fun (e : Expr) => do
    if ← acceptIf ((← get).last.any (·.is "OPERATOR")) "(" then
      let symbol ← repeated (fun (s : List Char) => do
        if ← isAhead ")" then return none
        match ← takeIf fun _ => true with
        | some t => return some (s ++ t.text)
        | none => return none) []
      expect ")"
      let remarks ← waiting
      let e ← builtWith remarks (.operated (.named symbol) e (← need (bitwise g)))
      let _ ← accept "OPERATOR"
      return some e
    else return none) e

/-- The tests of range that are written with an operator between two operands. -/
def rangeOperators : List (String × Operator) :=
  [("LIKE", .like), ("ILIKE", .ilike), ("SIMILAR TO", .similarTo), ("GLOB", .glob), ("RLIKE", .regex),
    ("~*", .regexAnyCase), ("OVERLAPS", .overlaps), ("@>", .contains), ("&&", .intersects), ("?&", .hasKeys),
    ("?|", .hasAnyKey), ("#-", .deletePath), ("-|-", .adjacent), ("&<", .extendsLeft), ("&>", .extendsRight)]

def rangeTest (g : Rules) (e : Expr) : Reader (Option Expr) := do
  let start ← get
  let isDenied ← accept "NOT"
  let tested ←
    match ← takeIf fun t => rangeOperators.any fun o => t.is o.1 with
    | some t => do
      let right ← need (bitwise g)
      let op := ((rangeOperators.find? fun o => t.is o.1).map Prod.snd).getD .like
      pure (some (← escaped (← built (.operated op e right))))
    | none => do
      match ← acceptAny ["BETWEEN", "IN", "<@", "@@", "OPERATOR"] with
      | none => pure none
      | some t =>
        if t.is "BETWEEN" then pure (some (← between g e))
        else if t.is "IN" then pure (some (← membership g e))
        else if t.is "<@" then pure (some (← escaped (← built (.operated .contains (← need (bitwise g)) e))))
        else if t.is "@@" then
          pure (some (← built (.form .plain [] [(e.compared, " @@ ".toList), (← need (bitwise g), [])])))
        else pure (some (← namedOperation g e))
  match tested with
  | none =>
    backTo start
    return none
  | some e => if isDenied then return some (← denied e) else return some e

/-- The tests of range after an operand, each of what the ones before it give. -/
def rangeTests (g : Rules) (e : Expr) : Reader Expr := repeated (rangeTest g) e

def ranged (g : Rules) : Reader (Option Expr) := do
  match ← bitwise g with
  | none => return none
  | some e => return some (← rangeTests g e)

def orders : List (String × (Expr → Expr → Expr)) :=
  [("<", fun a b => .operated .less a b), ("<=", fun a b => .operated .lessEqual a b),
    (">", fun a b => .operated .greater a b), (">=", fun a b => .operated .greaterEqual a b)]

def equalities : List (String × (Expr → Expr → Expr)) :=
  [("=", fun a b => .operated .equal a b), ("<>", fun a b => .operated .notEqual a b),
    ("<=>", fun a b => .operated .isNotDistinctFrom a b)]

def comparison (g : Rules) : Reader (Option Expr) := chainOf orders (ranged g)

def equality (g : Rules) : Reader (Option Expr) := chainOf equalities (comparison g)

def documentKind : Reader Expr := do
  let kind ← acceptWordOf ["VALUE", "SCALAR", "ARRAY", "OBJECT"]
  let keys ←
    if ← acceptWords ["WITH"] then pure " WITH"
    else
      if ← acceptWords ["WITHOUT"] then pure " WITHOUT" else pure ""
  let unique ← acceptWords ["UNIQUE"]
  let _ ← acceptWords ["KEYS"]
  built (.word ("JSON".toList ++ (kind.elim [] fun t => ' ' :: t.upper.toList) ++ keys.toList ++
    (if unique then " UNIQUE KEYS".toList else [])))

def identityTest (g : Rules) (e : Expr) : Reader (Option Expr) := do
  let isDenied ← accept "NOT"
  if ← acceptWords ["DISTINCT", "FROM"] then
    let right ← need (bitwise g)
    let op := if isDenied then .isNotDistinctFrom else .isDistinctFrom
    return some (← built (.operated op e.tested right))
  match ← takeIf fun t => t.is "NULL" || t.is "UNKNOWN" with
  | some _ =>
    let null ← built .null
    return some (← suffixes g (← built (.operated (if isDenied then .isNot else .is) e null)))
  | none =>
    let right ← if ← accept "JSON" then pure (some (← documentKind)) else orElse parameter (bitwise g)
    match right with
    | none => return none
    | some right =>
      let test ← built (.operated .is e right)
      let test ← if isDenied then built test.negated else pure test
      return some (← suffixes g test)

/-- One test of identity, with the tests of range and the comparisons after it. -/
def identityStep (g : Rules) (e : Expr) : Reader (Option Expr) := do
  let start ← get
  let isDenied ← accept "NOT"
  let tested ←
    if ← accept "IS" then identityTest g e
    else
      if ← accept "ISNULL" then pure (some (← built (.operated .is e .null)))
      else if ← accept "NOTNULL" then pure (some (← built (.operated .isNot e .null)))
      else if ← acceptIf isDenied "NULL" then pure (some (← built (.operated .is e .null)))
      else pure none
  match tested with
  | none =>
    backTo start
    return none
  | some e =>
    let e ← if isDenied then built e.negated else pure e
    let e ← rangeTests g e
    return some (← chainFrom equalities (comparison g) (← chainFrom orders (ranged g) e))

def identity (g : Rules) : Reader (Option Expr) := do
  match ← equality g with
  | none => return none
  | some e => return some (← repeated (identityStep g) e)

def conjunction (g : Rules) : Reader (Option Expr) :=
  chainOf [("AND", fun a b => .operated .and a b)] (identity g)

def disjunction (g : Rules) : Reader (Option Expr) :=
  chainOf [("OR", fun a b => .operated .or a b)] (conjunction g)

/-- A name and its value; a bare column on the left is a name. -/
def assignment (g : Rules) : Reader (Option Expr) := do
  match ← disjunction g with
  | none => return none
  | some e =>
    if ← accept ":=" then
      let remarks ← waiting
      let name := match e.bare with
        | .column [] n => n
        | _ => e
      return some (← builtWith remarks (.binary .assign name (← need g.assignment) []))
    else return some e

def titled (g : Rules) : Reader (Option Expr) := do titledAs g false (← assignment g)

end FeatureGraph.Filter.Grammar
