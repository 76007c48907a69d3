import FeatureGraph.Filter.Grammar.Name
import FeatureGraph.Filter.Grammar.Rules

/-! # Order, limits and windows of rows in filters -/
namespace FeatureGraph.Filter.Grammar
open Reader

/-- A key to sort by. Empty values count as large, and where they go is written only if it is not so. -/
def sortKey (g : Rules) : Reader (Option Expr) := do
  match ← g.disjunction with
  | none => return none
  | some e =>
    let isAscending ← accept "ASC"
    let isDescending ← accept "DESC"
    let emptyFirst ← acceptWords ["NULLS", "FIRST"]
    let emptyLast ← acceptWords ["NULLS", "LAST"]
    let direction := if isDescending then " DESC" else if isAscending then " ASC" else ""
    let emptyValues :=
      if emptyFirst && !isDescending then " NULLS FIRST"
      else if emptyLast && !emptyFirst && isDescending then " NULLS LAST" else ""
    return some (← built (.form .plain [] [(e, direction.toList ++ emptyValues.toList)]))

def orderBy (g : Rules) : Reader (Option Expr) := do
  if ← accept "ORDER BY" then
    let remarks ← waiting
    let keys ← separated (sortKey g)
    if keys.isEmpty then failure
    return some ((Expr.form .plain "ORDER BY ".toList (Expr.listed [] keys)).led remarks)
  else return none

def limitOptions : Reader Unit := do
  let _ ← acceptAny ["PERCENT", "%"]
  let _ ← acceptAny ["ROW", "ROWS"]
  let _ ← acceptWords ["ONLY"]
  let _ ← acceptWords ["WITH", "TIES"]

/-- A limit of rows, with the number of rows to leave out if it is given. -/
def limit (g : Rules) : Reader (Option (Expr × Option Expr)) := do
  if ← accept "LIMIT" then
    let first ← need g.sum
    limitOptions
    let (rows, skipped) ← if ← accept "," then pure (← need g.sum, some first) else pure (first, none)
    if ← acceptWords ["BY"] then
      let _ ← separated g.bitwise
    return some (.form .plain "LIMIT ".toList [(rows, [])], skipped)
  else if ← accept "FETCH" then
    let direction ← acceptAny ["FIRST", "NEXT"]
    let count ← takeIf fun t => t.kind == .number || (mayName t && !(["ROW", "ROWS", "PERCENT"].any (t.is ·)))
    limitOptions
    let direction := direction.elim "FIRST".toList fun t => t.upper.toList
    let count := count.elim [] fun t => ' ' :: t.text
    return some (.word ("FETCH ".toList ++ direction ++ count ++ " ROWS ONLY".toList), none)
  else return none

def offset (g : Rules) : Reader (Option Expr) := do
  if ← accept "OFFSET" then
    let count ← need g.sum
    let _ ← acceptAny ["ROW", "ROWS"]
    if ← acceptWords ["BY"] then
      let _ ← separated g.bitwise
    return some (.form .plain "OFFSET ".toList [(count, [])])
  else return none

def limitAhead (g : Rules) : Reader Bool := do
  if (← peek).any fun t => t.is "LIMIT" || t.is "OFFSET" then
    let start ← get
    let found := ((limit g).run start).any (·.1.isSome) || ((offset g).run start).any (·.1.isSome)
    return found
  else return false

def titledAs (g : Rules) (explicit : Bool) (e : Option Expr) : Reader (Option Expr) := do
  if ← limitAhead g then return e
  let hasWord ← accept "AS"
  if explicit && !hasWord then return e
  match e with
  | none => if hasWord then failure else return none
  | some e =>
    let remarks ← waiting
    let test := fun t => if hasWord then mayNameAnything t || mayName t else mayName t
    if ← accept "(" then
      let names ← separated (nameWhere test)
      let several ← builtWith remarks (e.followed " AS (".toList names [')'])
      return some (← expectFor ")" several)
    match ← nameWhere test with
    | none => if hasWord then failure else return some e
    | some n =>
      let (n, more) := n.popRemarks
      let remarks := remarks ++ more
      let own ← waiting
      if remarks.isEmpty && own.isEmpty then
        let (e, moved) := e.popRemarks
        return some ((Expr.form .plain [] [(e, " AS ".toList), (n, [])]).addRemarks moved)
      else return some (← builtWith remarks (.form .plain [] [(e, " AS ".toList), (n, [])]))

def frameBound (g : Rules) : Reader (List (Expr × List Char)) := do
  let _ ← accept "BETWEEN"
  let value ←
    if ← acceptWords ["UNBOUNDED"] then pure (some (.word "UNBOUNDED".toList))
    else
      if ← acceptWords ["CURRENT", "ROW"] then pure (some (.word "CURRENT ROW".toList)) else g.bitwise
  let side ← acceptWordOf ["FOLLOWING", "PRECEDING"]
  return value.toList.map fun v => (v, side.elim [] fun t => ' ' :: t.text)

def frame (g : Rules) : Reader (Option Expr) := do
  let kind ←
    match ← acceptAny ["ROWS", "RANGE"] with
    | some t => pure (some t)
    | none => acceptWordOf ["GROUPS"]
  match kind with
  | none => return none
  | some t =>
    let _ ← accept "BETWEEN"
    let first ← frameBound g
    let last ← if ← accept "AND" then frameBound g else pure []
    let excluded ←
      if ← acceptWords ["EXCLUDE"] then
        if ← acceptWords ["CURRENT", "ROW"] then pure " EXCLUDE CURRENT ROW"
        else if ← acceptWords ["NO", "OTHERS"] then pure " EXCLUDE NO OTHERS"
        else if ← acceptWords ["TIES"] then pure " EXCLUDE TIES"
        else if ← acceptWords ["GROUP"] then pure " EXCLUDE GROUP"
        else failure
      else pure ""
    let last := if last.isEmpty then [(.word "CURRENT ROW".toList, [])] else last
    let words (parts : List (Expr × List Char)) (after : List Char) : List (Expr × List Char) :=
      parts.map fun (e, w) => (e, w ++ after)
    return some (.form .plain (t.text ++ " BETWEEN ".toList)
      (words first " AND ".toList ++ words last excluded.toList))

/-- What a window is, in parentheses: a name, parts of rows, an order, a frame. -/
structure Window where
  name : Option Expr := none
  parts : Option Expr := none
  order : Option Expr := none
  rows : Option Expr := none

/-- A call over a window, or the name of a window and the window: a name alone needs no parentheses. -/
def Window.rendered (w : Window) (e : Expr) (word : List Char) : Expr :=
  match w with
  | ⟨some n, none, none, none⟩ => .form .window [] [(e, word), (n, [])]
  | ⟨name, parts, order, rows⟩ =>
    let inner := name.toList ++ parts.toList ++ order.toList ++ rows.toList
    let spaced := inner.dropLast.map (·, [' ']) ++ inner.getLast?.toList.map (·, [])
    .form .window [] ((e, word ++ ['(']) :: spaced ++ [(.word [')'], [])])

def window (g : Rules) : Reader Window := do
  let name ← nameWhere fun t => mayName t && !(["RANGE", "ROWS"].any (t.is ·))
  let parts ←
    if ← accept "PARTITION BY" then do
      let keys ← separated g.assignment
      pure (if keys.isEmpty then none else some (.form .plain "PARTITION BY ".toList (Expr.listed [] keys)))
    else pure none
  let order ← orderBy g
  let rows ← frame g
  expect ")"
  return { name, parts, order, rows }

def windowed (g : Rules) (e : Expr) : Reader (Option Expr) := do
  if ← accept "OVER" then
    let (e, remarks) := e.popRemarks
    let w ← if ← accept "(" then window g else pure { name := ← nameWhere mayName }
    return some (← builtWith remarks (w.rendered e " OVER ".toList))
  else return none

def emptyValues (e : Expr) : Reader Expr := do
  if ← acceptWords ["IGNORE", "NULLS"] then built (.form .call [] [(e, " IGNORE NULLS".toList)])
  else if ← acceptWords ["RESPECT", "NULLS"] then built (.form .call [] [(e, " RESPECT NULLS".toList)])
  else return e

/-- What follows a call: an order within its group, a filter of its rows, its window. -/
def overRows (g : Rules) (e : Expr) : Reader Expr := do
  let e ←
    if ← acceptWords ["WITHIN", "GROUP"] then do
      expect "("
      let order ← need (orderBy g)
      expect ")"
      built (.form .call [] [(e, " WITHIN GROUP (".toList), (order, [')'])])
    else pure e
  let e ←
    if ← acceptPair "FILTER" "(" then do
      let _ ← accept "WHERE"
      let condition ← need g.disjunction
      let e ← built (.form .call [] [(e, " FILTER(WHERE ".toList), (condition, [')'])])
      expect ")"
      pure e
    else pure e
  let e ← emptyValues e
  repeated (windowed g) e

end FeatureGraph.Filter.Grammar
