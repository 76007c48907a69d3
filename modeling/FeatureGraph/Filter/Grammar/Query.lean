import FeatureGraph.Filter.Grammar.Operation

/-! # Queries in filters

A filter may hold queries, and it is itself read as a clause of one: what may follow the clause in a query
may follow the filter. -/
namespace FeatureGraph.Filter.Grammar
open Reader

/-- The clauses of a query, in the order in which they are written. -/
inductive Clause where
  | filter
  | connection
  | group
  | having
  | cluster
  | distribution
  | sort
  | windows
  | qualification
  | order
  | limit
  | offset
  | locks
  deriving DecidableEq, Repr

def Clause.all : List Clause :=
  [filter, connection, group, having, cluster, distribution, sort, windows, qualification, order, limit, offset, locks]

structure Select where
  /-- What stands between `SELECT` and the tables. -/
  head : Expr
  tables : List Expr
  clauses : List (Clause × Expr)
  remarks : List (List Char)

/-- Texts and expressions with a blank before each but those that bring their own comma. -/
def spaced (construct : Construct) (parts : List Expr) : Expr :=
  match parts with
  | [] => .form construct [] []
  | first :: rest =>
    .form construct [] ((first, []) :: rest.flatMap fun e => [(.word [' '], []), (e, [])])

def orderedClauses (clauses : List (Clause × Expr)) : List Expr := Clause.all.filterMap (clauses.lookup ·)

def Select.rendered (s : Select) : Expr :=
  let joined := .form .plain [] ((s.head, []) :: s.tables.map (·, []))
  (spaced .query (joined :: orderedClauses s.clauses)).addRemarks s.remarks

def isTableTitle (t : Token) : Bool :=
  mayName t && !(["ANTI", "ASOF", "FULL", "LEFT", "LOCK", "NATURAL", "RIGHT", "SEMI", "WINDOW"].any (t.is ·))

def tableTitle (g : Rules) (test : Token → Bool) : Reader (Option Expr) := do
  if ← limitAhead g then return none
  let hasWord ← accept "AS"
  let name ←
    orElse (nameWhere fun t => if hasWord then mayNameAnything t || mayName t else test t) do
      match ← takeIf (·.kind == .string) with
      | some _ => return some (← lastName true)
      | none => return none
  let start ← get
  let columns ←
    if ← accept "(" then do
      let columns ← separated do
        match ← anyName with
        | none => return none
        | some n =>
          match ← dataType g false true with
          | some type => return some (.form .plain [] [(n, ' ' :: type.text)])
          | none => return some n
      if columns.isEmpty then
        backTo start
        pure []
      else
        expect ")"
        pure columns
    else pure []
  match name, columns with
  | none, [] => return none
  | _, [] => return name
  | _, cs => return some (.form .plain [] (name.toList.map (·, []) ++ [(.enclosed .plain ['('] cs [')'], [])]))

def titledTable (g : Rules) (table : Expr) : Reader Expr := do
  match ← tableTitle g isTableTitle with
  | some n => return .form .plain [] [(table, " AS ".toList), (n, [])]
  | none => return table

def valueRows (g : Rules) : Reader Expr := do
  let row : Reader (Option Expr) := do
    if ← accept "(" then
      let elements ← separated g.titled
      expect ")"
      return some (.enclosed .row ['('] elements [')'])
    else return (← g.titled).map fun e => .enclosed .row ['('] [e] [')']
  let rows ← separated row
  if rows.isEmpty then failure
  return .enclosed .subquery "VALUES ".toList rows []

def joinWords : Reader (List Token) := do
  let method ← acceptAny ["ASOF", "NATURAL"]
  let side ← acceptAny ["LEFT", "RIGHT", "FULL"]
  let kind ← acceptAny ["ANTI", "CROSS", "INNER", "OUTER", "SEMI", "STRAIGHT_JOIN"]
  return method.toList ++ side.toList ++ kind.toList

mutual

/-- A table: a query or tables in parentheses, rows, a call, a name; with its name in the query. -/
def table (g : Rules) : Nat → Reader (Option Expr)
  | 0 => failure
  | depth + 1 => do
    if ← accept "LATERAL" then
      let inner ← need (orElse (bracedTable g depth) (functionCall g false))
      return some (← titledTable g (.form .plain "LATERAL ".toList [(inner, [])]))
    if ← accept "VALUES" then return some (← titledTable g (.form .plain ['('] [(← valueRows g, [')'])]))
    match ← bracedTable g depth with
    | some e => return some (← titledTable g e)
    | none =>
      let isOnly ← accept "ONLY"
      let first ← need (orElse (do if (← peekSecond).any (·.is "(") then functionCall g false else return none)
        (orElse (nameWhere mayName) do
          match ← takeIf (·.kind == .string) with
          | some _ => return some (← lastName true)
          | none => return none))
      let name ← repeated (fun (e : Expr) => do
        if ← accept "." then
          let part ← need (field g true)
          return some (.form .operation [] [(e, ['.']), (part, [])])
        else return none) first
      let name := if isOnly then .form .plain "ONLY ".toList [(name, [])] else name
      let named ← titledTable g name
      if ← acceptWords ["WITH", "ORDINALITY"] then
        return some (← titledTable g (.form .plain [] [(named, " WITH ORDINALITY".toList)]))
      else return some named

def bracedTable (g : Rules) : Nat → Reader (Option Expr)
  | 0 => failure
  | depth + 1 => do
    if !(← accept "(") then return none
    let inner ←
      match ← g.query false with
      | some q => g.continued q
      | none => do
        let first ← need (table g depth)
        let more ← joins g depth
        g.continued (.form .plain [] ((first, []) :: more.map (·, [])))
    expect ")"
    return some (.form .subquery ['('] [(inner, [')'])])

def joins (g : Rules) : Nat → Reader (List Expr)
  | 0 => failure
  | depth + 1 => repeated (fun (found : List Expr) => do
      if ← accept "," then
        match ← attempt (table g depth) with
        | some t => return some (found ++ [.form .plain ", ".toList [(t, [])]])
        | none => return none
      else
        let start ← get
        let words ← joinWords
        let isStraight := words.any (·.is "STRAIGHT_JOIN")
        if !((← accept "JOIN") || isStraight) then
          backTo start
          return none
        let joined ← need (table g depth)
        let condition ← joinCondition g
        let condition ←
          match condition with
          | some c => pure [c]
          | none => do
            if words.any fun t => t.is "CROSS" || t.is "NATURAL" || t.is "ASOF" then pure []
            else
              let before ← get
              let inner ← joins g depth
              match ← (if inner.isEmpty then return none else joinCondition g : Reader (Option Expr)) with
              | some c => pure (inner ++ [c])
              | none =>
                backTo before
                pure []
        let words := words.map fun t => t.upper.toList
        let before := if condition.isEmpty && words.isEmpty then ", ".toList
          else if isStraight then ' ' :: joinedWords words ++ [' ']
          else ' ' :: joinedWords (words ++ ["JOIN".toList]) ++ [' ']
        return some (found ++ [.form .plain before ((joined, []) :: condition.map (·, []))])) []
where
  joinedWords (words : List (List Char)) : List Char := [' '].intercalate words
  joinCondition (g : Rules) : Reader (Option Expr) := do
    if ← accept "ON" then return some (.form .plain " ON ".toList [(← need g.disjunction, [])])
    else if ← accept "USING" then
      expect "("
      let columns ← separated anyName
      expect ")"
      return some (.enclosed .plain " USING (".toList columns [')'])
    else return none

end

def groupKeys (g : Rules) : Reader Expr := do
  let quantifier ← acceptAny ["ALL", "DISTINCT"]
  let isRollup := do return (← isAhead "CUBE") || (← isAhead "ROLLUP")
  let keys ← separated do if ← isRollup then return none else g.disjunction
  let more ← repeated (fun (found : List Expr) => do
    match ← acceptAny ["CUBE", "ROLLUP", "GROUPING SETS"] with
    | some t =>
      expect "("
      let keys ← separated g.bitwise
      expect ")"
      let _ ← accept ","
      return some (found ++ [.enclosed .plain (t.upper.toList ++ " (".toList) keys [')']])
    | none => return none) []
  let quantifier := if quantifier.any (·.is "ALL") then " ALL".toList else []
  let all := keys ++ more
  return .form .plain ("GROUP BY".toList ++ quantifier ++ if all.isEmpty then [] else [' ']) (Expr.listed [] all)

def locks (g : Rules) : Reader (Option Expr) := do
  let lock (found : List Expr) : Reader (Option (List Expr)) := do
    let kind ←
      if ← acceptWords ["FOR", "UPDATE"] then pure (some "FOR UPDATE")
      else
        if ← acceptWords ["FOR", "SHARE"] then pure (some "FOR SHARE")
        else if ← acceptWords ["LOCK", "IN", "SHARE", "MODE"] then pure (some "FOR SHARE")
        else if ← acceptWords ["FOR", "KEY", "SHARE"] then pure (some "FOR KEY SHARE")
        else if ← acceptWords ["FOR", "NO", "KEY", "UPDATE"] then pure (some "FOR NO KEY UPDATE")
        else pure none
    match kind with
    | none => return none
    | some kind =>
      let tables ← if ← acceptWords ["OF"] then separated (table g (← get).total) else pure []
      let wait ←
        if ← acceptWords ["NOWAIT"] then pure " NOWAIT"
        else
          if ← acceptWords ["SKIP", "LOCKED"] then pure " SKIP LOCKED" else pure ""
      let tables := if tables.isEmpty then [] else [(Expr.enclosed .plain " OF ".toList tables [], [])]
      return some (found ++ [.form .plain kind.toList (tables ++ [(.word wait.toList, [])])])
  let found ← repeated lock []
  if found.isEmpty then return none else return some (spaced .plain found)

/-- One clause of a query; a limit may bring the rows to leave out. -/
def clause (g : Rules) : Reader (Option (List (Clause × Expr))) := do
  let start ← get
  let sorted (c : Clause) (word : String) : Reader (Option (List (Clause × Expr))) := do
    let keys ← separated (sortKey g)
    return some [(c, .form .plain (word.toList ++ [' ']) (Expr.listed [] keys))]
  let condition (c : Clause) (word : String) : Reader (Option (List (Clause × Expr))) := do
    let remarks ← waiting
    return some [(c, (Expr.form .plain (word.toList ++ [' ']) [(← need g.disjunction, [])]).led remarks)]
  match ← peek with
  | none => return none
  | some t =>
    match t.kind with
    | .fixed "WHERE" => advance; condition .filter "WHERE"
    | .fixed "HAVING" => advance; condition .having "HAVING"
    | .fixed "QUALIFY" => advance; condition .qualification "QUALIFY"
    | .fixed "GROUP BY" =>
      advance
      let remarks ← waiting
      return some [(.group, (← groupKeys g).led remarks)]
    | .fixed "CLUSTER BY" => advance; sorted .cluster "CLUSTER BY"
    | .fixed "DISTRIBUTE BY" => advance; sorted .distribution "DISTRIBUTE BY"
    | .fixed "SORT BY" => advance; sorted .sort "SORT BY"
    | .fixed "CONNECT BY" =>
      advance
      let _ ← acceptWords ["NOCYCLE"]
      condition .connection "CONNECT BY"
    | .fixed "START WITH" =>
      advance
      let first ← need g.disjunction
      let _ ← accept "CONNECT BY"
      let _ ← acceptWords ["NOCYCLE"]
      let link ← need g.disjunction
      return some [(.connection,
        .form .plain "START WITH ".toList [(first, " CONNECT BY ".toList), (link, [])])]
    | .fixed "WINDOW" =>
      advance
      let windows ← separated do
        let name ← need anyName
        let _ ← accept "AS"
        if ← accept "(" then return some ((← window g).rendered name " AS ".toList)
        else return some ({ name := ← nameWhere mayName : Window }.rendered name " AS ".toList)
      return some [(.windows, .form .plain "WINDOW ".toList (Expr.listed [] windows))]
    | .fixed "ORDER BY" => return (← orderBy g).map fun e => [(.order, e)]
    | .fixed "LIMIT" | .fixed "FETCH" =>
      match ← limit g with
      | none => return none
      | some (rows, none) => return some [(.limit, rows)]
      | some (rows, some skipped) =>
        return some [(.limit, rows), (.offset, .form .plain "OFFSET ".toList [(skipped, [])])]
    | .fixed "OFFSET" => return (← offset g).map fun e => [(.offset, e)]
    | .fixed "FOR" | .fixed "LOCK" =>
      match ← locks g with
      | some e => return some [(.locks, e)]
      | none =>
        backTo start
        return none
    | _ => return none

/-- Clauses of a query after those it has. A clause does not come twice. -/
def clausesAfter (g : Rules) (clauses : List (Clause × Expr)) : Reader (List (Clause × Expr)) :=
  repeated (fun (found : List (Clause × Expr)) => do
    match ← clause g with
    | none => return none
    | some more =>
      if more.head?.any fun c => (found.lookup c.1).isSome then failure else return some (found ++ more)) clauses

/-- What may follow a query or a table: joined tables, then clauses. -/
def continuedSelect (g : Rules) (s : Select) : Reader Select := do
  let joined ← joins g ((← get).total + 1)
  return { s with tables := s.tables ++ joined, clauses := ← clausesAfter g s.clauses }

def select (g : Rules) : Reader Select := do
  let remarks ← waiting
  let hasSelector := (← peekSecond).any fun t => !t.is "."
  let isAll ← if hasSelector then accept "ALL" else pure false
  let isDistinct ← if hasSelector then accept "DISTINCT" else pure false
  let keys ←
    if ← acceptIf isDistinct "ON" then do
      expect "("
      let keys ← separated g.titled
      expect ")"
      pure [Expr.enclosed .row " ON (".toList keys [')']]
    else pure []
  if isAll && isDistinct then failure
  let columns ← separated g.titled
  let word := if isDistinct then "SELECT DISTINCT" else "SELECT"
  let columns := if columns.isEmpty then [] else [(Expr.enclosed .plain [' '] columns [], [])]
  let head : Expr := .form .plain word.toList (keys.map (·, []) ++ columns)
  modify fun c => { c with waiting := [] }
  let tables ←
    if ← accept "FROM" then do
      let remarks ← waiting
      let first ← need (table g ((← get).total + 1))
      pure [Expr.form .plain [' '] [((Expr.form .plain "FROM ".toList [(first, [])]).led remarks, [])]]
    else pure []
  continuedSelect g { head, tables, clauses := [], remarks }

def unionWord : Reader (Option (List Char)) := do
  match ← acceptAny ["UNION", "INTERSECT", "EXCEPT"] with
  | none => return none
  | some t =>
    if ← accept "ALL" then return some (t.upper.toList ++ " ALL".toList)
    else
      let _ ← accept "DISTINCT"
      return some t.upper.toList

def unions (g : Rules) (e : Expr) : Reader Expr :=
  repeated (fun (e : Expr) => do
    match ← unionWord with
    | none => return none
    | some word =>
      let right ← need (g.query true)
      return some (.form .query [] [(e, ' ' :: word ++ [' ']), (right, [])])) e

def namedQueries (g : Rules) : Reader (Option Expr) := do
  if !(← accept "WITH") then return none
  let remarks ← waiting
  let isRecursive ← accept "RECURSIVE"
  let queries ← separated do
    let name ← need (tableTitle g mayName)
    let _ ← accept "AS"
    let kept ←
      if ← acceptWords ["NOT", "MATERIALIZED"] then pure "NOT MATERIALIZED "
      else
        if ← acceptWords ["MATERIALIZED"] then pure "MATERIALIZED " else pure ""
    expect "("
    let q ← need (g.query false)
    expect ")"
    return some (.form .plain [] [(name, " AS ".toList ++ kept.toList ++ ['(']), (q, [')'])])
  let word := if isRecursive then "WITH RECURSIVE " else "WITH "
  return some ((Expr.form .plain word.toList (Expr.listed [] queries)).led remarks)

/-- A query with the queries joined to it; in some places parentheses may stand around the first. -/
def query (g : Rules) (mayBeBraced : Bool) : Reader (Option Expr) := do
  let named ← namedQueries g
  let first : Option Expr ←
    if ← accept "SELECT" then pure (some (← select g).rendered)
    else
      if ← acceptIf mayBeBraced "(" then
        let inner ← need (g.query true)
        let inner ← g.continued inner
        expect ")"
        pure (some (Expr.form .subquery ['('] [(inner, [')'])]))
      else if ← accept "VALUES" then pure (some (← valueRows g))
      else pure none
  match named, first with
  | none, none => return none
  | some _, none => failure
  | none, some e => if mayBeBraced then return some e else return some (← unions g e)
  | some w, some e => return some (.form .query [] [(w, [' ']), (← unions g e, [])])

/-- What follows a query in parentheses: joined queries, tables and clauses. -/
def continued (g : Rules) (e : Expr) : Reader Expr := do
  let e ← unions g e
  let joined ← joins g ((← get).total + 1)
  let clauses ← clausesAfter g []
  let construct := match e.bare with
    | .form construct .. => construct
    | _ => .plain
  if joined.isEmpty && clauses.isEmpty then return e
  else return spaced construct (.form .plain [] ((e, []) :: joined.map (·, [])) :: orderedClauses clauses)

def rules : Nat → Rules
  | 0 => .none
  | depth + 1 =>
    let g := rules depth
    { titled := titled g
      assignment := assignment g
      disjunction := disjunction g
      identity := identity g
      bitwise := bitwise g
      sum := sum g
      unary := unary g
      operand := operand g
      column := column g
      suffixed := suffixes g
      query := query g
      continued := continued g }

/-- The condition of a whole statement: one query with a condition, and perhaps a semicolon after it. -/
def condition? (g : Rules) : Reader Expr := do
  expect "SELECT"
  let s ← continuedSelect g (← select g)
  if (← acceptAny ["UNION", "INTERSECT", "EXCEPT"]).isSome then failure
  let closing ← takeIf (·.is ";")
  if !(← get).ahead.isEmpty || closing.any (!·.remarks.isEmpty) then failure
  match s.clauses.lookup .filter with
  | some (.form _ _ ((e, _) :: _)) => return e
  | _ => failure

end FeatureGraph.Filter.Grammar
