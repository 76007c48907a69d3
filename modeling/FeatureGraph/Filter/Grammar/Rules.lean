import FeatureGraph.Filter.Reader

/-! # The rules of the grammar that contain each other

A rule that is met again below itself is reached through this record, which bounds the depth. -/
namespace FeatureGraph.Filter.Grammar

/-- The levels of an expression, from the weakest binding, and a query. -/
structure Rules where
  /-- An expression with a name after it, if there is one. -/
  titled : Reader (Option Expr)
  assignment : Reader (Option Expr)
  disjunction : Reader (Option Expr)
  identity : Reader (Option Expr)
  bitwise : Reader (Option Expr)
  sum : Reader (Option Expr)
  unary : Reader (Option Expr)
  operand : Reader (Option Expr)
  /-- A column or literal with what follows it. -/
  column : Reader (Option Expr)
  /-- What follows an operand of the strongest binding: casts, members, elements. -/
  suffixed : Expr → Reader Expr
  /-- A query; parentheses may stand around it or not. -/
  query : Bool → Reader (Option Expr)
  /-- What follows a query in parentheses: more queries joined to it, and clauses. -/
  continued : Expr → Reader Expr

def Rules.none : Rules where
  titled := failure
  assignment := failure
  disjunction := failure
  identity := failure
  bitwise := failure
  sum := failure
  unary := failure
  operand := failure
  column := failure
  suffixed := fun _ => failure
  query := fun _ => failure
  continued := fun _ => failure

end FeatureGraph.Filter.Grammar
