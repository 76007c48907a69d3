import FeatureGraph.Fault
import FeatureGraph.Filter.Grammar.Query
import FeatureGraph.Filter.Token

/-! # Reading filters

A filter is the condition of a query, which it ends. It is read within that query, whose table has the name
of the namespace. -/
namespace FeatureGraph.Filter
open Grammar

def statement (namespaceName filter : List Char) : List Char :=
  "SELECT * FROM BLAH AS ".toList ++ namespaceName ++ " WHERE ".toList ++ filter

/-- The expression of a filter. No rule contains itself more than twice before it takes a token, so the number
of tokens bounds the depth. -/
def parse? (namespaceName filter : List Char) : Option Expr := do
  let tokens ← tokens? (statement namespaceName filter)
  let (e, _) ← condition? (rules (2 * tokens.length + 8)) (.ofTokens tokens)
  return e

/-- A library that parses and prints SQL, as far as filters need it. -/
structure Library where
  /-- The condition of the statement for a filter in a namespace; none where the statement is refused or has no
  condition. -/
  parse : List Char → List Char → Except Defect (Option Expr)
  print : Expr → Except Defect (List Char)

/-- The library for the dialect of filters, with room for expressions of any depth. -/
def Library.postgres : Library where
  parse namespaceName filter := .ok (parse? namespaceName filter)
  print e := .ok e.rendered

end FeatureGraph.Filter
