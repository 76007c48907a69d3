import FeatureGraph.Cypher.Spelling
import FeatureGraph.Filter.Basic
import FeatureGraph.Filter.Grammar

/-! # From a filter to a Cypher predicate -/
namespace FeatureGraph.Filter

def invalid (filter : String) : Failure := .of .filterParse ("invalid where clause: " ++ filter)

/-- The filter in normal form, with every bare column in a namespace. -/
def qualified (namespaceName filter : String) (library : Library := .postgres) : Except Fault (List Char) := do
  match ← (library.parse namespaceName.toList filter.toList).mapError .defect with
  | some e => (library.print (e.qualify (Name.ofText namespaceName.toList))).mapError .defect
  | none => .error (invalid filter)

def predicate (namespaceName filter : String) (library : Library := .postgres) (calls : Nat := callLimit) :
    Except Fault String := do
  let sql ← qualified namespaceName filter library
  return String.ofList (← Cypher.ofRendered sql calls)

/-- The predicate for object ids or a filter. Object ids win; a filter that restricts nothing gives
none. -/
def restriction (namespaceName : String) (filter : Option String) (ids : List Json) (library : Library := .postgres)
    (calls : Nat := callLimit) : Except Fault (Option String) :=
  if !ids.isEmpty then do
    some <$> predicate namespaceName (← (objectIds ids).mapError .defect) library calls
  else
    match filter with
    | none => .ok none
    | some text =>
      if isTrivial text then .ok none
      else some <$> predicate namespaceName (String.ofList (normalizeObjectId text.toList)) library calls

end FeatureGraph.Filter
