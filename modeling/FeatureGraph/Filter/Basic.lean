import FeatureGraph.Fault
import FeatureGraph.Text.LetterCase
import FeatureGraph.Text.Word

/-! # Filters before they are parsed -/
namespace FeatureGraph.Filter

/-- Filters that hold of every row, without blanks and in lower case. -/
def alwaysTrue : List String := ["", "1=1", "(1=1)", "true"]

def isTrivial (filter : String) : Bool :=
  alwaysTrue.contains (Text.lower (String.ofList (Text.compact filter.toList)))

/-- Letters in either case; a dotted capital and a dotless small I count as an I. -/
def sameLetter (a b : Char) : Bool :=
  a.toLower == b || (b == 'i' && (a.toNat == 0x130 || a.toNat == 0x131))

def isObjectId (word : List Char) : Bool :=
  let name := "objectid".toList
  word.length == name.length && (word.zip name).all fun p => sameLetter p.1 p.2

/-- Writes the id property in lower case wherever it stands as a whole word. -/
def normalizeObjectId : List Char → List Char
  | [] => []
  | c :: r =>
    if Text.isWord c then
      let word := c :: r.takeWhile Text.isWord
      (if isObjectId word then "objectid".toList else word) ++ normalizeObjectId (r.dropWhile Text.isWord)
    else c :: normalizeObjectId r
termination_by cs => cs.length
decreasing_by
  · have := (List.dropWhile_sublist Text.isWord (l := r)).length_le
    simp
    omega
  · simp

/-- The text of a filter for some object ids that can be written. -/
def ofObjectIds (ids : List Json) : String :=
  "objectid in (" ++ String.intercalate "," (ids.map Json.display) ++ ")"

/-- The filter for some object ids, each of which has to be written. -/
def objectIds (ids : List Json) : Except Defect String :=
  if ids.all Json.isWritable then .ok (ofObjectIds ids) else .error .unwritableInteger

end FeatureGraph.Filter
