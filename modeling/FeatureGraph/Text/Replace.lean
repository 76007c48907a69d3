/-! # Replacing every occurrence of a word -/
namespace FeatureGraph.Text

/-- Drops every occurrence of a nonempty word, from left to right; the next `skip` characters belong to
an occurrence already found. -/
def removeFrom (word : List Char) : Nat → List Char → List Char
  | _, [] => []
  | skip + 1, _ :: r => removeFrom word skip r
  | 0, c :: r =>
    if word.isPrefixOf (c :: r) then removeFrom word (word.length - 1) r else c :: removeFrom word 0 r

def remove (word s : String) : String := String.ofList (removeFrom word.toList 0 s.toList)

/-- Writes a single mark in place of each pair of it. -/
def unpair (mark : Char) : List Char → List Char
  | c :: d :: r => if c = mark ∧ d = mark then mark :: unpair mark r else c :: unpair mark (d :: r)
  | cs => cs

example : remove "ab" "xabyab" = "xy" := by decide +kernel

end FeatureGraph.Text
