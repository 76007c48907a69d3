/-! # Parts of a text between separators -/
namespace FeatureGraph.Text

/-- The parts between separators: one more than there are separators. -/
def splitAt (separator : Char) : List Char → List (List Char)
  | [] => [[]]
  | c :: r =>
    match splitAt separator r with
    | part :: parts => if c = separator then [] :: part :: parts else (c :: part) :: parts
    | [] => [[c]]

theorem splitAt_ne_nil (separator : Char) (cs : List Char) : splitAt separator cs ≠ [] := by
  induction cs with
  | nil => simp [splitAt]
  | cons c r ih =>
    simp only [splitAt]
    split
    · split <;> simp
    · simp

end FeatureGraph.Text
