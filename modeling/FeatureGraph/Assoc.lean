/-! # Lists of named values, in the order in which the names first came -/
namespace FeatureGraph.Assoc

/-- Sets a value: in place when the name is there, else at the end. -/
def put {α : Type} (name : String) (value : α) : List (String × α) → List (String × α)
  | [] => [(name, value)]
  | (n, v) :: r => if n = name then (n, value) :: r else (n, v) :: put name value r

@[simp] theorem lookup_put {α : Type} (name other : String) (value : α) (ms : List (String × α)) :
    (put name value ms).lookup other = if other = name then some value else ms.lookup other := by
  induction ms with
  | nil => grind [put]
  | cons m r ih => grind [put]

def putAll {α : Type} (ms new : List (String × α)) : List (String × α) :=
  new.foldl (fun ms p => put p.1 p.2 ms) ms

end FeatureGraph.Assoc
