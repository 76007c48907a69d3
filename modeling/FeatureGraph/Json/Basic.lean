import FeatureGraph.Assoc

/-! # JSON values

Whole numbers have no size limit and differ from floating-point numbers. An object keeps its members in
the order in which their names first came. -/
namespace FeatureGraph

inductive Json where
  | null
  | bool (b : Bool)
  | int (n : Int)
  | float (x : Float)
  | text (s : String)
  | list (items : List Json)
  | object (members : List (String × Json))
  deriving Inhabited

namespace Json

def get? (name : String) : Json → Option Json
  | object members => members.lookup name
  | _ => none

def get (name : String) (v : Json) : Json := (v.get? name).getD null

/-- Whether a value counts as given: not null, false, zero or empty. -/
def isTruthy : Json → Bool
  | null => false
  | bool b => b
  | int n => n != 0
  | float x => !(x == 0.0)
  | text s => !s.isEmpty
  | list items => !items.isEmpty
  | object members => !members.isEmpty

/-- The value itself when it counts as given. -/
def truthy? (v : Json) : Option Json := if v.isTruthy then some v else none

def isNull : Json → Bool
  | null => true
  | _ => false

/-- Null or the empty text: a parameter that is left out. -/
def isBlank : Json → Bool
  | null => true
  | text s => s.isEmpty
  | _ => false

def ofOption {α : Type} (f : α → Json) : Option α → Json
  | none => null
  | some a => f a

mutual

/-- The number of values and of characters of texts in a value. -/
def size : Json → Nat
  | text s => s.length + 1
  | list items => sizeAll items + 1
  | object members => sizeMembers members + 1
  | _ => 1

def sizeAll : List Json → Nat
  | [] => 0
  | v :: r => v.size + sizeAll r

def sizeMembers : List (String × Json) → Nat
  | [] => 0
  | (_, v) :: r => v.size + sizeMembers r

end

end Json
end FeatureGraph
