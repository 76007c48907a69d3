import FeatureGraph.Json.Basic
import FeatureGraph.Number.Shortest
import FeatureGraph.Text.Quoted

/-! # How messages show a value -/
namespace FeatureGraph.Json

mutual

/-- A value as a literal: texts in quotes, `None`, `True` and `False` for null and the truth values. -/
def literal : Json → String
  | null => "None"
  | bool true => "True"
  | bool false => "False"
  | int n => Number.integerText n
  | float x => Number.FloatLayout.plain.write x
  | text s => Text.quoted s
  | list items => "[" ++ String.intercalate ", " (literals items) ++ "]"
  | object members => "\x7b" ++ String.intercalate ", " (memberLiterals members) ++ "\x7d"

def literals : List Json → List String
  | [] => []
  | v :: r => literal v :: literals r

def memberLiterals : List (String × Json) → List String
  | [] => []
  | (n, v) :: r => (Text.quoted n ++ ": " ++ literal v) :: memberLiterals r

end

/-- A value as text: a text is shown as itself, anything else as its literal. -/
def display : Json → String
  | text s => s
  | v => literal v

mutual

/-- Whether no whole number in a value has too many digits to be written. -/
def isWritable : Json → Bool
  | int n => Number.WithinLimit n
  | list items => areWritable items
  | object members => membersWritable members
  | _ => true

def areWritable : List Json → Bool
  | [] => true
  | v :: r => v.isWritable && areWritable r

def membersWritable : List (String × Json) → Bool
  | [] => true
  | (_, v) :: r => v.isWritable && membersWritable r

end

end FeatureGraph.Json
