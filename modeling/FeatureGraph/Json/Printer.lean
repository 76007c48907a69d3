import FeatureGraph.Json.Basic
import FeatureGraph.Number.Shortest
import FeatureGraph.Text.Hex

/-! # Writing JSON text, compact and in ASCII -/
namespace FeatureGraph.Json

def escapeUnit (n : Nat) : List Char := '\\' :: 'u' :: Text.Hex.padded 4 n

/-- Characters beyond ASCII are written as UTF-16 escapes. -/
def escapeChar (c : Char) : List Char :=
  let n := c.toNat
  if c == '"' || c == '\\' then ['\\', c]
  else if c == '\n' then ['\\', 'n']
  else if c == '\r' then ['\\', 'r']
  else if c == '\t' then ['\\', 't']
  else if n < 0x20 || (0x7F ≤ n && n < 0x10000) then escapeUnit n
  else if n < 0x7F then [c]
  else escapeUnit (0xD800 + (n - 0x10000) / 0x400) ++ escapeUnit (0xDC00 + (n - 0x10000) % 0x400)

def escapeText (s : String) : String := String.ofList ('"' :: s.toList.flatMap escapeChar ++ ['"'])

/-- Doubles in JSON text; NaN and the infinities have words of their own. -/
def numberLayout : Number.FloatLayout := { Number.FloatLayout.plain with nan := "NaN", infinity := "Infinity" }

mutual

def write : Json → String
  | null => "null"
  | bool true => "true"
  | bool false => "false"
  | int n => Number.integerText n
  | float x => numberLayout.write x
  | text s => escapeText s
  | list items => "[" ++ String.intercalate "," (writeItems items) ++ "]"
  | object members => "\x7b" ++ String.intercalate "," (writeMembers members) ++ "\x7d"

def writeItems : List Json → List String
  | [] => []
  | v :: r => write v :: writeItems r

def writeMembers : List (String × Json) → List String
  | [] => []
  | (n, v) :: r => (escapeText n ++ ":" ++ write v) :: writeMembers r

end

end FeatureGraph.Json
