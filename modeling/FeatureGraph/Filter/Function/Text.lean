import FeatureGraph.Filter.Expr
import FeatureGraph.Number.Integer

/-! # Functions on texts in filters -/
namespace FeatureGraph.Filter

namespace Expr

def position (part whole : Expr) : Expr := form .call "POSITION(".toList [(part, " IN ".toList), (whole, [')'])]

/-- The place of a text in what stands from a place on in another; zero where it does not occur. -/
def positionFrom (part whole start : Expr) : Expr :=
  let tail := form .call "SUBSTRING(".toList [(whole, " FROM ".toList), (start, [')'])]
  let zero := number ['0']
  let found := position part tail
  choice [(binary .equal found zero [], zero)]
    (some (binary .subtract (binary .add found start []) (number ['1']) []))

def trimmed (ends : String) (characters : Option Expr) (whole : Expr) : Expr :=
  match characters with
  | none =>
    let name := if ends = "LEADING" then "LTRIM" else if ends = "TRAILING" then "RTRIM" else "TRIM"
    call name [whole]
  | some c =>
    form .call ("TRIM(".toList ++ (if ends.isEmpty then [] else ends.toList ++ [' ']))
      [(c, " FROM ".toList), (whole, [')'])]

def substring (whole : Expr) (start length : Option Expr) : Expr :=
  let from? := start.map fun s => (" FROM ".toList, s)
  let for? := length.map fun l => (" FOR ".toList, l)
  let more := from?.toList ++ for?.toList
  let words := more.map Prod.fst
  form .call "SUBSTRING(".toList
    ((whole :: more.map Prod.snd).zip (words ++ [[')']]))

/-- A test of a text against some patterns of words: one of them is enough. -/
def searched (columns : List Expr) (pattern : Expr) : Expr :=
  let tests := columns.map fun c => form .plain [] [(c, " @@ ".toList), (pattern, [])]
  match tests with
  | [test] => test
  | _ => form .plain ['('] ((tests.dropLast.map (·, " OR ".toList)) ++ tests.getLast?.toList.map (·, [')']))

end Expr

/-- The number of bits of a digest: the last argument, if it is plain. -/
def digestSize (size : Option Expr) : List Char :=
  match size.map Expr.bare with
  | some (.number text) | some (.string text) | some (.name ⟨text, _⟩) => text
  | _ => "256".toList

/-- A call of a known function on texts: nothing where no such function is known, and no expression where its
arguments are refused. -/
def textCall? (name : String) (arguments : List Expr) : Option (Option Expr) :=
  let count := arguments.length
  let within (least most : Nat) (e : Expr) : Option (Option Expr) :=
    some (if least ≤ count && count ≤ most then some e else none)
  let a := arguments.getD 0 .null
  let b := arguments.getD 1 .null
  let c := arguments.getD 2 .null
  match name with
  | "LENGTH" => within 1 3 (Expr.call "LENGTH" (arguments.take 2))
  | "LTRIM" => within 1 4 (Expr.trimmed "LEADING" arguments[1]? a)
  | "RTRIM" => within 1 4 (Expr.trimmed "TRAILING" arguments[1]? a)
  | "BTRIM" => within 1 4 (Expr.trimmed "" arguments[1]? a)
  | "SUBSTR" | "MID" => within 1 3 (Expr.substring a arguments[1]? arguments[2]?)
  | "INSTR" | "STRPOS" | "STR_POSITION" =>
    within 2 5 (arguments[2]?.elim (Expr.position b a) (Expr.positionFrom b a))
  | "LOCATE" | "CHARINDEX" => within 2 5 (arguments[2]?.elim (Expr.position a b) (Expr.positionFrom a b))
  | "LIKE" =>
    let like := Expr.binary .like b a []
    some (if count < 2 then none else some (if count = 2 then like else .binary .escape like c []))
  | "GLOB" => some (if count < 2 then none else some (.binary .glob b a []))
  | "REGEXP_LIKE" => within 2 4 (.binary .regex a b [])
  | "REGEXP_ILIKE" => within 2 3 (.binary .regexAnyCase a b [])
  | "COLLATE" => within 2 2 (.binary .collate a b [])
  | "SPACE" => within 1 1 (Expr.call "REPEAT" [.string [' '], a])
  | "LPAD" | "LEFTPAD" => within 2 4 (Expr.call "LPAD" (arguments.take 3))
  | "RPAD" | "RIGHTPAD" => within 2 4 (Expr.call "RPAD" (arguments.take 3))
  | "LEVENSHTEIN" =>
    within 1 6 (Expr.call (if count = 6 then "LEVENSHTEIN_LESS_EQUAL" else "LEVENSHTEIN") arguments)
  | "LEVENSHTEIN_LESS_EQUAL" => within 2 6 (Expr.call name arguments)
  | "GROUP_CONCAT" => within 1 3 (Expr.call "STRING_AGG" [a, arguments[1]?.getD (.string [','])])
  | "SHA2" => within 1 2 (Expr.call (String.ofList ("SHA".toList ++ digestSize arguments[1]?)) [a])
  | "SHA256" | "SHA384" | "SHA512" => within 1 2 (Expr.call name [a])
  | "UPPER" | "UCASE" =>
    match a.bare with
    | .form .call ['H', 'E', 'X', '('] _ => within 1 1 a
    | _ => within 1 1 (Expr.call "UPPER" arguments)
  | "HEX" | "TO_HEX" => within 1 1 (Expr.call "HEX" arguments)
  | _ => none

end FeatureGraph.Filter
