import FeatureGraph.Filter.Expr
import FeatureGraph.Text.LetterCase

/-! # Functions on moments in filters: their parts, distances and written forms -/
namespace FeatureGraph.Filter

/-- The moments and names that are written without parentheses. -/
def momentNames : List String :=
  ["CURRENT_CATALOG", "CURRENT_DATE", "CURRENT_ROLE", "CURRENT_SCHEMA", "CURRENT_TIMESTAMP", "CURRENT_USER",
    "LOCALTIME", "LOCALTIMESTAMP", "SESSION_USER"]

def momentParts : List String := ["YEAR", "QUARTER", "MONTH", "WEEK", "DAY", "HOUR", "MINUTE", "SECOND"]

namespace Expr

def extract (part : List Char) (moment : Expr) : Expr :=
  form .call ("EXTRACT(".toList ++ part ++ " FROM ".toList) [(moment, [')'])]

def interval (amount : List Char) (unit : List Char) : Expr :=
  word ("INTERVAL '".toList ++ amount ++ (if unit.isEmpty then [] else ' ' :: unit) ++ ['\''])

def shifted (op : Operator) (moment amount : Expr) (unit : List Char) : Expr :=
  match amount.bare with
  | form .interval .. => binary op moment amount []
  | number text | string text => binary op moment (interval text unit) []
  | form .sign _ [(inner, _)] =>
    if amount.isNumber then binary op moment (interval ('-' :: inner.title) unit) []
    else binary op moment (binary .multiply (interval ['1'] unit) amount []) []
  | _ => binary op moment (binary .multiply (interval ['1'] unit) amount []) []

end Expr

def shortUnits : List (String × String) :=
  [("D", "DAY"), ("H", "HOUR"), ("M", "MINUTE"), ("MS", "MILLISECOND"), ("NS", "NANOSECOND"), ("Q", "QUARTER"),
    ("S", "SECOND"), ("US", "MICROSECOND"), ("W", "WEEK"), ("Y", "YEAR")]

def unitOf (e : Expr) : List Char :=
  match e.bare with
  | .column [] _ | .string _ | .word _ =>
    let name := String.ofList e.title
    (Text.upper ((shortUnits.lookup name).getD name)).toList
  | e => e.rendered

/-- The unit that an argument names, as a text; any other argument stands for itself. -/
def unitText (e : Expr) : Expr :=
  match e.bare with
  | .column [] _ | .string _ | .word _ => .string (unitOf e)
  | .column _ _ | .number _ => .string e.title
  | _ => e

/-- The fields of a date format that are written in one case only. -/
def formatFields : List (String × String) :=
  [("yyyy", "YYYY"), ("ddd", "DDD"), ("yy", "YY"), ("ww", "WW"), ("ss", "SS"), ("mm", "MM"), ("mi", "MI"),
    ("dd", "DD"), ("d", "D")]

/-- Fields of a date format that hold letters of shorter fields. -/
def longFormatFields : List String :=
  ["TMMonth", "FMHH12", "FMHH24", "TMDay", "TMMon", "FMDDD", "TMDy", "FMDD", "FMMI", "FMMM", "FMSS", "YYYY", "HH12",
    "HH24"]

/-- The fields of a date format after percent signs, and how they are written without. -/
def percentFields : List (String × String) :=
  [("%-d", "FMDD"), ("%-j", "FMDDD"), ("%-I", "FMHH12"), ("%-H", "FMHH24"), ("%-M", "FMMI"), ("%-m", "FMMM"),
    ("%-S", "FMSS"), ("%u", "D"), ("%d", "DD"), ("%j", "DDD"), ("%I", "HH12"), ("%H", "HH24"), ("%M", "MI"),
    ("%m", "MM"), ("%z", "OF"), ("%S", "SS"), ("%A", "TMDay"), ("%a", "TMDy"), ("%b", "TMMon"), ("%B", "TMMonth"),
    ("%Z", "TZ"), ("%f", "US"), ("%U", "WW"), ("%y", "YY"), ("%Y", "YYYY")]

/-- A text with the fields at its places replaced, the kept ones aside; the first field in the list wins. -/
def replacedFields (kept : List String) (fields : List (String × String)) : Nat → List Char → List Char
  | 0, cs => cs
  | _, [] => []
  | bound + 1, c :: r =>
    match kept.find? fun f => f.toList.isPrefixOf (c :: r) with
    | some f => f.toList ++ replacedFields kept fields bound ((c :: r).drop f.length)
    | none =>
      match fields.find? fun f => f.1.toList.isPrefixOf (c :: r) with
      | some f => f.2.toList ++ replacedFields kept fields bound ((c :: r).drop f.1.length)
      | none => c :: replacedFields kept fields bound r

/-- A text literal with its fields replaced; any other expression as it is. -/
def formatWith (kept : List String) (fields : List (String × String)) (e : Expr) : Expr :=
  match e with
  | .string text => .string (replacedFields kept fields text.length text)
  | .remarked (.string text) remarks => .remarked (.string (replacedFields kept fields text.length text)) remarks
  | e => e

/-- A format argument: a text literal has its fields in upper case. -/
def formatArgument : Expr → Expr := formatWith longFormatFields formatFields

def percentArgument : Expr → Expr := formatWith [] percentFields

/-- The factors from seconds to units, and how they are written. -/
def secondsIn : List (String × String) :=
  [("MICROSECOND", " * 1000000"), ("MILLISECOND", " * 1000"), ("SECOND", ""), ("MINUTE", " / 60"),
    ("HOUR", " / 3600"), ("DAY", " / 86400")]

def difference (final first : Expr) (unit : List Char) : Expr :=
  let final := final.cast "TIMESTAMP".toList
  let first := first.cast "TIMESTAMP".toList
  let between (head : String) (last : String) : Expr :=
    .form .plain head.toList [(final, " - ".toList), (first, last.toList)]
  let age (head last : String) : Expr := .form .plain head.toList [(final, ", ".toList), (first, last.toList)]
  let inner : Expr :=
    match secondsIn.lookup (String.ofList unit) with
    | some factor => between "EXTRACT(epoch FROM " (")" ++ factor)
    | none =>
      match String.ofList unit with
      | "WEEK" => between "EXTRACT(days FROM (" ")) / 7"
      | "MONTH" =>
        .binary .add (age "EXTRACT(year FROM AGE(" ")) * 12") (age "EXTRACT(month FROM AGE(" "))") []
      | "QUARTER" =>
        .binary .add (age "EXTRACT(year FROM AGE(" ")) * 4") (age "EXTRACT(month FROM AGE(" ")) / 3") []
      | "YEAR" => age "EXTRACT(year FROM AGE(" "))"
      | _ => age "AGE(" ")"
  inner.cast "BIGINT".toList

def lastDay (moment : Expr) : Expr :=
  let start := Expr.call "DATE_TRUNC" [.string "MONTH".toList, moment]
  let next := Expr.binary .add start (Expr.interval ['1'] "MONTH".toList) []
  (Expr.binary .subtract next (Expr.interval ['1'] "DAY".toList) []).cast "DATE".toList

/-- A call of a known function on moments: nothing where no such function is known, and no expression where
its arguments are refused. -/
def momentCall? (name : String) (arguments : List Expr) : Option (Option Expr) :=
  let count := arguments.length
  let within (least most : Nat) (e : Expr) : Option (Option Expr) :=
    some (if least ≤ count && count ≤ most then some e else none)
  let a := arguments.getD 0 .null
  let b := arguments.getD 1 .null
  let formatted := (arguments.drop 1).take 1
  if momentParts.contains name then within 1 (if name = "WEEK" then 2 else 1) (Expr.extract name.toList a)
  else if name = "CURRENT_DATE" then
    within 0 1 (if count = 1 then .form .call "CURRENT_DATE AT TIME ZONE ".toList [(a, [])] else .word name.toList)
  else if ["LOCALTIME", "LOCALTIMESTAMP"].contains name then
    within 0 1 (if count = 1 then Expr.call name [a] else .word name.toList)
  else if name = "NOW" || name = "CURRENT_TIMESTAMP" then within 0 2 (.word "CURRENT_TIMESTAMP".toList)
  else if momentNames.contains name then within 0 1 (.word name.toList)
  else
    match name with
    | "DATE_TRUNC" => within 2 3 (Expr.call "DATE_TRUNC" (unitText a :: arguments.drop 1))
    | "TIMESTAMP_TRUNC" => within 2 4 (Expr.call "DATE_TRUNC" (unitText b :: a :: (arguments.drop 2).take 1))
    | "TO_CHAR" => within 2 4 (Expr.call "TO_CHAR" [a, formatArgument b])
    | "TO_DATE" => within 1 3 (Expr.call "TO_DATE" (a :: (arguments.drop 1).map formatArgument))
    | "TO_TIMESTAMP" =>
      if count = 1 then some (some (Expr.call name arguments))
      else within 2 4 (Expr.call "TO_TIMESTAMP" (a :: formatted.map formatArgument))
    | "STR_TO_DATE" => within 1 3 (Expr.call "TO_DATE" (a :: formatted.map percentArgument))
    | "STR_TO_TIME" => within 2 5 (Expr.call "TO_TIMESTAMP" (a :: formatted.map percentArgument))
    | "TIME_TO_STR" => within 2 4 (Expr.call "TO_CHAR" (a :: formatted.map percentArgument))
    | "DATE_STR_TO_DATE" => within 1 1 (a.cast "DATE".toList)
    | "DATE_TO_DATE_STR" | "TIME_TO_TIME_STR" => within 1 1 (a.cast "TEXT".toList)
    | "DATEDIFF" | "DATE_DIFF" => within 2 4 (difference a b (arguments[2]?.elim [] unitOf))
    | "DATE_ADD" => within 2 3 (Expr.shifted .add a b (arguments[2]?.elim [] unitOf))
    | "DATE_SUB" => within 2 3 (Expr.shifted .subtract a b (arguments[2]?.elim [] unitOf))
    | "LAST_DAY" | "LAST_DAY_OF_MONTH" => within 1 2 (lastDay a)
    | "CONVERT_TIMEZONE" =>
      let zoned (moment zone : Expr) : Expr := .form .plain [] [(moment, " AT TIME ZONE ".toList), (zone, [])]
      match arguments with
      | [zone, moment] => some (some (zoned moment zone))
      | [zone, target, moment] => some (some (zoned (zoned (moment.cast "TIMESTAMP".toList) zone) target))
      | _ => some none
    | _ => none

end FeatureGraph.Filter
