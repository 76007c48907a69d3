import FeatureGraph.Filter.Function.Collection
import FeatureGraph.Filter.Function.Moment
import FeatureGraph.Filter.Function.Text
import FeatureGraph.Filter.Vocabulary

/-! # Functions in filters

A function that is known has a least and a greatest number of arguments and one way to be written; any other
function keeps its name and arguments. -/
namespace FeatureGraph.Filter

/-- A known function that is written as a call: its name, its other names, the numbers of arguments it
takes. -/
structure Signature where
  name : String
  others : List String := []
  least : Nat := 1
  most : Option Nat := some 1
  isAggregate : Bool := false

/-- The known functions on numbers that are written as calls with all their arguments. -/
def numberSignatures : List Signature :=
  [{ name := "ABS" }, { name := "ACOS" }, { name := "ACOSH" }, { name := "ASIN" }, { name := "ASINH" },
    { name := "ATAN", most := some 2 }, { name := "ATANH" }, { name := "ATAN2", least := 2, most := some 2 },
    { name := "CBRT" }, { name := "COS" }, { name := "COSH" }, { name := "COT" }, { name := "COTH" },
    { name := "CSC" }, { name := "CSCH" }, { name := "DEGREES" }, { name := "EXP" }, { name := "LN" },
    { name := "RADIANS" }, { name := "SEC" }, { name := "SECH" }, { name := "SIGN", others := ["SIGNUM"] },
    { name := "SIN" }, { name := "SINH" }, { name := "SQRT" }, { name := "TAN" }, { name := "TANH" },
    { name := "LOG", most := some 2 }, { name := "POWER", others := ["POW"], least := 2, most := some 2 },
    { name := "TRUNC", others := ["TRUNCATE"], most := some 2 }, { name := "PI", least := 0, most := some 0 },
    { name := "COALESCE", others := ["IFNULL", "NVL"], most := none },
    { name := "NULLIF", least := 2, most := some 2 }, { name := "GREATEST", most := none },
    { name := "LEAST", most := none }, { name := "RANDOM", others := ["RAND"], least := 0 },
    { name := "IS_NAN", others := ["ISNAN"] }, { name := "IS_INF", others := ["ISINF"] },
    { name := "WIDTH_BUCKET", least := 2, most := some 5 },
    { name := "ST_POINT", others := ["ST_MAKEPOINT"], least := 2, most := some 3 },
    { name := "ST_DISTANCE", least := 2, most := some 3 }]

/-- The known functions on texts that are written as calls with all their arguments. -/
def textSignatures : List Signature :=
  [{ name := "LOWER", others := ["LCASE"] }, { name := "ASCII", others := ["UNICODE"] }, { name := "REVERSE" },
    { name := "LENGTH", others := ["LEN", "CHAR_LENGTH", "CHARACTER_LENGTH"], most := some 3 },
    { name := "BIT_LENGTH" }, { name := "BYTE_LENGTH" }, { name := "MD5" }, { name := "SHA", others := ["SHA1"] },
    { name := "SOUNDEX" }, { name := "REPEAT", least := 2, most := some 2 },
    { name := "REPLACE", least := 2, most := some 3 }, { name := "TRANSLATE", least := 3, most := some 3 },
    { name := "LEFT", least := 2, most := some 3 }, { name := "RIGHT", least := 2, most := some 3 },
    { name := "CONCAT", most := none }, { name := "CONCAT_WS", most := none },
    { name := "CONTAINS", least := 2, most := some 3 },
    { name := "STARTS_WITH", others := ["STARTSWITH"], least := 2, most := some 2 },
    { name := "ENDS_WITH", others := ["ENDSWITH"], least := 2, most := some 2 },
    { name := "STUFF", others := ["INSERT"], least := 4, most := some 4 },
    { name := "ENCODE", least := 2, most := some 2 }, { name := "TO_BASE64" }, { name := "FROM_BASE64" },
    { name := "UNHEX", most := some 2 }, { name := "TO_NUMBER", most := some 6 },
    { name := "SPLIT", least := 2, most := some 4 }, { name := "SPLIT_PART", most := some 3 },
    { name := "STRING_TO_ARRAY", others := ["SPLIT_BY_STRING", "STRTOK_TO_ARRAY"], most := some 3 },
    { name := "SUBSTRING_INDEX", least := 3, most := some 3 },
    { name := "REGEXP_COUNT", least := 2, most := some 4 }, { name := "REGEXP_REPLACE", least := 2, most := some 7 },
    { name := "REGEXP_EXTRACT", least := 2, most := some 7 }, { name := "REGEXP_INSTR", least := 2, most := some 7 },
    { name := "TYPEOF" }]

/-- The known functions on moments that are written as calls with all their arguments. -/
def momentSignatures : List Signature :=
  [{ name := "DAY_OF_MONTH", others := ["DAYOFMONTH"] }, { name := "DAY_OF_WEEK", others := ["DAYOFWEEK"] },
    { name := "DAY_OF_YEAR", others := ["DAYOFYEAR"] }, { name := "WEEK_OF_YEAR", others := ["WEEKOFYEAR"] },
    { name := "DAYOFWEEK_ISO", others := ["ISODOW"] }, { name := "CURRENT_TIME", least := 0 },
    { name := "CURRENT_DATABASE", least := 0, most := some 0 }, { name := "DAYNAME", most := some 2 },
    { name := "MONTHNAME", most := some 2 }, { name := "ADD_MONTHS", least := 2, most := some 3 },
    { name := "MONTHS_BETWEEN", least := 2, most := some 3 }, { name := "NEXT_DAY", least := 2, most := some 2 },
    { name := "DATE_BIN", least := 2, most := some 4 }, { name := "MAKE_INTERVAL", least := 0, most := some 7 },
    { name := "DATE_FROM_PARTS", others := ["DATEFROMPARTS"], most := some 4 },
    { name := "MAKE_TIME", others := ["TIME_FROM_PARTS", "TIMEFROMPARTS"], least := 3, most := some 6 },
    { name := "MAKE_TIMESTAMP", others := ["TIMESTAMP_FROM_PARTS", "TIMESTAMPFROMPARTS"], most := some 11 },
    { name := "DATETIME", most := some 2 }, { name := "TIME", least := 0, most := some 2 },
    { name := "TIMESTAMP", least := 0, most := some 4 }]

/-- The known functions on arrays and documents that are written as calls with all their arguments. -/
def collectionSignatures : List Signature :=
  [{ name := "ARRAY_TO_STRING", others := ["ARRAY_JOIN"], least := 2, most := some 3 },
    { name := "ARRAY_APPEND", least := 2, most := some 2 }, { name := "ARRAY_PREPEND", least := 2, most := some 2 },
    { name := "ARRAY_POSITION", least := 2, most := some 3 }, { name := "ARRAY_REMOVE", least := 2, most := some 3 },
    { name := "ARRAY_REVERSE" }, { name := "ARRAY_SORT" }, { name := "ARRAY_DISTINCT", most := some 2 },
    { name := "ARRAY_FIRST" }, { name := "ARRAY_LAST" }, { name := "ARRAY_MAX" }, { name := "ARRAY_MIN" },
    { name := "ARRAY_INTERSECT", others := ["ARRAY_INTERSECTION"], most := none },
    { name := "ARRAY_SLICE", least := 2, most := some 4 }, { name := "ARRAY_SUM", most := some 2 },
    { name := "LIST", most := none }, { name := "TRANSFORM", least := 2, most := some 2 }]

/-- The known functions over groups or windows of rows that are written as calls with all their arguments. -/
def groupSignatures : List Signature :=
  let all : List Signature := [{ name := "SUM" }, { name := "AVG" }, { name := "COUNT", least := 0, most := none },
    { name := "STDDEV", others := ["STDEV"] }, { name := "STDDEV_SAMP" }, { name := "STDDEV_POP" },
    { name := "VAR_SAMP", others := ["VARIANCE", "VARIANCE_SAMP"] },
    { name := "VAR_POP", others := ["VARIANCE_POP"] },
    { name := "BOOL_AND", others := ["LOGICAL_AND", "BOOLAND_AGG"] },
    { name := "BOOL_OR", others := ["LOGICAL_OR", "BOOLOR_AGG"] },
    { name := "BIT_AND", others := ["BITWISE_AND_AGG"] }, { name := "BIT_OR", others := ["BITWISE_OR_AGG"] },
    { name := "BIT_XOR", others := ["BITWISE_XOR_AGG"] },
    { name := "ANY_VALUE" }, { name := "MEDIAN" }, { name := "MODE", least := 0, most := some 2 },
    { name := "FIRST", most := some 2 }, { name := "LAST", most := some 2 },
    { name := "FIRST_VALUE" }, { name := "LAST_VALUE" }, { name := "NTH_VALUE", least := 2, most := some 3 },
    { name := "LAG", most := some 3 }, { name := "LEAD", most := some 3 },
    { name := "ROW_NUMBER", least := 0 }, { name := "NTILE", least := 0 },
    { name := "GROUPING", most := none }, { name := "QUANTILE", least := 2, most := some 2 },
    { name := "APPROX_DISTINCT", others := ["APPROX_COUNT_DISTINCT"], most := some 2 },
    { name := "CORR", least := 2, most := some 3 }, { name := "COVAR_SAMP", least := 2, most := some 2 },
    { name := "COVAR_POP", least := 2, most := some 2 }]
  all.map fun s => { s with isAggregate := true }

/-- The known functions that are written as calls with all their arguments. -/
def signatures : List Signature :=
  numberSignatures ++ textSignatures ++ momentSignatures ++ collectionSignatures ++ groupSignatures

def Signature.admits (s : Signature) (count : Nat) : Bool := s.least ≤ count && s.most.all (count ≤ ·)

namespace Expr

def isDouble (e : Expr) : Bool :=
  match e.bare with
  | number text => text.any fun c => c == '.' || c == 'e' || c == 'E'
  | form .toDouble .. => true
  | form .sign _ [(inner, _)] | form .group _ [(inner, _)] =>
    match inner.bare with
    | number text => text.any fun c => c == '.' || c == 'e' || c == 'E'
    | form .toDouble .. => true
    | _ => false
  | _ => false

end Expr

/-- A call of a known function on numbers or conditions: nothing where no such function is known, and no
expression where its arguments are refused. -/
def valueCall? (name : String) (arguments : List Expr) : Option (Option Expr) :=
  let count := arguments.length
  let within (least most : Nat) (e : Expr) : Option (Option Expr) :=
    some (if least ≤ count && count ≤ most then some e else none)
  let a := arguments.getD 0 .null
  let b := arguments.getD 1 .null
  /- One value stands for a group, several for the extreme of them. -/
  let extreme (others : String) : Option (Option Expr) :=
    some (if count = 0 then none
      else if count = 1 then some (.enclosed .aggregate (name.toList ++ ['(']) arguments [')'])
      else some (Expr.call others arguments))
  match name with
  | "LOG2" => within 0 2 (Expr.call "LOG" (.number ['2'] :: arguments.take 1))
  | "LOG10" => within 0 2 (Expr.call "LOG" (.number "10".toList :: arguments.take 1))
  | "POW" | "POWER" => within 2 2 (.enclosed .operation "POWER(".toList arguments [')'])
  | "MOD" => some (if 2 ≤ count then some (.binary .modulo a.wrapped b.wrapped []) else none)
  | "DIV" => some (some ((Expr.enclosed .operation "DIV(".toList (arguments.take 2) [')']).cast "DECIMAL".toList))
  | "MIN" => extreme "LEAST"
  | "MAX" => extreme "GREATEST"
  | "ROUND" =>
    let first := if 2 ≤ count && a.isDouble then a.cast "DECIMAL".toList else a
    within 1 4 (Expr.call "ROUND" (first :: (arguments.drop 1).take 1))
  | "CEILING" => within 1 3 (Expr.call "CEIL" (arguments.take 2))
  | "IIF" => within 2 3 (Expr.choice [(a, b)] arguments[2]?)
  | "NVL2" => within 2 3 (Expr.choice [((Expr.binary .is a.wrapped .null []).negated, b)] arguments[2]?)
  | "XOR" =>
    some (if count < 2 then none
      else some (.form .operation ['('] [(a, " AND (NOT ".toList), (b, ")) OR ((NOT ".toList), (a, ") AND ".toList),
        (b, [')'])]))
  | "EXISTS" => within 1 2 (.form .call "EXISTS(".toList [(a, [')'])])
  | "UUID" | "GEN_RANDOM_UUID" | "GENERATE_UUID" => within 0 2 (Expr.call "GEN_RANDOM_UUID" [])
  | _ => none

/-- A call of a known function: nothing where no such function is known, and no expression where the function
refuses its arguments. -/
def knownCall? (name : String) (arguments : List Expr) : Option (Option Expr) :=
  let special := (momentCall? name arguments).orElse fun _ => (textCall? name arguments).orElse fun _ =>
    (collectionCall? name arguments).orElse fun _ => valueCall? name arguments
  special.orElse fun _ =>
    (signatures.find? fun s => s.name == name || s.others.contains name).map fun s =>
      if s.admits arguments.length then
        some (.enclosed (if s.isAggregate then .aggregate else .call) (s.name.toList ++ ['(']) arguments [')'])
      else none

end FeatureGraph.Filter
