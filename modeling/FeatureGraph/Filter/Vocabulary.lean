import FeatureGraph.Text.LetterCase

/-! # The words and symbols of the filter language

A word with a fixed meaning is a keyword. Several keywords may be one word in different spellings; the
usual spelling stands for all of them. Most keywords may still name a column; the reserved ones may not. -/
namespace FeatureGraph.Filter

/-- Keywords, apart from the names of types, in their usual spelling. -/
def keywords : List String :=
  ["ALL", "ALTER", "ANALYZE", "AND", "ANTI", "ANY", "APPLY", "AS", "ASC", "ASOF", "AUTO_INCREMENT", "BEGIN",
    "BETWEEN", "CACHE", "CASE", "COLLATE", "COLUMN", "COMMENT", "COMMIT", "CONSTRAINT", "COPY", "CREATE", "CROSS",
    "CUBE", "CURRENT_CATALOG", "CURRENT_DATE", "CURRENT_ROLE", "CURRENT_SCHEMA", "CURRENT_TIME",
    "CURRENT_TIMESTAMP", "CURRENT_USER", "DATABASE", "DEFAULT", "DELETE", "DESC", "DESCRIBE", "DISTINCT", "DROP",
    "ELSE", "END", "ESCAPE", "EXCEPT", "EXECUTE", "EXISTS", "FALSE", "FETCH", "FILE", "FILTER", "FIRST", "FOR",
    "FORMAT", "FROM", "FULL", "FUNCTION", "GLOB", "GRANT", "HAVING", "ILIKE", "IN", "INDEX", "INNER", "INOUT",
    "INSERT", "INTERSECT", "INTO", "IS", "ISNULL", "JOIN", "KEEP", "KILL", "LATERAL", "LEFT", "LIKE", "LIMIT",
    "LOAD", "LOCALTIME", "LOCALTIMESTAMP", "LOCK", "MERGE", "NAMESPACE", "NATURAL", "NEXT", "NOT", "NOTNULL",
    "OFFSET", "ON", "ONLY", "OPERATOR", "OR", "ORDINALITY", "OUT", "OUTER", "OVER", "OVERLAPS", "OVERWRITE",
    "PARTITION", "PERCENT", "PIVOT", "PRAGMA", "PROCEDURE", "QUALIFY", "RECURSIVE", "REFERENCES", "RENAME",
    "REPLACE", "RETURNING", "REVOKE", "RIGHT", "RLIKE", "ROLLBACK", "ROLLUP", "ROW", "ROWS", "SCHEMA", "SELECT",
    "SEMI", "SEQUENCE", "SESSION", "SESSION_USER", "SET", "SETTINGS", "SHOW", "SOME", "STRAIGHT_JOIN", "TABLE",
    "TABLESAMPLE", "TEMPORARY", "THEN", "TRIGGER", "TRUE", "TRUNCATE", "UNCACHE", "UNION", "UNNEST", "UNPIVOT",
    "UPDATE", "USE", "USING", "VALUES", "VARIADIC", "VIEW", "VOLATILE", "WHEN", "WHERE", "WINDOW", "WITH", "XOR"]

def typeWords : List String :=
  ["ARRAY", "BIGDECIMAL", "BIGINT", "BIGNUM", "BIGSERIAL", "BINARY", "BIT", "BOOLEAN", "BPCHAR", "CHAR", "DATE",
    "DATEMULTIRANGE", "DATERANGE", "DATETIME", "DECFLOAT", "DECIMAL", "DECIMAL128", "DECIMAL256", "DECIMAL32",
    "DECIMAL64", "DOUBLE", "ENUM", "FLOAT", "GEOGRAPHY", "GEOMETRY", "HSTORE", "INET", "INT", "INT128", "INT256",
    "INT4MULTIRANGE", "INT4RANGE", "INT8MULTIRANGE", "INT8RANGE", "INTERVAL", "JSON", "JSONB", "LIST", "LONGBLOB",
    "LONGTEXT", "MAP", "MEDIUMBLOB", "MEDIUMINT", "MEDIUMTEXT", "MONEY", "NAME", "NCHAR", "NULL", "NULLABLE",
    "NUMMULTIRANGE", "NUMRANGE", "NVARCHAR", "OBJECT", "OID", "POINT", "RANGE", "SERIAL", "SMALLINT",
    "SMALLSERIAL", "STRUCT", "TEXT", "TIME", "TIMESTAMP", "TIMESTAMPLTZ", "TIMESTAMPNTZ", "TIMESTAMPTZ", "TIMETZ",
    "TIME_NS", "TINYBLOB", "TINYINT", "TINYTEXT", "TSMULTIRANGE", "TSRANGE", "TSTZMULTIRANGE", "TSTZRANGE",
    "UINT", "UINT128", "UINT256", "UNKNOWN", "UUID", "VARBINARY", "VARCHAR", "VARIANT", "VECTOR", "XML"]

def spellings : List (String × String) :=
  [("AUTOINCREMENT", "AUTO_INCREMENT"), ("CALL", "COMMAND"), ("DECLARE", "COMMAND"), ("DO", "COMMAND"),
    ("EXEC", "COMMAND"), ("EXPLAIN", "COMMAND"), ("OPTIMIZE", "COMMAND"), ("PREPARE", "COMMAND"),
    ("REFRESH", "COMMAND"), ("REINDEX", "COMMAND"), ("RESET", "COMMAND"), ("VACUUM", "COMMAND"),
    ("PARTITIONED_BY", "PARTITION BY"), ("REGEXP", "RLIKE"), ("TEMP", "TEMPORARY"),
    ("BIGNUMERIC", "BIGDECIMAL"), ("BLOB", "VARBINARY"), ("BOOL", "BOOLEAN"), ("BYTE", "TINYINT"),
    ("BYTEA", "VARBINARY"), ("CHARACTER", "CHAR"), ("CLOB", "TEXT"), ("CSTRING", "OID"), ("DEC", "DECIMAL"),
    ("FIXED", "DECIMAL"), ("FLOAT", "DOUBLE"), ("FLOAT4", "FLOAT"), ("FLOAT8", "DOUBLE"), ("HUGEINT", "INT128"),
    ("INT1", "TINYINT"), ("INT16", "SMALLINT"), ("INT2", "SMALLINT"), ("INT32", "INT"), ("INT4", "INT"),
    ("INT64", "BIGINT"), ("INT8", "BIGINT"), ("INTEGER", "INT"), ("LONG", "BIGINT"), ("LONGVARCHAR", "TEXT"),
    ("NUMBER", "DECIMAL"), ("NUMERIC", "DECIMAL"), ("NVARCHAR2", "NVARCHAR"), ("REAL", "FLOAT"),
    ("REGCLASS", "OID"), ("REGCOLLATION", "OID"), ("REGCONFIG", "OID"), ("REGDICTIONARY", "OID"),
    ("REGNAMESPACE", "OID"), ("REGOPER", "OID"), ("REGOPERATOR", "OID"), ("REGPROC", "OID"),
    ("REGPROCEDURE", "OID"), ("REGROLE", "OID"), ("REGTYPE", "OID"), ("SHORT", "SMALLINT"), ("STR", "TEXT"),
    ("STRING", "TEXT"), ("TIMESTAMP_LTZ", "TIMESTAMPLTZ"), ("TIMESTAMP_NTZ", "TIMESTAMPNTZ"),
    ("UHUGEINT", "UINT128"), ("VARCHAR2", "VARCHAR")]

/-- The usual spelling of a word in upper case, if it is a keyword. -/
def keyword? (word : String) : Option String :=
  match spellings.lookup word with
  | some usual => some usual
  | none => if keywords.contains word || typeWords.contains word then some word else none

def phrases : List (String × String) :=
  [("CHARACTER VARYING", "VARCHAR"), ("CHARACTER SET", "CHARACTER SET"), ("CHAR VARYING", "VARCHAR"),
    ("CLUSTER BY", "CLUSTER BY"), ("CONNECT BY", "CONNECT BY"), ("DISTRIBUTE BY", "DISTRIBUTE BY"),
    ("DOUBLE PRECISION", "DOUBLE"), ("FOREIGN KEY", "FOREIGN KEY"), ("FOR TIMESTAMP", "FOR TIMESTAMP"),
    ("FOR VERSION", "FOR VERSION"), ("GROUPING SETS", "GROUPING SETS"), ("GROUP BY", "GROUP BY"),
    ("ORDER BY", "ORDER BY"), ("PARTITIONED BY", "PARTITION BY"), ("PARTITION BY", "PARTITION BY"),
    ("PRIMARY KEY", "PRIMARY KEY"), ("SIMILAR TO", "SIMILAR TO"), ("SORT BY", "SORT BY"),
    ("START WITH", "START WITH")]

/-- Symbols of more than one character or spelling, and their usual spelling: a longer symbol comes before
the shorter ones that begin it. -/
def symbols : List (String × String) :=
  [("~~~", "GLOB"), ("~~*", "ILIKE"), ("~~", "LIKE"), ("~*", "~*"), ("~", "RLIKE"), ("<=>", "<=>"), ("<->", "<->"),
    ("->>", "->>"), ("->", "->"), ("#>>", "#>>"), ("#>", "#>"), ("#-", "#-"), ("-|-", "-|-"), ("||/", "||/"),
    ("||", "||"), ("|/", "|/"), ("|>", "|>"), ("?::", "?::"), ("??", "??"), ("?&", "?&"), ("?|", "?|"), ("==", "="),
    ("=>", "=>"), ("::", "::"), (":=", ":="), (">=", ">="), ("<=", "<="), ("<>", "<>"), ("<@", "<@"), ("!=", "<>"),
    ("!", "NOT"), ("&&", "&&"), ("&<", "&<"), ("&>", "&>"), ("@@", "@@"), ("@>", "@>")]

/-- Keywords that name no column. -/
def reserved : List String :=
  ["ALTER", "AND", "AS", "BETWEEN", "CREATE", "CROSS", "DISTINCT", "DROP", "ELSE", "EXCEPT", "FETCH", "FOR", "FROM",
    "GLOB", "GRANT", "HAVING", "ILIKE", "IN", "INNER", "INSERT", "INTERSECT", "INTO", "JOIN", "LATERAL", "LIKE",
    "NOT", "NOTNULL", "ON", "ONLY", "OR", "OUT", "OUTER", "QUALIFY", "RETURNING", "RLIKE", "SELECT",
    "STRAIGHT_JOIN", "TABLESAMPLE", "THEN", "UNION", "USING", "VALUES", "VARIADIC", "WHEN", "WHERE", "WITH", "XOR",
    "CHARACTER SET", "CLUSTER BY", "CONNECT BY", "DISTRIBUTE BY", "FOR TIMESTAMP", "FOR VERSION", "GROUPING SETS",
    "GROUP BY", "ORDER BY", "PARTITION BY", "PRIMARY KEY", "SIMILAR TO", "SORT BY", "START WITH"]

/-- Keywords besides the names of types that may name a function. -/
def callable : List String :=
  ["ALL", "ANY", "COLLATE", "COMMAND", "CURRENT_CATALOG", "CURRENT_DATE", "CURRENT_ROLE", "CURRENT_SCHEMA",
    "CURRENT_TIME", "CURRENT_TIMESTAMP", "CURRENT_USER", "EXISTS", "FILTER", "FIRST", "FORMAT", "GLOB", "ILIKE",
    "INDEX", "INSERT", "ISNULL", "LEFT", "LIKE", "LOCALTIME", "LOCALTIMESTAMP", "MERGE", "NEXT", "OFFSET",
    "PRIMARY KEY", "REPLACE", "RIGHT", "RLIKE", "ROW", "SEQUENCE", "SESSION_USER", "SOME", "TABLE", "TRUNCATE",
    "UNNEST", "WINDOW", "XOR"]

/-- Keywords and symbols that never stand for a name, not even after a point or `AS`. -/
def neverNames : List String :=
  ["(", ")", "[", "]", "\x7b", "\x7d", "&", "^", ":", ",", "-", ".", "=", ">", "<", "%", "NOT", "/", "\\", "+",
    ";", "*", "?", "@", "#", "|", "SELECT", "UNKNOWN"]

/-- Names of the units of an interval, apart from those with a blank. -/
def intervalUnits : List String :=
  ["Y", "YY", "YYY", "YYYY", "YR", "YEAR", "YEARS", "YRS", "MM", "MON", "MONS", "MONTH", "MONTHS", "D", "DD", "DAY",
    "DAYS", "DAYOFMONTH", "WEEKDAY", "DOW", "DW", "DAYOFWEEK", "WEEKDAY_ISO", "DOW_ISO", "DW_ISO",
    "DAYOFWEEK_ISO", "DAYOFWEEKISO", "DOY", "DY", "DAYOFYEAR", "W", "WK", "WEEK", "WEEKOFYEAR", "WOY", "WY",
    "WEEK_ISO", "WEEKOFYEARISO", "WEEKOFYEAR_ISO", "WEEKISO", "Q", "QTR", "QTRS", "QUARTER", "QUARTERS", "H", "HH",
    "HR", "HOUR", "HOURS", "HRS", "M", "MI", "MIN", "MINUTE", "MINUTES", "MINS", "S", "SEC", "SECOND", "SECONDS",
    "SECS", "MS", "MSEC", "MSECS", "MSECOND", "MSECONDS", "MILLISEC", "MILLISECS", "MILLISECON", "MILLISECOND",
    "MILLISECONDS", "US", "USEC", "USECS", "MICROSEC", "MICROSECS", "USECOND", "USECONDS", "MICROSECOND",
    "MICROSECONDS", "NS", "NSEC", "NANOSEC", "NSECOND", "NSECONDS", "NANOSECS", "NANOSECOND", "EPOCH",
    "EPOCH_SECOND", "EPOCH_SECONDS", "EPOCH_MILLISECOND", "EPOCH_MILLISECONDS", "EPOCH_MICROSECOND",
    "EPOCH_MICROSECONDS", "EPOCH_NANOSECOND", "EPOCH_NANOSECONDS", "TZH", "TIMEZONE_HOUR", "TZM",
    "TIMEZONE_MINUTE", "DEC", "DECADE", "DECADES", "DECS", "MIL", "MILLENIUM", "MILLENIA", "MILS", "C", "CENT",
    "CENTS", "CENTURY", "CENTURIES"]

end FeatureGraph.Filter
