import FeatureGraph.Fault
import FeatureGraph.Text.Hex

/-! # Reading JSON text

The grammar is that of RFC 8259, and the words `NaN`, `Infinity` and `-Infinity` are numbers too. Of
two members with one name the last counts. A surrogate without its partner reads as U+FFFD. A reader may be
limited in the digits of a whole number, and in how many lists and objects stand within each other. -/
namespace FeatureGraph.Json

/-- What a reader allows; no limit where none is given. -/
structure Limits where
  digits : Option Nat := none
  depth : Option Nat := none
  deriving DecidableEq, Repr

inductive Unread where
  | notJson
  /-- A list or an object within too many others. -/
  | tooDeep (type : String)
  deriving DecidableEq, Repr

def Limits.within (type : String) (l : Limits) : Except Unread Limits :=
  match l.depth with
  | none => .ok l
  | some 0 => .error (.tooDeep type)
  | some (n + 1) => .ok { l with depth := some n }

def orNotJson {α : Type} (x : Option α) : Except Unread α := x.elim (.error .notJson) .ok

def isSpace (c : Char) : Bool := c == ' ' || c == '\t' || c == '\n' || c == '\r'

def skipSpace (cs : List Char) : List Char := cs.dropWhile isSpace

def unit? : List Char → Option (Nat × List Char)
  | a :: b :: c :: d :: r => do
    let w ← Text.Hex.value? a
    let x ← Text.Hex.value? b
    let y ← Text.Hex.value? c
    let z ← Text.Hex.value? d
    return (((w * 16 + x) * 16 + y) * 16 + z, r)
  | _ => none

def lowSurrogate? : List Char → Option (Nat × List Char)
  | '\\' :: 'u' :: r => do
    let (n, r) ← unit? r
    if 0xDC00 ≤ n && n < 0xE000 then some (n, r) else none
  | _ => none

/-- The character of a `\u` escape, two escapes for a surrogate pair. -/
def unicodeEscape? (cs : List Char) : Option (Char × List Char) := do
  let (n, r) ← unit? cs
  if 0xD800 ≤ n && n < 0xDC00 then
    match lowSurrogate? r with
    | some (m, r') => some (Char.ofNat (0x10000 + (n - 0xD800) * 0x400 + (m - 0xDC00)), r')
    | none => some (Char.ofNat 0xFFFD, r)
  else if 0xDC00 ≤ n && n < 0xE000 then some (Char.ofNat 0xFFFD, r)
  else some (Char.ofNat n, r)

def simpleEscape? : Char → Option Char
  | '"' => some '"'
  | '\\' => some '\\'
  | '/' => some '/'
  | 'b' => some '\x08'
  | 'f' => some '\x0c'
  | 'n' => some '\n'
  | 'r' => some '\r'
  | 't' => some '\t'
  | _ => none

/-- The rest of a text after its opening quote; the characters read so far come in reverse. -/
def textBody : Nat → List Char → List Char → Option (String × List Char)
  | 0, _, _ => none
  | _ + 1, _, [] => none
  | fuel + 1, acc, c :: r =>
    if c == '"' then some (String.ofList acc.reverse, r)
    else if c.toNat < 0x20 then none
    else if c == '\\' then
      match r with
      | 'u' :: r' => (unicodeEscape? r').bind (fun (d, r'') => textBody fuel (d :: acc) r'')
      | e :: r' => (simpleEscape? e).bind (fun d => textBody fuel (d :: acc) r')
      | [] => none
    else textBody fuel (c :: acc) r

def text? (cs : List Char) : Option (String × List Char) := textBody (cs.length + 1) [] cs

def isAsciiDigit (c : Char) : Bool := '0' ≤ c && c ≤ '9'

def digitsOf (cs : List Char) : Nat := cs.foldl (fun n c => 10 * n + (c.toNat - 0x30)) 0

/-- A point with at least one digit. -/
def fraction? : List Char → Option (List Char × List Char)
  | '.' :: r =>
    let ds := r.takeWhile isAsciiDigit
    if ds.isEmpty then none else some (ds, r.dropWhile isAsciiDigit)
  | _ => none

/-- An exponent mark, a sign and at least one digit. -/
def exponentPart? : List Char → Option (Int × List Char)
  | c :: r =>
    if c == 'e' || c == 'E' then
      let (negative, body) := Number.signed r
      let ds := body.takeWhile isAsciiDigit
      if ds.isEmpty then none
      else some (if negative then -(digitsOf ds : Int) else digitsOf ds, body.dropWhile isAsciiDigit)
    else none
  | [] => none

/-- A number without its sign. A number with a fraction or an exponent is floating-point. -/
def number? (l : Limits) (negative : Bool) (cs : List Char) : Option (Json × List Char) :=
  let (ds, r) :=
    match cs with
    | '0' :: r => (['0'], r)
    | _ => (cs.takeWhile isAsciiDigit, cs.dropWhile isAsciiDigit)
  if ds.isEmpty then none
  else
    match fraction? r, exponentPart? r with
    | some (fs, r'), _ =>
      let (e, r'') := (exponentPart? r').getD (0, r')
      some (.float (Number.Decimal.toFloat ⟨negative, digitsOf (ds ++ fs), e - fs.length⟩), r'')
    | none, some (e, r') => some (.float (Number.Decimal.toFloat ⟨negative, digitsOf ds, e⟩), r')
    | none, none =>
      if l.digits.any (· < ds.length) then none
      else some (.int (if negative then -(digitsOf ds : Int) else digitsOf ds), r)

def word? (w : String) (cs : List Char) : Option (List Char) :=
  if w.toList.isPrefixOf cs then some (cs.drop w.length) else none

def atom? (l : Limits) (cs : List Char) : Option (Json × List Char) :=
  ((word? "null" cs).map (null, ·)).orElse fun _ =>
  ((word? "true" cs).map (bool true, ·)).orElse fun _ =>
  ((word? "false" cs).map (bool false, ·)).orElse fun _ =>
  ((word? "NaN" cs).map (float Number.nan, ·)).orElse fun _ =>
  ((word? "Infinity" cs).map (float (Number.infinity false), ·)).orElse fun _ =>
  ((word? "-Infinity" cs).map (float (Number.infinity true), ·)).orElse fun _ =>
  match cs with
  | '-' :: r => number? l true r
  | _ => number? l false cs

mutual

/-- One value at the front of a text that starts with no space. Each step spends one unit of fuel. -/
def value (l : Limits) : Nat → List Char → Except Unread (Json × List Char)
  | 0, _ => .error .notJson
  | fuel + 1, cs =>
    match cs with
    | '"' :: r => (orNotJson (text? r)).map fun (s, r') => (text s, r')
    | '[' :: r => do
      let l ← l.within "array"
      match skipSpace r with
      | ']' :: r' => return (list [], r')
      | r' => items l fuel [] r'
    | '\x7b' :: r => do
      let l ← l.within "object"
      match skipSpace r with
      | '\x7d' :: r' => return (object [], r')
      | r' => members l fuel [] r'
    | _ => orNotJson (atom? l cs)

/-- The items of a list up to its closing bracket; those read so far come in reverse. -/
def items (l : Limits) : Nat → List Json → List Char → Except Unread (Json × List Char)
  | 0, _, _ => .error .notJson
  | fuel + 1, acc, cs => do
    let (v, r) ← value l fuel cs
    match skipSpace r with
    | ',' :: r' => items l fuel (v :: acc) (skipSpace r')
    | ']' :: r' => return (list (v :: acc).reverse, r')
    | _ => .error .notJson

def members (l : Limits) : Nat → List (String × Json) → List Char → Except Unread (Json × List Char)
  | 0, _, _ => .error .notJson
  | fuel + 1, acc, cs =>
    match cs with
    | '"' :: r => do
      let (name, r) ← orNotJson (text? r)
      match skipSpace r with
      | ':' :: r =>
        let (v, r) ← value l fuel (skipSpace r)
        match skipSpace r with
        | ',' :: r' => members l fuel (Assoc.put name v acc) (skipSpace r')
        | '\x7d' :: r' => return (object (Assoc.put name v acc), r')
        | _ => .error .notJson
      | _ => .error .notJson
    | _ => .error .notJson

end

def read (l : Limits) (s : String) : Except Unread Json := do
  let cs := s.toList
  let (v, r) ← value l (2 * cs.length + 2) (skipSpace cs)
  if (skipSpace r).isEmpty then return v else .error .notJson

/-- The value that a whole text holds without any limit, none where the text is no JSON. -/
def parse? (s : String) : Option Json := (read {} s).toOption

/-- The value that a text holds, none where it is no JSON or a whole number in it has too many digits. Each list and
object is read in a call of its own. -/
def loads (s : String) (calls : Nat := callLimit) : Except Defect (Option Json) :=
  match read ⟨some Number.digitLimit, some calls⟩ s with
  | .ok v => .ok (some v)
  | .error .notJson => .ok none
  | .error (.tooDeep type) => .error (.tooDeep s!" while decoding a JSON {type} from a unicode string")

end FeatureGraph.Json
