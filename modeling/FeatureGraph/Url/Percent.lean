import FeatureGraph.Text.Hex
import FeatureGraph.Text.Split
import FeatureGraph.Text.Utf8

/-! # Text in URLs

A byte that is not unreserved is written as a percent sign and two digits, text as its bytes in UTF-8. A
query is a list of names and values. -/
namespace FeatureGraph.Url

/-- Letters, digits and four marks stand for themselves. -/
def isUnreserved (b : UInt8) : Bool :=
  let n := b.toNat
  (0x61 ≤ n && n ≤ 0x7A) || (0x41 ≤ n && n ≤ 0x5A) || (0x30 ≤ n && n ≤ 0x39) ||
    n == 0x5F || n == 0x2E || n == 0x2D || n == 0x7E

inductive Blank where
  | plus
  | percent
  deriving DecidableEq, Repr

def escapeByte (blank : Blank) (b : UInt8) : List Char :=
  if isUnreserved b then [Char.ofNat b.toNat]
  else if b = 0x20 ∧ blank = .plus then ['+']
  else ['%', Text.Hex.digitUpper (b.toNat / 16), Text.Hex.digitUpper (b.toNat % 16)]

def escape (blank : Blank) (s : String) : List Char := (Text.Utf8.encode s).flatMap (escapeByte blank)

/-- The bytes of a text. A percent sign without two digits stands for itself. -/
def unescape : List Char → List UInt8
  | '%' :: a :: b :: r =>
    match Text.Hex.value? a, Text.Hex.value? b with
    | some high, some low => .ofNat (16 * high + low) :: unescape r
    | _, _ => 0x25 :: unescape (a :: b :: r)
  | c :: r => Text.Utf8.encodeChar c ++ unescape r
  | [] => []

def decode (cs : List Char) : String :=
  Text.Utf8.decodeLossy (unescape (cs.map fun c => if c = '+' then ' ' else c))

def query (blank : Blank) (ps : List (String × String)) : List Char :=
  ['&'].intercalate (ps.map fun p => escape blank p.1 ++ '=' :: escape blank p.2)

/-- The name and the value in a part of a query; the value is empty where no sign parts them. -/
def pair (part : List Char) : String × String :=
  (decode (part.takeWhile (· ≠ '=')), decode ((part.dropWhile (· ≠ '=')).drop 1))

def pairs (query : List Char) : List (String × String) :=
  ((Text.splitAt '&' query).filter fun part => !part.isEmpty).map pair

def withoutFragment (url : List Char) : List Char := url.takeWhile (· ≠ '#')

/-- The path of a URL, decoded: what stands between the host and the question mark. -/
def path (url : List Char) : String :=
  let place := (withoutFragment url).takeWhile (· ≠ '?')
  let cs :=
    match place.dropWhile (· ≠ ':') with
    | ':' :: '/' :: '/' :: r => r.dropWhile (· ≠ '/')
    | _ => '/' :: place.dropWhile (· = '/')
  Text.Utf8.decodeLossy (unescape cs)

def queryOf (url : List Char) : List Char := ((withoutFragment url).dropWhile (· ≠ '?')).drop 1

def tokenMark : List Char := "token=".toList

/-- Writes stars in place of every token. -/
def redact (url : List Char) : List Char :=
  match url with
  | [] => []
  | c :: r =>
    if tokenMark.isPrefixOf (c :: r) then
      tokenMark ++ "***".toList ++ redact ((r.drop 5).dropWhile (· ≠ '&'))
    else c :: redact r
termination_by url.length
decreasing_by
  · have := (List.dropWhile_sublist (fun c : Char => decide (c ≠ '&')) (l := r.drop 5)).length_le
    simp only [List.length_drop, List.length_cons] at *
    omega
  · simp

end FeatureGraph.Url
