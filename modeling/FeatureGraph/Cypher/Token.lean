import FeatureGraph.Fault
import FeatureGraph.Text.Blank

/-! # Filter text as tokens

A literal stands between two single or two double quotes; inside it a doubled quote stands for one. The
texts of the tokens concatenate to the text they were taken from. -/
namespace FeatureGraph.Cypher

inductive TokenKind where
  | string
  | quoted
  | word
  | space
  | opening
  | closing
  | comma
  | other
  deriving DecidableEq, Repr

def TokenKind.name : TokenKind → String
  | string => "string"
  | quoted => "quoted"
  | word => "word"
  | space => "space"
  | opening => "open"
  | closing => "close"
  | comma => "comma"
  | other => "other"

structure Token where
  kind : TokenKind
  text : List Char
  deriving DecidableEq, Repr

/-- How many characters a literal takes after its opening quote, its closing quote included; none where
it is left open. -/
def literalSize? (quote : Char) : List Char → Option Nat
  | [] => none
  | [c] => if c = quote then some 1 else none
  | c :: d :: r =>
    if c ≠ quote then (literalSize? quote (d :: r)).map (· + 1)
    else if d = quote then (literalSize? quote r).map (· + 2)
    else some 1

/-- Where an open literal is at fault: at the second quote of its last pair, or else at its opening
quote. Positions count from `here`. -/
def openFault (quote : Char) (fault here : Nat) : List Char → Nat
  | c :: d :: r =>
    if c = quote ∧ d = quote then openFault quote (here + 1) (here + 2) r
    else openFault quote fault (here + 1) (d :: r)
  | _ => fault

def isWordStart (c : Char) : Bool :=
  ('A' ≤ c && c ≤ 'Z') || ('a' ≤ c && c ≤ 'z') || c == '_'

def isWordPart (c : Char) : Bool := isWordStart c || ('0' ≤ c && c ≤ '9') || c == '$'

/-- The kind of the token that begins with a character, and how many more characters it takes; none
for a literal that is left open. -/
def lexeme? (c : Char) (rest : List Char) : Option (TokenKind × Nat) :=
  if c = '\'' then (literalSize? c rest).map (TokenKind.string, ·)
  else if c = '"' then (literalSize? c rest).map (TokenKind.quoted, ·)
  else if isWordStart c then some (.word, (rest.takeWhile isWordPart).length)
  else if Text.isBlank c then some (.space, (rest.takeWhile Text.isBlank).length)
  else if c = '(' then some (.opening, 0)
  else if c = ')' then some (.closing, 0)
  else if c = ',' then some (.comma, 0)
  else some (.other, 0)

/-- The tokens of a text that starts at a position, or the position of an open quote. -/
def scan (here : Nat) : List Char → Except Nat (List Token)
  | [] => .ok []
  | c :: r =>
    match lexeme? c r with
    | none => .error (openFault c here (here + 1) r)
    | some (kind, more) =>
      (scan (here + 1 + more) (r.drop more)).map (⟨kind, c :: r.take more⟩ :: ·)
termination_by cs => cs.length
decreasing_by
  rw [List.length_drop, List.length_cons]
  omega

def tokens (cs : List Char) : Except Failure (List Token) :=
  (scan 0 cs).mapError fun (offset : Nat) =>
    .of .filterParse "unterminated quoted text in where clause" [("offset", .int offset)]

/-- No character of the text is lost. -/
theorem text_of_scan {here : Nat} {cs : List Char} {ts : List Token} (h : scan here cs = .ok ts) :
    ts.flatMap Token.text = cs := by
  induction here, cs using scan.induct generalizing ts with
  | case1 here => simp only [scan, Except.ok.injEq] at h; simp [← h]
  | case2 here c r hl => simp [scan, hl] at h
  | case3 here c r kind more hl ih =>
    rw [scan, hl] at h
    cases hs : scan (here + 1 + more) (r.drop more) with
    | error e => simp [hs, Except.map] at h
    | ok us =>
      simp only [hs, Except.map, Except.ok.injEq] at h
      subst h
      simp [ih hs]

end FeatureGraph.Cypher
