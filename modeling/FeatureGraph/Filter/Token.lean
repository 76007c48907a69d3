import FeatureGraph.Filter.Vocabulary
import FeatureGraph.Number.Integer
import FeatureGraph.Text.Blank
import FeatureGraph.Text.LetterCase

/-! # Tokens of the filter language

Blanks separate tokens. A remark, `-- …` to the end of the line or a nested `/* … */`, belongs to the
token before it on the same line, and otherwise to the token after it. -/
namespace FeatureGraph.Filter

inductive Kind where
  | name
  /-- A name in double quotes. -/
  | quoted
  /-- A text in single quotes. -/
  | string
  /-- A text between dollar signs. -/
  | block
  /-- A text in single quotes after an `N`. -/
  | national
  /-- A text in single quotes after an `E`. -/
  | escaped
  /-- Binary digits. -/
  | bits
  /-- Hexadecimal digits. -/
  | hex
  | number
  /-- A keyword or a symbol, under its usual spelling. -/
  | fixed (spelling : String)
  deriving DecidableEq, Repr

/-- A token without its quotes, and the remarks that belong to it. -/
structure Token where
  kind : Kind
  text : List Char
  remarks : List (List Char) := []
  deriving DecidableEq, Repr

def Token.is (t : Token) (spelling : String) : Bool := t.kind == .fixed spelling

def Token.upper (t : Token) : String := Text.upper (String.ofList t.text)

inductive Piece where
  | token (t : Token)
  | remark (text : List Char)
  | lineBreak
  deriving DecidableEq, Repr

/-- Characters that end a word. -/
def singles : List Char := "()[]\x7b\x7d&^:,-.=><%!/\\+;*~?@#|'\"\x60".toList

def isWordPart (c : Char) : Bool := !Text.isBlank c && !singles.contains c

def isFigure (c : Char) : Bool := '0' ≤ c && c ≤ '9'

/-- The body of a quoted text and the number of its characters with the closing quote. An escape character
stands before a quote, which alone is kept, or before another escape character, and then both are kept; an
escape character that is a quote escapes only itself. Nothing where the text is left open. -/
def quoted? (quote : Char) (escapes : List Char) : List Char → Option (List Char × Nat)
  | [] => none
  | [c] => if c = quote then some ([], 1) else none
  | c :: d :: r =>
    if escapes.contains c && (d == quote || escapes.contains d) && (c != '\'' || d == '\'') then
      if r.isEmpty then none
      else (quoted? quote escapes r).map fun (body, n) => (if d = quote then d :: body else c :: d :: body, n + 2)
    else if c = quote then some ([], 1)
    else (quoted? quote escapes (d :: r)).map fun (body, n) => (c :: body, n + 1)

/-- What a text between dollar signs comes to, after the first of them: a token and the number of its
further characters. The tag between two dollar signs opens the text and the same tag closes it; without such
a tag the dollar sign stands alone. -/
def dollar? (rest : List Char) : Option (Token × Nat) :=
  let tag := rest.takeWhile (· ≠ '$')
  match rest.dropWhile (· ≠ '$') with
  | [] => if rest.isEmpty then none else some (⟨.fixed "@", ['$'], []⟩, 0)
  | _ :: body =>
    if !tag.isEmpty && (tag.all isFigure || tag.any Text.isBlank) then some (⟨.fixed "@", ['$'], []⟩, 0)
    else
      let close := '$' :: tag ++ ['$']
      let before := (List.range body.length).find? fun n => close.isPrefixOf (body.drop n)
      before.map fun n => (⟨.block, body.take n, []⟩, tag.length + 1 + n + close.length)

/-- How many characters a block remark takes after its opening mark; nothing where it is left open. An
opening mark counts from the second character after the last mark on. -/
def blockSize? : Nat → Nat → List Char → Option Nat
  | 0, _, _ => none
  | _, _, [] => none
  | bound + 1, depth, c :: r =>
    let closes := c == '*' && r.head? == some '/'
    if closes && depth == 0 then some 2
    else
      let depth := if closes then depth - 1 else depth
      match r with
      | '/' :: '*' :: s => (blockSize? bound (depth + 1) s).map (· + 3)
      | _ => (blockSize? bound depth r).map (· + 1)

/-- What of a number has been read: its point, its exponent mark, the sign after that mark. -/
structure NumberState where
  point : Bool := false
  mark : Bool := false
  sign : Bool := false

/-- How many more characters belong to a number. One sign may follow the exponent mark. -/
def numberSize (s : NumberState) : List Char → Nat
  | [] => 0
  | c :: r =>
    if isFigure c then numberSize s r + 1
    else if c = '.' ∧ !s.point then numberSize { s with point := true } r + 1
    else if (c = '-' ∨ c = '+') ∧ s.mark ∧ !s.sign then
      if r.head?.any isFigure then numberSize { s with sign := true } r + 1 else 0
    else if (c = 'e' ∨ c = 'E') ∧ !s.mark then numberSize { s with mark := true } r + 1
    else 0

/-- Digits after a mark such as `0x`; what they do not read as a number is a name. -/
def radixToken (radix : Nat) (mark : Char) (kind : Kind) (text : List Char) : Token :=
  if (Number.radixInteger? radix mark text).isSome then ⟨kind, text.drop 2, []⟩ else ⟨.quoted, text, []⟩

/-- A number, and how many more characters it takes. After the mark of a parameter it has no point. -/
def numberToken (afterMark : Bool) (c : Char) (rest : List Char) : Token × Nat :=
  let value := '0' :: rest.takeWhile fun d => isWordPart d && d != '$'
  if c = '0' ∧ rest.head?.any fun d => d == 'b' || d == 'B' then
    (radixToken 2 'b' .bits value, value.length - 1)
  else if c = '0' ∧ rest.head?.any fun d => d == 'x' || d == 'X' then
    (radixToken 16 'x' .hex value, value.length - 1)
  else
    let n := numberSize { point := afterMark } rest
    (⟨.number, c :: rest.take n, []⟩, n)

/-- A text in single quotes after a letter, and how many more characters it takes. -/
def markedText? (mark : Char) (rest : List Char) : Option (Token × Nat) :=
  let plain := quoted? '\'' ['\'']  rest
  let digits (radix : Nat) (letter : Char) (kind : Kind) : Option (Token × Nat) :=
    plain.bind fun (body, n) =>
      if body.isEmpty || (Number.radixInteger? radix letter body).isSome then some (⟨kind, body, []⟩, n + 1) else none
  match mark.toLower with
  | 'n' => plain.map fun (body, n) => (⟨.national, body, []⟩, n + 1)
  | 'e' => (quoted? '\'' ['\'', '\\'] rest).map fun (body, n) => (⟨.escaped, body, []⟩, n + 1)
  | 'b' => digits 2 'b' .bits
  | _ => digits 16 'x' .hex

/-- How many characters at the front of a text spell a phrase; any blanks may divide its words. -/
def phraseSize? : List Char → List Char → Option Nat
  | [], _ => some 0
  | ' ' :: phrase, text =>
    let blanks := (text.takeWhile Text.isBlank).length
    if blanks = 0 then none else (phraseSize? phrase (text.drop blanks)).map (· + blanks)
  | p :: phrase, c :: text => if c.toUpper = p then (phraseSize? phrase text).map (· + 1) else none
  | _ :: _, [] => none

def phraseAt? (text : List Char) : Option (Token × Nat) :=
  phrases.findSome? fun (phrase, usual) =>
    (phraseSize? phrase.toList text).bind fun n =>
      if (text.drop n).head?.all fun c => Text.isBlank c || singles.contains c || c == '$' then
        some (⟨.fixed usual, text.take n, []⟩, n)
      else none

/-- A word; after the mark of a parameter it has no fixed meaning. -/
def wordToken (afterMark : Bool) (word : List Char) : Token :=
  match keyword? (Text.upper (String.ofList word)) with
  | some usual => ⟨if afterMark then .name else .fixed usual, word, []⟩
  | none => ⟨.name, word, []⟩

def symbolToken (c : Char) (rest : List Char) : Token :=
  match symbols.find? fun s => s.1.toList.isPrefixOf (c :: rest) with
  | some (text, usual) => ⟨.fixed usual, text.toList, []⟩
  | none => if c = '\x60' then ⟨.quoted, [c], []⟩ else ⟨.fixed (String.singleton c), [c], []⟩

/-- The piece that begins with a character, and how many more characters it takes: no piece for a blank.
An open quote or remark fails. -/
def pieceAt (afterMark : Bool) (c : Char) (rest : List Char) : Option (Option Piece × Nat) :=
  let one (t : Token × Nat) : Option Piece × Nat := (some (.token t.1), t.2)
  if c = '\n' ∨ c = '\r' then some (some .lineBreak, 0)
  else if Text.isBlank c then some (none, 0)
  else if isFigure c then some (one (numberToken afterMark c rest))
  else if c = '"' then (quoted? '"' ['"'] rest).map fun (body, n) => one (⟨.quoted, body, []⟩, n)
  else if c = '\'' then (quoted? '\'' ['\''] rest).map fun (body, n) => one (⟨.string, body, []⟩, n)
  else if rest.head? = some '\'' ∧ "nNeEbBxX".toList.contains c then (markedText? c (rest.drop 1)).map one
  else if c = '$' then (dollar? rest).map one
  else if c = '-' ∧ rest.head? = some '-' then
    let text := (rest.drop 1).takeWhile fun d => d ≠ '\n' && d ≠ '\r'
    some (some (.remark text), text.length + 1)
  else if c = '/' ∧ rest.head? = some '*' then
    (blockSize? rest.length 0 (rest.drop 1)).map fun n =>
      (some (.remark ((rest.drop 1).take (n - 2))), n + 1)
  else
    match phraseAt? (c :: rest) with
    | some (t, n) => some (one (t, n - 1))
    | none =>
      if isWordPart c then
        let word := rest.takeWhile isWordPart
        some (one (wordToken afterMark (c :: word), word.length))
      else
        let t := symbolToken c rest
        some (one (t, t.text.length - 1))

/-- The pieces of a filter in order, after the mark of a parameter or not. -/
def pieces? (afterMark : Bool) : List Char → Option (List Piece)
  | [] => some []
  | c :: r =>
    match pieceAt afterMark c r with
    | none => none
    | some (none, more) => pieces? afterMark (r.drop more)
    | some (some (.token t), more) => (pieces? (t.is "@") (r.drop more)).map (.token t :: ·)
    | some (some piece, more) => (pieces? afterMark (r.drop more)).map (piece :: ·)
termination_by cs => cs.length
decreasing_by
  all_goals
    rw [List.length_drop, List.length_cons]
    omega

/-- Adds remarks to the newest token; remarks before the first token are lost. -/
def remarkNewest (remarks : List (List Char)) : List Token → List Token
  | [] => []
  | t :: r => { t with remarks := t.remarks ++ remarks } :: r

/-- Gives each remark to its token. The tokens made so far come newest first, `fresh` says that a line has
begun since the last token, `pending` are remarks for the next one; a semicolon leaves them to the token
before it. -/
def attach (made : List Token) (fresh : Bool) (pending : List (List Char)) : List Piece → List Token
  | [] => (remarkNewest pending made).reverse
  | .lineBreak :: r => attach made true pending r
  | .remark text :: r =>
    if fresh then attach made fresh (pending ++ [text]) r
    else attach (remarkNewest [text] made) fresh pending r
  | .token t :: r =>
    if t.is ";" then attach (t :: remarkNewest pending made) false [] r
    else attach ({ t with remarks := pending } :: made) false [] r

/-- The tokens of a text; nothing where a quote or a remark is left open. -/
def tokens? (text : List Char) : Option (List Token) := (pieces? false text).map (attach [] false [])

end FeatureGraph.Filter
