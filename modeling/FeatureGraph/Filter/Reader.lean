import FeatureGraph.Filter.Expr
import FeatureGraph.Filter.Token

/-! # Readers of filter expressions

A reader takes tokens off the front, gives an expression where one begins, gives nothing where none does,
and fails where the text is no filter. The remarks of the last token wait for the next expression that is
built. -/
namespace FeatureGraph.Filter

/-- Where a reader stands: the last token taken, the tokens ahead, the remarks that wait. -/
structure Cursor where
  last : Option Token
  ahead : List Token
  waiting : List (List Char)
  /-- How many tokens have been taken. -/
  place : Nat
  /-- How many tokens there are in all. -/
  total : Nat

def Cursor.ofTokens (tokens : List Token) : Cursor := ⟨none, tokens, [], 0, tokens.length⟩

abbrev Reader (α : Type) := StateT Cursor Option α

namespace Reader

def peek : Reader (Option Token) := do return (← get).ahead.head?

def peekSecond : Reader (Option Token) := do return ((← get).ahead.drop 1).head?

def advance : Reader Unit := modify fun c =>
  match c.ahead with
  | t :: r => { c with last := some t, ahead := r, waiting := t.remarks, place := c.place + 1 }
  | [] => c

/-- Goes back to where a reader stood; the remarks of the token before that place wait again. -/
def backTo (c : Cursor) : Reader Unit := modify fun d =>
  if d.place = c.place then d else { c with waiting := c.last.elim [] Token.remarks }

def takeIf (test : Token → Bool) : Reader (Option Token) := do
  match ← peek with
  | some t => if test t then advance; return some t else return none
  | none => return none

def accept (spelling : String) : Reader Bool := do return (← takeIf (·.is spelling)).isSome

/-- Takes a keyword or symbol if it is ahead and may stand there. -/
def acceptIf (mayStand : Bool) (spelling : String) : Reader Bool := if mayStand then accept spelling else return false

def acceptAny (spellings : List String) : Reader (Option Token) :=
  takeIf fun t => match t.kind with | .fixed s => spellings.contains s | _ => false

def isAhead (spelling : String) : Reader Bool := do return (← peek).any (·.is spelling)

/-- Takes two keywords or symbols if they are ahead in this order. -/
def acceptPair (first second : String) : Reader Bool := do
  if (← peek).any (·.is first) && (← peekSecond).any (·.is second) then
    advance
    advance
    return true
  else return false

/-- Whether a token reads as a word in any case; a text in quotes never does. -/
def reads (word : String) (t : Token) : Bool := t.kind != .string && t.upper == word

/-- Takes words in a row, or none of them. -/
def acceptWords (words : List String) : Reader Bool := do
  let start ← get
  for w in words do
    if (← takeIf (reads w)).isNone then
      backTo start
      return false
  return true

def acceptWordOf (words : List String) : Reader (Option Token) := takeIf fun t => words.any (reads · t)

/-- Takes a keyword or symbol; its remarks go to an expression. -/
def acceptFor (spelling : String) (e : Expr) : Reader (Option Expr) := do
  if ← accept spelling then
    let waiting := (← get).waiting
    modify fun c => { c with waiting := [] }
    return some (e.addRemarks waiting)
  else return none

def expect (spelling : String) : Reader Unit := do if ← accept spelling then return else failure

/-- A keyword or symbol that must stand here; its remarks go to an expression. -/
def expectFor (spelling : String) (e : Expr) : Reader Expr := do
  match ← acceptFor spelling e with
  | some e => return e
  | none => failure

def waiting : Reader (List (List Char)) := do return (← get).waiting

def built (e : Expr) : Reader Expr := do
  let remarks ← waiting
  modify fun c => { c with waiting := [] }
  return e.addRemarks remarks

/-- Gives some remarks to a new expression, or the waiting ones if there are none. -/
def builtWith (remarks : List (List Char)) (e : Expr) : Reader Expr :=
  if remarks.isEmpty then built e else return e.addRemarks remarks

def need {α : Type} (p : Reader (Option α)) : Reader α := do
  match ← p with
  | some a => return a
  | none => failure

/-- The first of two readers that gives something. -/
def orElse {α : Type} (p q : Reader (Option α)) : Reader (Option α) := do
  match ← p with
  | some a => return some a
  | none => q

/-- Nothing where a reader fails or gives nothing, and then nothing is taken. -/
def attempt {α : Type} (p : Reader (Option α)) : Reader (Option α) := do
  let start ← get
  match p start with
  | some (some a, c) => set c; return some a
  | _ => return none

/-- Steps from a value to the next as long as there is one, at most `bound` times. -/
def stepped {α : Type} (step : α → Reader (Option α)) : Nat → α → Reader α
  | 0, a => return a
  | bound + 1, a => do
    match ← step a with
    | some b => stepped step bound b
    | none => return a

/-- Steps from a value to the next as long as there is one. Each step takes a token, so the number of tokens
bounds them. -/
def repeated {α : Type} (step : α → Reader (Option α)) (a : α) : Reader α := do stepped step (← get).total a

/-- Elements with commas between them; a comma may stand where no element does, and leaves its remarks to
the element before it. -/
def separated (p : Reader (Option Expr)) : Reader (List Expr) := do
  let first ← p
  let step (state : List Expr × Option Expr) : Reader (Option (List Expr × Option Expr)) := do
    if ← accept "," then
      match state.2 with
      | some e =>
        let e ← built e
        return some (state.1 ++ [e], ← p)
      | none => return some (state.1, ← p)
    else return none
  let (done, last) ← repeated step ([], first)
  return done ++ last.toList

def separatedBy {α : Type} (p : Reader (Option α)) : Reader (List α) := do
  let first ← p
  let step (found : List α) : Reader (Option (List α)) := do
    if ← accept "," then return some (found ++ (← p).toList) else return none
  repeated step first.toList

end Reader
end FeatureGraph.Filter
