import FeatureGraph.Filter.Reader

/-! # Names and parameters in filters -/
namespace FeatureGraph.Filter.Grammar
open Reader

def mayName (t : Token) : Bool :=
  match t.kind with
  | .name => true
  | .fixed s =>
    (keywords.contains s || typeWords.contains s || s = "FOREIGN KEY" || s = "COMMAND") && !reserved.contains s
  | _ => false

/-- Whether a token may be a name where nothing else may stand. -/
def mayNameAnything (t : Token) : Bool :=
  match t.kind with
  | .fixed s => !neverNames.contains s
  | _ => true

/-- Whether a token may name a function; after a point almost any may. -/
def mayCall (anything : Bool) (t : Token) : Bool :=
  if anything then mayNameAnything t
  else
    match t.kind with
    | .name | .quoted => true
    | .fixed s => typeWords.contains s || callable.contains s
    | _ => false

def lastName (isQuoted : Bool) : Reader Expr := do
  built (.name ⟨(← get).last.elim [] Token.text, isQuoted⟩)

def anyWord (t : Token) : Bool := mayNameAnything t

/-- The text of a parameter: a name, a number or a text. -/
def parameterText : Reader (Option (List Char)) := do
  match ← takeIf mayNameAnything with
  | none => return none
  | some t =>
    match t.kind with
    | .quoted => return some (Name.rendered ⟨t.text, true⟩)
    | .string => return some (Expr.rendered (.string t.text))
    | _ => return some t.text

/-- A value that is filled in later: a question mark, a number or name after a colon or `@`, or a percent
sign with a name in parentheses. -/
def parameter : Reader (Option Expr) := do
  let start ← get
  match ← acceptAny ["?", "@", ":", "%"] with
  | none => return none
  | some t =>
    if t.is "?" then return some (← built (.word ['?']))
    else if t.is "@" then return some (← built (.word ('$' :: (← need parameterText))))
    else if t.is ":" then
      match ← takeIf fun t => t.kind == .name || t.kind == .number with
      | some t => return some (← built (.word ("%(".toList ++ t.text ++ ")s".toList)))
      | none =>
        backTo start
        return none
    else
      let name ← do
        if ← accept "(" then
          let n ← takeIf fun t => t.kind == .quoted || mayNameAnything t
          expect ")"
          pure (n.map Token.text)
        else pure none
      let _ ← acceptWords ["S"]
      return some (← built (.word (name.elim "%s".toList fun n => "%(".toList ++ n ++ ")s".toList)))

def quotedName : Reader (Option Expr) := do
  match ← takeIf (·.kind == .quoted) with
  | some _ => return some (← lastName true)
  | none => parameter

/-- A name: quoted, a parameter, or a word that passes a test. -/
def nameWhere (test : Token → Bool) : Reader (Option Expr) :=
  orElse quotedName do
    match ← takeIf test with
    | some t => return some (← lastName (t.kind == .string))
    | none => return none

def anyName : Reader (Option Expr) := nameWhere fun t => mayNameAnything t || mayName t

def wordWhere (test : Token → Bool) (inUpperCase : Bool) : Reader (Option Expr) := do
  match ← takeIf test with
  | some t => return some (← built (.word (if inUpperCase then t.upper.toList else t.text)))
  | none => parameter

end FeatureGraph.Filter.Grammar
