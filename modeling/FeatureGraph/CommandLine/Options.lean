import FeatureGraph.Number.Integer
import FeatureGraph.Text.Digit

/-! # Options among arguments

An option is named in full or by the start of its name that no other option shares. Its value follows after
an equals sign or as the next argument. -/
namespace FeatureGraph.CommandLine

inductive Kind where
  | flag
  | text
  | whole
  deriving DecidableEq, Repr

structure Flag where
  name : String
  kind : Kind
  deriving DecidableEq, Repr

inductive Stop where
  | usage
  | help
  deriving DecidableEq, Repr

inductive Word where
  | value
  /-- Two dashes: what follows holds values only. -/
  | dashes
  | option (o : Flag) (given : Option String)
  /-- The short name of the help, and what follows it in the same argument. -/
  | short (more : List Char)
  | unknown
  deriving DecidableEq, Repr

def helpFlag : Flag := ⟨"help", .flag⟩

/-- Digits after a minus sign, or digits around a point with one after it. -/
def isNegativeNumber : List Char → Bool
  | '-' :: cs =>
    match cs.dropWhile Text.isDecimal with
    | [] => !cs.isEmpty
    | '.' :: r => !r.isEmpty && r.all Text.isDecimal
    | _ => false
  | _ => false

def given (cs : List Char) : Option String :=
  match cs.dropWhile (· ≠ '=') with
  | _ :: r => some (String.ofList r)
  | [] => none

/-- An argument that names no option: a value if it is a number or has a blank. -/
def unnamed (cs : List Char) : Word := if isNegativeNumber cs || cs.contains ' ' then .value else .unknown

/-- What an argument is among some options. The start of several names is a mistake. -/
def Word.of (options : List Flag) (arg : String) : Except Stop Word :=
  match arg.toList with
  | ['-', '-'] => .ok .dashes
  | '-' :: '-' :: r =>
    let name := r.takeWhile (· ≠ '=')
    match options.find? fun o => o.name.toList == r with
    | some o => .ok (.option o none)
    | none =>
      match options.find? fun o => o.name.toList == name with
      | some o => .ok (.option o (given r))
      | none =>
        match options.filter fun o => name.isPrefixOf o.name.toList with
        | [] => .ok (unnamed ('-' :: '-' :: r))
        | [o] => .ok (.option o (given r))
        | _ => .error .usage
  | ['-'] => .ok .value
  | '-' :: 'h' :: more => .ok (.short more)
  | '-' :: r => .ok (unnamed ('-' :: r))
  | _ => .ok .value

/-- The options that are set, in the order in which they first came, with the last value of each. -/
abbrev Settings := List (String × String)

/-- Arguments read so far: options, whether there were any that have no meaning, and those that are left. -/
structure Read where
  settings : Settings := []
  stray : Bool := false
  rest : List String := []
  deriving DecidableEq, Repr

def accept (o : Flag) (value : String) (settings : Settings) : Except Stop Settings :=
  if o.kind = .whole ∧ (Number.integer? value.toList).isNone then .error .usage
  else .ok (settings ++ [(o.name, value)])

/-- What the short name of the help means with more letters after it. -/
def helpOrMistake (more : List Char) : Stop :=
  let letters := match more with
    | '=' :: r => r
    | _ => more
  if letters.all (· == 'h') && (more.isEmpty || !letters.isEmpty) then .help else .usage

/-- Reads options from classified arguments. A command leaves the arguments from the first value on to
its own options; without commands a value has no meaning. -/
def readWords (commands : Bool) (done : Read) : List (String × Word) → Except Stop Read
  | [] => .ok done
  | (arg, .value) :: r =>
    if commands then .ok { done with rest := arg :: r.map (·.1) } else readWords commands { done with stray := true } r
  | (_, .dashes) :: r => if commands then .error .usage else readWords commands { done with stray := true } r
  | (_, .unknown) :: r => readWords commands { done with stray := true } r
  | (_, .short more) :: _ => .error (helpOrMistake more)
  | (_, .option o none) :: r =>
    if o = helpFlag then .error .help
    else if o.kind = .flag then readWords commands { done with settings := done.settings ++ [(o.name, "")] } r
    else
      match r with
      | (value, .value) :: r' => do
        readWords commands { done with settings := ← accept o value done.settings } r'
      | _ => .error .usage
  | (_, .option o (some value)) :: r =>
    if o.kind = .flag then .error .usage
    else do readWords commands { done with settings := ← accept o value done.settings } r

/-- What each argument is; after two dashes there are only values. -/
def classify (options : List Flag) : List String → Except Stop (List (String × Word))
  | [] => .ok []
  | arg :: r => do
    let w ← Word.of options arg
    if w = .dashes then return (arg, w) :: r.map fun a => (a, .value)
    else return (arg, w) :: (← classify options r)

def read (commands : Bool) (options : List Flag) (args : List String) : Except Stop Read := do
  readWords commands {} (← classify (helpFlag :: options) args)

def Settings.get? (s : Settings) (name : String) : Option String := s.reverse.lookup name

def Settings.has (s : Settings) (name : String) : Bool := (s.get? name).isSome

end FeatureGraph.CommandLine
