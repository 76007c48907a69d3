import FeatureGraph.Wire.Varint

/-! # Messages as fields

A message is a sequence of numbered fields. A group, which stands between two tags of its own, holds
fields too; this library knows none and only checks that a group is closed and not too deep. -/
namespace FeatureGraph.Wire

inductive Payload where
  | varint (n : Nat)
  | fixed64 (n : Nat)
  | bytes (bs : List UInt8)
  | fixed32 (n : Nat)
  deriving DecidableEq, Repr

structure Field where
  number : Nat
  payload : Payload
  deriving DecidableEq, Repr

/-- What a message consists of: fields, and the tags that open and close a group. -/
inductive Token where
  | field (f : Field)
  | opening (number : Nat)
  | closing (number : Nat)
  deriving DecidableEq, Repr

/-- The number that some bytes spell, the lowest byte first. -/
def ofLittle : List UInt8 → Nat
  | [] => 0
  | b :: r => b.toNat + 256 * ofLittle r

def toLittle : Nat → Nat → List UInt8
  | 0, _ => []
  | width + 1, n => .ofNat (n % 256) :: toLittle width (n / 256)

def takeBytes (count : Nat) (bs : List UInt8) : Option (List UInt8 × List UInt8) :=
  if count ≤ bs.length then some (bs.take count, bs.drop count) else none

theorem takeBytes_length {count : Nat} {bs b r : List UInt8} (h : takeBytes count bs = some (b, r)) :
    r.length ≤ bs.length := by
  simp only [takeBytes] at h
  split at h
  · cases h; simp
  · simp at h

/-- The value of a tag's form, after the tag: forms are numbered 0 to 5. -/
def tokenOf (number form : Nat) (bs : List UInt8) : Option (Token × List UInt8) :=
  match form with
  | 0 => (Varint.read bs).map fun p => (.field ⟨number, .varint p.1⟩, p.2)
  | 1 => (takeBytes 8 bs).map fun p => (.field ⟨number, .fixed64 (ofLittle p.1)⟩, p.2)
  | 2 => do
    let (count, r) ← Varint.read bs
    let (b, r) ← takeBytes count r
    return (.field ⟨number, .bytes b⟩, r)
  | 3 => some (.opening number, bs)
  | 4 => some (.closing number, bs)
  | 5 => (takeBytes 4 bs).map fun p => (.field ⟨number, .fixed32 (ofLittle p.1)⟩, p.2)
  | _ => none

theorem tokenOf_length {number form : Nat} {bs r : List UInt8} {t : Token}
    (h : tokenOf number form bs = some (t, r)) : r.length ≤ bs.length := by
  simp only [tokenOf] at h
  split at h
  · obtain ⟨p, hp, he⟩ := Option.map_eq_some_iff.1 h
    cases he
    exact Nat.le_of_lt (Varint.read_length hp)
  · obtain ⟨p, hp, he⟩ := Option.map_eq_some_iff.1 h
    cases he
    exact takeBytes_length hp
  · simp only [bind, Option.bind_eq_some_iff, Prod.exists] at h
    obtain ⟨n, r', hn, b, r'', hb, he⟩ := h
    cases he
    have := Varint.read_length hn
    have := takeBytes_length hb
    omega
  · cases h; simp
  · cases h; simp
  · obtain ⟨p, hp, he⟩ := Option.map_eq_some_iff.1 h
    cases he
    exact takeBytes_length hp
  · simp at h

/-- The token at the front of some bytes. A tag takes five bytes at most, and field numbers run from 1 to
`2 ^ 29 - 1`. -/
def token? (bs : List UInt8) : Option (Token × List UInt8) := do
  let (tag, r) ← Varint.readFrom 5 bs
  if tag / 8 = 0 ∨ 0x20000000 ≤ tag / 8 then none else tokenOf (tag / 8) (tag % 8) r

theorem token?_length {bs r : List UInt8} {t : Token} (h : token? bs = some (t, r)) :
    r.length < bs.length := by
  simp only [token?, bind, Option.bind_eq_some_iff, Prod.exists] at h
  obtain ⟨n, r', hn, h⟩ := h
  have := Varint.readFrom_length hn
  split at h
  · simp at h
  · have := tokenOf_length h
    omega

/-- All tokens of some bytes; none where they end inside one. -/
def tokens? (bs : List UInt8) : Option (List Token) :=
  match bs with
  | [] => some []
  | b :: r =>
    match _h : token? (b :: r) with
    | some (t, rest) => (tokens? rest).map (t :: ·)
    | none => none
termination_by bs.length
decreasing_by exact token?_length _h

/-- The fields outside groups. `groups` are the numbers of the groups that are open, the innermost
first, and no more than `levels` may be open at a time. -/
def outside (levels : Nat) : List Nat → List Token → Option (List Field)
  | [], [] => some []
  | _ :: _, [] => none
  | groups, .field f :: r =>
    if groups.isEmpty then (outside levels groups r).map (f :: ·) else outside levels groups r
  | groups, .opening number :: r =>
    if groups.length < levels then outside levels (number :: groups) r else none
  | [], .closing _ :: _ => none
  | g :: groups, .closing number :: r => if g = number then outside levels groups r else none

/-- The fields of a message, none where it is malformed. Below it `levels` levels may be nested. -/
def fields? (levels : Nat) (bs : List UInt8) : Option (List Field) := do outside levels [] (← tokens? bs)

def foldFields {α : Type} (levels : Nat) (step : α → Field → Option α) (start : α) (bs : List UInt8) :
    Option α := do (← fields? levels bs).foldlM step start

/-- What an entry of a map is made of: its name and its value. -/
def Token.isEntryPart : Token → Bool
  | .field ⟨1, .bytes _⟩ | .field ⟨2, .bytes _⟩ => true
  | _ => false

/-- Folds the fields of an entry of a map. An entry with anything else in it is set aside whole. -/
def foldEntry {α : Type} (levels : Nat) (step : α → Field → Option α) (start : α) (bs : List UInt8) :
    Option (Option α) :=
  (foldFields levels step start bs).map fun a =>
    if (tokens? bs).any fun ts => ts.all Token.isEntryPart then some a else none

/-- Every message allows 100 levels below it. -/
def rootLevels : Nat := 100

/-! ## Writing fields -/

def tag (number form : Nat) : List UInt8 := Varint.encode (number * 8 + form)

def varintField (number n : Nat) : List UInt8 := tag number 0 ++ Varint.encode n

def fixed64Field (number n : Nat) : List UInt8 := tag number 1 ++ toLittle 8 n

def bytesField (number : Nat) (bs : List UInt8) : List UInt8 :=
  tag number 2 ++ Varint.encode bs.length ++ bs

def fixed32Field (number n : Nat) : List UInt8 := tag number 5 ++ toLittle 4 n

end FeatureGraph.Wire
