import FeatureGraph.Proofs.Wire.Splice
import FeatureGraph.Wire.Query

/-! # Fields that are not known

A response is a tree of messages. A message that is exchanged for another, at any depth, leaves what is read of the
whole as it was if nothing else is read of it. So it is with a field of a number that the message does not have,
except in an entry of a map, which is then set aside. -/
namespace FeatureGraph.Wire

/-- The messages that a response is made of. A row is an array. -/
inductive Kind where
  | header | frame | error | transform | pair | array | value | primitive | geometry | parts | entity | relationship
  | entry | path | object
  deriving DecidableEq, Repr

namespace Kind

/-- The fields of a message have the numbers from 1 to this. -/
def fieldCount : Kind → Nat
  | header => 5
  | frame => 2
  | error => 2
  | transform => 3
  | pair => 4
  | array => 1
  | value => 6
  | primitive => 12
  | geometry => 4
  | parts => 2
  | entity => 3
  | relationship => 5
  | entry => 2
  | path => 2
  | object => 1

inductive Child : Kind → Nat → Kind → Prop
  | headerError : Child header 2 error
  | headerTransform : Child header 3 transform
  | scale : Child transform 2 pair
  | translate : Child transform 3 pair
  | row : Child frame 1 array
  | frameError : Child frame 2 error
  | element : Child array 1 value
  | primitive : Child value 1 primitive
  | entity : Child value 2 entity
  | relationship : Child value 3 relationship
  | path : Child value 4 path
  | array : Child value 5 array
  | object : Child value 6 object
  | geometry : Child Kind.primitive 10 geometry
  | parts : Child Kind.geometry 2 parts
  | entityProperty : Child Kind.entity 2 entry
  | entityId : Child Kind.entity 3 value
  | relationshipProperty : Child Kind.relationship 2 entry
  | relationshipId : Child Kind.relationship 3 value
  | origin : Child Kind.relationship 4 value
  | destination : Child Kind.relationship 5 value
  | entryValue : Child entry 2 value
  | pathEntity : Child Kind.path 1 value
  | pathRelationship : Child Kind.path 2 value
  | member : Child Kind.object 1 entry

def State : Kind → Type
  | header => Header
  | frame => RowFrame
  | error => ErrorMessage
  | transform => Transform
  | pair => UInt64 × UInt64
  | array => List Any
  | value => Any
  | primitive => Primitive
  | geometry | parts => Geometry
  | entity | relationship => Any.Record
  | entry => String × Any
  | path => List Any × List Any
  | object => List (String × Any)

/-- Takes a field of a message with some levels left below it. -/
def step : (k : Kind) → Nat → k.State → Field → Option k.State
  | header, _ => Header.step
  | frame, _ => RowFrame.step
  | error, _ => ErrorMessage.step
  | transform, levels => Transform.step levels
  | pair, _ => pairStep
  | array, levels => Any.arrayStep (Any.merge levels)
  | value, levels => fun v f =>
    match f with
    | ⟨1, .bytes b⟩ => (Primitive.merge levels v.primitiveOf b).map .primitive
    | ⟨2, .bytes b⟩ => (Any.mergeRecord levels false v.entityOf b).map fun r => .entity r.typeName r.properties r.id
    | ⟨3, .bytes b⟩ =>
      (Any.mergeRecord levels true v.relationshipOf b).map fun r =>
        .relationship r.typeName r.properties r.id r.origin r.destination
    | ⟨4, .bytes b⟩ => (Any.mergePath levels v.pathOf b).map fun p => .path p.1 p.2
    | ⟨5, .bytes b⟩ => (Any.mergeArray levels v.arrayOf b).map .array
    | ⟨6, .bytes b⟩ => (Any.mergeObject levels v.objectOf b).map .object
    | _ => some v
  | primitive, levels => Primitive.step levels
  | geometry, levels => Geometry.step levels
  | parts, _ => Geometry.partStep
  | entity, levels => Any.Record.step (Any.mergeEntry levels ("", .unset)) (Any.merge levels) false
  | relationship, levels => Any.Record.step (Any.mergeEntry levels ("", .unset)) (Any.merge levels) true
  | entry, levels => Any.entryStep (Any.merge levels)
  | path, levels => Any.pathStep (Any.merge levels)
  | object, levels => Any.objectStep (Any.mergeEntry levels ("", .unset))

/-- Reads a message with some levels left, its own included: nothing if it is malformed, and then nothing again if
it is set aside. -/
def read : (k : Kind) → Nat → k.State → List UInt8 → Option (Option k.State)
  | header, _, h, bs => (foldFields rootLevels Header.step h bs).map some
  | frame, _, r, bs => (foldFields rootLevels RowFrame.step r bs).map some
  | error, levels, e, bs => (ErrorMessage.merge levels e bs).map some
  | transform, levels, t, bs => (Transform.merge levels t bs).map some
  | pair, levels, p, bs => (mergePair levels p bs).map some
  | array, levels, vs, bs => (Any.mergeArray levels vs bs).map some
  | value, levels, v, bs => (Any.merge levels v bs).map some
  | primitive, levels, p, bs => (Primitive.merge levels p bs).map some
  | geometry, levels, g, bs => (Geometry.merge levels g bs).map some
  | parts, levels, g, bs =>
    (if levels = 0 then none else foldFields (levels - 1) Geometry.partStep g bs).map some
  | entity, levels, r, bs => (Any.mergeRecord levels false r bs).map some
  | relationship, levels, r, bs => (Any.mergeRecord levels true r bs).map some
  | entry, levels, e, bs => Any.mergeEntry levels e bs
  | path, levels, p, bs => (Any.mergePath levels p bs).map some
  | object, levels, ms, bs => (Any.mergeObject levels ms bs).map some

/-- A message is set aside if it is an entry with something else in it than a name and a value. -/
def isKept : Kind → List UInt8 → Bool
  | entry, bs => (tokens? bs).any fun ts => ts.all Token.isEntryPart
  | _, _ => true

variable {k c : Kind} {levels n : Nat}

/-- Either no levels are left, or the fields of a message are folded. -/
theorem read_cases (k : Kind) (levels : Nat) :
    (∀ s bs, k.read levels s bs = none) ∨
      ∃ below, ∀ s bs, k.read levels s bs =
        (foldFields below (k.step below) s bs).map fun s' => if k.isKept bs then some s' else none := by
  cases k with
  | header => exact .inr ⟨rootLevels, fun _ _ => rfl⟩
  | frame => exact .inr ⟨rootLevels, fun _ _ => rfl⟩
  | error => exact .inr ⟨levels - 1, fun _ _ => rfl⟩
  | transform => exact .inr ⟨levels - 1, fun _ _ => rfl⟩
  | pair => exact .inr ⟨levels - 1, fun _ _ => rfl⟩
  | parts =>
    cases levels with
    | zero => exact .inl fun _ _ => rfl
    | succ levels => exact .inr ⟨levels, fun _ _ => rfl⟩
  | array | value | primitive | geometry | entity | relationship | entry | path | object =>
    cases levels with
    | zero => exact .inl fun _ _ => rfl
    | succ levels => exact .inr ⟨levels, fun _ _ => rfl⟩

/-- A field with a number that the message does not have is passed over. -/
theorem step_of_unknown {f : Field} (hf : k.fieldCount < f.number) (s : k.State) : k.step levels s f = some s := by
  cases k with
  | parts =>
    simp only [fieldCount] at hf
    simp only [step, Geometry.partStep]
    split
    · omega
    · omega
    · rfl
  | _ =>
    -- the fields that are taken are among those that the message has
    simp only [fieldCount] at hf
    simp only [step, Header.step, RowFrame.step, ErrorMessage.step, Transform.step, pairStep, Any.arrayStep,
      Primitive.step, Geometry.step, Any.Record.step, Any.entryStep, Any.pathStep, Any.objectStep]
    split <;> first | (simp at hf; done) | rfl

/-- A message in a field is read on its own, from what was read before, and changes nothing if it is set aside. -/
def Takes (k c : Kind) (n levels : Nat) : Prop :=
  ∃ (below : Nat) (before : k.State → c.State) (after : k.State → Option c.State → k.State),
    (∀ s, after s none = s) ∧ ∀ s b, k.step levels s ⟨n, .bytes b⟩ = (c.read below (before s) b).map (after s)

theorem map_elim {α β : Type} (x : Option α) (b : β) (g : α → β) :
    ((x.map some).map fun o => o.elim b g) = x.map g := by
  cases x <;> rfl

theorem Takes.of_elim (below : Nat) (before : k.State → c.State) (set : k.State → c.State → k.State)
    (h : ∀ s b, k.step levels s ⟨n, .bytes b⟩ = (c.read below (before s) b).map fun o => o.elim s (set s)) :
    Takes k c n levels :=
  ⟨below, before, fun s o => o.elim s (set s), fun _ => rfl, h⟩

theorem Child.takes (h : Child k n c) (levels : Nat) : Takes k c n levels := by
  cases h with
  | headerError =>
    exact .of_elim rootLevels (fun h => h.error.getD {}) (fun h e => { h with error := some e })
      fun _ _ => (map_elim ..).symm
  | headerTransform =>
    exact .of_elim rootLevels (fun h => h.transform.getD {}) (fun h t => { h with transform := some t })
      fun _ _ => (map_elim ..).symm
  | scale =>
    exact .of_elim levels (fun t => t.scale.getD (0, 0)) (fun t p => { t with scale := some p })
      fun _ _ => (map_elim ..).symm
  | translate =>
    exact .of_elim levels (fun t => t.translate) (fun t p => { t with translate := p }) fun _ _ => (map_elim ..).symm
  | row =>
    exact .of_elim rootLevels (fun _ => []) (fun r (row : List Any) => { r with rows := r.rows ++ [row] })
      fun _ _ => (map_elim ..).symm
  | frameError =>
    exact .of_elim rootLevels (fun r => r.error.getD {}) (fun r e => { r with error := some e })
      fun _ _ => (map_elim ..).symm
  | element =>
    exact .of_elim levels (fun _ => .unset) (fun (vs : List Any) (v : Any) => vs ++ [v])
      fun _ _ => (map_elim ..).symm
  | primitive => exact .of_elim levels Any.primitiveOf (fun _ => .primitive) fun _ _ => (map_elim ..).symm
  | entity =>
    exact .of_elim levels Any.entityOf (fun _ r => .entity r.typeName r.properties r.id)
      fun _ _ => (map_elim ..).symm
  | relationship =>
    exact .of_elim levels Any.relationshipOf
      (fun _ r => .relationship r.typeName r.properties r.id r.origin r.destination) fun _ _ => (map_elim ..).symm
  | path => exact .of_elim levels Any.pathOf (fun _ p => .path p.1 p.2) fun _ _ => (map_elim ..).symm
  | array => exact .of_elim levels Any.arrayOf (fun _ => .array) fun _ _ => (map_elim ..).symm
  | object => exact .of_elim levels Any.objectOf (fun _ => .object) fun _ _ => (map_elim ..).symm
  | geometry => exact .of_elim levels Primitive.geometryOf (fun _ => .geometry) fun _ _ => (map_elim ..).symm
  | parts =>
    refine .of_elim levels (fun g => { g with hasParts := true }) (fun _ => id) fun g b => ?_
    exact ((map_elim ..).trans (Option.map_id' ..)).symm
  | entityProperty | relationshipProperty =>
    exact ⟨levels, fun _ => ("", .unset), fun r o => { r with properties := Assoc.putAll r.properties o.toList },
      fun _ => rfl, fun _ _ => rfl⟩
  | entityId | relationshipId =>
    exact .of_elim levels (fun r => r.id.getD .unset) (fun r v => { r with id := some v })
      fun _ _ => (map_elim ..).symm
  | origin =>
    exact .of_elim levels (fun r => r.origin.getD .unset) (fun r v => { r with origin := some v })
      fun _ _ => (map_elim ..).symm
  | destination =>
    exact .of_elim levels (fun r => r.destination.getD .unset) (fun r v => { r with destination := some v })
      fun _ _ => (map_elim ..).symm
  | entryValue => exact .of_elim levels (fun e => e.2) (fun e v => (e.1, v)) fun _ _ => (map_elim ..).symm
  | pathEntity =>
    exact .of_elim levels (fun _ => .unset) (fun p (v : Any) => (p.1 ++ [v], p.2)) fun _ _ => (map_elim ..).symm
  | pathRelationship =>
    exact .of_elim levels (fun _ => .unset) (fun p (v : Any) => (p.1, p.2 ++ [v])) fun _ _ => (map_elim ..).symm
  | member =>
    exact ⟨levels, fun _ => ("", .unset), fun ms o => Assoc.putAll ms o.toList, fun _ => rfl, fun _ _ => rfl⟩

/-! ## Messages that are exchanged -/

/-- If a message can be read, then whatever a second is read as, a third is read as too. -/
def ReadsAs (k : Kind) (m₀ m m' : List UInt8) : Prop :=
  ∀ levels s o₀ o, k.read levels s m₀ = some o₀ → k.read levels s m = some o → k.read levels s m' = some o

variable {a b x₀ x x' m₀ m m' : List UInt8} {p₀ p p' : Option Field} {f : Field}

theorem isKept_of_ne (hk : k ≠ entry) (bs : List UInt8) : k.isKept bs = true := by
  cases k with
  | entry => exact (hk rfl).elim
  | _ => rfl

theorem isKept_replace (ha : (tokens? a).isSome) (hx : IsField x ⟨n, .bytes m⟩) (hx' : IsField x' ⟨n, .bytes m'⟩) :
    k.isKept (a ++ x' ++ b) = k.isKept (a ++ x ++ b) := by
  cases k with
  | entry =>
    refine any_all_tokens ha hx hx' ?_
    match n with
    | 0 | 1 | 2 | _ + 3 => rfl
  | _ => rfl

theorem isKept_of_unknown (ha : (tokens? a).isSome) (hx : IsField x f) (hf : entry.fieldCount < f.number) :
    entry.isKept (a ++ x ++ b) = false := by
  refine any_all_tokens_eq_false ha hx ?_
  obtain ⟨number, payload⟩ := f
  match number, payload with
  | _ + 3, _ => rfl

theorem ReadsAs.splice (ha : (tokens? a).isSome) (hx₀ : IsPart x₀ p₀) (hx : IsPart x p) (hx' : IsPart x' p')
    (hstep : ∀ below v u₀ u, takePart (k.step below) v p₀ = some u₀ → takePart (k.step below) v p = some u →
      takePart (k.step below) v p' = some u)
    (hkept : k.isKept (a ++ x' ++ b) = k.isKept (a ++ x ++ b)) :
    k.ReadsAs (a ++ x₀ ++ b) (a ++ x ++ b) (a ++ x' ++ b) := by
  intro levels s o₀ o h₀ h
  rcases k.read_cases levels with hnone | ⟨below, hfold⟩
  · rw [hnone] at h
    cases h
  · rw [hfold] at h₀ h ⊢
    obtain ⟨w₀, hw₀, -⟩ := Option.map_eq_some_iff.1 h₀
    obtain ⟨w, hw, rfl⟩ := Option.map_eq_some_iff.1 h
    rw [foldFields_splice ha hx₀ hx hx' (hstep below) hw₀ hw, hkept]
    rfl

theorem ReadsAs.replace (ha : (tokens? a).isSome) (hx₀ : IsField x₀ ⟨n, .bytes m₀⟩) (hx : IsField x ⟨n, .bytes m⟩)
    (hx' : IsField x' ⟨n, .bytes m'⟩)
    (hstep : ∀ below v u₀ u, k.step below v ⟨n, .bytes m₀⟩ = some u₀ → k.step below v ⟨n, .bytes m⟩ = some u →
      k.step below v ⟨n, .bytes m'⟩ = some u) : k.ReadsAs (a ++ x₀ ++ b) (a ++ x ++ b) (a ++ x' ++ b) :=
  .splice ha hx₀.part hx.part hx'.part hstep (isKept_replace ha hx hx')

/-- What holds of messages holds of those that have them in a field. -/
theorem ReadsAs.inside (hc : k.Child n c) (ha : (tokens? a).isSome) (hx₀ : IsField x₀ ⟨n, .bytes m₀⟩)
    (hx : IsField x ⟨n, .bytes m⟩) (hx' : IsField x' ⟨n, .bytes m'⟩) (h : c.ReadsAs m₀ m m') :
    k.ReadsAs (a ++ x₀ ++ b) (a ++ x ++ b) (a ++ x' ++ b) := by
  refine .replace ha hx₀ hx hx' fun below v u₀ u hu₀ hu => ?_
  obtain ⟨below', before, after, -, hstep⟩ := hc.takes below
  rw [hstep] at hu₀ hu ⊢
  obtain ⟨o₀, ho₀, -⟩ := Option.map_eq_some_iff.1 hu₀
  obtain ⟨o, ho, rfl⟩ := Option.map_eq_some_iff.1 hu
  rw [h _ _ _ _ ho₀ ho]
  rfl

structure Alike (k : Kind) (m m' : List UInt8) : Prop where
  mp : k.ReadsAs m m m'
  mpr : k.ReadsAs m' m' m

theorem Alike.inside (hc : k.Child n c) (ha : (tokens? a).isSome) (hx : IsField x ⟨n, .bytes m⟩)
    (hx' : IsField x' ⟨n, .bytes m'⟩) (h : c.Alike m m') : k.Alike (a ++ x ++ b) (a ++ x' ++ b) :=
  ⟨.inside hc ha hx hx hx' h.mp, .inside hc ha hx' hx' hx h.mpr⟩

theorem Alike.replace (ha : (tokens? a).isSome) (hx : IsField x ⟨n, .bytes m⟩) (hx' : IsField x' ⟨n, .bytes m'⟩)
    (hstep : ∀ below v, k.step below v ⟨n, .bytes m⟩ = k.step below v ⟨n, .bytes m'⟩) :
    k.Alike (a ++ x ++ b) (a ++ x' ++ b) :=
  ⟨.replace ha hx hx hx' fun below v _ _ _ hu => (hstep below v).symm.trans hu,
    .replace ha hx' hx' hx fun below v _ _ _ hu => (hstep below v).trans hu⟩

/-- A field that is passed over may be put in. -/
theorem Alike.insert (hk : k ≠ entry) (ha : (tokens? a).isSome) (hx : IsField x f)
    (hf : ∀ below v, k.step below v f = some v) : k.Alike (a ++ b) (a ++ x ++ b) := by
  have hkept : k.isKept (a ++ x ++ b) = k.isKept (a ++ [] ++ b) := by rw [isKept_of_ne hk, isKept_of_ne hk]
  have hmp : k.ReadsAs (a ++ [] ++ b) (a ++ [] ++ b) (a ++ x ++ b) :=
    .splice ha isPart_nil isPart_nil hx.part (fun below v _ _ _ hu => (hf below v).trans hu) hkept
  have hmpr : k.ReadsAs (a ++ x ++ b) (a ++ x ++ b) (a ++ [] ++ b) :=
    .splice ha hx.part hx.part isPart_nil (fun below v _ _ _ hu => (hf below v).symm.trans hu) hkept.symm
  rw [List.append_nil] at hmp hmpr
  exact ⟨hmp, hmpr⟩

end Kind

/-! ## A field of an unknown number -/

/-- Puts a field of an unknown number into a message at some place in the tree. -/
inductive Inserts (f : Field) (place : Kind) : Kind → List UInt8 → List UInt8 → Prop
  | intro {a x b : List UInt8} : place.fieldCount < f.number → (tokens? a).isSome → IsField x f →
      Inserts f place place (a ++ b) (a ++ x ++ b)

namespace Inserts

variable {k c place : Kind} {n levels : Nat} {e e' m m' : List UInt8} {f : Field}

/-- The field makes no difference to a message of any kind that passes over it. -/
theorem alike (h : Inserts f place k m m') (hc : c ≠ .entry) (hf : ∀ below v, c.step below v f = some v) :
    c.Alike m m' := by
  obtain ⟨-, ha, hx⟩ := h
  exact .insert hc ha hx hf

theorem unknown (h : Inserts f place k m m') : k = place ∧ k.fieldCount < f.number := by
  obtain ⟨hf, -, -⟩ := h
  exact ⟨rfl, hf⟩

theorem alike_self (h : Inserts f place k m m') (hplace : place ≠ .entry) : k.Alike m m' := by
  obtain ⟨rfl, hf⟩ := h.unknown
  exact h.alike hplace fun _ => Kind.step_of_unknown hf

/-- An entry is set aside. -/
theorem read_entry (h : Inserts f .entry .entry e e') {s : Kind.entry.State} {o : Option Kind.entry.State}
    (hread : Kind.entry.read levels s e' = some o) : o = none := by
  obtain ⟨hf, ha, hx⟩ := h
  rcases Kind.entry.read_cases levels with hnone | ⟨below, hfold⟩
  · rw [hnone] at hread
    cases hread
  · rw [hfold, Kind.isKept_of_unknown ha hx hf] at hread
    obtain ⟨w, -, rfl⟩ := Option.map_eq_some_iff.1 hread
    rfl

theorem read_entry_of_read (h : Inserts f .entry .entry e e') {s : Kind.entry.State} {o : Option Kind.entry.State}
    (hread : Kind.entry.read levels s e = some o) : Kind.entry.read levels s e' = some none := by
  obtain ⟨hf, ha, hx⟩ := h
  rcases Kind.entry.read_cases levels with hnone | ⟨below, hfold⟩
  · rw [hnone] at hread
    cases hread
  · rw [hfold] at hread ⊢
    obtain ⟨w, hw, -⟩ := Option.map_eq_some_iff.1 hread
    rw [foldFields_insert ha hx (Kind.step_of_unknown hf) hw, Kind.isKept_of_unknown ha hx hf]
    rfl

/-- Around an entry that is set aside nothing changes. -/
theorem step_entry (h : Inserts f .entry .entry e e') (hc : k.Child n .entry) {v u : k.State}
    (hu : k.step levels v ⟨n, .bytes e'⟩ = some u) : some v = some u := by
  obtain ⟨below, before, after, hnone, hstep⟩ := hc.takes levels
  rw [hstep] at hu
  obtain ⟨o, ho, rfl⟩ := Option.map_eq_some_iff.1 hu
  rw [h.read_entry ho, hnone]

theorem step_entry_of_step (h : Inserts f .entry .entry e e') (hc : k.Child n .entry) {v u : k.State}
    (hu : k.step levels v ⟨n, .bytes e⟩ = some u) : k.step levels v ⟨n, .bytes e'⟩ = some v := by
  obtain ⟨below, before, after, hnone, hstep⟩ := hc.takes levels
  rw [hstep] at hu ⊢
  obtain ⟨o, ho, -⟩ := Option.map_eq_some_iff.1 hu
  rw [h.read_entry_of_read ho, Option.map_some, hnone]

end Inserts

/-! ## Changes at any depth -/

/-- A change of a message, or of a message in one of its fields, or of one in a field of that, and so on. -/
inductive Within (edit : Kind → List UInt8 → List UInt8 → Prop) : Kind → List UInt8 → List UInt8 → Prop
  | here {k : Kind} {m m' : List UInt8} : edit k m m' → Within edit k m m'
  | inside {k c : Kind} {n : Nat} {a b x x' m m' : List UInt8} : k.Child n c → (tokens? a).isSome →
      IsField x ⟨n, .bytes m⟩ → IsField x' ⟨n, .bytes m'⟩ → Within edit c m m' →
      Within edit k (a ++ x ++ b) (a ++ x' ++ b)

/-- Puts a field of an unknown number into an entry at any depth; the last message is without the entry. -/
inductive Spoils (f : Field) : Kind → List UInt8 → List UInt8 → List UInt8 → Prop
  | here {k : Kind} {n : Nat} {a b x x' e e' : List UInt8} : k.Child n .entry → (tokens? a).isSome →
      IsField x ⟨n, .bytes e⟩ → IsField x' ⟨n, .bytes e'⟩ → Inserts f .entry .entry e e' →
      Spoils f k (a ++ x ++ b) (a ++ x' ++ b) (a ++ b)
  | inside {k c : Kind} {n : Nat} {a b x x' x'' m m' m'' : List UInt8} : k.Child n c → (tokens? a).isSome →
      IsField x ⟨n, .bytes m⟩ → IsField x' ⟨n, .bytes m'⟩ → IsField x'' ⟨n, .bytes m''⟩ → Spoils f c m m' m'' →
      Spoils f k (a ++ x ++ b) (a ++ x' ++ b) (a ++ x'' ++ b)

variable {edit : Kind → List UInt8 → List UInt8 → Prop} {k : Kind} {m m' m'' : List UInt8} {f : Field}

theorem Within.alike (hedit : ∀ k m m', edit k m m' → k.Alike m m') (h : Within edit k m m') : k.Alike m m' := by
  induction h with
  | here h => exact hedit _ _ _ h
  | inside hc ha hx hx' _ ih => exact .inside hc ha hx hx' ih

/-- The message may be all there is in another. -/
theorem Spoils.alone {c : Kind} {n : Nat} (hc : k.Child n c) (h : Spoils f c m m' m'')
    (hm : ∀ bs ∈ [m, m', m''], bs.length < 0x10000000000000000) (hn : IsNumber n := by decide) :
    Spoils f k (bytesField n m) (bytesField n m') (bytesField n m'') := by
  have hfield (bs : List UInt8) (hbs : bs ∈ [m, m', m'']) : IsField (bytesField n bs) ⟨n, .bytes bs⟩ :=
    isField_bytesField (hm bs hbs) hn
  have hinside := Spoils.inside (b := []) hc isSome_tokens?_nil (hfield m (by simp)) (hfield m' (by simp))
    (hfield m'' (by simp)) h
  simpa only [List.nil_append, List.append_nil] using hinside

/-- A message with a spoilt entry reads as the message without the entry. -/
theorem Spoils.readsAs (h : Spoils f k m m' m'') : k.ReadsAs m' m' m'' ∧ k.ReadsAs m m'' m' := by
  induction h with
  | inside hc ha hx hx' hx'' _ ih => exact ⟨.inside hc ha hx' hx' hx'' ih.1, .inside hc ha hx hx'' hx' ih.2⟩
  | @here k n a b x x' e e' hc ha hx hx' hinserts =>
    have hkept : ∀ bs, k.isKept bs = true := Kind.isKept_of_ne (by rintro rfl; cases hc)
    constructor
    · have h := Kind.ReadsAs.splice (b := b) ha hx'.part hx'.part isPart_nil
        (fun _ _ _ _ _ => hinserts.step_entry hc) (by rw [hkept, hkept])
      rwa [List.append_nil] at h
    · have h := Kind.ReadsAs.splice (b := b) ha hx.part isPart_nil hx'.part
        (fun _ _ _ _ hu₀ hu => (hinserts.step_entry_of_step hc hu₀).trans hu) (by rw [hkept, hkept])
      rwa [List.append_nil] at h

/-! ## Headers and frames

The first message of a response is read as a header, and then it may be read as a frame. Only the error stands in the
same field of both. -/

theorem Kind.ReadsAs.frame {r r' : RowFrame} {m₀ : List UInt8} (h : Kind.frame.ReadsAs m₀ m m')
    (hr₀ : RowFrame.read? m₀ = some r) (hr : RowFrame.read? m = some r') : RowFrame.read? m' = some r' := by
  have hread := h 0 {} (some r) (some r') (congrArg (Option.map some) hr₀) (congrArg (Option.map some) hr)
  exact Option.map_injective (Option.some_injective _) hread

theorem Kind.ReadsAs.header {r : Header} (h : Kind.header.ReadsAs m m m') (hr : Header.read? m = some r) :
    Header.read? m' = some r := by
  have hread := h 0 {} (some r) (some r) (congrArg (Option.map some) hr) (congrArg (Option.map some) hr)
  exact Option.map_injective (Option.some_injective _) hread

theorem Kind.Alike.frame (h : Kind.frame.Alike m m') : RowFrame.read? m' = RowFrame.read? m :=
  Option.ext fun _ => ⟨fun hr => h.mpr.frame hr hr, fun hr => h.mp.frame hr hr⟩

theorem Kind.Alike.header (h : Kind.header.Alike m m') : Header.read? m' = Header.read? m :=
  Option.ext fun _ => ⟨h.mpr.header, h.mp.header⟩

theorem Within.frame_alike (htop : edit .header m m' → Kind.frame.Alike m m')
    (hedit : ∀ k m m', edit k m m' → k.Alike m m') (h : Within edit .header m m') : Kind.frame.Alike m m' := by
  cases h with
  | here h => exact htop h
  | inside hc ha hx hx' h =>
    cases hc with
    | headerError => exact .inside .frameError ha hx hx' (h.alike hedit)
    | headerTransform => exact .replace ha hx hx' fun _ _ => rfl

theorem Within.header_alike (htop : edit .frame m m' → Kind.header.Alike m m')
    (hedit : ∀ k m m', edit k m m' → k.Alike m m') (h : Within edit .frame m m') : Kind.header.Alike m m' := by
  cases h with
  | here h => exact htop h
  | inside hc ha hx hx' h =>
    cases hc with
    | row => exact .replace ha hx hx' fun _ _ => rfl
    | frameError => exact .inside .headerError ha hx hx' (h.alike hedit)

theorem Spoils.header_read?_eq (h : Spoils f .frame m m' m'') :
    Header.read? m' = Header.read? m ∧ Header.read? m'' = Header.read? m := by
  cases h with
  | here hc => cases hc
  | inside hc ha hx hx' hx'' h =>
    cases hc with
    | row =>
      exact ⟨Kind.Alike.header (.replace ha hx hx' fun _ _ => rfl),
        Kind.Alike.header (.replace ha hx hx'' fun _ _ => rfl)⟩
    | frameError =>
      -- no entry stands in the message of an error
      cases h with
      | here hc => cases hc
      | inside hc => cases hc

variable {place : Kind}

theorem frame_read?_of_inserts (hplace : place ≠ .entry) (hk : k = .frame ∨ k = .header)
    (h : Within (Inserts f place) k m m') : RowFrame.read? m' = RowFrame.read? m := by
  have hself (k : Kind) (m m' : List UInt8) (h : Inserts f place k m m') : k.Alike m m' := h.alike_self hplace
  rcases hk with rfl | rfl
  · exact (h.alike hself).frame
  · refine (h.frame_alike (fun htop => ?_) hself).frame
    -- what a header does not have a frame does not have either
    have hf : Kind.header.fieldCount < f.number := htop.unknown.2
    exact htop.alike (by decide) fun _ => Kind.step_of_unknown (Nat.lt_trans (by decide) hf)

theorem header_read?_of_inserts (hplace : place ≠ .entry) (hk : k = .frame ∨ k = .header)
    (hf : k = .frame → place = .frame → ∀ h, Header.step h f = some h)
    (h : Within (Inserts f place) k m m') : Header.read? m' = Header.read? m := by
  have hself (k : Kind) (m m' : List UInt8) (h : Inserts f place k m m') : k.Alike m m' := h.alike_self hplace
  rcases hk with rfl | rfl
  · exact (h.header_alike (fun htop => htop.alike (by decide) fun _ => hf rfl htop.unknown.1.symm) hself).header
  · exact (h.alike hself).header

end FeatureGraph.Wire
