import FeatureGraph.Cypher.Query
import FeatureGraph.Proofs.Cypher.Policy
import FeatureGraph.Proofs.Result
import Mathlib.Algebra.Group.Int.Defs

/-! # How a spatial filter fails

A filter that cannot be read is a failure of its own kind, which a query may pass over. Two whole numbers are beyond
that: a coordinate that is too large for a double, and a reference with too many digits to be shown. So are objects within
each other that there is no room for, in the text of a geometry or in a reference. -/
namespace FeatureGraph.Spatial

/-- A result, or a failure of the spatial filter. -/
def Typed {α : Type} (x : Except Fault α) : Prop :=
  (∃ a, x = .ok a) ∨ ∃ f : Failure, x = .error (.failure f) ∧ f.kind = .spatialFilter

section
variable {α β : Type} {x : Except Fault α} {f : α → Except Fault β}

theorem typed_ok (a : α) : Typed (.ok a : Except Fault α) := .inl ⟨a, rfl⟩

theorem typed_failure (message : String) (details : List (String × Json)) :
    Typed (.error (.failure (failure message details)) : Except Fault α) := .inr ⟨_, rfl, rfl⟩

theorem not_typed_defect (d : Defect) : ¬Typed (.error (.defect d) : Except Fault α) := by
  rintro (⟨a, ⟨⟩⟩ | ⟨f, ⟨⟩, -⟩)

theorem typed_bind_iff : Typed (x >>= f) ↔ Typed x ∧ ∀ a, x = .ok a → Typed (f a) := by
  cases x with
  | error e =>
    have hbind : (Except.error e >>= f : Except Fault β) = .error e := rfl
    rw [hbind]
    simp [Typed]
  | ok a =>
    show Typed (f a) ↔ _
    simp [typed_ok]

theorem typed_map_iff {g : α → β} : Typed (do return g (← x) : Except Fault β) ↔ Typed x := by
  rw [typed_bind_iff]
  exact and_iff_left fun a _ => typed_ok (g a)

end

/-! ## References -/

/-- A reference that refers on and on, beyond what there is room for. -/
def IsTooDeep (v : Json) (calls : Nat) : Prop := ∃ d, identifier calls v = .error d

/-- A whole number with too many digits is no reference, and no message shows it. -/
def IsUnwritable (v : Json) (calls : Nat) : Prop := ∃ id, identifier calls v = .ok id ∧ id.isWritable = false

def Breaks (v : Json) (calls : Nat) : Prop := IsTooDeep v calls ∨ IsUnwritable v calls

section
variable {calls : Nat} {v : Json}

theorem isWritable_of_isBlank (h : v.isBlank = true) : v.isWritable = true := by
  cases v with
  | null | text => rfl
  | _ => cases h

theorem typed_reference_iff : Typed (reference v calls) ↔ ¬Breaks v calls := by
  unfold reference Breaks IsTooDeep IsUnwritable
  cases identifier calls v with
  | error d => exact iff_of_false (not_typed_defect d) fun h => h (.inl ⟨d, rfl⟩)
  | ok id =>
    have hbreaks : ((∃ d, (.ok id : Except Defect Json) = .error d) ∨
        ∃ id', (.ok id : Except Defect Json) = .ok id' ∧ id'.isWritable = false) ↔ id.isWritable = false := by simp
    rw [hbreaks, Bool.not_eq_false]
    show Typed (if id.isBlank then _ else _) ↔ _
    split
    · next hblank => exact iff_of_true (typed_ok _) (isWritable_of_isBlank hblank)
    · split
      · next hwritable =>
        refine iff_of_true ?_ hwritable
        split
        · exact typed_ok _
        · exact typed_failure _ _
      · next hnot => exact iff_of_false (not_typed_defect _) hnot

end

/-! ## Geometry parameters -/

/-- A geometry parameter as it is sent: left out, a text or an object. -/
def IsGeometry : Json → Prop
  | .null | .text _ | .object _ => True
  | _ => False

/-- A parameter that is left out or a text. -/
def IsTextual : Json → Prop
  | .null | .text _ => True
  | _ => False

/-- The object that a geometry parameter is, or is the text of. -/
inductive Holds (calls : Nat) : Json → Json → Prop where
  | object (members : List (String × Json)) : Holds calls (.object members) (.object members)
  | text {s : String} {members : List (String × Json)} (hlooks : looksLikeObject s = true)
    (hloads : Json.loads (String.ofList (Text.trim s.toList)) calls = .ok (some (.object members))) :
    Holds calls (.text s) (.object members)

/-- The text of an object with more within each other than there is room for. -/
def IsDeepText (geometry : Json) (calls : Nat) : Prop :=
  ∃ s d, geometry = .text s ∧ looksLikeObject s = true ∧
    Json.loads (String.ofList (Text.trim s.toList)) calls = .error d

section
variable {calls : Nat} {geometry : Json}

theorem typed_ofObject_iff (o : Json) :
    Typed (do return .object o (← reference (o.get "spatialReference") calls) : Except Fault Given) ↔
      ¬Breaks (o.get "spatialReference") calls := by
  rw [typed_map_iff, typed_reference_iff]

/-- The text of an object is read as JSON. -/
theorem given_text_object {s : String} (h : looksLikeObject s = true) : given (.text s) calls = (do
    match ← (Json.loads (String.ofList (Text.trim s.toList)) calls).mapError Fault.defect with
    | none => .error (failure "geometry is not valid JSON")
    | some (.object ms) => return .object (.object ms) (← reference (Json.get "spatialReference" (.object ms)) calls)
    | some _ => .error (failure "geometry JSON must be an object")) := by
  have hhead : ((Text.trim s.toList).head? == some '\x7b') = true := h
  simp only [given, Json.isWritable, Json.display, hhead]
  rfl

theorem typed_given_text_iff {s : String} (h : looksLikeObject s = true) : Typed (given (.text s) calls) ↔
    ¬IsDeepText (.text s) calls ∧ ∀ o, Holds calls (.text s) o → ¬Breaks (o.get "spatialReference") calls := by
  rw [given_text_object h]
  cases hloads : Json.loads (String.ofList (Text.trim s.toList)) calls with
  | error d => exact iff_of_false (not_typed_defect d) fun hnot => hnot.1 ⟨s, d, rfl, h, hloads⟩
  | ok read =>
    have hshallow : ¬IsDeepText (.text s) calls := by
      rintro ⟨s', d, ⟨⟩, -, hd⟩
      rw [hloads] at hd
      cases hd
    have hholds : ∀ o, Holds calls (.text s) o ↔ read = some o ∧ ∃ members, o = .object members := by
      intro o
      constructor
      · rintro (_ | ⟨-, heq⟩)
        exact ⟨by simpa [hloads] using heq, _, rfl⟩
      · rintro ⟨rfl, members, rfl⟩
        exact .text h hloads
    have hothers : (∀ members, read ≠ some (.object members)) →
        ∀ o, Holds calls (.text s) o → ¬Breaks (o.get "spatialReference") calls := by
      intro hnot o ho
      obtain ⟨rfl, members, rfl⟩ := (hholds o).1 ho
      exact absurd rfl (hnot members)
    rw [and_iff_right hshallow]
    cases read with
    | none => exact iff_of_true (typed_failure _ _) (hothers nofun)
    | some o =>
      cases o with
      | object members =>
        refine (typed_ofObject_iff (.object members)).trans ⟨fun hmembers o ho => ?_, fun hall => hall _ ((hholds _).2 ⟨rfl, _, rfl⟩)⟩
        obtain ⟨heq, -⟩ := (hholds o).1 ho
        rwa [← Option.some.inj heq]
      | _ => exact iff_of_true (typed_failure _ _) (hothers nofun)

theorem typed_given_iff (h : IsGeometry geometry) : Typed (given geometry calls) ↔
    ¬IsDeepText geometry calls ∧ ∀ o, Holds calls geometry o → ¬Breaks (o.get "spatialReference") calls := by
  cases geometry with
  | bool | int | float | list => exact h.elim
  | null =>
    have hgiven : Typed (given .null calls) := typed_failure _ _
    exact iff_of_true hgiven ⟨by rintro ⟨s, d, ⟨⟩, -⟩, nofun⟩
  | object members =>
    refine (typed_ofObject_iff (.object members)).trans ⟨fun hmembers => ⟨by rintro ⟨s, d, ⟨⟩, -⟩, ?_⟩,
      fun hall => hall.2 _ (.object members)⟩
    rintro o ⟨⟩
    exact hmembers
  | text s =>
    by_cases hlooks : looksLikeObject s
    · exact typed_given_text_iff hlooks
    · have hhead : ((Text.trim s.toList).head? == some '\x7b') = false := by simpa [looksLikeObject] using hlooks
      have hgiven : Typed (given (.text s) calls) := by
        simp only [given, Json.isWritable, Json.display, hhead, Bool.not_true, Bool.false_eq_true, if_false]
        split
        · exact typed_ok _
        · exact typed_failure _ _
      refine iff_of_true hgiven ⟨?_, ?_⟩
      · rintro ⟨s', d, ⟨⟩, hobject, -⟩
        exact hlooks hobject
      · rintro o (_ | ⟨hobject, -⟩)
        exact absurd hobject hlooks

end

/-! ## Coordinates -/

/-- A whole number beyond the doubles. -/
def IsTooLarge (v : Json) : Prop := ∃ n, v = .int n ∧ Number.ofInt? n = none

def IsNumber (v : Json) : Prop := ∃ x, v.toFloat = .ok x

/-- The first of some members that is no double is too large for one. -/
def Overflows (o : Json) (names : List String) : Prop :=
  ∃ before name after, names = before ++ name :: after ∧ (∀ m ∈ before, IsNumber (o.get m)) ∧ IsTooLarge (o.get name)

def coordinateNames (o : Json) : List String :=
  if ["xmin", "ymin", "xmax", "ymax"].all (fun name => (o.get? name).isSome) then ["xmin", "ymin", "xmax", "ymax"]
  else if (o.get? "x").isSome && (o.get? "y").isSome then ["x", "y"]
  else []

section
variable {o : Json} {name : String} {names : List String} {x : Float}

theorem not_overflows_nil : ¬Overflows o [] := by
  rintro ⟨before, name, after, hnames, -⟩
  exact absurd hnames.symm (by simp)

theorem overflows_cons :
    Overflows o (name :: names) ↔ IsTooLarge (o.get name) ∨ IsNumber (o.get name) ∧ Overflows o names := by
  constructor
  · rintro ⟨before, name', after, hnames, hbefore, hlarge⟩
    cases before with
    | nil =>
      cases hnames
      exact .inl hlarge
    | cons first before =>
      cases hnames
      obtain ⟨hfirst, hbefore⟩ := List.forall_mem_cons.1 hbefore
      exact .inr ⟨hfirst, before, name', after, rfl, hbefore, hlarge⟩
  · rintro (hlarge | ⟨hnumber, before, name', after, rfl, hbefore, hlarge⟩)
    · exact ⟨[], name, names, rfl, by simp, hlarge⟩
    · exact ⟨name :: before, name', after, rfl, List.forall_mem_cons.2 ⟨hnumber, hbefore⟩, hlarge⟩

theorem toFloat_eq_numberTooLarge_iff {v : Json} : v.toFloat = .error .numberTooLarge ↔ IsTooLarge v := by
  cases v with
  | int n =>
    have htoFloat : Json.toFloat (.int n) = (Number.ofInt? n).elim (.error .numberTooLarge) .ok := rfl
    rw [htoFloat]
    cases hn : Number.ofInt? n <;> simp [IsTooLarge, hn]
  | text s =>
    have htoFloat : Json.toFloat (.text s) = (Number.float? s.toList).elim (.error (.invalidNumber s)) .ok := rfl
    rw [htoFloat]
    cases Number.float? s.toList <;> simp [IsTooLarge]
  | _ => simp [IsTooLarge, Json.toFloat]

theorem coordinate_eq_ok : coordinate o name = .ok x ↔ (o.get name).toFloat = .ok x := by
  unfold coordinate
  cases (o.get name).toFloat with
  | ok y => exact ⟨fun h => by cases h; rfl, fun h => by cases h; rfl⟩
  | error d => cases d <;> exact ⟨nofun, nofun⟩

theorem typed_coordinate_iff : Typed (coordinate o name) ↔ ¬IsTooLarge (o.get name) := by
  rw [← toFloat_eq_numberTooLarge_iff]
  unfold coordinate
  cases h : (o.get name).toFloat with
  | ok x => exact iff_of_true (typed_ok _) nofun
  | error d =>
    cases d with
    | numberTooLarge => exact iff_of_false (not_typed_defect _) fun hne => hne rfl
    | _ => exact iff_of_true (typed_failure _ _) nofun

/-- A coordinate that is read before further ones. -/
theorem typed_coordinate_bind_iff {α : Type} {f : Float → Except Fault α} (hf : ∀ x, Typed (f x) ↔ ¬Overflows o names) :
    Typed (coordinate o name >>= f) ↔ ¬Overflows o (name :: names) := by
  rw [typed_bind_iff, typed_coordinate_iff, overflows_cons, not_or, not_and]
  refine and_congr_right fun _ => ⟨?_, ?_⟩
  · rintro htyped ⟨x, hx⟩
    exact (hf x).1 (htyped x (coordinate_eq_ok.2 hx))
  · intro hoverflows x hx
    exact (hf x).2 (hoverflows ⟨x, coordinate_eq_ok.1 hx⟩)

theorem typed_shapeOfObject_iff : Typed (shapeOfObject o) ↔ ¬Overflows o (coordinateNames o) := by
  have hlast (s : Shape Float) : Typed (pure s : Except Fault (Shape Float)) ↔ ¬Overflows o [] :=
    iff_of_true (typed_ok s) not_overflows_nil
  unfold shapeOfObject coordinateNames
  dsimp only
  split
  · exact typed_coordinate_bind_iff fun xmin => typed_coordinate_bind_iff fun ymin =>
      typed_coordinate_bind_iff fun xmax => typed_coordinate_bind_iff fun ymax => hlast _
  · split
    · exact typed_coordinate_bind_iff fun x => typed_coordinate_bind_iff fun y => hlast _
    · exact iff_of_true (typed_failure _ _) not_overflows_nil

theorem typed_shapeOfNumbers (xs : List Float) : Typed ((shapeOfNumbers xs).mapError Fault.failure) := by
  unfold shapeOfNumbers
  split
  · exact typed_ok _
  · exact typed_ok _
  · exact typed_failure _ _

end

/-! ## Filters -/

/-- The parameters fail the filter without a failure of its kind: by the text of the geometry, by the reference inside the
geometry, by the one beside it, or by a coordinate. -/
inductive Escapes (calls : Nat) (p : Parameters) : Prop where
  | geometry (h : IsDeepText p.geometry calls)
  | inside {o : Json} (ho : Holds calls p.geometry o) (h : Breaks (o.get "spatialReference") calls)
  | beside {g : Given} (hg : given p.geometry calls = .ok g) (h : Breaks p.inReference calls)
  | coordinate {o : Json} {inside beside : Option Int} (hg : given p.geometry calls = .ok (.object o inside))
    (hr : reference p.inReference calls = .ok beside) (h : Overflows o (coordinateNames o))

section
variable {p : Parameters} {function namespaceName : String} {field : Option String} {projection : Projection} {calls : Nat}

theorem not_escapes_of_isBlank (hgeometry : IsGeometry p.geometry) (h : p.geometry.isBlank = true) : ¬Escapes calls p := by
  obtain ⟨geometry, inReference, relation⟩ := p
  have hnot : ∀ g, given geometry calls ≠ .ok g := by
    cases geometry with
    | null =>
      rintro g ⟨⟩
    | text s =>
      obtain rfl : s = "" := String.isEmpty_iff.1 h
      rintro g ⟨⟩
    | bool | int | float | list => exact hgeometry.elim
    | object => cases h
  rintro (⟨s, d, rfl, hlooks, -⟩ | ⟨ho, -⟩ | ⟨hg, -⟩ | ⟨hg, -, -⟩)
  · obtain rfl := String.isEmpty_iff.1 h
    cases hlooks
  · cases ho with
    | object => cases h
    | text hlooks hloads =>
      obtain rfl := String.isEmpty_iff.1 h
      cases hlooks
  · exact hnot _ hg
  · exact hnot _ hg

/-- A filter that is not blank: first the geometry is read, then the reference beside it, then the shape. -/
theorem located_eq (h : p.geometry.isBlank = false) : located p.geometry p.inReference calls = (do
    let g ← given p.geometry calls
    let beside ← reference p.inReference calls
    match g with
    | .numbers xs => do return ((← (shapeOfNumbers xs).mapError .failure), chosen beside none)
    | .object o inside => do return ((← shapeOfObject o), chosen beside inside)) := by
  unfold located
  rw [h]
  rfl

theorem typed_located_iff (hgeometry : IsGeometry p.geometry) :
    Typed (located p.geometry p.inReference calls) ↔ ¬Escapes calls p := by
  cases hblank : p.geometry.isBlank with
  | true =>
    have hlocated : located p.geometry p.inReference calls = .error (failure "empty geometry") := by
      unfold located
      rw [hblank]
      rfl
    rw [hlocated]
    exact iff_of_true (typed_failure _ _) (not_escapes_of_isBlank hgeometry hblank)
  | false =>
    rw [located_eq hblank, typed_bind_iff, typed_given_iff hgeometry]
    constructor
    · rintro ⟨⟨hshallow, hinside⟩, hrest⟩ (hdeep | ⟨ho, h⟩ | ⟨hg, h⟩ | ⟨hg, hr, h⟩)
      · exact hshallow hdeep
      · exact hinside _ ho h
      · exact typed_reference_iff.1 (typed_bind_iff.1 (hrest _ hg)).1 h
      · exact typed_shapeOfObject_iff.1 (typed_map_iff.1 ((typed_bind_iff.1 (hrest _ hg)).2 _ hr)) h
    · intro hescapes
      refine ⟨⟨fun h => hescapes (.geometry h), fun o ho h => hescapes (.inside ho h)⟩, fun g hg => ?_⟩
      rw [typed_bind_iff, typed_reference_iff]
      refine ⟨fun h => hescapes (.beside hg h), fun beside hr => ?_⟩
      cases g with
      | numbers xs => exact typed_map_iff.2 (typed_shapeOfNumbers xs)
      | object o inside =>
        exact typed_map_iff.2 (typed_shapeOfObject_iff.2 fun h => hescapes (.coordinate hg hr h))

/-- A projection that fails is a failure of the filter. -/
theorem typed_shape_iff (hgeometry : IsGeometry p.geometry) :
    Typed (shape p.geometry p.inReference projection calls) ↔ ¬Escapes calls p := by
  rw [← typed_located_iff hgeometry, shape, typed_bind_iff]
  refine and_iff_left fun located _ => ?_
  dsimp only
  split
  · unfold inDegrees
    cases projection.shape? located.1 with
    | none => exact typed_failure _ _
    | some s => exact typed_ok s
  · exact typed_ok _

theorem typed_functionOf {relation : Json} (h : IsTextual relation) : Typed (functionOf relation) := by
  obtain ⟨s, hs⟩ : ∃ s, relation.truthy?.getD (.text "esriSpatialRelIntersects") = .text s := by
    cases relation with
    | bool | int | float | list | object => exact h.elim
    | null => exact ⟨_, rfl⟩
    | text s => cases hs : s.isEmpty <;> simp [Json.truthy?, Json.isTruthy, hs]
  unfold functionOf
  rw [hs]
  dsimp only
  split
  · exact typed_ok _
  · exact typed_failure _ _

/-- What has to be there before the geometry is looked at: a field to compare with, and a function to compare by. -/
def Applies (field : Option String) (relation : Json) : Prop :=
  (∃ name, field = some name ∧ name ≠ "") ∧ ∃ function, functionOf relation = .ok function

theorem predicate_eq {name : String} (h : name ≠ "") : predicate namespaceName (some name) p projection calls = (do
    let function ← functionOf p.relation
    let s ← shape p.geometry p.inReference projection calls
    return alternatives function namespaceName name s) := by
  have hname : name.isEmpty = false := by simpa using h
  unfold predicate
  dsimp only
  rw [hname]
  rfl

theorem typed_predicate_iff (hgeometry : IsGeometry p.geometry) (hrelation : IsTextual p.relation) :
    Typed (predicate namespaceName field p projection calls) ↔ ¬(Applies field p.relation ∧ Escapes calls p) := by
  by_cases hfield : ∃ name, field = some name ∧ name ≠ ""
  · obtain ⟨name, rfl, hname⟩ := hfield
    rw [predicate_eq hname, typed_bind_iff, and_iff_right (typed_functionOf hrelation)]
    simp only [typed_map_iff, typed_shape_iff hgeometry]
    constructor
    · rintro hshape ⟨⟨-, function, hfunction⟩, hescapes⟩
      exact hshape function hfunction hescapes
    · intro hnot function hfunction hescapes
      exact hnot ⟨⟨⟨name, rfl, hname⟩, function, hfunction⟩, hescapes⟩
  · have hfailure : predicate namespaceName field p projection calls =
        .error (failure "layer has no geometry field") := by
      cases field with
      | none => rfl
      | some name =>
        obtain rfl : name = "" := by
          by_contra hname
          exact hfield ⟨name, rfl, hname⟩
        rfl
    rw [hfailure]
    exact iff_of_true (typed_failure _ _) fun h => hfield h.1.1

end

end FeatureGraph.Spatial

namespace FeatureGraph
open Spatial

/-! ## Queries -/

/-- What a query says about space. -/
def FeatureQuery.spatial (q : FeatureQuery) : Parameters := ⟨q.geometry, q.inReference, q.relation⟩

namespace Cypher

section
variable {q : FeatureQuery} {field : Option String} {platform : Platform}

theorem exists_spatialPredicate_skip_iff (hgeometry : IsGeometry q.geometry) (hrelation : IsTextual q.relation) :
    (∃ spatial, spatialPredicate .skip field q platform = .ok spatial) ↔
      ¬(Applies field q.relation ∧ Escapes platform.calls q.spatial) := by
  cases hnull : q.geometry.isNull with
  | true =>
    have hblank : q.spatial.geometry.isBlank = true := by
      show q.geometry.isBlank = true
      cases hq : q.geometry <;> simp_all [Json.isNull, Json.isBlank]
    have hnone : spatialPredicate .skip field q platform = .ok none := by rw [spatialPredicate, hnull]; rfl
    exact iff_of_true ⟨none, hnone⟩ fun h => not_escapes_of_isBlank hgeometry hblank h.2
  | false =>
    have htyped : Typed (predicate "n" field q.spatial platform.projection platform.calls) ↔
        ¬(Applies field q.relation ∧ Escapes platform.calls q.spatial) := typed_predicate_iff hgeometry hrelation
    have hparameters : (⟨q.geometry, q.inReference, q.relation⟩ : Parameters) = q.spatial := rfl
    rw [← htyped, spatialPredicate, hnull, if_neg (by decide), hparameters]
    cases predicate "n" field q.spatial platform.projection platform.calls with
    | ok p => exact iff_of_true ⟨_, rfl⟩ (typed_ok p)
    | error e =>
      cases e with
      | defect d => exact iff_of_false (by rintro ⟨_, ⟨⟩⟩) (not_typed_defect d)
      | failure f => by_cases hkind : f.kind = .spatialFilter <;> simp [Typed, hkind]

/-- A query that passes over spatial filters fails by its other filter, or by what no failure tells of. -/
theorem exists_filters_skip_iff (hgeometry : IsGeometry q.geometry) (hrelation : IsTextual q.relation) :
    (∃ text, filters .skip field q platform = .ok text) ↔
      (∃ filter, filterPredicate q platform = .ok filter) ∧
        ¬(Applies field q.relation ∧ Escapes platform.calls q.spatial) := by
  rw [← exists_spatialPredicate_skip_iff hgeometry hrelation, filters]
  cases filterPredicate q platform with
  | error e => exact iff_of_false (by rintro ⟨_, ⟨⟩⟩) (by rintro ⟨⟨_, ⟨⟩⟩, -⟩)
  | ok filter =>
    cases spatialPredicate .skip field q platform with
    | error e => exact iff_of_false (by rintro ⟨_, ⟨⟩⟩) (by rintro ⟨-, _, ⟨⟩⟩)
    | ok spatial => exact iff_of_true ⟨_, rfl⟩ ⟨⟨_, rfl⟩, _, rfl⟩

/-- What is built of the filters and the number of rows is there if both are. -/
theorem exists_limited_iff {x : Except Fault String} {build : String → String → String} :
    (∃ text, (do
      let filters ← x
      let limit ← (limitClause q).mapError .defect
      return build filters limit : Except Fault String) = .ok text) ↔ (∃ text, x = .ok text) ∧ ¬q.HasLongLimit := by
  have hlimit := limitClause_faultsWhen q
  generalize (limitClause q).mapError Fault.defect = y at hlimit
  cases x with
  | error e => exact iff_of_false (by rintro ⟨_, ⟨⟩⟩) (by rintro ⟨⟨_, ⟨⟩⟩, -⟩)
  | ok text =>
    cases hlimit with
    | ok limit h => exact iff_of_true ⟨_, rfl⟩ ⟨⟨_, rfl⟩, h⟩
    | error h => exact iff_of_false (by rintro ⟨_, ⟨⟩⟩) fun hnot => hnot.2 h

/-- A spatial filter gives a predicate or fails as one, and a query that passes over such failures has no other of it,
but for objects that are too deep within each other, and whole numbers that are too large: as coordinates for a double,
as a reference for a message. -/
theorem spatial_fails_as (hgeometry : IsGeometry q.geometry) (hrelation : IsTextual q.relation) (platform : Platform) :
    (∀ namespaceName, Typed (predicate namespaceName field q.spatial platform.projection platform.calls) ↔
      ¬(Applies field q.relation ∧ Escapes platform.calls q.spatial)) ∧
    (∀ entity, (∃ text, entityQuery .skip entity field q platform = .ok text) ↔
      ((∃ filter, filterPredicate q platform = .ok filter) ∧
        ¬(Applies field q.relation ∧ Escapes platform.calls q.spatial)) ∧ ¬q.HasLongLimit) ∧
    ∀ entity related name role, (∃ text, relationshipQuery .skip entity related name role field q platform = .ok text) ↔
      ((∃ filter, filterPredicate q platform = .ok filter) ∧
        ¬(Applies field q.relation ∧ Escapes platform.calls q.spatial)) ∧ ¬q.HasLongLimit := by
  rw [← exists_filters_skip_iff hgeometry hrelation]
  exact ⟨fun _ => typed_predicate_iff hgeometry hrelation, fun _ => exists_limited_iff, fun _ _ _ _ => exists_limited_iff⟩

/-- A point far beyond the doubles. -/
def farPoint : FeatureQuery := { geometry := .object [("x", .int (10 ^ 400)), ("y", .int 1)] }

theorem escapes_farPoint : Applies (some "shape") farPoint.relation ∧ Escapes callLimit farPoint.spatial := by
  have hlarge : IsTooLarge (.int (10 ^ 400)) := ⟨_, rfl, by decide +kernel⟩
  have hgiven : given farPoint.geometry = .ok (.object farPoint.geometry none) := rfl
  have hreference : reference farPoint.inReference = .ok none := rfl
  exact ⟨⟨⟨_, rfl, by decide⟩, _, rfl⟩, .coordinate hgiven hreference ⟨[], "x", ["y"], rfl, by simp, hlarge⟩⟩

theorem spatial_fails_as_farPoint :
    IsGeometry farPoint.geometry ∧ IsTextual farPoint.relation ∧
      ¬Typed (predicate "n" (some "shape") farPoint.spatial) ∧
      ¬∃ text, entityQuery .skip "Well" (some "shape") farPoint = .ok text := by
  obtain ⟨hpredicate, hentity, -⟩ := @spatial_fails_as farPoint (some "shape") trivial trivial {}
  exact ⟨trivial, trivial, fun h => (hpredicate "n").1 h escapes_farPoint,
    fun h => ((hentity "Well").1 h).1.2 escapes_farPoint⟩

/-- A predicate of a geometry that is an object fails, and not as a spatial filter. -/
theorem not_typed_farPoint : ¬Typed (predicate "n" (some "shape") farPoint.spatial) := fun h =>
  (typed_predicate_iff (p := farPoint.spatial) trivial trivial).1 h escapes_farPoint

end

end Cypher
end FeatureGraph
