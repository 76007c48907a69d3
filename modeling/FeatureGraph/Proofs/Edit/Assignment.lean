import FeatureGraph.Edit.Build
import FeatureGraph.Proofs.Wire.Any
import Mathlib

/-! # What an assigned value becomes

A value that can be assigned to a variant is in the range of the variant, and what is read from it again is the
value, as far as the variant does not convert it. -/
namespace FeatureGraph

/-! ## Equal values -/

namespace Value

/-- Values that are the same, where a NaN counts as the same as itself. -/
def Matches (v w : Value) : Prop := v.same w = true ∨ ∃ x : Float, x.isNaN = true ∧ v = float x ∧ w = float x

theorem Matches.float (x : Float) : (float x).Matches (float x) := by
  cases hx : x.isNaN with
  | true => exact .inr ⟨x, hx, rfl, rfl⟩
  | false =>
    have hne : x ≠ .nan := by simpa using hx
    exact .inl (Float.beq_self_iff.2 hne)

theorem Matches.int {n : Int} {v : Value} (h : v.asInt? = some n) : (int n).Matches v := by
  cases v with
  | bool b =>
    cases h
    exact .inl (beq_self_eq_true (if b then 1 else 0 : Int))
  | int m =>
    cases h
    exact .inl (beq_self_eq_true n)
  | _ => cases h

theorem Matches.text (s : String) : (text s).Matches (text s) := .inl (beq_self_eq_true s)

theorem Matches.bytes (bs : List UInt8) : (bytes bs).Matches (bytes bs) := .inl (beq_self_eq_true bs)

theorem Matches.geometry (g : QuantizedGeometry) : (geometry g).Matches (geometry g) := .inl (beq_self_eq_true g)

theorem Matches.bool (b : Bool) : (bool b).Matches (bool b) := .inl (beq_self_eq_true (if b then 1 else 0 : Int))

theorem Matches.null : null.Matches null := .inl rfl

end Value

namespace Edit

open Wire

/-! ## Primitives -/

/-- What a value that is not null stands for when it is assigned to a variant: a number in the width of the variant, a
truth value, the text of bytes or of an identifier, and else the value itself. -/
def converted? (variant : String) (v : Value) : Option Value :=
  match variant with
  | "float_value" => (number v).toOption.map fun x => .float x.toFloat32.toFloat
  | "double_value" => (number v).toOption.map .float
  | "bool_value" => v.asInt?.map fun n => .bool (n != 0)
  | "string_value" =>
    match v with
    | .bytes bs => (Text.Utf8.decode bs).map .text
    | _ => some v
  | "uuid_value" =>
    match v with
    | .bytes bs => some (.text (uuidText bs))
    | _ => some v
  | _ => some v

theorem converted?_float {v : Value} {x : Float} (h : number v = .ok x) :
    converted? "float_value" v = some (.float x.toFloat32.toFloat) := by
  rw [converted?, h]
  rfl

theorem converted?_double {v : Value} {x : Float} (h : number v = .ok x) :
    converted? "double_value" v = some (.float x) := by
  rw [converted?, h]
  rfl

theorem converted?_bool {v : Value} {n : Int} (h : v.asInt? = some n) :
    converted? "bool_value" v = some (.bool (n != 0)) := by
  rw [converted?, h]
  rfl

theorem converted?_string {bs : List UInt8} {s : String} (h : Text.Utf8.decode bs = some s) :
    converted? "string_value" (.bytes bs) = some (.text s) := by
  rw [converted?, h]
  rfl

/-- A primitive is in range, and what is read from it is some value. -/
def Reveals (p : Primitive) (y : Option Value) : Prop :=
  p.InRange ∧ ∃ v ∈ y, ∃ x, p.value = .ok x ∧ x.Matches v

theorem wholeIn_eq_ok {low high n : Int} {v : Value} (h : wholeIn low high v = .ok n) :
    v.asInt? = some n ∧ low ≤ n ∧ n ≤ high := by
  unfold wholeIn at h
  split at h
  · next m hm =>
    split at h
    · next hrange =>
      cases h
      exact ⟨hm, hrange⟩
    · cases h
  · cases h

theorem bytes_eq_ok {v : Value} {bs : List UInt8} (h : bytes v = .ok bs) : v = .bytes bs := by
  cases v with
  | bytes bs' =>
    cases h
    rfl
  | _ => cases h

theorem string_eq_ok {v : Value} {s : String} (h : string v = .ok s) :
    v = .text s ∨ ∃ bs, v = .bytes bs ∧ Text.Utf8.decode bs = some s := by
  cases v with
  | text s' =>
    cases h
    exact .inl rfl
  | bytes bs =>
    unfold string at h
    dsimp only at h
    cases hdecode : Text.Utf8.decode bs with
    | none =>
      rw [hdecode] at h
      cases h
    | some s' =>
      rw [hdecode] at h
      cases h
      exact .inr ⟨bs, rfl, hdecode⟩
  | _ => cases h

theorem assign_null {variant : String} {p : Primitive} (h : assign variant .null = .ok p) : p = .unset := by
  unfold assign at h
  dsimp only at h
  split at h
  · cases h
  · cases h
    rfl
  · next hnull _ => exact (hnull rfl).elim

theorem Reveals.int {p : Primitive} {n : Int} {v : Value} (hrange : p.InRange) (hvalue : p.value = .ok (.int n))
    (hint : v.asInt? = some n) : Reveals p (some v) :=
  ⟨hrange, v, rfl, .int n, hvalue, .int hint⟩

theorem assign_reveals {variant : String} {v : Value} {p : Primitive} (hv : v ≠ .null)
    (huuid : variant = "uuid_value" → ∀ bs, v = .bytes bs → bs.length = 16) (h : assign variant v = .ok p) :
    Reveals p (converted? variant v) := by
  unfold assign at h
  dsimp only at h
  split at h
  · exact (hv rfl).elim
  · exact (hv rfl).elim
  -- the variants in the order in which `assign` lists them
  · split at h
    · obtain ⟨n, hn, rfl⟩ := exists_of_map_eq_ok h
      obtain ⟨hint, hlow, hhigh⟩ := wholeIn_eq_ok hn
      exact .int ⟨hlow, by omega⟩ rfl hint
    · obtain ⟨n, hn, rfl⟩ := exists_of_map_eq_ok h
      obtain ⟨hint, hlow, hhigh⟩ := wholeIn_eq_ok hn
      have hrange : n.toNat < 0x100000000 := by omega
      exact .int hrange (by rw [Primitive.value, Int.toNat_of_nonneg hlow]) hint
    · obtain ⟨n, hn, rfl⟩ := exists_of_map_eq_ok h
      obtain ⟨hint, hlow, hhigh⟩ := wholeIn_eq_ok hn
      exact .int ⟨hlow, by omega⟩ rfl hint
    · obtain ⟨n, hn, rfl⟩ := exists_of_map_eq_ok h
      obtain ⟨hint, hlow, hhigh⟩ := wholeIn_eq_ok hn
      have hrange : n.toNat < 0x10000000000000000 := by omega
      exact .int hrange (by rw [Primitive.value, Int.toNat_of_nonneg hlow]) hint
    · obtain ⟨s, hs, rfl⟩ := exists_of_map_eq_ok h
      rcases string_eq_ok hs with rfl | ⟨bs, rfl, hdecode⟩
      · exact ⟨trivial, _, rfl, _, rfl, .text s⟩
      · exact ⟨trivial, _, converted?_string hdecode, _, rfl, .text s⟩
    · obtain ⟨x, hx, rfl⟩ := exists_of_map_eq_ok h
      refine ⟨trivial, _, converted?_float hx, _, rfl, ?_⟩
      rw [Float32.ofBits_toBits]
      exact .float _
    · obtain ⟨x, hx, rfl⟩ := exists_of_map_eq_ok h
      refine ⟨trivial, _, converted?_double hx, _, rfl, ?_⟩
      rw [Float.ofBits_toBits]
      exact .float x
    · obtain ⟨n, hn, rfl⟩ := exists_of_map_eq_ok h
      obtain ⟨hint, hlow, hhigh⟩ := wholeIn_eq_ok hn
      exact .int ⟨hlow, by omega⟩ rfl hint
    · obtain ⟨bs, hbs, rfl⟩ := exists_of_map_eq_ok h
      obtain rfl := bytes_eq_ok hbs
      exact ⟨trivial, _, rfl, .text (uuidText bs), if_pos (huuid rfl bs rfl), .text _⟩
    · obtain ⟨n, hn, rfl⟩ := exists_of_map_eq_ok h
      obtain ⟨hint, -, -⟩ := wholeIn_eq_ok hn
      exact ⟨trivial, _, converted?_bool hint, _, rfl, .bool _⟩
    · obtain ⟨bs, hbs, rfl⟩ := exists_of_map_eq_ok h
      obtain rfl := bytes_eq_ok hbs
      exact ⟨trivial, _, rfl, _, rfl, .bytes bs⟩
    · cases h

/-! ## Points -/

def gridPosition? (x y : Float) (q : Option (Quantization Float)) : Option (List Float) :=
  match q with
  | none => some [x, y]
  | some q => q.quantize? [(x, y)]

theorem toGrid_eq_ok {x : Float} {n : Int} (h : GridCoordinate.toGrid x = .ok n) : Number.roundToInt? x = some n := by
  unfold GridCoordinate.toGrid gridCoordinateFloat at h
  dsimp only at h
  split at h
  · next m hm =>
    cases h
    exact hm
  · cases h

theorem mapM_roundToInt? {xs : List Float} {ns : List Int} (h : xs.mapM GridCoordinate.toGrid = .ok ns) :
    xs.mapM Number.roundToInt? = some ns := by
  have hround := forall₂_of_mapM_eq_ok h
  clear h
  induction hround with
  | nil => rfl
  | cons hx _ ih =>
    rw [List.mapM_cons, toGrid_eq_ok hx, ih]
    rfl

theorem gridPoint_eq_ok {x y : Float} {q : Option (Quantization Float)} {coords : List Int}
    (h : gridPoint x y q = .ok coords) :
    ∃ position, gridPosition? x y q = some position ∧ position.mapM Number.roundToInt? = some coords := by
  cases q with
  | none => exact ⟨[x, y], rfl, mapM_roundToInt? h⟩
  | some q =>
    obtain ⟨position, hposition, hcoords⟩ := exists_of_bind_eq_ok (x := (q.quantize? [(x, y)]).elim _ _) h
    cases hquantize : q.quantize? [(x, y)] with
    | none =>
      rw [hquantize] at hposition
      cases hposition
    | some position' =>
      rw [hquantize] at hposition
      cases hposition
      exact ⟨position, hquantize, mapM_roundToInt? hcoords⟩

theorem wholeIn_mapM_eq_ok {coords ns : List Int}
    (h : coords.mapM (fun n => wholeIn (-0x8000000000000000) 0x7FFFFFFFFFFFFFFF (.int n)) = .ok ns) :
    ns = coords ∧ ∀ n ∈ ns, IsInt64 n := by
  have hwhole := forall₂_of_mapM_eq_ok h
  clear h
  induction hwhole with
  | nil => exact ⟨rfl, by simp⟩
  | cons hn _ ih =>
    obtain ⟨rfl, hall⟩ := ih
    obtain ⟨hint, hlow, hhigh⟩ := wholeIn_eq_ok hn
    obtain rfl := Option.some.inj hint
    exact ⟨rfl, List.forall_mem_cons.2 ⟨⟨hlow, by omega⟩, hall⟩⟩

/-! ## Properties -/

/-- What an assignment stands for. A geometry is the point of the grid nearest to it. -/
def Assignment.meaning? (q : Option (Quantization Float)) (a : Assignment) : Option Value :=
  if a.variant = "geometry_value" then do
    let x ← (coordinate "x" a.value).toOption
    let y ← (coordinate "y" a.value).toOption
    let position ← gridPosition? x y q
    return .geometry ⟨"esriGeometryTypePoint", ← position.mapM Number.roundToInt?, [1]⟩
  else
    match a.value with
    | .null => some .null
    | v => converted? a.variant v

theorem pointValue_eq_ok {x y : Float} {q : Option (Quantization Float)} {v : Any} (h : pointValue x y q = .ok v) :
    ∃ coords, v = .primitive (.geometry { lengths := [1], coords }) ∧ (∀ n ∈ coords, IsInt64 n) ∧
      ∃ position, gridPosition? x y q = some position ∧ position.mapM Number.roundToInt? = some coords := by
  unfold pointValue at h
  obtain ⟨coords, hcoords, hrest⟩ := exists_of_bind_eq_ok h
  obtain ⟨ns, hns, hvalue⟩ := exists_of_bind_eq_ok hrest
  obtain ⟨rfl, hrange⟩ := wholeIn_mapM_eq_ok hns
  cases hvalue
  exact ⟨_, rfl, hrange, gridPoint_eq_ok hcoords⟩

/-- What is written for a property stands for what is assigned to it. -/
theorem propertyValue_reveals {q : Option (Quantization Float)} {a : Assignment} {v : Any}
    (huuid : a.variant = "uuid_value" → ∀ bs, a.value = .bytes bs → bs.length = 16) (h : propertyValue q a = .ok v) :
    ∃ p, v = .primitive p ∧ Reveals p (a.meaning? q) := by
  unfold propertyValue at h
  unfold Assignment.meaning?
  split at h
  · next hgeometry =>
    obtain ⟨x, hx, h⟩ := exists_of_bind_eq_ok h
    obtain ⟨y, hy, h⟩ := exists_of_bind_eq_ok h
    obtain ⟨coords, rfl, hrange, position, hposition, hround⟩ := pointValue_eq_ok h
    rw [if_pos hgeometry]
    have htype : IsInt32 0 := by decide
    have hpoint : Geometry.InRange { lengths := [1], coords } := ⟨htype, nofun, by simp, hrange⟩
    refine ⟨_, rfl, hpoint, _, ?_, _, rfl, .geometry _⟩
    rw [hx, hy]
    simp only [Except.toOption, hposition, hround, bind, Option.bind_some]
    rfl
  · next hother =>
    obtain ⟨p, hp, rfl⟩ := exists_of_map_eq_ok h
    rw [if_neg hother]
    refine ⟨p, rfl, ?_⟩
    split
    · next hnull =>
      rw [hnull] at hp
      obtain rfl := assign_null hp
      exact ⟨trivial, _, rfl, _, rfl, .null⟩
    · next hvalue => exact assign_reveals hvalue huuid hp

end Edit

end FeatureGraph
