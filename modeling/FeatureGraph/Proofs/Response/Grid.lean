import FeatureGraph.Proofs.Wire.Range

/-! # The grid of a decoded response

The coordinates of the geometries that entities in a decoded response have as properties are numbers of 64
bits, since no others can be read. -/
namespace FeatureGraph

/-! ## Values -/

/-- A geometry, and every geometry that an entity has as a property, has coordinates of 64 bits. -/
def Value.OnGrid : Value → Prop
  | geometry g => ∀ n ∈ g.coords, Wire.IsInt64 n
  | entity _ properties _ => ∀ m ∈ properties, ∀ g, m.2 = geometry g → ∀ n ∈ g.coords, Wire.IsInt64 n
  | _ => True

namespace Wire

theorem Primitive.InRange.delivers_onGrid {p : Primitive} (hp : p.InRange) : Delivers Value.OnGrid p.value := by
  cases p with
  | geometry g => exact .ok (Geometry.InRange.coords hp)
  | uuid bs =>
    rw [value]
    split
    · exact .ok trivial
    · exact .error _
  | _ => exact .ok trivial

namespace Any

theorem delivers_valueMembers {ms : List (String × Any)} (hms : ∀ m ∈ ms, Delivers Value.OnGrid m.2.value) :
    Delivers (fun xs => ∀ x ∈ xs, x.2.OnGrid) (valueMembers ms) := by
  induction ms with
  | nil => exact .ok (by simp)
  | cons m ms ih =>
    obtain ⟨hm, hms⟩ := List.forall_mem_cons.1 hms
    exact hm.bind fun x hx => (ih hms).bind fun xs hxs => .ok (List.forall_mem_cons.2 ⟨hx, hxs⟩)

theorem WellFormed.delivers_onGrid {v : Any} (hv : v.WellFormed Primitive.InRange) :
    Delivers Value.OnGrid v.value := by
  induction hv with
  | unset => exact .ok trivial
  | primitive hp => exact hp.delivers_onGrid
  | entity _ _ _ ihproperties _ =>
    refine (delivers_valueMembers ihproperties).bind fun properties hproperties => .bind_true fun id => .ok ?_
    intro m hm g hg
    have hgrid := hproperties m hm
    rw [hg] at hgrid
    exact hgrid
  | relationship => exact .bind_true fun _ => .bind_true fun _ => .bind_true fun _ => .bind_true fun _ => .ok trivial
  | path => exact .bind_true fun _ => .bind_true fun _ => .ok trivial
  | array | object => exact .bind_true fun _ => .ok trivial

end Any

end Wire

/-! ## Responses -/

namespace QueryResponse

open Wire

def RowsOnGrid (rows : List (List Value)) : Prop := ∀ row ∈ rows, ∀ v ∈ row, v.OnGrid

theorem delivers_absorb {rows : List (List Value)} (hrows : RowsOnGrid rows) (m : List UInt8) :
    Delivers (fun p => RowsOnGrid p.1) (absorb rows m) := by
  unfold absorb
  have hread : Delivers RowFrame.InRange (decoded "query frame" (RowFrame.read? m)) := by
    intro r hr
    cases hframe : RowFrame.read? m with
    | none =>
      rw [hframe] at hr
      cases hr
    | some r' =>
      rw [hframe] at hr
      cases hr
      exact RowFrame.inRange_of_read? hframe
  refine hread.mapError.bind fun r hr => ?_
  split
  · exact .ok hrows
  · have hmore : Delivers RowsOnGrid (r.rows.mapM Any.valueAll) := by
      refine .mapM fun row hrow => ?_
      rw [Any.valueAll_eq_mapM]
      exact .mapM fun v hv => (hr.rows row hrow v hv).delivers_onGrid
    refine hmore.mapError.bind fun more hmore => .ok ?_
    exact List.forall_mem_append.2 ⟨hrows, hmore⟩

theorem delivers_readRows (buffer : List UInt8) (pos : Nat) {rows : List (List Value)} (hrows : RowsOnGrid rows) :
    Delivers (fun p => RowsOnGrid p.1) (readRows buffer pos rows) := by
  -- each frame leaves fewer bytes to read
  induction hn : buffer.length - pos using Nat.strongRecOn generalizing pos rows with
  | ind n ih =>
    rw [readRows]
    split
    · split
      · exact .error _
      · next message next hread =>
        have hnext := readFrame_next hread
        refine (delivers_absorb hrows message).bind fun p hp => ?_
        obtain ⟨rows', _ | f⟩ := p
        · exact ih (buffer.length - next) (by omega) next hp rfl
        · exact .ok hp
    · exact .ok hrows

/-- Whatever a response is decoded from, the geometries in its rows lie on the grid. -/
theorem rowsOnGrid_of_decode {buffer : List UInt8} {r : QueryResponse} (h : decode buffer = .ok r) :
    RowsOnGrid r.rows := by
  suffices Delivers (fun r => RowsOnGrid r.rows) (decode buffer) from this r h
  have hempty : RowsOnGrid [] := by simp [RowsOnGrid]
  unfold decode
  split
  · exact (delivers_readRows buffer 0 hempty).bind fun p hp => .ok hp
  · split
    · exact .ok hempty
    · exact (delivers_readRows buffer _ hempty).bind fun p hp => .ok hp

end QueryResponse

end FeatureGraph
