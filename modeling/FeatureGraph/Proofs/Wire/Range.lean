import FeatureGraph.Proofs.Wire.Response

/-! # What is read is in range

However a message came about, the numbers that are read from it fit their fields, and the maps have each name
once. -/
namespace FeatureGraph.Wire

/-! ## Fields -/

namespace Varint

theorem read_lt {bs r : List UInt8} {n : Nat} (h : read bs = some (n, r)) : n < 0x10000000000000000 := by
  obtain ⟨⟨m, s⟩, -, he⟩ := Option.map_eq_some_iff.1 h
  cases he
  exact Nat.mod_lt _ (by decide)

theorem readAll_lt {bs : List UInt8} {ns : List Nat} (h : readAll bs = some ns) :
    ∀ n ∈ ns, n < 0x10000000000000000 := by
  fun_induction readAll bs generalizing ns with
  | case1 =>
    cases h
    exact fun n hn => absurd hn List.not_mem_nil
  | case2 b r n rest hread ih =>
    obtain ⟨ms, hms, rfl⟩ := Option.map_eq_some_iff.1 h
    exact List.forall_mem_cons.2 ⟨read_lt hread, ih hms⟩
  | case3 => cases h

end Varint

def Payload.InRange : Payload → Prop
  | varint n => n < 0x10000000000000000
  | _ => True

theorem numbers?_lt {p : Payload} {ns : List Nat} (hp : p.InRange) (h : numbers? p = some ns) :
    ∀ n ∈ ns, n < 0x10000000000000000 := by
  cases p with
  | varint n =>
    cases h
    exact fun m hm => List.mem_singleton.1 hm ▸ hp
  | bytes bs => exact Varint.readAll_lt h
  | _ =>
    cases h
    exact fun m hm => absurd hm List.not_mem_nil

theorem tokenOf_inRange {number form : Nat} {bs r : List UInt8} {f : Field}
    (h : tokenOf number form bs = some (.field f, r)) : f.payload.InRange := by
  unfold tokenOf at h
  split at h
  case h_1 =>
    obtain ⟨⟨n, s⟩, hn, he⟩ := Option.map_eq_some_iff.1 h
    cases he
    exact Varint.read_lt hn
  case h_3 =>
    simp only [bind, Option.bind_eq_some_iff, Prod.exists] at h
    obtain ⟨n, s, -, b, s', -, he⟩ := h
    cases he
    trivial
  case h_2 | h_6 =>
    obtain ⟨p, -, he⟩ := Option.map_eq_some_iff.1 h
    cases he
    trivial
  all_goals cases h

theorem token?_inRange {bs r : List UInt8} {f : Field} (h : token? bs = some (.field f, r)) : f.payload.InRange := by
  simp only [token?, bind, Option.bind_eq_some_iff, Prod.exists] at h
  obtain ⟨n, s, -, h⟩ := h
  split at h
  · cases h
  · exact tokenOf_inRange h

theorem tokens?_inRange {bs : List UInt8} {ts : List Token} {f : Field} (h : tokens? bs = some ts)
    (hf : .field f ∈ ts) : f.payload.InRange := by
  fun_induction tokens? bs generalizing ts with
  | case1 =>
    cases h
    cases hf
  | case2 b r t rest htoken ih =>
    obtain ⟨us, hus, rfl⟩ := Option.map_eq_some_iff.1 h
    rcases List.mem_cons.1 hf with rfl | htail
    · exact token?_inRange htoken
    · exact ih hus htail
  | case3 => cases h

theorem field_mem_of_outside {levels : Nat} {groups : List Nat} {ts : List Token} {fs : List Field} {f : Field}
    (h : outside levels groups ts = some fs) (hf : f ∈ fs) : .field f ∈ ts := by
  induction ts generalizing groups fs with
  | nil =>
    cases groups with
    | nil =>
      cases h
      cases hf
    | cons g groups => cases h
  | cons t ts ih =>
    cases t with
    | field f' =>
      rw [outside] at h
      split at h
      · obtain ⟨gs, hgs, rfl⟩ := Option.map_eq_some_iff.1 h
        rcases List.mem_cons.1 hf with rfl | htail
        · exact List.mem_cons_self
        · exact List.mem_cons_of_mem _ (ih hgs htail)
      · exact List.mem_cons_of_mem _ (ih h hf)
    | opening number =>
      rw [outside] at h
      split at h
      · exact List.mem_cons_of_mem _ (ih h hf)
      · cases h
    | closing number =>
      cases groups with
      | nil => cases h
      | cons g groups =>
        rw [outside] at h
        split at h
        · exact List.mem_cons_of_mem _ (ih h hf)
        · cases h

theorem fields?_inRange {levels : Nat} {bs : List UInt8} {fs : List Field} (h : fields? levels bs = some fs) :
    ∀ f ∈ fs, f.payload.InRange := by
  obtain ⟨ts, hts, hout⟩ := Option.bind_eq_some_iff.1 h
  exact fun f hf => tokens?_inRange hts (field_mem_of_outside hout hf)

/-- What every field of a message preserves holds of what is read from it. -/
theorem foldFields_preserves {α : Type} {levels : Nat} {step : α → Field → Option α} {a b : α} {bs : List UInt8}
    (P : α → Prop) (hstep : ∀ a f b, f.payload.InRange → P a → step a f = some b → P b) (ha : P a)
    (h : foldFields levels step a bs = some b) : P b := by
  obtain ⟨fs, hfs, hfold⟩ := Option.bind_eq_some_iff.1 h
  have hrange := fields?_inRange hfs
  clear hfs h
  induction fs generalizing a with
  | nil =>
    cases hfold
    exact ha
  | cons f fs ih =>
    obtain ⟨hf, hrest⟩ := List.forall_mem_cons.1 hrange
    rw [List.foldlM_cons] at hfold
    obtain ⟨a', ha', hfold⟩ := Option.bind_eq_some_iff.1 hfold
    exact ih (hstep a f a' hf ha ha') hfold hrest

/-! ## Primitives -/

theorem isInt32_signed32 (n : Nat) : IsInt32 (signed32 n) := by
  have hlow := Int.le_bmod (x := n) (m := 0x100000000) (by decide)
  have hhigh := Int.bmod_lt (x := n) (m := 0x100000000) (by decide)
  unfold signed32 IsInt32
  omega

theorem isInt64_unzigzag {n : Nat} (h : n < 0x10000000000000000) : IsInt64 (unzigzag n) := by
  unfold unzigzag IsInt64
  split <;> omega

theorem isInt32_unzigzag {n : Nat} (h : n < 0x100000000) : IsInt32 (unzigzag n) := by
  unfold unzigzag IsInt32
  split <;> omega

theorem low32_lt (n : Nat) : low32 n < 0x100000000 := Nat.mod_lt n (by decide)

namespace Geometry

variable {g g' : Geometry} {f : Field} {levels : Nat} {bs : List UInt8}

/-- A message of lengths and coordinates adds to a geometry that has one. -/
theorem InRange.partStep (hf : f.payload.InRange) (hg : g.InRange ∧ g.hasParts = true)
    (h : g.partStep f = some g') : g'.InRange ∧ g'.hasParts = true := by
  obtain ⟨hg, hparts⟩ := hg
  unfold Geometry.partStep at h
  split at h
  · obtain ⟨ns, -, rfl⟩ := Option.map_eq_some_iff.1 h
    refine ⟨⟨hg.type, fun hnone => ?_, fun n hn => ?_, hg.coords⟩, hparts⟩
    · exact absurd (hnone.symm.trans hparts) (by decide)
    · rcases List.mem_append.1 hn with hold | hnew
      · exact hg.lengths n hold
      · obtain ⟨m, -, rfl⟩ := List.mem_map.1 hnew
        exact low32_lt m
  · obtain ⟨ns, hns, rfl⟩ := Option.map_eq_some_iff.1 h
    refine ⟨⟨hg.type, fun hnone => ?_, hg.lengths, fun n hn => ?_⟩, hparts⟩
    · exact absurd (hnone.symm.trans hparts) (by decide)
    · rcases List.mem_append.1 hn with hold | hnew
      · exact hg.coords n hold
      · obtain ⟨m, hm, rfl⟩ := List.mem_map.1 hnew
        exact isInt64_unzigzag (numbers?_lt hf hns m hm)
  · cases h
    exact ⟨hg, hparts⟩

theorem InRange.step (hg : g.InRange) (h : Geometry.step levels g f = some g') : g'.InRange := by
  unfold Geometry.step at h
  split at h
  · next n =>
    -- the number stays closed, since comparing two of them would compute a remainder in unary
    have htype := isInt32_signed32 n
    generalize signed32 n = type at h htype
    obtain rfl := Option.some.inj h
    exact ⟨htype, hg.parts, hg.lengths, hg.coords⟩
  · split at h
    · cases h
    · have hstart : InRange { g with hasParts := true } := ⟨hg.type, nofun, hg.lengths, hg.coords⟩
      exact (foldFields_preserves (fun g => g.InRange ∧ g.hasParts = true)
        (fun _ _ _ hf hg h => InRange.partStep hf hg h) ⟨hstart, rfl⟩ h).1
  · obtain rfl := Option.some.inj h
    exact ⟨hg.type, hg.parts, hg.lengths, hg.coords⟩
  · obtain rfl := Option.some.inj h
    exact ⟨hg.type, hg.parts, hg.lengths, hg.coords⟩
  · obtain rfl := Option.some.inj h
    exact hg

theorem InRange.merge (hg : g.InRange) (h : Geometry.merge levels g bs = some g') : g'.InRange := by
  cases levels with
  | zero => cases h
  | succ levels => exact foldFields_preserves InRange (fun _ _ _ _ hg h => hg.step h) hg h

theorem inRange_none : InRange { hasParts := false } := ⟨by decide, fun _ => ⟨rfl, rfl⟩, nofun, nofun⟩

end Geometry

namespace Primitive

variable {p p' : Primitive} {f : Field} {levels : Nat} {bs : List UInt8}

theorem InRange.geometryOf (hp : p.InRange) : p.geometryOf.InRange := by
  cases p with
  | geometry g => exact hp
  | _ => exact Geometry.inRange_none

theorem InRange.step (hf : f.payload.InRange) (hp : p.InRange) (h : Primitive.step levels p f = some p') :
    p'.InRange := by
  unfold Primitive.step at h
  split at h
  · cases h
    exact isInt32_unzigzag (low32_lt _)
  · cases h
    exact low32_lt _
  · cases h
    exact isInt64_unzigzag hf
  · cases h
    exact hf
  · obtain ⟨s, -, rfl⟩ := Option.map_eq_some_iff.1 h
    trivial
  · cases h
    trivial
  · cases h
    trivial
  · cases h
    exact isInt64_unzigzag hf
  · cases h
    trivial
  · obtain ⟨g, hg, rfl⟩ := Option.map_eq_some_iff.1 h
    exact hp.geometryOf.merge hg
  · cases h
    trivial
  · cases h
    trivial
  · cases h
    exact hp

theorem InRange.merge (hp : p.InRange) (h : Primitive.merge levels p bs = some p') : p'.InRange := by
  cases levels with
  | zero => cases h
  | succ levels => exact foldFields_preserves InRange (fun _ _ _ hf hp h => hp.step hf h) hp h

end Primitive

/-! ## Values -/

namespace Any

section
variable {P : Primitive → Prop} {f : Field}

structure Record.WellFormed (P : Primitive → Prop) (r : Record) : Prop where
  names : (r.properties.map Prod.fst).Nodup
  properties : ∀ m ∈ r.properties, m.2.WellFormed P
  id : ∀ v ∈ r.id, v.WellFormed P
  origin : ∀ v ∈ r.origin, v.WellFormed P
  destination : ∀ v ∈ r.destination, v.WellFormed P

theorem Record.wellFormed_empty : Record.WellFormed P {} := ⟨.nil, nofun, nofun, nofun, nofun⟩

theorem WellFormed.entityOf {v : Any} (hv : v.WellFormed P) : v.entityOf.WellFormed P := by
  cases hv with
  | entity hnames hproperties hid => exact ⟨hnames, hproperties, hid, nofun, nofun⟩
  | _ => exact Record.wellFormed_empty

theorem WellFormed.relationshipOf {v : Any} (hv : v.WellFormed P) : v.relationshipOf.WellFormed P := by
  cases hv with
  | relationship hnames hproperties hid horigin hdestination =>
    exact ⟨hnames, hproperties, hid, horigin, hdestination⟩
  | _ => exact Record.wellFormed_empty

theorem WellFormed.pathOf {v : Any} (hv : v.WellFormed P) :
    (∀ w ∈ v.pathOf.1, w.WellFormed P) ∧ ∀ w ∈ v.pathOf.2, w.WellFormed P := by
  cases hv with
  | path hentities hrelationships => exact ⟨hentities, hrelationships⟩
  | _ => exact ⟨nofun, nofun⟩

theorem WellFormed.arrayOf {v : Any} (hv : v.WellFormed P) : ∀ w ∈ v.arrayOf, w.WellFormed P := by
  cases hv with
  | array hvalues => exact hvalues
  | _ => exact nofun

theorem WellFormed.objectOf {v : Any} (hv : v.WellFormed P) :
    (v.objectOf.map Prod.fst).Nodup ∧ ∀ m ∈ v.objectOf, m.2.WellFormed P := by
  cases hv with
  | object hnames hmembers => exact ⟨hnames, hmembers⟩
  | _ => exact ⟨.nil, nofun⟩

theorem wellFormed_putAll {ms new : List (String × Any)} (hnew : ∀ m ∈ new, m.2.WellFormed P)
    (hms : ∀ m ∈ ms, m.2.WellFormed P) : ∀ m ∈ Assoc.putAll ms new, m.2.WellFormed P := by
  intro m hm
  rcases Assoc.mem_putAll hm with hmem | hmem
  · exact hms m hmem
  · exact hnew m hmem

theorem wellFormed_concat {vs : List Any} {v : Any} (hvs : ∀ w ∈ vs, w.WellFormed P) (hv : v.WellFormed P) :
    ∀ w ∈ vs ++ [v], w.WellFormed P := by
  intro w hw
  rcases List.mem_append.1 hw with hold | hnew
  · exact hvs w hold
  · exact List.mem_singleton.1 hnew ▸ hv

/-- A value that is not there yet is read into an unset one. -/
theorem wellFormed_getD {o : Option Any} (ho : ∀ v ∈ o, v.WellFormed P) : (o.getD .unset).WellFormed P := by
  cases o with
  | none => exact .unset
  | some v => exact ho v rfl

variable {entry : List UInt8 → Option (Option (String × Any))} {value : Any → List UInt8 → Option Any}

/-- What is merged into a value with a condition has the condition. -/
def Keeps (P : Primitive → Prop) (value : Any → List UInt8 → Option Any) : Prop :=
  ∀ v bs w, v.WellFormed P → value v bs = some w → w.WellFormed P

theorem Record.WellFormed.step {r r' : Record} {ends : Bool}
    (hentry : ∀ bs e, entry bs = some e → ∀ m ∈ e.toList, m.2.WellFormed P) (hvalue : Keeps P value)
    (hr : r.WellFormed P) (h : Record.step entry value ends r f = some r') : r'.WellFormed P := by
  have hsome {o : Option Any} {bs : List UInt8} {w : Any} (ho : ∀ v ∈ o, v.WellFormed P)
      (hw : value (o.getD .unset) bs = some w) : ∀ v ∈ some w, v.WellFormed P := by
    rintro v ⟨⟩
    exact hvalue _ bs _ (wellFormed_getD ho) hw
  unfold Record.step at h
  split at h
  · obtain ⟨s, -, rfl⟩ := Option.map_eq_some_iff.1 h
    exact ⟨hr.names, hr.properties, hr.id, hr.origin, hr.destination⟩
  · obtain ⟨e, he, rfl⟩ := Option.map_eq_some_iff.1 h
    exact ⟨Assoc.nodup_putAll hr.names, wellFormed_putAll (hentry _ e he) hr.properties, hr.id, hr.origin,
      hr.destination⟩
  · obtain ⟨w, hw, rfl⟩ := Option.map_eq_some_iff.1 h
    exact ⟨hr.names, hr.properties, hsome hr.id hw, hr.origin, hr.destination⟩
  · split at h
    · obtain ⟨w, hw, rfl⟩ := Option.map_eq_some_iff.1 h
      exact ⟨hr.names, hr.properties, hr.id, hsome hr.origin hw, hr.destination⟩
    · obtain rfl := Option.some.inj h
      exact hr
  · split at h
    · obtain ⟨w, hw, rfl⟩ := Option.map_eq_some_iff.1 h
      exact ⟨hr.names, hr.properties, hr.id, hr.origin, hsome hr.destination hw⟩
    · obtain rfl := Option.some.inj h
      exact hr
  · obtain rfl := Option.some.inj h
    exact hr

theorem entryStep_wellFormed {e e' : String × Any} (hvalue : Keeps P value) (he : e.2.WellFormed P)
    (h : entryStep value e f = some e') : e'.2.WellFormed P := by
  unfold entryStep at h
  split at h
  · obtain ⟨s, -, rfl⟩ := Option.map_eq_some_iff.1 h
    exact he
  · obtain ⟨w, hw, rfl⟩ := Option.map_eq_some_iff.1 h
    exact hvalue _ _ _ he hw
  · obtain rfl := Option.some.inj h
    exact he

theorem pathStep_wellFormed {p p' : List Any × List Any} (hvalue : Keeps P value)
    (hp : (∀ v ∈ p.1, v.WellFormed P) ∧ ∀ v ∈ p.2, v.WellFormed P) (h : pathStep value p f = some p') :
    (∀ v ∈ p'.1, v.WellFormed P) ∧ ∀ v ∈ p'.2, v.WellFormed P := by
  unfold pathStep at h
  split at h
  · obtain ⟨w, hw, rfl⟩ := Option.map_eq_some_iff.1 h
    exact ⟨wellFormed_concat hp.1 (hvalue _ _ _ .unset hw), hp.2⟩
  · obtain ⟨w, hw, rfl⟩ := Option.map_eq_some_iff.1 h
    exact ⟨hp.1, wellFormed_concat hp.2 (hvalue _ _ _ .unset hw)⟩
  · obtain rfl := Option.some.inj h
    exact hp

theorem arrayStep_wellFormed {vs vs' : List Any} (hvalue : Keeps P value) (hvs : ∀ v ∈ vs, v.WellFormed P)
    (h : arrayStep value vs f = some vs') : ∀ v ∈ vs', v.WellFormed P := by
  unfold arrayStep at h
  split at h
  · obtain ⟨w, hw, rfl⟩ := Option.map_eq_some_iff.1 h
    exact wellFormed_concat hvs (hvalue _ _ _ .unset hw)
  · obtain rfl := Option.some.inj h
    exact hvs

theorem objectStep_wellFormed {ms ms' : List (String × Any)}
    (hentry : ∀ bs e, entry bs = some e → ∀ m ∈ e.toList, m.2.WellFormed P)
    (hms : (ms.map Prod.fst).Nodup ∧ ∀ m ∈ ms, m.2.WellFormed P) (h : objectStep entry ms f = some ms') :
    (ms'.map Prod.fst).Nodup ∧ ∀ m ∈ ms', m.2.WellFormed P := by
  unfold objectStep at h
  split at h
  · obtain ⟨e, he, rfl⟩ := Option.map_eq_some_iff.1 h
    exact ⟨Assoc.nodup_putAll hms.1, wellFormed_putAll (hentry _ e he) hms.2⟩
  · obtain rfl := Option.some.inj h
    exact hms

end

mutual

/-- Reading into a value that is in range leaves it in range. -/
theorem merge_keeps : ∀ levels, Keeps Primitive.InRange (merge levels)
  | 0 => fun v bs w _ h => by cases h
  | levels + 1 => by
    intro v bs w hv h
    refine foldFields_preserves (fun v => v.WellFormed Primitive.InRange) (fun v f w _ hv h => ?_) hv h
    split at h
    · obtain ⟨p, hp, rfl⟩ := Option.map_eq_some_iff.1 h
      have hprimitive : v.primitiveOf.InRange := by
        cases hv with
        | primitive hq => exact hq
        | _ => trivial
      exact .primitive (hprimitive.merge hp)
    · obtain ⟨r, hr, rfl⟩ := Option.map_eq_some_iff.1 h
      have hrecord := mergeRecord_keeps levels hv.entityOf hr
      exact .entity hrecord.names hrecord.properties hrecord.id
    · obtain ⟨r, hr, rfl⟩ := Option.map_eq_some_iff.1 h
      have hrecord := mergeRecord_keeps levels hv.relationshipOf hr
      exact .relationship hrecord.names hrecord.properties hrecord.id hrecord.origin hrecord.destination
    · obtain ⟨p, hp, rfl⟩ := Option.map_eq_some_iff.1 h
      obtain ⟨hentities, hrelationships⟩ := mergePath_keeps levels hv.pathOf hp
      exact .path hentities hrelationships
    · obtain ⟨vs, hvs, rfl⟩ := Option.map_eq_some_iff.1 h
      exact .array (mergeArray_keeps levels hv.arrayOf hvs)
    · obtain ⟨ms, hms, rfl⟩ := Option.map_eq_some_iff.1 h
      obtain ⟨hnames, hmembers⟩ := mergeObject_keeps levels hv.objectOf hms
      exact .object hnames hmembers
    · obtain rfl := Option.some.inj h
      exact hv

theorem mergeRecord_keeps : ∀ levels {ends : Bool} {r r' : Record} {bs : List UInt8},
    r.WellFormed Primitive.InRange → mergeRecord levels ends r bs = some r' → r'.WellFormed Primitive.InRange
  | 0, _, _, _, _, _, h => by cases h
  | levels + 1, _, _, _, _, hr, h =>
    foldFields_preserves (Record.WellFormed Primitive.InRange)
      (fun _ _ _ _ hr h => hr.step (fun _ _ he => mergeEntry_keeps levels .unset he) (merge_keeps levels) h) hr h

theorem mergeEntry_keeps : ∀ levels {e : String × Any} {o : Option (String × Any)} {bs : List UInt8},
    e.2.WellFormed Primitive.InRange → mergeEntry levels e bs = some o →
      ∀ m ∈ o.toList, m.2.WellFormed Primitive.InRange
  | 0, _, _, _, _, h => by cases h
  | levels + 1, _, _, _, he, h => fun _ hm =>
    foldFields_preserves (fun e => e.2.WellFormed Primitive.InRange)
      (fun _ _ _ _ he h => entryStep_wellFormed (merge_keeps levels) he h) he
      (foldFields_of_foldEntry h (Option.mem_toList.1 hm))

theorem mergePath_keeps : ∀ levels {p p' : List Any × List Any} {bs : List UInt8},
    ((∀ v ∈ p.1, v.WellFormed Primitive.InRange) ∧ ∀ v ∈ p.2, v.WellFormed Primitive.InRange) →
      mergePath levels p bs = some p' →
        (∀ v ∈ p'.1, v.WellFormed Primitive.InRange) ∧ ∀ v ∈ p'.2, v.WellFormed Primitive.InRange
  | 0, _, _, _, _, h => by cases h
  | levels + 1, _, _, _, hp, h =>
    foldFields_preserves
      (fun p => (∀ v ∈ p.1, v.WellFormed Primitive.InRange) ∧ ∀ v ∈ p.2, v.WellFormed Primitive.InRange)
      (fun _ _ _ _ hp h => pathStep_wellFormed (merge_keeps levels) hp h) hp h

theorem mergeArray_keeps : ∀ levels {vs vs' : List Any} {bs : List UInt8},
    (∀ v ∈ vs, v.WellFormed Primitive.InRange) → mergeArray levels vs bs = some vs' →
      ∀ v ∈ vs', v.WellFormed Primitive.InRange
  | 0, _, _, _, _, h => by cases h
  | levels + 1, _, _, _, hvs, h =>
    foldFields_preserves (fun vs => ∀ v ∈ vs, v.WellFormed Primitive.InRange)
      (fun _ _ _ _ hvs h => arrayStep_wellFormed (merge_keeps levels) hvs h) hvs h

theorem mergeObject_keeps : ∀ levels {ms ms' : List (String × Any)} {bs : List UInt8},
    ((ms.map Prod.fst).Nodup ∧ ∀ m ∈ ms, m.2.WellFormed Primitive.InRange) → mergeObject levels ms bs = some ms' →
      (ms'.map Prod.fst).Nodup ∧ ∀ m ∈ ms', m.2.WellFormed Primitive.InRange
  | 0, _, _, _, _, h => by cases h
  | levels + 1, _, _, _, hms, h =>
    foldFields_preserves (fun ms => (ms.map Prod.fst).Nodup ∧ ∀ m ∈ ms, m.2.WellFormed Primitive.InRange)
      (fun _ _ _ _ hms h => objectStep_wellFormed (fun _ _ he => mergeEntry_keeps levels .unset he) hms h) hms h

end

end Any

/-! ## Frames of rows -/

theorem ErrorMessage.isInt32_of_merge {levels : Nat} {e e' : ErrorMessage} {bs : List UInt8} (he : IsInt32 e.code)
    (h : merge levels e bs = some e') : IsInt32 e'.code := by
  refine foldFields_preserves (fun e => IsInt32 e.code) (fun e f e' _ he h => ?_) he h
  unfold step at h
  split at h
  · next n _ =>
    have hcode := isInt32_signed32 n
    generalize signed32 n = code at h hcode
    obtain rfl := Option.some.inj h
    exact hcode
  · obtain ⟨s, -, rfl⟩ := Option.map_eq_some_iff.1 h
    exact he
  · obtain rfl := Option.some.inj h
    exact he

theorem RowFrame.InRange.step {r r' : RowFrame} {f : Field} (hr : r.InRange) (h : r.step f = some r') :
    r'.InRange := by
  unfold RowFrame.step at h
  split at h
  · obtain ⟨row, hrow, rfl⟩ := Option.map_eq_some_iff.1 h
    refine ⟨fun row' hmem => ?_, hr.error⟩
    rcases List.mem_append.1 hmem with hold | hnew
    · exact hr.rows row' hold
    · have hnone : ∀ v ∈ ([] : List Any), v.WellFormed Primitive.InRange := nofun
      exact List.mem_singleton.1 hnew ▸ Any.mergeArray_keeps rootLevels hnone hrow
  · obtain ⟨e, he, rfl⟩ := Option.map_eq_some_iff.1 h
    refine ⟨hr.rows, ?_⟩
    rintro e' ⟨⟩
    refine ErrorMessage.isInt32_of_merge ?_ he
    cases herror : r.error with
    | none => decide
    | some e => exact hr.error e herror
  · obtain rfl := Option.some.inj h
    exact hr

/-- Whatever is read as a frame could have been written as one. -/
theorem RowFrame.inRange_of_read? {bs : List UInt8} {r : RowFrame} (h : read? bs = some r) : r.InRange :=
  foldFields_preserves InRange (fun _ _ _ _ hr h => hr.step h) ⟨by simp, by simp⟩ h

end FeatureGraph.Wire
