import FeatureGraph.Proofs.Assoc
import FeatureGraph.Proofs.Number.Exact
import FeatureGraph.Value

/-! # When values are the same

Numbers are the same by what they are, whether they are whole numbers, doubles or truth values. To be the same goes
both ways and carries over; a value that holds a NaN is not even the same as itself. -/
namespace FeatureGraph.Value

/-! ## Numbers -/

def exactValue? : Value → Option Number.Exact
  | float x => Number.exactValue? x
  | v => v.asInt?.map fun n : Int => .finite (n : ℚ)

/-- Truth values, whole numbers and doubles. -/
def IsNumber : Value → Prop
  | bool _ | int _ | float _ => True
  | _ => False

section
variable {w : Value}

attribute [local simp] same sameAll sameMembers asInt? exactValue?

theorem isNumber_of_exactValue? {v : Value} {a : Number.Exact} (h : v.exactValue? = some a) : v.IsNumber := by
  cases v with
  | bool _ | int _ | float _ => trivial
  | _ => simp at h

theorem same_iff_exactValue? {v : Value} (hv : v.IsNumber) (w : Value) :
    same v w = true ↔ ∃ a, v.exactValue? = some a ∧ w.exactValue? = some a := by
  cases v with
  | float x =>
    cases w with
    | float y => exact Number.beq_iff
    | _ => simp [Number.equalsInt_iff]
  | bool _ | int _ =>
    cases w with
    | float y => simp [Number.equalsInt_iff]
    | bool _ | int _ =>
      simp only [same, exactValue?, asInt?, beq_iff_eq, Option.map_some, Option.some.injEq, exists_eq_left',
        Number.Exact.finite.injEq, Int.cast_inj]
      exact eq_comm
    | _ => simp
  | _ => exact hv.elim

/-! ## Values with parts -/

theorem same_null_iff : same null w = true ↔ w = null := by
  cases w <;> simp

theorem same_text_iff {s : String} : same (text s) w = true ↔ w = text s := by
  cases w with
  | text t =>
    simp only [same, beq_iff_eq, text.injEq]
    exact eq_comm
  | _ => simp

theorem same_bytes_iff {bs : List UInt8} : same (bytes bs) w = true ↔ w = bytes bs := by
  cases w with
  | bytes cs =>
    simp only [same, beq_iff_eq, bytes.injEq]
    exact eq_comm
  | _ => simp

theorem same_geometry_iff {g : QuantizedGeometry} : same (geometry g) w = true ↔ w = geometry g := by
  cases w with
  | geometry h =>
    simp only [same, beq_iff_eq, geometry.injEq]
    exact eq_comm
  | _ => simp

theorem same_list_iff {vs : List Value} : same (list vs) w = true ↔ ∃ ws, w = list ws ∧ sameAll vs ws = true := by
  cases w <;> simp

theorem same_object_iff {ms : List (String × Value)} :
    same (object ms) w = true ↔ ∃ ns, w = object ns ∧ ms.length = ns.length ∧ sameMembers ms ns = true := by
  cases w <;> simp

theorem same_entity_iff {t : String} {ps : List (String × Value)} {i : Value} :
    same (entity t ps i) w = true ↔
      ∃ qs j, w = entity t qs j ∧ ps.length = qs.length ∧ sameMembers ps qs = true ∧ same i j = true := by
  cases w with
  | entity u qs j =>
    simp
    tauto
  | _ => simp

theorem same_relationship_iff {t : String} {ps : List (String × Value)} {i o d : Value} :
    same (relationship t ps i o d) w = true ↔
      ∃ qs j p e, w = relationship t qs j p e ∧ ps.length = qs.length ∧ sameMembers ps qs = true ∧
        same i j = true ∧ same o p = true ∧ same d e = true := by
  cases w with
  | relationship u qs j p e =>
    simp
    tauto
  | _ => simp

theorem same_path_iff {es rs : List Value} :
    same (path es rs) w = true ↔ ∃ fs ss, w = path fs ss ∧ sameAll es fs = true ∧ sameAll rs ss = true := by
  cases w <;> simp

theorem sameAll_cons_iff {v : Value} {vs ws : List Value} :
    sameAll (v :: vs) ws = true ↔ ∃ w ws', ws = w :: ws' ∧ same v w = true ∧ sameAll vs ws' = true := by
  cases ws <;> simp

theorem sameMembers_iff {ms other : List (String × Value)} :
    sameMembers ms other = true ↔ ∀ m ∈ ms, ∃ w, other.lookup m.1 = some w ∧ same m.2 w = true := by
  induction ms with
  | nil => simp
  | cons m ms ih => simp [ih, Option.any_eq_true]

end

/-! ## Carrying over -/

theorem same_trans_of_isNumber {u v w : Value} (hu : u.IsNumber) (huv : same u v = true) (hvw : same v w = true) :
    same u w = true := by
  obtain ⟨a, ha, hva⟩ := (same_iff_exactValue? hu v).1 huv
  obtain ⟨b, hvb, hwb⟩ := (same_iff_exactValue? (isNumber_of_exactValue? hva) w).1 hvw
  obtain rfl : a = b := Option.some.inj (hva.symm.trans hvb)
  exact (same_iff_exactValue? hu w).2 ⟨a, ha, hwb⟩

mutual

theorem same_trans : ∀ {u v w : Value}, same u v = true → same v w = true → same u w = true
  | null, v, w, huv, hvw => same_null_iff.1 huv ▸ hvw
  | text _, v, w, huv, hvw => same_text_iff.1 huv ▸ hvw
  | bytes _, v, w, huv, hvw => same_bytes_iff.1 huv ▸ hvw
  | geometry _, v, w, huv, hvw => same_geometry_iff.1 huv ▸ hvw
  | bool _, _, _, huv, hvw | int _, _, _, huv, hvw | float _, _, _, huv, hvw =>
    same_trans_of_isNumber trivial huv hvw
  | list us, v, w, huv, hvw => by
    obtain ⟨vs, rfl, hus⟩ := same_list_iff.1 huv
    obtain ⟨ws, rfl, hvs⟩ := same_list_iff.1 hvw
    exact same_list_iff.2 ⟨ws, rfl, sameAll_trans hus hvs⟩
  | object us, v, w, huv, hvw => by
    obtain ⟨vs, rfl, hlen, hus⟩ := same_object_iff.1 huv
    obtain ⟨ws, rfl, hlen', hvs⟩ := same_object_iff.1 hvw
    exact same_object_iff.2 ⟨ws, rfl, hlen.trans hlen', sameMembers_trans hus hvs⟩
  | entity _ us i, v, w, huv, hvw => by
    obtain ⟨vs, j, rfl, hlen, hus, hi⟩ := same_entity_iff.1 huv
    obtain ⟨ws, k, rfl, hlen', hvs, hj⟩ := same_entity_iff.1 hvw
    exact same_entity_iff.2 ⟨ws, k, rfl, hlen.trans hlen', sameMembers_trans hus hvs, same_trans hi hj⟩
  | relationship _ us i o d, v, w, huv, hvw => by
    obtain ⟨vs, _, _, _, rfl, hlen, hus, hi, ho, hd⟩ := same_relationship_iff.1 huv
    obtain ⟨ws, _, _, _, rfl, hlen', hvs, hi', ho', hd'⟩ := same_relationship_iff.1 hvw
    exact same_relationship_iff.2 ⟨ws, _, _, _, rfl, hlen.trans hlen', sameMembers_trans hus hvs, same_trans hi hi',
      same_trans ho ho', same_trans hd hd'⟩
  | path es rs, v, w, huv, hvw => by
    obtain ⟨_, _, rfl, hes, hrs⟩ := same_path_iff.1 huv
    obtain ⟨_, _, rfl, hes', hrs'⟩ := same_path_iff.1 hvw
    exact same_path_iff.2 ⟨_, _, rfl, sameAll_trans hes hes', sameAll_trans hrs hrs'⟩
termination_by structural u => u

theorem sameAll_trans : ∀ {us vs ws : List Value}, sameAll us vs = true → sameAll vs ws = true → sameAll us ws = true
  | [], [], _, _, hvw => hvw
  | u :: us, vs, ws, huv, hvw => by
    obtain ⟨v, vs, rfl, hu, hus⟩ := sameAll_cons_iff.1 huv
    obtain ⟨w, ws, rfl, hv, hvs⟩ := sameAll_cons_iff.1 hvw
    exact sameAll_cons_iff.2 ⟨w, ws, rfl, same_trans hu hv, sameAll_trans hus hvs⟩
termination_by structural us => us

theorem sameMembers_trans : ∀ {us vs ws : List (String × Value)}, sameMembers us vs = true →
    sameMembers vs ws = true → sameMembers us ws = true
  | [], _, _, _, _ => rfl
  | (n, u) :: us, vs, ws, huv, hvw => by
    obtain ⟨⟨v, hv, hu⟩, hus⟩ := List.forall_mem_cons.1 (sameMembers_iff.1 huv)
    obtain ⟨w, hw, hvw'⟩ := sameMembers_iff.1 hvw _ (Assoc.mem_of_lookup hv)
    refine sameMembers_iff.2 (List.forall_mem_cons.2 ⟨⟨w, hw, same_trans hu hvw'⟩, ?_⟩)
    exact sameMembers_iff.1 (sameMembers_trans (sameMembers_iff.2 hus) hvw)
termination_by structural us => us

end

/-! ## Both ways -/

inductive Distinct : Value → Prop where
  | null : Distinct null
  | bool (b : Bool) : Distinct (bool b)
  | int (n : Int) : Distinct (int n)
  | float (x : Float) : Distinct (float x)
  | text (s : String) : Distinct (text s)
  | bytes (bs : List UInt8) : Distinct (bytes bs)
  | geometry (g : QuantizedGeometry) : Distinct (geometry g)
  | list {items : List Value} (hitems : ∀ v ∈ items, Distinct v) : Distinct (list items)
  | object {ms : List (String × Value)} (hnames : (ms.map Prod.fst).Nodup) (hms : ∀ m ∈ ms, Distinct m.2) :
    Distinct (object ms)
  | entity {t : String} {ps : List (String × Value)} {i : Value} (hnames : (ps.map Prod.fst).Nodup)
    (hps : ∀ m ∈ ps, Distinct m.2) (hi : Distinct i) : Distinct (entity t ps i)
  | relationship {t : String} {ps : List (String × Value)} {i o d : Value} (hnames : (ps.map Prod.fst).Nodup)
    (hps : ∀ m ∈ ps, Distinct m.2) (hi : Distinct i) (ho : Distinct o) (hd : Distinct d) :
    Distinct (relationship t ps i o d)
  | path {es rs : List Value} (hes : ∀ v ∈ es, Distinct v) (hrs : ∀ v ∈ rs, Distinct v) : Distinct (path es rs)

theorem same_symm_of_isNumber {v w : Value} (hv : v.IsNumber) (h : same v w = true) : same w v = true := by
  obtain ⟨a, hva, hwa⟩ := (same_iff_exactValue? hv w).1 h
  exact (same_iff_exactValue? (isNumber_of_exactValue? hwa) v).2 ⟨a, hwa, hva⟩

theorem sameAll_symm {vs ws : List Value} (hvs : ∀ v ∈ vs, ∀ {w}, same v w = true → same w v = true)
    (h : sameAll vs ws = true) : sameAll ws vs = true := by
  induction vs generalizing ws with
  | nil => cases ws with
    | nil => rfl
    | cons w ws => cases h
  | cons v vs ih =>
    obtain ⟨w, ws, rfl, hv, hrest⟩ := sameAll_cons_iff.1 h
    obtain ⟨hhead, htail⟩ := List.forall_mem_cons.1 hvs
    exact sameAll_cons_iff.2 ⟨v, vs, rfl, hhead hv, ih htail hrest⟩

/-- As many members, none with the name of another, each found with the same value: then the other way too. -/
theorem sameMembers_symm {ms ns : List (String × Value)} (hnames : (ms.map Prod.fst).Nodup)
    (hms : ∀ m ∈ ms, ∀ {w}, same m.2 w = true → same w m.2 = true) (hlength : ms.length = ns.length)
    (h : sameMembers ms ns = true) : sameMembers ns ms = true := by
  have hfound := sameMembers_iff.1 h
  have hsub : ms.map Prod.fst ⊆ ns.map Prod.fst := by
    intro n hn
    obtain ⟨m, hm, rfl⟩ := List.mem_map.1 hn
    obtain ⟨w, hw, -⟩ := hfound m hm
    exact List.mem_map.2 ⟨_, Assoc.mem_of_lookup hw, rfl⟩
  have hperm : (ms.map Prod.fst).Perm (ns.map Prod.fst) :=
    (hnames.subperm hsub).perm_of_length_le (by simp [hlength])
  have hnames' : (ns.map Prod.fst).Nodup := hperm.nodup_iff.1 hnames
  rw [sameMembers_iff]
  rintro ⟨n, w⟩ hn
  obtain ⟨⟨m, v⟩, hm, hname⟩ := List.mem_map.1 (hperm.mem_iff.2 (List.mem_map.2 ⟨_, hn, rfl⟩))
  obtain rfl : m = n := hname
  obtain ⟨w', hw', hv⟩ := hfound _ hm
  -- a name leads to one member only, in either object
  have hw : (m, w') = (m, w) := List.inj_on_of_nodup_map hnames' (Assoc.mem_of_lookup hw') hn rfl
  cases hlookup : ms.lookup m with
  | none => simpa using List.lookup_eq_none_iff.1 hlookup _ hm
  | some v' =>
    have hv' : (m, v') = (m, v) := List.inj_on_of_nodup_map hnames (Assoc.mem_of_lookup hlookup) hm rfl
    cases hw
    cases hv'
    exact ⟨v, rfl, hms _ hm hv⟩

theorem same_symm {v w : Value} (hv : v.Distinct) (h : same v w = true) : same w v = true := by
  induction hv generalizing w with
  | null => exact same_null_iff.1 h ▸ same_null_iff.2 rfl
  | bool b | int n | float x => exact same_symm_of_isNumber trivial h
  | text s => exact same_text_iff.1 h ▸ same_text_iff.2 rfl
  | bytes bs => exact same_bytes_iff.1 h ▸ same_bytes_iff.2 rfl
  | geometry g => exact same_geometry_iff.1 h ▸ same_geometry_iff.2 rfl
  | list _ ih =>
    obtain ⟨ws, rfl, hall⟩ := same_list_iff.1 h
    exact same_list_iff.2 ⟨_, rfl, sameAll_symm (fun v hv _ => ih v hv) hall⟩
  | object hnames _ ih =>
    obtain ⟨ns, rfl, hlength, hms⟩ := same_object_iff.1 h
    exact same_object_iff.2 ⟨_, rfl, hlength.symm, sameMembers_symm hnames (fun m hm _ => ih m hm) hlength hms⟩
  | entity hnames _ _ ih ihi =>
    obtain ⟨qs, j, rfl, hlength, hps, hi⟩ := same_entity_iff.1 h
    exact same_entity_iff.2 ⟨_, _, rfl, hlength.symm, sameMembers_symm hnames (fun m hm _ => ih m hm) hlength hps, ihi hi⟩
  | relationship hnames _ _ _ _ ih ihi iho ihd =>
    obtain ⟨qs, _, _, _, rfl, hlength, hps, hi, ho, hd⟩ := same_relationship_iff.1 h
    exact same_relationship_iff.2 ⟨_, _, _, _, rfl, hlength.symm,
      sameMembers_symm hnames (fun m hm _ => ih m hm) hlength hps, ihi hi, iho ho, ihd hd⟩
  | path _ _ ihes ihrs =>
    obtain ⟨_, _, rfl, hes, hrs⟩ := same_path_iff.1 h
    exact same_path_iff.2 ⟨_, _, rfl, sameAll_symm (fun v hv _ => ihes v hv) hes,
      sameAll_symm (fun v hv _ => ihrs v hv) hrs⟩

end FeatureGraph.Value
