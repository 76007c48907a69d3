import FeatureGraph.Proofs.Number.Integer
import FeatureGraph.Proofs.Schema.Relationships
import Mathlib.Data.List.TakeWhile

/-! # Numbers of layers

Types with a geometry are layers and the others tables, both in the order of their declaration, and the number of each
is its place among layers and then tables. A reference denotes the layer in that place, so the numbers depend on the
order within each of the two groups only. -/
namespace FeatureGraph

def EntityType.HasGeometry (e : EntityType) : Prop := ∃ p ∈ e.properties, p.isGeometry

instance (e : EntityType) : Decidable e.HasGeometry :=
  inferInstanceAs (Decidable (∃ p ∈ e.properties, p.isGeometry))

theorem EntityType.isSome_shapeProperty? (e : EntityType) : e.shapeProperty?.isSome = decide e.HasGeometry := by
  rw [Bool.eq_iff_iff, decide_eq_true_iff]
  exact List.find?_isSome

namespace Schema

/-! ## What a reference denotes -/

/-- A whole number, or its decimal text between blanks. -/
inductive Denotes : Json → Int → Prop where
  | number (n : Int) : Denotes (.int n) n
  | text (n : Int) (lead trail : List Char) (hlead : ∀ c ∈ lead, Text.isBlank c) (htrail : ∀ c ∈ trail, Text.isBlank c) :
      Denotes (.text (String.ofList (lead ++ (Number.integerText n).toList ++ trail))) n

theorem layerNumber_text_of_digits {s : String} {n : Nat} (h : Text.trim s.toList = Number.decimalDigits n) :
    layerNumber (.text s) =
      if Number.WithinLimit n then .ok n else .error (Defect.tooManyDigits (Number.decimalDigits n).length) := by
  have hdigit : ∀ c ∈ Number.decimalDigits n, c.isDigit := fun c hc => Number.isDigit_of_mem_decimalDigits hc
  have hlike : (Number.decimalDigits n).all Text.isDigitLike = true :=
    List.all_eq_true.2 fun c hc => Number.isDigitLike_of_isDigit (hdigit c hc)
  have hdecimal : (Number.decimalDigits n).takeWhile Text.isDecimal = Number.decimalDigits n :=
    List.takeWhile_eq_self_iff.2 fun c hc => by rw [Text.isDecimal, Number.digitValue_of_isDigit (hdigit c hc)]; rfl
  have hne : (Number.decimalDigits n).isEmpty = false := List.isEmpty_eq_false_iff.2 Nat.toDigits_ne_nil
  by_cases hlimit : Number.WithinLimit n
  · simp [layerNumber, Json.display, h, hlike, hne, Number.integer?_decimalDigits, hlimit]
  · have hlong : Number.digitLimit < (Number.decimalDigits n).length := Nat.lt_of_not_le hlimit
    simp [layerNumber, Json.display, h, hlike, hne, Number.integer?_decimalDigits, hlimit, hdecimal, hlong]

theorem layerNumber_text_of_minus {s : String} {cs : List Char} (h : Text.trim s.toList = '-' :: cs) :
    layerNumber (.text s) = .error (invalidLayer (.text s)) := by
  have hminus : Text.isDigitLike '-' = false := by decide
  simp [layerNumber, Json.display, h, hminus, Fault.showing, Json.isWritable]

namespace Denotes

variable {ref : Json} {n : Int}

theorem integerText (n : Int) : Denotes (.text (Number.integerText n)) n := by
  have h := text n [] [] (by simp) (by simp)
  rwa [List.nil_append, List.append_nil, String.ofList_toList] at h

theorem layerNumber_text_of_nonneg {lead trail : List Char} (hlead : ∀ c ∈ lead, Text.isBlank c)
    (htrail : ∀ c ∈ trail, Text.isBlank c) (hn : 0 ≤ n) :
    layerNumber (.text (String.ofList (lead ++ (Number.integerText n).toList ++ trail))) =
      if Number.WithinLimit n then .ok n.toNat
      else .error (Defect.tooManyDigits (Number.decimalDigits n.toNat).length) := by
  have htrim : Text.trim (lead ++ Number.decimalDigits n.toNat ++ trail) = Number.decimalDigits n.toNat :=
    Text.trim_padded hlead htrail fun c hc => Number.not_isBlank_of_isDigit (Number.isDigit_of_mem_decimalDigits hc)
  rw [Number.toList_integerText_of_nonneg hn, layerNumber_text_of_digits (by rw [String.toList_ofList, htrim]),
    Int.toNat_of_nonneg hn]

theorem layerNumber_of_nonneg (h : Denotes ref n) (hn : 0 ≤ n) (hlimit : Number.WithinLimit n) :
    layerNumber ref = .ok n.toNat := by
  cases h with
  | number => rw [layerNumber, if_neg (Int.not_lt.2 hn)]
  | text _ lead trail hlead htrail => rw [layerNumber_text_of_nonneg hlead htrail hn, if_pos hlimit]

theorem layerNumber_of_beyond (h : Denotes ref n) (hn : 0 ≤ n) (hlimit : ¬Number.WithinLimit n) :
    layerNumber ref = .ok n.toNat ∨ ∃ d : Defect, layerNumber ref = .error d := by
  cases h with
  | number => exact .inl (by rw [layerNumber, if_neg (Int.not_lt.2 hn)])
  | text _ lead trail hlead htrail => exact .inr ⟨_, by rw [layerNumber_text_of_nonneg hlead htrail hn, if_neg hlimit]⟩

theorem layerNumber_of_neg (h : Denotes ref n) (hn : n < 0) (hlimit : Number.WithinLimit n) :
    layerNumber ref = .error (invalidLayer ref) := by
  cases h with
  | number => rw [layerNumber, if_pos hn, Fault.naming, if_pos hlimit]
  | text _ lead trail hlead htrail =>
    have hblank : ∀ c ∈ '-' :: Number.decimalDigits n.natAbs, Text.isBlank c = false := by
      intro c hc
      rcases List.mem_cons.1 hc with rfl | hc
      · rfl
      · exact Number.not_isBlank_of_isDigit (Number.isDigit_of_mem_decimalDigits hc)
    apply layerNumber_text_of_minus
    rw [String.toList_ofList, Number.toList_integerText_of_neg hn, Text.trim_padded hlead htrail hblank]

end Denotes

variable {s : Schema} {ref : Json} {n : Int} {i : Nat} {l : Layer}

theorem layer_of_number (h : layerNumber ref = .ok i) (hl : s.all[i]? = some l) : s.layer ref = .ok l := by
  simp only [layer, h, bind, Except.bind, hl]
  rfl

theorem layer_of_no_number {e : Fault} (h : layerNumber ref = .error e) : s.layer ref = .error e := by
  simp only [layer, h, bind, Except.bind]

/-- The failure names the number. -/
theorem layer_of_number_outside (h : layerNumber ref = .ok i) (hi : s.all.length ≤ i) :
    ∃ f : Failure, f.kind = .invalidLayer ∧ s.layer ref = .error (.naming i f) := by
  have hnone : s.all[i]? = none := List.getElem?_eq_none hi
  simp only [layer, h, bind, Except.bind, hnone]
  exact ⟨_, rfl, rfl⟩

theorem Denotes.layer_of_inside (h : Denotes ref n) (hlimit : Number.WithinLimit n) (hn : n = i) (hl : s.all[i]? = some l) :
    s.layer ref = .ok l := by
  subst hn
  exact layer_of_number (h.layerNumber_of_nonneg (Int.natCast_nonneg i) hlimit) hl

theorem Denotes.layer_of_outside (h : Denotes ref n) (hlimit : Number.WithinLimit n) (hn : n < 0 ∨ s.all.length ≤ n) :
    ∃ f, s.layer ref = .error (.failure f) ∧ f.kind = .invalidLayer := by
  by_cases hneg : n < 0
  · exact ⟨invalidLayer ref, layer_of_no_number (h.layerNumber_of_neg hneg hlimit), rfl⟩
  · have hnumber := h.layerNumber_of_nonneg (Int.not_lt.1 hneg) hlimit
    have houtside : s.all.length ≤ n.toNat := by omega
    obtain ⟨f, hkind, hlayer⟩ := layer_of_number_outside hnumber houtside
    rw [Int.toNat_of_nonneg (Int.not_lt.1 hneg), Fault.naming, if_pos hlimit] at hlayer
    exact ⟨f, hlayer, hkind⟩

/-- Beyond the limit of digits the text is not read, and the number not written in a failure. -/
theorem Denotes.layer_of_beyond (h : Denotes ref n) (hlimit : ¬Number.WithinLimit n) (hn : s.all.length ≤ n) :
    ∃ d, s.layer ref = .error (.defect d) := by
  have hnonneg : 0 ≤ n := by omega
  rcases h.layerNumber_of_beyond hnonneg hlimit with hnumber | ⟨d, hnumber⟩
  · have houtside : s.all.length ≤ n.toNat := by omega
    obtain ⟨f, -, hlayer⟩ := layer_of_number_outside hnumber houtside
    rw [Int.toNat_of_nonneg hnonneg, Fault.naming, if_neg hlimit] at hlayer
    exact ⟨_, hlayer⟩
  · exact ⟨d, layer_of_no_number hnumber⟩

/-! ## Layers and tables -/

variable {m m' : DataModel}

theorem ordered_eq (m : DataModel) :
    ordered m = m.entityTypes.filter (·.HasGeometry) ++ m.entityTypes.filter (¬ ·.HasGeometry) := by
  unfold ordered
  congr 1
  · congr 1
    funext e
    exact e.isSome_shapeProperty?
  · congr 1
    funext e
    rw [← Option.not_isSome, e.isSome_shapeProperty?, decide_not]

theorem map_entity_all (m : DataModel) : (ofModel m).all.map (·.entity) = ordered m := by
  rw [all_ofModel, List.map_map]
  exact List.zipIdx_map_fst 0 (ordered m)

theorem layers_ofModel (m : DataModel) :
    (ofModel m).layers = (ofModel m).all.take (m.entityTypes.filter (·.HasGeometry)).length := by
  simp [ofModel, all, EntityType.isSome_shapeProperty?]

theorem tables_ofModel (m : DataModel) :
    (ofModel m).tables = (ofModel m).all.drop (m.entityTypes.filter (·.HasGeometry)).length := by
  simp [ofModel, all, EntityType.isSome_shapeProperty?]

theorem map_entity_layers (m : DataModel) : (ofModel m).layers.map (·.entity) = m.entityTypes.filter (·.HasGeometry) := by
  rw [layers_ofModel, List.map_take, map_entity_all, ordered_eq, List.take_left]

theorem map_entity_tables (m : DataModel) :
    (ofModel m).tables.map (·.entity) = m.entityTypes.filter (¬ ·.HasGeometry) := by
  rw [tables_ofModel, List.map_drop, map_entity_all, ordered_eq, List.drop_left]

theorem numbered_congr (h : ordered m' = ordered m) :
    (ofModel m').all.map (fun l : Layer => (l.id, l.entity)) = (ofModel m).all.map fun l : Layer => (l.id, l.entity) := by
  simp only [all_ofModel, List.map_map, h]
  rfl

theorem all_congr (h : ordered m' = ordered m) (htypes : m'.relationshipTypes = m.relationshipTypes) :
    (ofModel m').all = (ofModel m).all := by
  have hattached : attached m' = attached m := by rw [attached, attached, h, htypes]
  rw [all_ofModel, all_ofModel, hattached, h]

/-- The layer in a place has the number of the place. Layers are the types with a geometry and tables the others, in
the order of their declaration. A whole number, and its text between blanks, denotes the layer with that number, and is
an invalid reference when there is none; but one above all layers that has too many digits is no invalid reference, it
fails as a defect. The order between a type with a geometry and one without makes no difference to numbers, nor to ends
of relationships. -/
theorem numbering_ofModel (m : DataModel) :
    let s := ofModel m
    (∀ (i : Nat) (l : Layer), s.all[i]? = some l → l.id = i) ∧
    s.layers.map (·.entity) = m.entityTypes.filter (·.HasGeometry) ∧
    s.tables.map (·.entity) = m.entityTypes.filter (¬ ·.HasGeometry) ∧
    (∀ ref n, Denotes ref n → Number.WithinLimit n →
      (∀ (i : Nat) (l : Layer), n = i → s.all[i]? = some l → s.layer ref = .ok l) ∧
      (n < 0 ∨ s.all.length ≤ n → ∃ f, s.layer ref = .error (.failure f) ∧ f.kind = .invalidLayer)) ∧
    (∀ ref n, Denotes ref n → ¬Number.WithinLimit n → s.all.length ≤ n → ∃ d, s.layer ref = .error (.defect d)) ∧
    ∀ m' : DataModel,
      m'.entityTypes.filter (·.HasGeometry) = m.entityTypes.filter (·.HasGeometry) →
      m'.entityTypes.filter (¬ ·.HasGeometry) = m.entityTypes.filter (¬ ·.HasGeometry) →
      (ofModel m').all.map (fun l : Layer => (l.id, l.entity)) = s.all.map (fun l : Layer => (l.id, l.entity)) ∧
      (m'.relationshipTypes = m.relationshipTypes → (ofModel m').layers = s.layers ∧ (ofModel m').tables = s.tables) := by
  intro s
  refine ⟨fun i l hl => (relationships_of_getElem? hl).1, map_entity_layers m, map_entity_tables m, ?_,
    fun ref n href => href.layer_of_beyond, ?_⟩
  · intro ref n href hlimit
    exact ⟨fun i l hn hl => href.layer_of_inside hlimit hn hl, href.layer_of_outside hlimit⟩
  · intro m' hspatial htabular
    have hordered : ordered m' = ordered m := by rw [ordered_eq, ordered_eq, hspatial, htabular]
    refine ⟨numbered_congr hordered, fun htypes => ?_⟩
    rw [layers_ofModel, tables_ofModel, all_congr hordered htypes, hspatial]
    exact ⟨(layers_ofModel m).symm, (tables_ofModel m).symm⟩

/-- A table that is declared before a layer has the number after it, in either order of the two. The least number with
too many digits fails as a defect. -/
theorem numbering_ofModel_interleaved :
    let well : EntityType := ⟨"Well", "", [⟨"shape", "", "esriFieldTypeGeometry", none⟩]⟩
    let owner : EntityType := ⟨"Owner", "", []⟩
    let s := ofModel { entityTypes := [owner, well] }
    let beyond : Nat := 10 ^ Number.digitLimit
    Denotes (.text " 1\n") 1 ∧ s.layer (.text " 1\n") = .ok { id := 1, entity := owner } ∧
      (∃ f, s.layer (.int 2) = .error (.failure f) ∧ f.kind = .invalidLayer) ∧
      ¬Number.WithinLimit beyond ∧ (∃ d, s.layer (.text (Number.integerText beyond)) = .error (.defect d)) ∧
      (ofModel { entityTypes := [well, owner] }).layers = s.layers := by
  intro well owner s beyond
  obtain ⟨-, -, -, hlayer, hbeyond, hcongr⟩ := numbering_ofModel { entityTypes := [owner, well] }
  have hlead : ∀ c ∈ [' '], Text.isBlank c := List.forall_mem_singleton.2 rfl
  have htrail : ∀ c ∈ ['\n'], Text.isBlank c := List.forall_mem_singleton.2 rfl
  have href : Denotes (.text " 1\n") 1 := .text 1 [' '] ['\n'] hlead htrail
  have hlimit : ¬Number.WithinLimit beyond := by
    rw [Number.withinLimit_iff, Int.natAbs_natCast]
    exact Nat.lt_irrefl beyond
  have hlarge : (s.all.length : Int) ≤ beyond := Int.ofNat_le.2 (Nat.one_lt_pow (by decide) (by decide))
  refine ⟨href, (hlayer _ _ href (by decide)).1 1 _ rfl rfl, (hlayer _ _ (.number 2) (by decide)).2 (.inr (by decide)),
    hlimit, hbeyond _ _ (.integerText beyond) hlimit hlarge, ?_⟩
  exact ((hcongr { entityTypes := [well, owner] } rfl rfl).2 rfl).1

end Schema
end FeatureGraph
