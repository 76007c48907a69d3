import FeatureGraph.Proofs.Feature.Assembly
import FeatureGraph.Proofs.Value.Sameness

/-! # Groups of related features

The rows are cut where the origin changes. No row is lost, none comes twice and the order stays. An origin that is
not the same as itself has a group to itself; every other origin, if its rows stand together, has one group. -/
namespace FeatureGraph

/-! ## Origins -/

theorem Value.Distinct.origin {v : Value} (hv : v.Distinct) : (FeatureGroup.originOf v).Distinct := by
  cases hv with
  | @entity t ps i hnames hps hi =>
    show ((ps.lookup objectIdProperty).getD .null).Distinct
    cases hlookup : ps.lookup objectIdProperty with
    | none => exact .null
    | some v => exact hps _ (Assoc.mem_of_lookup hlookup)
  | _ => constructor <;> assumption

/-- Whatever stands between two values that are the same is the same as well. -/
def Value.Contiguous (vs : List Value) : Prop :=
  ∀ before v between w after, vs = before ++ v :: (between ++ w :: after) → w.same v = true →
    ∀ u ∈ between, u.same v = true

theorem Value.Contiguous.of_append {us vs : List Value} (h : Contiguous (us ++ vs)) : Contiguous vs := by
  rintro before v between w after rfl hw
  exact h (us ++ before) v between w after (List.append_assoc ..).symm hw

theorem Value.Contiguous.nil : Contiguous [] := by
  intro before v between w after h
  simp at h

/-- Once the values that are the same as the first have ended, none comes again. -/
theorem Value.Contiguous.cons {v : Value} {vs : List Value} (hv : ∀ w ∈ vs.dropWhile fun w => w.same v, w.same v = false)
    (h : Contiguous vs) : Contiguous (v :: vs) := by
  intro before v' between w after hsplit hw
  cases before with
  | cons u before =>
    obtain ⟨-, hsplit⟩ := List.cons.inj hsplit
    exact h before v' between w after hsplit hw
  | nil =>
    obtain ⟨rfl, rfl⟩ := List.cons.inj hsplit
    rw [List.dropWhile_append] at hv
    split at hv
    · next hempty => exact List.dropWhile_eq_nil_iff.1 (List.isEmpty_iff.1 hempty)
    · exact absurd hw (Bool.eq_false_iff.1 (hv w (by simp)))

namespace FeatureGroup

/-! ## Runs -/

/-- A group that was gathered from a block of rows. All of them have its origin, unless the origin is not the same as
itself; then there is a single row. -/
structure Gathers (g : FeatureGroup) (block : List (Value × Feature)) : Prop where
  first : (block.head?.map Prod.fst) = some g.origin
  features : g.features = block.map Prod.snd
  same : g.origin.same g.origin = true → ∀ p ∈ block, p.1.same g.origin = true
  single : g.origin.same g.origin = false → block.length = 1

def blocks : List (Value × Feature) → List (List (Value × Feature))
  | [] => []
  | (origin, f) :: r =>
    ((origin, f) :: r.takeWhile fun p => p.1.same origin) :: blocks (r.dropWhile fun p => p.1.same origin)
termination_by rows => rows.length
decreasing_by exact Nat.lt_succ_of_le (List.dropWhile_sublist _).length_le

theorem flatten_blocks (rows : List (Value × Feature)) : (blocks rows).flatten = rows := by
  induction rows using blocks.induct with
  | case1 => rw [blocks]; rfl
  | case2 origin f r ih =>
    rw [blocks, List.flatten_cons, ih, List.cons_append, List.takeWhile_append_dropWhile]

theorem same_of_mem_takeWhile {origin : Value} {r : List (Value × Feature)} {p : Value × Feature}
    (hp : p ∈ r.takeWhile fun p => p.1.same origin) : p.1.same origin = true :=
  List.mem_takeWhile_imp (p := fun p : Value × Feature => p.1.same origin) hp

theorem gathers_takeWhile {origin : Value} (f : Feature) {r : List (Value × Feature)}
    (hr : ∀ p ∈ r, p.1.Distinct) :
    Gathers ⟨origin, f :: (r.takeWhile fun p => p.1.same origin).map (·.2)⟩
      ((origin, f) :: r.takeWhile fun p => p.1.same origin) where
  first := rfl
  features := rfl
  same hself := List.forall_mem_cons.2 ⟨hself, fun _ hp => same_of_mem_takeWhile hp⟩
  single hself := by
    -- an origin with a second row that is the same would be the same as itself
    have hnone : (r.takeWhile fun p => p.1.same origin) = [] := by
      refine List.eq_nil_iff_forall_not_mem.2 fun p hp => ?_
      have hsame := same_of_mem_takeWhile hp
      have hdistinct := hr p ((List.takeWhile_sublist _).mem hp)
      exact absurd (Value.same_trans (Value.same_symm hdistinct hsame) hsame) (by simp [hself])
    rw [hnone, List.length_singleton]

theorem forall₂_gathers_runs {rows : List (Value × Feature)} (hrows : ∀ p ∈ rows, p.1.Distinct) :
    List.Forall₂ Gathers (runs rows) (blocks rows) := by
  induction rows using blocks.induct with
  | case1 =>
    rw [runs, blocks]
    exact .nil
  | case2 origin f r ih =>
    obtain ⟨-, hr⟩ := List.forall_mem_cons.1 hrows
    rw [runs, blocks]
    exact .cons (gathers_takeWhile f hr) (ih fun p hp => hr p ((List.dropWhile_sublist _).mem hp))

theorem flatMap_features_runs (rows : List (Value × Feature)) :
    (runs rows).flatMap features = rows.map Prod.snd := by
  induction rows using runs.induct with
  | case1 => rw [runs]; rfl
  | case2 origin f r ih =>
    rw [runs, List.flatMap_cons, ih, List.cons_append, ← List.map_append, List.takeWhile_append_dropWhile,
      List.map_cons]

theorem features_ne_nil_of_mem_runs {rows : List (Value × Feature)} {g : FeatureGroup} (hg : g ∈ runs rows) :
    g.features ≠ [] := by
  induction rows using runs.induct with
  | case1 =>
    rw [runs] at hg
    exact absurd hg List.not_mem_nil
  | case2 origin f r ih =>
    rw [runs] at hg
    rcases List.mem_cons.1 hg with rfl | hg
    · exact List.cons_ne_nil _ _
    · exact ih hg

/-- A run ends with a row that has another origin, which is that of the next group. -/
theorem isChain_runs (rows : List (Value × Feature)) :
    (runs rows).IsChain fun g h => h.origin.same g.origin = false := by
  induction rows using runs.induct with
  | case1 => rw [runs]; exact .nil
  | case2 origin f r ih =>
    rw [runs]
    cases hrest : r.dropWhile fun p => p.1.same origin with
    | nil => rw [runs]; exact .singleton _
    | cons p r' =>
      have hfirst := List.head?_dropWhile_not (fun p : Value × Feature => p.1.same origin) r
      rw [hrest] at hfirst ih
      rw [runs] at ih ⊢
      exact .cons_cons (by simpa using hfirst) ih

/-! ## One group for an origin -/

def blockHas (o : Value) (block : List (Value × Feature)) : Bool := block.any fun p => p.1.same o

theorem countP_blocks_eq_zero {o : Value} {rows : List (Value × Feature)} (h : ∀ p ∈ rows, p.1.same o = false) :
    (blocks rows).countP (blockHas o) = 0 := by
  refine List.countP_eq_zero.2 fun block hblock hhas => ?_
  obtain ⟨p, hp, hsame⟩ := List.any_eq_true.1 hhas
  have hmem : p ∈ rows := flatten_blocks rows ▸ List.mem_flatten_of_mem hblock hp
  exact absurd hsame (by simp [h p hmem])

/-- Where rows of one origin stand together, none is left after the run of that origin. -/
theorem not_same_of_mem_dropWhile {origin : Value} {f : Feature} {r : List (Value × Feature)}
    (hcontiguous : Value.Contiguous (((origin, f) :: r).map Prod.fst)) :
    ∀ p ∈ r.dropWhile fun p => p.1.same origin, p.1.same origin = false := by
  intro p hp
  by_contra hsame
  rw [Bool.not_eq_false] at hsame
  obtain ⟨between, after, hsplit⟩ := List.append_of_mem hp
  have hfirst := List.head?_dropWhile_not (fun p : Value × Feature => p.1.same origin) r
  have hwhole : ((origin, f) :: r).map Prod.fst =
      [] ++ origin :: (((r.takeWhile fun p => p.1.same origin) ++ between).map Prod.fst ++ p.1 :: after.map Prod.fst) := by
    conv_lhs => rw [← List.takeWhile_append_dropWhile (p := fun p => p.1.same origin) (l := r), hsplit]
    simp
  have hbetween := hcontiguous _ _ _ _ _ hwhole hsame
  -- the row that ended the run would stand between two rows of the origin
  rw [hsplit] at hfirst
  cases between with
  | nil => simp [hsame] at hfirst
  | cons p' between => simp [hbetween p'.1 (by simp)] at hfirst

section
variable {origin o : Value} {f : Feature} {r : List (Value × Feature)}

theorem blockHas_run_eq_false (hr : ∀ p ∈ r, p.1.Distinct) (h : origin.same o = false) :
    blockHas o ((origin, f) :: r.takeWhile fun p => p.1.same origin) = false := by
  rw [blockHas, List.any_cons, Bool.or_eq_false_iff]
  refine ⟨h, List.any_eq_false.2 fun p hp hpo => ?_⟩
  have hdistinct := hr p ((List.takeWhile_sublist _).mem hp)
  exact absurd (Value.same_trans (Value.same_symm hdistinct (same_of_mem_takeWhile hp)) hpo) (by simp [h])

/-- A row whose origin is not in the first run comes after it. -/
theorem mem_dropWhile_of_blockHas_eq_false (ho : o ∈ ((origin, f) :: r).map Prod.fst) (hself : o.same o = true)
    (h : blockHas o ((origin, f) :: r.takeWhile fun p => p.1.same origin) = false) :
    o ∈ (r.dropWhile fun p => p.1.same origin).map Prod.fst := by
  obtain ⟨p, hp, rfl⟩ := List.mem_map.1 ho
  rw [← List.takeWhile_append_dropWhile (p := fun p => p.1.same origin) (l := r), ← List.cons_append,
    List.mem_append] at hp
  rcases hp with hp | hp
  · exact absurd (List.any_eq_true.2 ⟨p, hp, hself⟩) (Bool.eq_false_iff.1 h)
  · exact List.mem_map_of_mem hp

theorem contiguous_dropWhile (h : Value.Contiguous (((origin, f) :: r).map Prod.fst)) :
    Value.Contiguous ((r.dropWhile fun p => p.1.same origin).map Prod.fst) := by
  have happend : Value.Contiguous (((origin, f) :: r.takeWhile fun p => p.1.same origin).map Prod.fst ++
      (r.dropWhile fun p => p.1.same origin).map Prod.fst) := by
    rwa [← List.map_append, List.cons_append, List.takeWhile_append_dropWhile]
  exact happend.of_append

end

theorem countP_blocks {rows : List (Value × Feature)} (hrows : ∀ p ∈ rows, p.1.Distinct)
    (hcontiguous : Value.Contiguous (rows.map Prod.fst)) {o : Value} (ho : o ∈ rows.map Prod.fst)
    (hself : o.same o = true) : (blocks rows).countP (blockHas o) = 1 := by
  induction rows using blocks.induct with
  | case1 => exact absurd ho List.not_mem_nil
  | case2 origin f r ih =>
    obtain ⟨horigin, hr⟩ := List.forall_mem_cons.1 hrows
    rw [blocks, List.countP_cons]
    cases hsame : origin.same o with
    | true =>
      have hrest : (blocks (r.dropWhile fun p => p.1.same origin)).countP (blockHas o) = 0 := by
        refine countP_blocks_eq_zero fun p hp => Bool.eq_false_iff.2 fun hpo => ?_
        have hnot := not_same_of_mem_dropWhile hcontiguous p hp
        exact absurd (Value.same_trans hpo (Value.same_symm horigin hsame)) (by simp [hnot])
      rw [hrest, if_pos (by simp [blockHas, hsame])]
    | false =>
      have hfirst := blockHas_run_eq_false (f := f) hr hsame
      have hlater := mem_dropWhile_of_blockHas_eq_false ho hself hfirst
      rw [hfirst, ih (fun p hp => hr p ((List.dropWhile_sublist _).mem hp)) (contiguous_dropWhile hcontiguous) hlater]
      rfl

end FeatureGroup

/-! ## The groups of the rows -/

namespace FeatureCollection

theorem map_snd_related (rows : List (List Value)) :
    (rows.filterMap related?).map Prod.snd = rows.filterMap (·[1]?) := by
  rw [List.map_filterMap]
  refine List.filterMap_congr fun row _ => ?_
  match row with
  | [] | [_] | _ :: _ :: _ => rfl

theorem distinct_of_mem_related {rows : List (List Value)} (hrows : ∀ row ∈ rows, ∀ v ∈ row, v.Distinct)
    {p : Value × Value} (hp : p ∈ rows.filterMap related?) : p.1.Distinct := by
  obtain ⟨row, hrow, hrelated⟩ := List.mem_filterMap.1 hp
  match row with
  | [] | [_] => cases hrelated
  | origin :: _ :: _ =>
    cases hrelated
    exact (hrows _ hrow origin (by simp)).origin

variable {field : Option String} {q : Option (Quantization Float)}

/-- Each related value is a feature beside its origin. -/
theorem mapM_related (ps : List (Value × Value)) :
    (ps.mapM fun p => (do return (p.1, ← Feature.ofValue field q p.2) : Except Defect (Value × Feature))) =
      ((ps.map Prod.snd).mapM (Feature.ofValue field q)).map (ps.map Prod.fst).zip := by
  induction ps with
  | nil => rfl
  | cons p ps ih =>
    simp only [List.mapM_cons, List.map_cons, ih]
    cases Feature.ofValue field q p.2 with
    | error d => rfl
    | ok f => cases (ps.map Prod.snd).mapM (Feature.ofValue field q) <;> rfl

theorem ofRelatedRows_eq (rows : List (List Value)) :
    ofRelatedRows field q rows = ((rows.filterMap (·[1]?)).mapM (Feature.ofValue field q)).map fun fs =>
      groups (FeatureGroup.runs (((rows.filterMap related?).map Prod.fst).zip fs)) := by
  unfold ofRelatedRows
  rw [mapM_related, map_snd_related]
  cases (rows.filterMap (·[1]?)).mapM (Feature.ofValue field q) <;> rfl

/-- The related values of the rows become features, or the first that cannot be one is reported. The groups hold
these features in order; each is gathered from rows with its origin and is not empty, neighbours have different
origins, and an origin whose rows stand together has one group. -/
theorem ofRelatedRows_gathers (field : Option String) (q : Option (Quantization Float)) {rows : List (List Value)}
    (hrows : ∀ row ∈ rows, ∀ v ∈ row, v.Distinct) :
    (QueryResponse.RowsOnGrid rows → (∀ q' ∈ q, ¬q'.IsDegenerate) → ∃ c, ofRelatedRows field q rows = .ok c) ∧
    (∀ d, (rows.filterMap (·[1]?)).mapM (Feature.ofValue field q) = .error d → ofRelatedRows field q rows = .error d) ∧
    ∀ fs, (rows.filterMap (·[1]?)).mapM (Feature.ofValue field q) = .ok fs →
      let origins := (rows.filterMap related?).map Prod.fst
      ∃ gs blocks, ofRelatedRows field q rows = .ok (groups gs) ∧
        gs.flatMap FeatureGroup.features = fs ∧ (∀ g ∈ gs, g.features ≠ []) ∧
        blocks.flatten = origins.zip fs ∧ List.Forall₂ FeatureGroup.Gathers gs blocks ∧
        gs.IsChain (fun g h => h.origin.same g.origin = false) ∧
        (Value.Contiguous origins → ∀ o ∈ origins, o.same o = true →
          blocks.countP (FeatureGroup.blockHas o) = 1) := by
  refine ⟨fun hgrid hq => ?_, fun d hd => by rw [ofRelatedRows_eq, hd]; rfl, fun fs hfs => ?_⟩
  · cases h : ofRelatedRows field q rows with
    | ok c => exact ⟨c, rfl⟩
    | error d =>
      obtain ⟨-, ⟨q', hq', hdegenerate⟩, -⟩ := ((ofRelatedRows_faultsWhen hgrid).eq_error_iff d).1 h
      exact absurd hdegenerate (hq q' hq')
  · intro origins
    have hlength : origins.length = fs.length := by
      rw [length_of_mapM_eq_ok hfs, ← map_snd_related, List.length_map, List.length_map]
    have hfst : (origins.zip fs).map Prod.fst = origins := List.map_fst_zip hlength.le
    have hdistinct : ∀ p ∈ origins.zip fs, p.1.Distinct := by
      intro p hp
      obtain ⟨p', hp', heq⟩ := List.mem_map.1 (List.of_mem_zip hp).1
      exact heq ▸ distinct_of_mem_related hrows hp'
    have hgathers := FeatureGroup.forall₂_gathers_runs hdistinct
    refine ⟨_, FeatureGroup.blocks (origins.zip fs), by rw [ofRelatedRows_eq, hfs]; rfl, ?_, ?_,
      FeatureGroup.flatten_blocks _, hgathers, FeatureGroup.isChain_runs _, fun hcontiguous o ho hself => ?_⟩
    · rw [FeatureGroup.flatMap_features_runs, List.map_snd_zip hlength.ge]
    · exact fun g hg => FeatureGroup.features_ne_nil_of_mem_runs hg
    · exact FeatureGroup.countP_blocks hdistinct (by rwa [hfst]) (by rwa [hfst]) hself

/-- Rows with the ids 1 and true, which are the same, a short row, and two ids that are no numbers. -/
theorem ofRelatedRows_gathers_mixed :
    let rows : List (List Value) := [[.int 1, .int 10], [.bool true, .int 11], [.text "short"],
      [.float Number.nan, .int 12], [.float Number.nan, .int 13]]
    (∀ row ∈ rows, ∀ v ∈ row, v.Distinct) ∧ ∃ gs blocks, ofRelatedRows none none rows = .ok (groups gs) ∧
      gs.flatMap FeatureGroup.features = [10, 11, 12, 13].map (fun n => ⟨[(objectIdField, .int n)], none⟩) ∧
      List.Forall₂ FeatureGroup.Gathers gs blocks ∧ blocks.countP (FeatureGroup.blockHas (.bool true)) = 1 := by
  intro rows
  have hrows : ∀ row ∈ rows, ∀ v ∈ row, v.Distinct := by
    simp only [rows, List.forall_mem_cons, List.not_mem_nil, false_implies, implies_true, and_true]
    exact ⟨⟨.int 1, .int 10⟩, ⟨.bool true, .int 11⟩, .text _, ⟨.float _, .int 12⟩, .float _, .int 13⟩
  obtain ⟨-, -, hgroups⟩ := ofRelatedRows_gathers none none hrows
  obtain ⟨gs, blocks, hgs, hfeatures, -, -, hgathers, -, hone⟩ := hgroups _ rfl
  have hcontiguous : Value.Contiguous [.int 1, .bool true, .float Number.nan, .float Number.nan] :=
    .cons (by decide) (.cons (by decide) (.cons (by decide) (.cons (by decide) .nil)))
  exact ⟨hrows, gs, blocks, hgs, hfeatures, hgathers, hone hcontiguous (.bool true) (.tail _ (.head _)) rfl⟩

end FeatureCollection
end FeatureGraph
