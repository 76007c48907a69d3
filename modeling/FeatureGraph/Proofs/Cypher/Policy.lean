import FeatureGraph.Cypher.Query
import FeatureGraph.Proofs.Cypher.Rewriting
import FeatureGraph.Proofs.Number.Integer
import FeatureGraph.Proofs.Result

/-! # Passing over spatial filters

A query under either policy is built in the same steps. They differ in one: where the spatial filter cannot be read,
one policy fails and the other goes on without it. No other step fails the way that step does, so the other policy
loses nothing but that filter, and hides no error but that one. A step after it, the number of rows, can still fail. -/
namespace FeatureGraph

def Fault.IsSpatial (e : Fault) : Prop := ∃ f, e = .failure f ∧ f.kind = .spatialFilter

theorem Fault.not_isSpatial_defect (d : Defect) : ¬(Fault.defect d).IsSpatial := by
  rintro ⟨f, ⟨⟩, -⟩

theorem Fault.not_isSpatial_mapError {α : Type} (x : Except Defect α) :
    FailsWith (fun e => ¬e.IsSpatial) (x.mapError Fault.defect) := .mapError .trivial fun d _ => not_isSpatial_defect d

theorem Fault.not_isSpatial_failure {f : Failure} (hf : f.kind ≠ .spatialFilter) : ¬(Fault.failure f).IsSpatial := by
  rintro ⟨f', ⟨⟩, hspatial⟩
  exact hf hspatial

/-- How a result that raises failures of the spatial filter is related to one that skips them, and to what there is
without the filter. The one that skips them is there, unless a number cannot be written. -/
structure PassesOver {α : Type} (unwritable : Prop) (raised skipped without : Except Fault α) : Prop where
  ok : ∀ a, raised = .ok a → skipped = .ok a
  spatial : ∀ e, raised = .error e → e.IsSpatial →
    skipped = without ∧ FaultsWhen unwritable (.defect .unwritableInteger) skipped
  other : ∀ e, raised = .error e → ¬e.IsSpatial → skipped = .error e

namespace PassesOver

variable {α β : Type} {unwritable : Prop} {raised skipped without x : Except Fault α} {e : Fault}

theorem of_ok (a : α) : PassesOver unwritable (.ok a) (.ok a) without where
  ok _ h := h
  spatial := nofun
  other := nofun

theorem of_spatial (h : e.IsSpatial) (hx : FaultsWhen unwritable (.defect .unwritableInteger) x) :
    PassesOver unwritable (.error e) x x where
  ok := nofun
  spatial _ _ _ := ⟨rfl, hx⟩
  other := by
    rintro e' ⟨⟩ hnot
    exact absurd h hnot

theorem of_other (h : ¬e.IsSpatial) : PassesOver unwritable (.error e) (.error e) without where
  ok := nofun
  spatial := by
    rintro e' ⟨⟩ hspatial
    exact absurd hspatial h
  other _ he _ := he

/-- A result that is used in a last step, which can fail by a number that cannot be written. -/
theorem andThen {f : α → Except Fault β} (h : PassesOver False raised skipped without)
    (hf : ∀ a, FaultsWhen unwritable (.defect .unwritableInteger) (f a)) :
    PassesOver unwritable (raised >>= f) (skipped >>= f) (without >>= f) := by
  cases raised with
  | ok a =>
    rw [h.ok a rfl]
    have hfa := hf a
    show PassesOver unwritable (f a) (f a) (without >>= f)
    generalize f a = y at hfa
    cases hfa with
    | ok b => exact of_ok b
    | error => exact of_other (Fault.not_isSpatial_defect _)
  | error e =>
    by_cases he : e.IsSpatial
    · obtain ⟨rfl, hskipped⟩ := h.spatial e rfl he
      cases hskipped with
      | ok a => exact of_spatial he (hf a)
      | error hfalse => exact hfalse.elim
    · rw [h.other e rfl he]
      exact of_other he

/-- A first step that all share, and that does not fail as a spatial filter does. -/
theorem bind {f g k : α → Except Fault β} (hx : FailsWith (fun e => ¬e.IsSpatial) x)
    (h : ∀ a, PassesOver unwritable (f a) (g a) (k a)) : PassesOver unwritable (x >>= f) (x >>= g) (x >>= k) := by
  cases x with
  | ok a => exact h a
  | error e => exact of_other (hx e rfl)

end PassesOver

/-! ## Failures of the other filter -/

namespace Filter

variable {namespaceName : String} {library : Library} {calls : Nat}

theorem predicate_failsWith (filter : String) :
    FailsWith (fun e => ¬e.IsSpatial) (predicate namespaceName filter library calls) := by
  have hqualified : FailsWith (fun e => ¬e.IsSpatial) (qualified namespaceName filter library) := by
    refine .bind (Fault.not_isSpatial_mapError _) fun parsed _ => ?_
    cases parsed with
    | none => exact .error (Fault.not_isSpatial_failure (f := invalid filter) nofun)
    | some e => exact Fault.not_isSpatial_mapError _
  refine .bind hqualified fun sql _ => .bind (fun e he => ?_) fun out _ => .ok _
  cases e with
  | defect d => exact Fault.not_isSpatial_defect d
  | failure f => exact Fault.not_isSpatial_failure (by rw [Cypher.kind_of_ofRendered_error he]; decide)

theorem restriction_failsWith (filter : Option String) (ids : List Json) :
    FailsWith (fun e => ¬e.IsSpatial) (restriction namespaceName filter ids library calls) := by
  unfold restriction
  split
  · exact .bind (Fault.not_isSpatial_mapError _) fun text _ => (predicate_failsWith text).map
  · split
    · exact .ok _
    · split
      · exact .ok _
      · exact (predicate_failsWith _).map

end Filter

namespace FeatureQuery

def withoutGeometry (q : FeatureQuery) : FeatureQuery := { q with geometry := .null }

/-- Rows are asked for, and their greatest number has too many digits to be written. -/
def HasLongLimit (q : FeatureQuery) : Prop := q.countOnly = false ∧ ∃ n : Nat, q.limit = some n ∧ ¬Number.WithinLimit n

theorem delivers_limitOf (v : Json) : Delivers (fun limit => ∀ n ∈ limit, Number.WithinLimit (n : Nat)) (limitOf v) := by
  unfold limitOf
  split
  · exact .ok nofun
  · split
    · split
      · exact .error _
      · next i hi =>
        split
        · exact .error _
        · next hsign =>
          have hlimit := Number.withinLimit_of_integer? hi
          refine .ok fun n hn => ?_
          obtain rfl := Option.some.inj hn
          rwa [Int.toNat_of_nonneg (by omega)]
    · exact .error _

/-- What is read from a text can be written. -/
theorem not_hasLongLimit_of_ofParameters {params : Json} {q : FeatureQuery} (h : ofParameters params = .ok q) :
    ¬q.HasLongLimit := by
  have hlimit : Delivers (fun q => ∀ n ∈ q.limit, Number.WithinLimit (n : Nat)) (ofParameters params) := by
    unfold ofParameters
    split
    · refine .bind_true fun ids => .bind_true fun idsOnly => .bind_true fun countOnly => ?_
      refine (delivers_limitOf _).bind fun limit hlimit => ?_
      dsimp only
      split <;> exact .bind_true fun relationshipId => .ok hlimit
    · exact .error _
  rintro ⟨-, n, hn, hlong⟩
  exact hlong (hlimit q h n hn)

end FeatureQuery

namespace Cypher

variable {q : FeatureQuery} {field : Option String} {policy : SpatialPolicy} {platform : Platform}

theorem filterPredicate_failsWith : FailsWith (fun e => ¬e.IsSpatial) (filterPredicate q platform) := by
  unfold filterPredicate
  dsimp only
  split
  · exact Filter.restriction_failsWith _ _
  · exact Filter.restriction_failsWith _ _
  · split
    · exact .error (Fault.not_isSpatial_defect _)
    · exact Filter.restriction_failsWith _ _

theorem limitClause_faultsWhen (q : FeatureQuery) :
    FaultsWhen q.HasLongLimit (.defect .unwritableInteger) ((limitClause q).mapError Fault.defect) := by
  unfold limitClause
  cases hlimit : q.limit with
  | none => exact .ok _ (by simp [FeatureQuery.HasLongLimit, hlimit])
  | some n =>
    cases hcount : q.countOnly with
    | true => exact .ok _ (by simp [FeatureQuery.HasLongLimit, hcount])
    | false =>
      by_cases hn : Number.WithinLimit n
      · simp only [hn, if_true]
        exact .ok _ (by simp [FeatureQuery.HasLongLimit, hlimit, hn])
      · simp only [hn, if_false]
        exact .error ⟨hcount, n, hlimit, hn⟩

/-! ## The two policies -/

theorem spatialPredicate_passesOver :
    PassesOver False (spatialPredicate .raise field q platform) (spatialPredicate .skip field q platform) (.ok none) := by
  unfold spatialPredicate
  split
  · exact .of_ok none
  · cases Spatial.predicate "n" field ⟨q.geometry, q.inReference, q.relation⟩ platform.projection platform.calls with
    | ok p => exact .of_ok (some p)
    | error e =>
      cases e with
      | defect d => exact .of_other (Fault.not_isSpatial_defect d)
      | failure f =>
        by_cases hf : f.kind = .spatialFilter
        · simp only [hf, true_and, reduceCtorEq, if_false, if_true]
          exact .of_spatial ⟨f, rfl, hf⟩ (.ok none id)
        · simp only [hf, false_and, if_false]
          exact .of_other (Fault.not_isSpatial_failure hf)

theorem filters_withoutGeometry :
    filters policy field q.withoutGeometry platform = (do
      let filter ← filterPredicate q platform
      return whereClause filter (← .ok none)) := rfl

theorem filters_passesOver :
    PassesOver False (filters .raise field q platform) (filters .skip field q platform)
      (filters policy field q.withoutGeometry platform) := by
  rw [filters_withoutGeometry]
  exact .bind filterPredicate_failsWith fun filter => spatialPredicate_passesOver.andThen fun spatial => .ok _ id

theorem entityQuery_passesOver (entity : String) :
    PassesOver q.HasLongLimit (entityQuery .raise entity field q platform) (entityQuery .skip entity field q platform)
      (entityQuery policy entity field q.withoutGeometry platform) :=
  filters_passesOver.andThen fun _ => (limitClause_faultsWhen q).map _

theorem relationshipQuery_passesOver (entity related name : String) (role : Role) :
    PassesOver q.HasLongLimit (relationshipQuery .raise entity related name role field q platform)
      (relationshipQuery .skip entity related name role field q platform)
      (relationshipQuery policy entity related name role field q.withoutGeometry platform) :=
  filters_passesOver.andThen fun _ => (limitClause_faultsWhen q).map _

/-- A query that passes over spatial filters is the query that does not, and where that one fails by its spatial filter
it is the query without a geometry, which is there unless its number of rows cannot be written, as that of a query with
parameters can. It fails otherwise as the other one does. -/
theorem skip_passesOver (field : Option String) (q : FeatureQuery) (policy : SpatialPolicy) (platform : Platform) :
    (∀ entity, PassesOver q.HasLongLimit (entityQuery .raise entity field q platform)
      (entityQuery .skip entity field q platform) (entityQuery policy entity field q.withoutGeometry platform)) ∧
    (∀ entity related name role, PassesOver q.HasLongLimit
      (relationshipQuery .raise entity related name role field q platform)
      (relationshipQuery .skip entity related name role field q platform)
      (relationshipQuery policy entity related name role field q.withoutGeometry platform)) ∧
    ∀ params, FeatureQuery.ofParameters params = .ok q → ¬q.HasLongLimit :=
  ⟨entityQuery_passesOver, relationshipQuery_passesOver, fun _ => FeatureQuery.not_hasLongLimit_of_ofParameters⟩

/-- The geometry cannot be read, and the number of rows cannot be written. -/
theorem skip_fails_of_limit :
    let q : FeatureQuery := { geometry := .text "bad", limit := some (10 ^ Number.digitLimit) }
    (∃ e, entityQuery .raise "E" (some "shape") q = .error e ∧ e.IsSpatial) ∧
      entityQuery .skip "E" (some "shape") q = .error Defect.unwritableInteger := by
  intro q
  have hlimit : q.HasLongLimit := by
    refine ⟨rfl, _, rfl, ?_⟩
    rw [Number.withinLimit_iff, Int.natAbs_natCast]
    exact Nat.lt_irrefl _
  have hbad : (match spatialPredicate .raise (some "shape") q with
      | .error (.failure f) => f.kind == .spatialFilter
      | _ => false) = true := by decide +kernel
  obtain ⟨e, he, hkind⟩ : ∃ e, spatialPredicate .raise (some "shape") q = .error e ∧ e.IsSpatial := by
    split at hbad
    · next f hf => exact ⟨_, hf, f, rfl, eq_of_beq hbad⟩
    · cases hbad
  have hraised : entityQuery .raise "E" (some "shape") q = .error e := by
    have hfilters : filters .raise (some "shape") q = .error e := by
      have hfilter : filterPredicate q = .ok none := rfl
      rw [filters, hfilter, he]
      rfl
    rw [entityQuery, hfilters]
    rfl
  have hpasses : PassesOver q.HasLongLimit (entityQuery .raise "E" (some "shape") q)
      (entityQuery .skip "E" (some "shape") q) (entityQuery .skip "E" (some "shape") q.withoutGeometry) :=
    entityQuery_passesOver "E"
  exact ⟨⟨e, hraised, hkind⟩, ((hpasses.spatial e hraised hkind).2.eq_error_iff _).2 ⟨rfl, hlimit⟩⟩

end Cypher
end FeatureGraph
