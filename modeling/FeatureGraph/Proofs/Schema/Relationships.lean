import FeatureGraph.Schema.Layer
import Mathlib.Data.List.Induction
import Mathlib.Data.List.Nodup

/-! # Relationships as the layers at their ends see them

Every pair of declared types that a relationship type joins has an id of its own, and under that id one end
at the layer of its origin and one at the layer of its destination, if that is another one. Layers have no
other ends. -/
namespace FeatureGraph.Schema

/-- A relationship type with the name of an origin type and the name of a destination type. -/
structure Pairing where
  type : RelationshipType
  origin : String
  destination : String

def pairings (m : DataModel) : List Pairing :=
  m.relationshipTypes.flatMap fun r => r.origins.flatMap fun o => r.destinations.map fun d => ⟨r, o, d⟩

def IsDeclared (m : DataModel) (name : String) : Prop := ∃ e ∈ m.entityTypes, e.name = name

instance (m : DataModel) (name : String) : Decidable (IsDeclared m name) :=
  inferInstanceAs (Decidable (∃ e ∈ m.entityTypes, e.name = name))

/-- The pairings of which both names are declared, in the order of their declaration. -/
def joined (m : DataModel) : List Pairing :=
  (pairings m).filter fun p => IsDeclared m p.origin ∧ IsDeclared m p.destination

/-- A number belongs to the last layer of a name. -/
def IsLast (s : Schema) (name : String) (i : Nat) : Prop :=
  (∃ l, s.all[i]? = some l ∧ l.name = name) ∧ ∀ j l, i < j → s.all[j]? = some l → l.name ≠ name

/-! ## Numbers of names -/

variable {es : List EntityType} {name : String} {i j : Nat}

theorem number?_append_singleton (name : String) (es : List EntityType) (e : EntityType) :
    number? name (es ++ [e]) = if e.name = name then some es.length else number? name es := by
  rw [number?, List.zipIdx_append, List.reverse_append]
  by_cases h : e.name = name <;> simp [h, number?]

theorem number?_eq_some (h : number? name es = some i) :
    (∃ e, es[i]? = some e ∧ e.name = name) ∧ ∀ j e, i < j → es[j]? = some e → e.name ≠ name := by
  induction es using List.reverseRecOn with
  | nil => cases h
  | append_singleton es e ih =>
    rw [number?_append_singleton] at h
    split at h
    · next he =>
      cases h
      refine ⟨⟨e, by simp, he⟩, fun j e' hj hget => ?_⟩
      rw [List.getElem?_eq_none (by rw [List.length_append, List.length_singleton]; omega)] at hget
      cases hget
    · next he =>
      obtain ⟨⟨e', hget, hname⟩, hlast⟩ := ih h
      have hi := (List.getElem?_eq_some_iff.1 hget).1
      refine ⟨⟨e', by rw [List.getElem?_append_left hi, hget], hname⟩, fun j e'' hj hget' => ?_⟩
      rcases Nat.lt_or_ge j es.length with hlt | hge
      · rw [List.getElem?_append_left hlt] at hget'
        exact hlast j e'' hj hget'
      · rw [List.getElem?_append_right hge] at hget'
        obtain rfl : e'' = e := by simpa using List.mem_of_getElem? hget'
        exact he

theorem number?_isSome_iff : (number? name es).isSome ↔ ∃ e ∈ es, e.name = name := by
  induction es using List.reverseRecOn with
  | nil => simp [number?]
  | append_singleton es e ih =>
    rw [number?_append_singleton]
    split
    · next he => simp [he]
    · next he => simp [ih, he]

theorem mem_ordered {m : DataModel} {e : EntityType} : e ∈ ordered m ↔ e ∈ m.entityTypes := by
  rw [ordered, List.mem_append, List.mem_filter, List.mem_filter]
  cases e.shapeProperty? <;> simp

theorem number?_ordered_isSome_iff {m : DataModel} : (number? name (ordered m)).isSome ↔ IsDeclared m name := by
  simp [number?_isSome_iff, mem_ordered, IsDeclared]

/-! ## Ends -/

def Pairing.endAt (es : List EntityType) (layer id : Nat) (p : Pairing) : Option RelationshipEnd := do
  let i ← number? p.origin es
  let j ← number? p.destination es
  if layer = i then some ⟨id, p.type.name, j, .origin, p.type.cardinality⟩
  else if layer = j then some ⟨id, p.type.name, i, .destination, p.type.cardinality⟩
  else none

/-- The ends that a layer has of pairings numbered from an id on. -/
def endsFrom (es : List EntityType) (layer : Nat) : Nat → List Pairing → List RelationshipEnd
  | _, [] => []
  | id, p :: ps => (p.endAt es layer id).toList ++ endsFrom es layer (id + 1) ps

theorem Pairing.endAt_of_numbers {p : Pairing} (hi : number? p.origin es = some i)
    (hj : number? p.destination es = some j) (layer id : Nat) :
    p.endAt es layer id =
      if layer = i then some ⟨id, p.type.name, j, .origin, p.type.cardinality⟩
      else if layer = j then some ⟨id, p.type.name, i, .destination, p.type.cardinality⟩
      else none := by
  rw [endAt, hi, hj]
  rfl

theorem Pairing.id_of_endAt {p : Pairing} {layer id : Nat} {e : RelationshipEnd} (h : p.endAt es layer id = some e) :
    e.id = id := by
  obtain ⟨i, hi, h⟩ := Option.bind_eq_some_iff.1 h
  obtain ⟨j, hj, h⟩ := Option.bind_eq_some_iff.1 h
  split at h
  · cases h
    rfl
  · split at h
    · cases h
      rfl
    · cases h

theorem Pairing.related_of_endAt {p : Pairing} {layer id : Nat} {e : RelationshipEnd}
    (h : p.endAt es layer id = some e) : e.related < es.length := by
  obtain ⟨i, hi, h⟩ := Option.bind_eq_some_iff.1 h
  obtain ⟨j, hj, h⟩ := Option.bind_eq_some_iff.1 h
  obtain ⟨⟨_, hgeti, -⟩, -⟩ := number?_eq_some hi
  obtain ⟨⟨_, hgetj, -⟩, -⟩ := number?_eq_some hj
  split at h
  · cases h
    exact (List.getElem?_eq_some_iff.1 hgetj).1
  · split at h
    · cases h
      exact (List.getElem?_eq_some_iff.1 hgeti).1
    · cases h

theorem mem_endsFrom {layer id : Nat} {ps : List Pairing} {e : RelationshipEnd} (h : e ∈ endsFrom es layer id ps) :
    ∃ (k : Nat) (p : Pairing), ps[k]? = some p ∧ p.endAt es layer (id + k) = some e := by
  induction ps generalizing id with
  | nil => cases h
  | cons p ps ih =>
    rcases List.mem_append.1 h with hhere | hlater
    · exact ⟨0, p, rfl, by simpa using hhere⟩
    · obtain ⟨k, q, hq, he⟩ := ih hlater
      exact ⟨k + 1, q, by simpa using hq, by rw [← he]; congr 1; omega⟩

/-- Ids grow along the ends of a layer. -/
theorem sublist_ids_endsFrom (es : List EntityType) (layer id : Nat) (ps : List Pairing) :
    ((endsFrom es layer id ps).map (·.id)).Sublist (List.range' id ps.length) := by
  induction ps generalizing id with
  | nil => simp [endsFrom]
  | cons p ps ih =>
    rw [endsFrom, List.map_append, List.length_cons, List.range'_succ]
    cases he : p.endAt es layer id with
    | none => exact (ih (id + 1)).cons _
    | some e =>
      simp only [Option.toList_some, List.map_cons, List.map_nil, List.singleton_append, p.id_of_endAt he]
      exact (ih (id + 1)).cons_cons _

theorem filter_endsFrom (es : List EntityType) (layer id k : Nat) (ps : List Pairing) :
    (endsFrom es layer id ps).filter (·.id == id + k) =
      (ps[k]?.bind fun p => p.endAt es layer (id + k)).toList := by
  induction ps generalizing id k with
  | nil => rfl
  | cons p ps ih =>
    rw [endsFrom, List.filter_append]
    cases k with
    | zero =>
      -- all ends after the first pairing have larger ids
      have hlater : (endsFrom es layer (id + 1) ps).filter (·.id == id + 0) = [] := by
        rw [List.filter_eq_nil_iff]
        intro e he
        obtain ⟨k, q, -, hq⟩ := mem_endsFrom he
        simp only [Pairing.id_of_endAt hq, beq_iff_eq]
        omega
      rw [hlater, List.append_nil]
      cases he : p.endAt es layer id with
      | none => simp [he]
      | some e => simp [he, p.id_of_endAt he]
    | succ k =>
      have hhere : (p.endAt es layer id).toList.filter (·.id == id + (k + 1)) = [] := by
        cases he : p.endAt es layer id with
        | none => rfl
        | some e => simp [p.id_of_endAt he]
      have hid : id + (k + 1) = id + 1 + k := by omega
      rw [hhere, hid, List.nil_append, ih, List.getElem?_cons_succ]

/-! ## Attaching ends -/

namespace Attachment

variable {a : Attachment} {p : Pairing}

theorem join_of_unknown (h : number? p.origin es = none ∨ number? p.destination es = none) :
    a.join es p.type p.origin p.destination = a := by
  rcases h with h | h
  · rw [join, h]
  · rw [join, h]
    cases number? p.origin es <;> rfl

theorem ends_attach (a : Attachment) (layer n : Nat) (e : RelationshipEnd) :
    (a.attach layer e).ends[n]? = a.ends[n]?.map (· ++ if n = layer then [e] else []) := by
  rw [attach, List.getElem?_modify]
  by_cases h : layer = n
  · simp [h]
  · simp [h, Ne.symm h]

/-- What one pair of known types attaches. -/
theorem join_of_known (hi : number? p.origin es = some i) (hj : number? p.destination es = some j) :
    (a.join es p.type p.origin p.destination).next = a.next + 1 ∧
      ∀ n, (a.join es p.type p.origin p.destination).ends[n]? =
        a.ends[n]?.map (· ++ (p.endAt es n a.next).toList) := by
  simp only [join, hi, hj, true_and]
  intro n
  rw [p.endAt_of_numbers hi hj]
  by_cases hij : i = j
  · subst hij
    simp only [if_pos, ends_attach]
    by_cases hn : n = i <;> simp [hn]
  · simp only [hij, if_false, ends_attach, Option.map_map, Function.comp_def, List.append_assoc]
    by_cases hn : n = i
    · subst hn
      simp [hij]
    · by_cases hn' : n = j <;> simp [hn, hn', Ne.symm hij]

/-- What pairs of known types attach, one after the other. -/
theorem foldl_join {ps : List Pairing}
    (hps : ∀ p ∈ ps, (number? p.origin es).isSome ∧ (number? p.destination es).isSome) (a : Attachment) (n : Nat) :
    (ps.foldl (fun a p => a.join es p.type p.origin p.destination) a).ends[n]? =
      a.ends[n]?.map (· ++ endsFrom es n a.next ps) := by
  induction ps generalizing a with
  | nil => simp [endsFrom]
  | cons p ps ih =>
    obtain ⟨hp, hps⟩ := List.forall_mem_cons.1 hps
    obtain ⟨i, hi⟩ := Option.isSome_iff_exists.1 hp.1
    obtain ⟨j, hj⟩ := Option.isSome_iff_exists.1 hp.2
    obtain ⟨hnext, hends⟩ := join_of_known (a := a) hi hj
    rw [List.foldl_cons, ih hps, hnext, hends, Option.map_map, endsFrom]
    congr 1
    funext xs
    simp

/-- Pairs with an unknown type leave no trace. -/
theorem foldl_join_filter (es : List EntityType) (ps : List Pairing) (a : Attachment) :
    ps.foldl (fun a p => a.join es p.type p.origin p.destination) a =
      (ps.filter fun p => (number? p.origin es).isSome && (number? p.destination es).isSome).foldl
        (fun a p => a.join es p.type p.origin p.destination) a := by
  induction ps generalizing a with
  | nil => rfl
  | cons p ps ih =>
    rw [List.foldl_cons, ih]
    cases hi : number? p.origin es with
    | none => rw [List.filter_cons_of_neg (by simp [hi]), join_of_unknown (.inl hi)]
    | some i =>
      cases hj : number? p.destination es with
      | none => rw [List.filter_cons_of_neg (by simp [hj]), join_of_unknown (.inr hj)]
      | some j => rw [List.filter_cons_of_pos (by simp [hi, hj]), List.foldl_cons]

end Attachment

variable {m : DataModel} {n : Nat} {l : Layer}

theorem attached_eq_foldl (m : DataModel) :
    attached m = (pairings m).foldl (fun a p => a.join (ordered m) p.type p.origin p.destination)
      { ends := List.replicate (ordered m).length [] } := by
  simp only [attached, pairings, List.foldl_flatMap, List.foldl_map]

theorem joined_eq_filter (m : DataModel) :
    joined m = (pairings m).filter fun p =>
      (number? p.origin (ordered m)).isSome && (number? p.destination (ordered m)).isSome := by
  simp only [joined, ← number?_ordered_isSome_iff, Bool.decide_and, Bool.decide_eq_true]

/-- The ends attached to a layer are those of the joined pairings, numbered from zero. -/
theorem ends_attached (hn : n < (ordered m).length) :
    (attached m).ends[n]? = some (endsFrom (ordered m) n 0 (joined m)) := by
  have hjoined : ∀ p ∈ joined m,
      (number? p.origin (ordered m)).isSome ∧ (number? p.destination (ordered m)).isSome := by
    intro p hp
    rw [joined_eq_filter] at hp
    simpa using (List.mem_filter.1 hp).2
  rw [attached_eq_foldl, Attachment.foldl_join_filter, ← joined_eq_filter, Attachment.foldl_join hjoined]
  simp [hn]

theorem getElem?_all_ofModel :
    (ofModel m).all[n]? = (ordered m)[n]?.map fun e => layerOf (attached m).ends e n := by
  rw [all_ofModel, List.getElem?_map, List.getElem?_zipIdx, Option.map_map]
  simp [Function.comp_def]

theorem length_all_ofModel : (ofModel m).all.length = (ordered m).length := by
  rw [all_ofModel, List.length_map, List.length_zipIdx]

theorem relationships_of_getElem? (h : (ofModel m).all[n]? = some l) :
    l.id = n ∧ l.relationships = endsFrom (ordered m) n 0 (joined m) := by
  rw [getElem?_all_ofModel] at h
  obtain ⟨e, he, rfl⟩ := Option.map_eq_some_iff.1 h
  have hn := (List.getElem?_eq_some_iff.1 he).1
  exact ⟨rfl, by simp [layerOf, ends_attached hn]⟩

theorem isLast_of_number? (h : number? name (ordered m) = some i) : (ofModel m).IsLast name i := by
  obtain ⟨⟨e, he, hname⟩, hlast⟩ := number?_eq_some h
  constructor
  · exact ⟨layerOf (attached m).ends e i, by rw [getElem?_all_ofModel, he]; rfl, hname⟩
  · intro j l hj hl
    rw [getElem?_all_ofModel] at hl
    obtain ⟨e', he', rfl⟩ := Option.map_eq_some_iff.1 hl
    exact hlast j e' hj he'

theorem find?_eq_some_of_nodup {es : List RelationshipEnd} (h : (es.map (·.id)).Nodup) {e : RelationshipEnd}
    (he : e ∈ es) : es.find? (fun r => (r.id : Int) == e.id) = some e := by
  induction es with
  | nil => cases he
  | cons f es ih =>
    rw [List.map_cons, List.nodup_cons] at h
    rcases List.mem_cons.1 he with rfl | hmem
    · simp
    · have hne : f.id ≠ e.id := fun heq => h.1 (heq ▸ List.mem_map_of_mem hmem)
      rw [List.find?_cons_of_neg (by simpa using fun heq => hne (Int.ofNat.inj heq))]
      exact ih h.2 hmem

/-- The joined pairing of number `k` has the id `k`: the last layer with the name of its origin has one end of it,
the last layer with the name of its destination has the other, unless it is the same one, and no layer has more. So
the layer that an end leads to exists, and no layer has two ends with one id. -/
theorem relationships_ofModel (m : DataModel) :
    let s := ofModel m
    (∀ (n : Nat) (l : Layer), s.all[n]? = some l → l.id = n) ∧
    (∀ (k : Nat) (p : Pairing), (joined m)[k]? = some p → ∃ i j, s.IsLast p.origin i ∧ s.IsLast p.destination j ∧
      ∀ (n : Nat) (l : Layer), s.all[n]? = some l → l.relationships.filter (·.id == k) =
        if n = i then [⟨k, p.type.name, j, .origin, p.type.cardinality⟩]
        else if n = j then [⟨k, p.type.name, i, .destination, p.type.cardinality⟩]
        else []) ∧
    ∀ l ∈ s.all, (l.relationships.map (·.id)).Nodup ∧ ∀ e ∈ l.relationships,
      e.id < (joined m).length ∧ l.relationship? e.id = some e ∧
        ∃ related, s.all[e.related]? = some related ∧ related.id = e.related := by
  refine ⟨fun n l h => (relationships_of_getElem? h).1, ?_, ?_⟩
  · intro k p hp
    have hmem := List.mem_of_getElem? hp
    rw [joined_eq_filter, List.mem_filter, Bool.and_eq_true] at hmem
    obtain ⟨i, hi⟩ := Option.isSome_iff_exists.1 hmem.2.1
    obtain ⟨j, hj⟩ := Option.isSome_iff_exists.1 hmem.2.2
    refine ⟨i, j, isLast_of_number? hi, isLast_of_number? hj, fun n l hl => ?_⟩
    have hfilter := filter_endsFrom (ordered m) n 0 k (joined m)
    rw [Nat.zero_add, hp, Option.bind_some, p.endAt_of_numbers hi hj] at hfilter
    rw [(relationships_of_getElem? hl).2, hfilter]
    split
    · rfl
    · split <;> rfl
  · intro l hl
    obtain ⟨n, hn⟩ := List.mem_iff_getElem?.1 hl
    obtain ⟨-, hends⟩ := relationships_of_getElem? hn
    have hnodup : (l.relationships.map (·.id)).Nodup := by
      rw [hends]
      exact (sublist_ids_endsFrom (ordered m) n 0 (joined m)).nodup List.nodup_range'
    refine ⟨hnodup, fun e he => ⟨?_, find?_eq_some_of_nodup hnodup he, ?_⟩⟩
    · rw [hends] at he
      obtain ⟨k, p, hp, hend⟩ := mem_endsFrom he
      rw [p.id_of_endAt hend, Nat.zero_add]
      exact (List.getElem?_eq_some_iff.1 hp).1
    · rw [hends] at he
      obtain ⟨k, p, -, hend⟩ := mem_endsFrom he
      have hlt : e.related < (ofModel m).all.length := length_all_ofModel ▸ p.related_of_endAt hend
      have hget := List.getElem?_eq_getElem hlt
      exact ⟨_, hget, (relationships_of_getElem? hget).1⟩

/-- Of two types with one name the last is joined, to itself once; an unknown name takes no id. -/
example : (ofModel
      { entityTypes := [{ name := "A" }, { name := "B" }, { name := "A" }]
        relationshipTypes := [{ name := "R", origins := ["A", "C"], destinations := ["A", "C", "B"] }] }).all.map
      (fun l => l.relationships.map fun e => (e.id, e.related, e.role)) =
    [[], [(1, 2, .destination)], [(0, 2, .origin), (1, 1, .origin)]] := by decide +kernel

end FeatureGraph.Schema
