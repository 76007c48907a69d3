import FeatureGraph.Cypher.Query
import FeatureGraph.Proofs.Schema.Numbering

/-! # The direction of relationships

Whichever of its ends a relationship is followed from, the query asks for one edge that the data model declares, from
an origin type to a destination type. The two ends of a relationship give one edge, drawn from either side. -/
namespace FeatureGraph

/-- An edge of a graph, by its label and the labels of the entities that it runs from and to. -/
structure Edge where
  tail : String
  label : String
  head : String

namespace Edge

def IsDeclared (m : DataModel) (e : Edge) : Prop :=
  ∃ r ∈ m.relationshipTypes, r.name = e.label ∧ e.tail ∈ r.origins ∧ e.head ∈ r.destinations

/-- The pattern with the entity `n` at one end of the edge. The arrow points to the head. -/
def pattern (e : Edge) : Role → String
  | .origin => s!"(n:{e.tail})-[r:{e.label}]->(m:{e.head})"
  | .destination => s!"(n:{e.head})<-[r:{e.label}]-(m:{e.tail})"

end Edge

namespace Schema

variable {m : DataModel} {n i : Nat} {name : String} {l : Layer} {d : RelationshipEnd}

def Pairing.edge (p : Pairing) : Edge := ⟨p.origin, p.type.name, p.destination⟩

def Pairing.nameAt (p : Pairing) : Role → String
  | .origin => p.origin
  | .destination => p.destination

theorem mem_pairings {p : Pairing} :
    p ∈ pairings m ↔ p.type ∈ m.relationshipTypes ∧ p.origin ∈ p.type.origins ∧ p.destination ∈ p.type.destinations := by
  simp only [pairings, List.mem_flatMap, List.mem_map]
  constructor
  · rintro ⟨r, hr, o, ho, d, hd, rfl⟩
    exact ⟨hr, ho, hd⟩
  · rintro ⟨hr, ho, hd⟩
    exact ⟨p.type, hr, p.origin, ho, p.destination, hd, rfl⟩

theorem isDeclared_edge {p : Pairing} (h : p ∈ joined m) : p.edge.IsDeclared m := by
  obtain ⟨hr, ho, hd⟩ := mem_pairings.1 (List.mem_of_mem_filter h)
  exact ⟨p.type, hr, rfl, ho, hd⟩

theorem exists_layer_of_number? (h : number? name (ordered m) = some i) :
    ∃ l, (ofModel m).all[i]? = some l ∧ l.name = name :=
  (isLast_of_number? h).1

theorem name_of_number? (h : number? name (ordered m) = some n) (hl : (ofModel m).all[n]? = some l) : l.name = name := by
  obtain ⟨l', hl', hname⟩ := exists_layer_of_number? h
  obtain rfl := Option.some.inj (hl'.symm.trans hl)
  exact hname

/-- An end comes from the joined pairing with its id: its layer has the name at its side, and the related layer the
name at the other. -/
theorem exists_pairing (hl : (ofModel m).all[n]? = some l) (hd : d ∈ l.relationships) :
    ∃ p : Pairing, (joined m)[d.id]? = some p ∧ number? (p.nameAt d.role) (ordered m) = some n ∧
      ∃ related, (ofModel m).all[d.related]? = some related ∧
        Cypher.relationshipPattern l.name related.name d.name d.role = p.edge.pattern d.role := by
  rw [(relationships_of_getElem? hl).2] at hd
  obtain ⟨k, p, hp, hend⟩ := mem_endsFrom hd
  have hid : d.id = k := by rw [p.id_of_endAt hend, Nat.zero_add]
  obtain ⟨i, hi, hend⟩ := Option.bind_eq_some_iff.1 hend
  obtain ⟨j, hj, hend⟩ := Option.bind_eq_some_iff.1 hend
  refine ⟨p, hid ▸ hp, ?_⟩
  split at hend
  · next horigin =>
    cases hend
    obtain ⟨related, hrelated, hname⟩ := exists_layer_of_number? hj
    subst horigin
    refine ⟨hi, related, hrelated, ?_⟩
    rw [name_of_number? hi hl, hname]
    rfl
  · split at hend
    · next hdestination =>
      cases hend
      obtain ⟨related, hrelated, hname⟩ := exists_layer_of_number? hi
      subst hdestination
      refine ⟨hj, related, hrelated, ?_⟩
      rw [name_of_number? hj hl, hname]
      rfl
    · cases hend

end Schema

namespace Cypher

/-- The query of a layer for an end asks for an edge: the related layer is there, and the query is the pattern of the
edge from the side of the layer with some filters, an ending and a number of rows, or fails as one of these does. -/
def AsksFor (s : Schema) (l : Layer) (d : RelationshipEnd) (edge : Edge) : Prop :=
  ∃ related, s.layer (.int d.related) = .ok related ∧ ∀ policy field q platform, ∃ ending,
    relationshipQuery policy l.name related.name d.name d.role field q platform = (do
      let filters ← filters policy field q platform
      let limit ← (limitClause q).mapError .defect
      return s!"match {edge.pattern d.role} " ++ filters ++ ending ++ limit)

theorem relationshipQuery_eq (policy : SpatialPolicy) (entity related name : String) (role : Role)
    (field : Option String) (q : FeatureQuery) (platform : Platform) :
    ∃ ending, relationshipQuery policy entity related name role field q platform = (do
      let filters ← filters policy field q platform
      let limit ← (limitClause q).mapError .defect
      return s!"match {relationshipPattern entity related name role} " ++ filters ++ ending ++ limit) := by
  refine ⟨returnClause q ["n", "m"] "m" ++ (if q.countOnly then "" else s!" order by n.{objectIdProperty}"), ?_⟩
  unfold relationshipQuery
  simp only [String.append_assoc]

theorem exists_pairing_asksFor {m : DataModel} {n : Nat} {l : Layer} {d : RelationshipEnd}
    (hl : (Schema.ofModel m).all[n]? = some l) (hd : d ∈ l.relationships) :
    ∃ p, (Schema.joined m)[d.id]? = some p ∧ Schema.number? (p.nameAt d.role) (Schema.ordered m) = some n ∧
      AsksFor (Schema.ofModel m) l d p.edge := by
  obtain ⟨p, hp, hplace, related, hrelated, hpattern⟩ := Schema.exists_pairing hl hd
  refine ⟨p, hp, hplace, related, Schema.layer_of_number rfl hrelated, fun policy field q platform => ?_⟩
  rw [← hpattern]
  exact relationshipQuery_eq policy l.name related.name d.name d.role field q platform

/-- The query for an end asks for an edge that the data model declares. The other end of the same relationship, at
another layer, has the other role, and its query asks for the same edge. -/
theorem relationshipQuery_follows_declaration (m : DataModel) :
    let s := Schema.ofModel m
    ∀ l ∈ s.all, ∀ d ∈ l.relationships, ∃ edge : Edge, edge.IsDeclared m ∧ AsksFor s l d edge ∧
      ∀ l' ∈ s.all, l' ≠ l → ∀ d' ∈ l'.relationships, d'.id = d.id → d'.role ≠ d.role ∧ AsksFor s l' d' edge := by
  intro s l hl d hd
  obtain ⟨n, hn⟩ := List.mem_iff_getElem?.1 hl
  obtain ⟨p, hp, hplace, hasks⟩ := exists_pairing_asksFor hn hd
  refine ⟨p.edge, Schema.isDeclared_edge (List.mem_of_getElem? hp), hasks, fun l' hl' hne d' hd' hid => ?_⟩
  obtain ⟨n', hn'⟩ := List.mem_iff_getElem?.1 hl'
  obtain ⟨p', hp', hplace', hasks'⟩ := exists_pairing_asksFor hn' hd'
  -- one id, one pairing
  rw [hid, hp] at hp'
  cases hp'
  refine ⟨fun hrole => ?_, hasks'⟩
  rw [hrole, hplace] at hplace'
  cases hplace'
  exact hne (Option.some.inj (hn'.symm.trans hn))

theorem relationshipQuery_follows_declaration_mirrored :
    let m : DataModel :=
      { entityTypes := [{ name := "Well" }, { name := "Owner" }]
        relationshipTypes := [{ name := "OwnedBy", origins := ["Well"], destinations := ["Owner"] }] }
    let s := Schema.ofModel m
    let owned : RelationshipEnd := ⟨0, "OwnedBy", 1, .origin, "esriRelCardinalityOneToMany"⟩
    let owning : RelationshipEnd := ⟨0, "OwnedBy", 0, .destination, "esriRelCardinalityOneToMany"⟩
    let well : Layer := { id := 0, entity := { name := "Well" }, relationships := [owned] }
    let owner : Layer := { id := 1, entity := { name := "Owner" }, relationships := [owning] }
    s.all = [well, owner] ∧ ∃ edge : Edge, edge.IsDeclared m ∧ AsksFor s well owned edge ∧ AsksFor s owner owning edge := by
  intro m s owned owning well owner
  have hall : s.all = [well, owner] := by decide +kernel
  obtain ⟨edge, hdeclared, hasks, hmirror⟩ := relationshipQuery_follows_declaration m well
    (by rw [hall]; exact List.mem_cons_self) owned List.mem_cons_self
  have howner : owner ∈ s.all := by
    rw [hall]
    exact List.mem_cons_of_mem _ List.mem_cons_self
  exact ⟨hall, edge, hdeclared, hasks, (hmirror owner howner (by decide) owning List.mem_cons_self rfl).2⟩

end Cypher
end FeatureGraph
