import FeatureGraph.Proofs.Assoc
import FeatureGraph.Proofs.Feature.Assembly

/-! # Which features have a form in JSON

Bytes and geometries are left out of the properties of a feature, but only where they are properties themselves.
A feature has a form in JSON if nothing that it shows holds bytes, a geometry or a record at any depth. -/
namespace FeatureGraph

/-! ## Values -/

namespace Value

/-- Values that JSON has a form for, whatever their numbers are. -/
inductive IsJson : Value → Prop where
  | null : IsJson null
  | bool (b : Bool) : IsJson (bool b)
  | int (n : Int) : IsJson (int n)
  | float (x : Float) : IsJson (float x)
  | text (s : String) : IsJson (text s)
  | list {items : List Value} (hitems : ∀ v ∈ items, IsJson v) : IsJson (list items)
  | object {members : List (String × Value)} (hmembers : ∀ m ∈ members, IsJson m.2) : IsJson (object members)

theorem toJsonAll_eq_mapM (vs : List Value) : toJsonAll vs = vs.mapM toJson := by
  induction vs with
  | nil => rfl
  | cons v vs ih => rw [List.mapM_cons, ← ih, toJsonAll]

theorem toJsonMembers_eq_mapM (ms : List (String × Value)) :
    toJsonMembers ms = ms.mapM fun m => return (m.1, ← toJson m.2) := by
  induction ms with
  | nil => rfl
  | cons m ms ih =>
    rw [List.mapM_cons, ← ih, toJsonMembers]
    cases toJson m.2 <;> rfl

/-- JSON has a form for such values, but for a NaN or an infinity. -/
theorem IsJson.toJson_failsWith {v : Value} (hv : v.IsJson) : FailsWith (· = Defect.notFiniteInJson) v.toJson := by
  induction hv with
  | null => exact .ok _
  | bool b => exact .ok _
  | int n => exact .ok _
  | float x =>
    rw [toJson]
    split
    · exact .error rfl
    · exact .ok _
  | text s => exact .ok _
  | list _ ih =>
    rw [toJson, toJsonAll_eq_mapM]
    exact (FailsWith.mapM ih).map
  | object _ ih =>
    rw [toJson, toJsonMembers_eq_mapM]
    exact (FailsWith.mapM fun m hm => (ih m hm).bind fun j _ => .ok (m.1, j)).map

mutual

theorem isJson_of_toJson : ∀ {v : Value} {j : Json}, v.toJson = .ok j → v.IsJson
  | null, _, _ => .null
  | bool b, _, _ => .bool b
  | int n, _, _ => .int n
  | float x, _, _ => .float x
  | text s, _, _ => .text s
  | list _, _, h => by
    obtain ⟨js, hjs, -⟩ := exists_of_map_eq_ok h
    exact .list (isJson_of_toJsonAll hjs)
  | object _, _, h => by
    obtain ⟨js, hjs, -⟩ := exists_of_map_eq_ok h
    exact .object (isJson_of_toJsonMembers hjs)
  | bytes _, _, h | geometry _, _, h | entity .., _, h | relationship .., _, h | path .., _, h => by cases h

theorem isJson_of_toJsonAll : ∀ {vs : List Value} {js : List Json}, toJsonAll vs = .ok js → ∀ v ∈ vs, v.IsJson
  | [], _, _ => nofun
  | _ :: _, _, h => by
    obtain ⟨j, hj, hrest⟩ := exists_of_bind_eq_ok h
    obtain ⟨js, hjs, -⟩ := exists_of_bind_eq_ok hrest
    exact List.forall_mem_cons.2 ⟨isJson_of_toJson hj, isJson_of_toJsonAll hjs⟩

theorem isJson_of_toJsonMembers : ∀ {ms : List (String × Value)} {js : List (String × Json)},
    toJsonMembers ms = .ok js → ∀ m ∈ ms, m.2.IsJson
  | [], _, _ => nofun
  | _ :: _, _, h => by
    obtain ⟨j, hj, hrest⟩ := exists_of_bind_eq_ok h
    obtain ⟨js, hjs, -⟩ := exists_of_bind_eq_ok hrest
    exact List.forall_mem_cons.2 ⟨isJson_of_toJson hj, isJson_of_toJsonMembers hjs⟩

end

end Value

/-! ## Features -/

namespace FeatureGeometry

theorem isJson_position (p : Float × Float) : (position p).IsJson := by
  refine .list fun v hv => ?_
  rcases List.mem_pair.1 hv with rfl | rfl
  · exact .float p.1
  · exact .float p.2

theorem isJson_positions (ps : List (Float × Float)) : (positions ps).IsJson := by
  refine .list fun v hv => ?_
  obtain ⟨p, -, rfl⟩ := List.mem_map.1 hv
  exact isJson_position p

theorem isJson_value (g : FeatureGeometry Float) : g.value.IsJson := by
  have hnamed {name : String} {coordinates : Value} (h : coordinates.IsJson) :
      (Value.object [("type", .text name), ("coordinates", coordinates)]).IsJson := by
    refine .object fun m hm => ?_
    rcases List.mem_pair.1 hm with rfl | rfl
    · exact .text name
    · exact h
  have hlists (lists : List (List (Float × Float))) : (Value.list (lists.map positions)).IsJson := by
    refine .list fun v hv => ?_
    obtain ⟨ps, -, rfl⟩ := List.mem_map.1 hv
    exact isJson_positions ps
  cases g with
  | point p => exact hnamed (isJson_position p)
  | multiPoint ps => exact hnamed (isJson_positions ps)
  | line ps => exact hnamed (isJson_positions ps)
  | multiLine lines => exact hnamed (hlists lines)
  | polygon rings => exact hnamed (hlists rings)

end FeatureGeometry

namespace Feature

variable {field : Option String} {q : Option (Quantization Float)}

/-- A property of an entity that its feature shows, unless a later one has its public name. -/
def Shows (field : Option String) (p : String × Value) : Prop := some p.1 ≠ field ∧ p.2.isShown

theorem mem_publicProperties_iff {properties : List (String × Value)} {m : String × Value} :
    m ∈ publicProperties field properties ↔
      ∃ before p after, properties = before ++ p :: after ∧ Shows field p ∧
        (∀ p' ∈ after, Shows field p' → publicName p'.1 ≠ publicName p.1) ∧ m = (publicName p.1, p.2) := by
  unfold publicProperties
  dsimp only
  rw [Assoc.mem_putAll_iff (by exact List.nodup_nil)]
  simp only [List.not_mem_nil, false_and, false_or]
  constructor
  · rintro ⟨before, after, hsplit, hafter⟩
    obtain ⟨done, todo, hshown, -, htodo⟩ := List.map_eq_append_iff.1 hsplit
    obtain ⟨p, rest, rfl, rfl, rfl⟩ := List.map_eq_cons_iff.1 htodo
    obtain ⟨done', todo', rfl, -, hfilter⟩ := List.filter_eq_append_iff.1 hshown
    obtain ⟨hidden, more, rfl, -, hp, rfl⟩ := List.filter_eq_cons_iff.1 hfilter
    have hshows : Shows field p := by simpa [Shows] using hp
    refine ⟨done' ++ hidden, p, more, (List.append_assoc ..).symm, hshows, fun p' hp' hshows' heq => ?_, rfl⟩
    refine hafter (List.mem_map.2 ⟨(publicName p'.1, p'.2), List.mem_map.2 ⟨p', ?_, rfl⟩, heq⟩)
    exact List.mem_filter.2 ⟨hp', by simpa [Shows] using hshows'⟩
  · rintro ⟨before, p, after, rfl, hp, hlast, rfl⟩
    have hshown : decide (some p.1 ≠ field ∧ p.2.isShown = true) = true := decide_eq_true hp
    rw [List.filter_append, List.filter_cons_of_pos (by exact hshown), List.map_append, List.map_cons]
    refine ⟨_, _, rfl, fun hmem => ?_⟩
    obtain ⟨m', hm', heq⟩ := List.mem_map.1 hmem
    obtain ⟨p', hp', rfl⟩ := List.mem_map.1 hm'
    obtain ⟨hafter, hshows⟩ := List.mem_filter.1 hp'
    exact hlast p' hafter (by simpa [Shows] using hshows) heq

/-- JSON has a form for a feature when it has one for the properties. -/
theorem isJson_value_iff {f : Feature} : f.value.IsJson ↔ (Value.object f.properties).IsJson := by
  constructor
  · rintro (_ | _ | _ | _ | _ | _ | hmembers)
    exact hmembers ("properties", _) (by simp)
  · intro hproperties
    refine .object fun m hm => ?_
    simp only [List.mem_cons, List.not_mem_nil, or_false] at hm
    rcases hm with rfl | rfl | rfl
    · exact .text _
    · exact hproperties
    · cases f.geometry with
      | none => exact .null
      | some g => exact g.isJson_value

end Feature

/-- JSON has a form for what the feature of a value shows of it. -/
def Value.ShowsJson (field : Option String) : Value → Prop
  | entity _ properties _ => ∀ before p after, properties = before ++ p :: after → Feature.Shows field p →
      (∀ p' ∈ after, Feature.Shows field p' → publicName p'.1 ≠ publicName p.1) → p.2.IsJson
  | v => v.IsJson

namespace Feature

variable {field : Option String} {q : Option (Quantization Float)}

theorem isJson_properties_iff {v : Value} {f : Feature} (h : ofValue field q v = .ok f) :
    (Value.object f.properties).IsJson ↔ v.ShowsJson field := by
  have hid {v : Value} : (Value.object [(objectIdField, v)]).IsJson ↔ v.IsJson := by
    constructor
    · rintro (_ | _ | _ | _ | _ | _ | hmembers)
      exact hmembers _ (List.mem_singleton_self _)
    · intro hv
      exact .object fun m hm => List.mem_singleton.1 hm ▸ hv
  cases v with
  | entity typeName properties id =>
    obtain ⟨g, -, hf⟩ := exists_of_bind_eq_ok h
    cases hf
    constructor
    · rintro (_ | _ | _ | _ | _ | _ | hmembers) before p after hsplit hp hlast
      exact hmembers (publicName p.1, p.2) (mem_publicProperties_iff.2 ⟨before, p, after, hsplit, hp, hlast, rfl⟩)
    · intro hshown
      refine .object fun m hm => ?_
      obtain ⟨before, p, after, hsplit, hp, hlast, rfl⟩ := mem_publicProperties_iff.1 hm
      exact hshown before p after hsplit hp hlast
  | _ =>
    cases h
    exact hid

/-- Every value of a decoded response is shown as a feature, if the transform has scales. The feature has a form in
JSON, but for a NaN or an infinity, if at every depth what it shows is plain, and else it has none. -/
theorem isJson_iff_showsJson {buffer : List UInt8} {r : QueryResponse} {row : List Value} {v : Value}
    (hr : QueryResponse.decode buffer = .ok r) (hrow : row ∈ r.rows) (hv : v ∈ row)
    (hq : ∀ q' ∈ q, ¬q'.IsDegenerate) (field : Option String) :
    ∃ f, ofValue field q v = .ok f ∧ ((Value.object f.properties).IsJson ↔ v.ShowsJson field) ∧
      (v.ShowsJson field → FailsWith (· = Defect.notFiniteInJson) f.value.toJson) ∧
      (¬v.ShowsJson field → ∃ d, f.value.toJson = .error d) := by
  have hgrid := QueryResponse.rowsOnGrid_of_decode hr row hrow v hv
  cases hf : ofValue field q v with
  | error d =>
    obtain ⟨-, ⟨q', hq', hdegenerate⟩, -⟩ := ((ofValue_faultsWhen hgrid).eq_error_iff d).1 hf
    exact absurd hdegenerate (hq q' hq')
  | ok f =>
    have hproperties := isJson_properties_iff hf
    refine ⟨f, rfl, hproperties, fun hjson => ?_, fun hjson => ?_⟩
    · exact (isJson_value_iff.2 (hproperties.2 hjson)).toJson_failsWith
    · cases hvalue : f.value.toJson with
      | error d => exact ⟨d, rfl⟩
      | ok j => exact absurd (hproperties.1 (isJson_value_iff.1 (Value.isJson_of_toJson hvalue))) hjson

open Wire in
/-- Bytes in a list are shown, although they would be left out as a property. -/
theorem not_isJson_bytes_in_list : ∃ f,
    ofValue none none (.entity "Well" [("scan", .bytes [0]), ("scans", .list [.bytes [0]])] .null) = .ok f ∧
      ¬(Value.object f.properties).IsJson ∧ ∃ d, f.value.toJson = .error d := by
  let frames : List (List (List Any)) :=
    [[[.entity "Well" [("scan", .primitive (.blob [0])), ("scans", .array [.primitive (.blob [0])])] none]]]
  have hvalues : ∀ rows ∈ frames, ∀ row ∈ rows, ∀ v ∈ row, v.WellFormed QueryResponse.Storable := by
    have hblob : (Any.primitive (.blob [0])).WellFormed QueryResponse.Storable := .primitive ⟨trivial, trivial⟩
    simp only [frames, List.mem_singleton, forall_eq]
    exact .entity (by decide) (by simpa using ⟨hblob, .array (by simpa using hblob)⟩) nofun
  have hlength : ∀ m ∈ QueryResponse.messages frames none [] none, Framable m := by
    decide +kernel
  have hdecode := QueryResponse.decode_messages hvalues (by decide) hlength rfl
  rw [if_pos (by decide +kernel)] at hdecode
  obtain ⟨f, hf, hjson, -, herror⟩ :=
    isJson_iff_showsJson (q := none) hdecode (List.mem_singleton_self _) (List.mem_singleton_self _) nofun none
  have hhidden : ¬Value.ShowsJson none
      (.entity "Well" [("scan", .bytes [0]), ("scans", .list [.bytes [0]])] .null) := by
    intro hshows
    rcases hshows [("scan", .bytes [0])] _ [] rfl ⟨nofun, rfl⟩ nofun with _ | _ | _ | _ | _ | hitems | _
    cases hitems _ (List.mem_singleton_self _)
  exact ⟨f, hf, hjson.not.2 hhidden, herror hhidden⟩

end Feature

end FeatureGraph
