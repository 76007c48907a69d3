import FeatureGraph.Proofs.Assoc
import FeatureGraph.Proofs.Result
import FeatureGraph.Proofs.Wire.Primitive

/-! # Written values read back

A value that a message can hold is read back from what is written for it, unless its messages are nested
deeper than the reader goes. -/
namespace FeatureGraph

namespace Wire.Any

/-- Values whose primitives satisfy a condition and whose maps have each name once. -/
inductive WellFormed (P : Primitive → Prop) : Any → Prop where
  | unset : WellFormed P unset
  | primitive {p : Primitive} (hp : P p) : WellFormed P (primitive p)
  | entity {typeName : String} {properties : List (String × Any)} {id : Option Any}
      (hnames : (properties.map Prod.fst).Nodup) (hproperties : ∀ m ∈ properties, WellFormed P m.2)
      (hid : ∀ v ∈ id, WellFormed P v) : WellFormed P (entity typeName properties id)
  | relationship {typeName : String} {properties : List (String × Any)} {id origin destination : Option Any}
      (hnames : (properties.map Prod.fst).Nodup) (hproperties : ∀ m ∈ properties, WellFormed P m.2)
      (hid : ∀ v ∈ id, WellFormed P v) (horigin : ∀ v ∈ origin, WellFormed P v)
      (hdestination : ∀ v ∈ destination, WellFormed P v) :
      WellFormed P (relationship typeName properties id origin destination)
  | path {entities relationships : List Any} (hentities : ∀ v ∈ entities, WellFormed P v)
      (hrelationships : ∀ v ∈ relationships, WellFormed P v) : WellFormed P (path entities relationships)
  | array {values : List Any} (hvalues : ∀ v ∈ values, WellFormed P v) : WellFormed P (array values)
  | object {members : List (String × Any)} (hnames : (members.map Prod.fst).Nodup)
      (hmembers : ∀ m ∈ members, WellFormed P m.2) : WellFormed P (object members)

theorem WellFormed.mono {P Q : Primitive → Prop} {v : Any} (hPQ : ∀ p, P p → Q p) (hv : v.WellFormed P) :
    v.WellFormed Q := by
  induction hv with
  | unset => exact .unset
  | primitive hp => exact .primitive (hPQ _ hp)
  | entity hnames _ _ ihproperties ihid => exact .entity hnames ihproperties ihid
  | relationship hnames _ _ _ _ ihproperties ihid ihorigin ihdestination =>
    exact .relationship hnames ihproperties ihid ihorigin ihdestination
  | path _ _ ihentities ihrelationships => exact .path ihentities ihrelationships
  | array _ ihvalues => exact .array ihvalues
  | object hnames _ ihmembers => exact .object hnames ihmembers

/-! ## Nesting -/

mutual

/-- How many messages are nested in the message of a value, its own included. -/
def height : Any → Nat
  | unset => 1
  | primitive p => p.height + 1
  | entity _ properties id => max (heightMembers properties) (heightOption id) + 2
  | relationship _ properties id origin destination =>
    max (max (heightMembers properties) (heightOption id)) (max (heightOption origin) (heightOption destination)) + 2
  | path entities relationships => max (heightAll entities) (heightAll relationships) + 2
  | array values => heightAll values + 2
  | object members => heightMembers members + 2

/-- The entry of a member is a message around the value. -/
def heightMembers : List (String × Any) → Nat
  | [] => 0
  | (_, v) :: r => max (v.height + 1) (heightMembers r)

def heightAll : List Any → Nat
  | [] => 0
  | v :: r => max v.height (heightAll r)

def heightOption : Option Any → Nat
  | none => 0
  | some v => v.height

end

theorem heightMembers_le {ms : List (String × Any)} {n : Nat} :
    heightMembers ms ≤ n ↔ ∀ m ∈ ms, m.2.height + 1 ≤ n := by
  induction ms with
  | nil => simp [heightMembers]
  | cons m ms ih => simp [heightMembers, ih]

theorem heightAll_le {vs : List Any} {n : Nat} : heightAll vs ≤ n ↔ ∀ v ∈ vs, v.height ≤ n := by
  induction vs with
  | nil => simp [heightAll]
  | cons v vs ih => simp [heightAll, ih]

/-! ## What is written -/

def encodeEntry (m : String × Any) : List UInt8 := bytesField 1 (Text.Utf8.encode m.1) ++ bytesField 2 m.2.encode

theorem encodeEntries_eq (number : Nat) (ms : List (String × Any)) :
    encodeEntries number ms = ms.flatMap fun m => bytesField number (encodeEntry m) := by
  induction ms with
  | nil => rfl
  | cons m ms ih => simp only [encodeEntries, ih, List.flatMap_cons, encodeEntry]

theorem encodeAll_eq (number : Nat) (vs : List Any) :
    encodeAll number vs = vs.flatMap fun v => bytesField number v.encode := by
  induction vs with
  | nil => rfl
  | cons v vs ih => simp only [encodeAll, ih, List.flatMap_cons]

/-! ## Parts of a value -/

/-- A value can be read from what is written for it by a reader with enough levels, and by no other. -/
def ReadsBack (v : Any) : Prop :=
  v.encode.length < 0x10000000000000000 →
    ∀ levels, merge levels .unset v.encode = if v.height ≤ levels then some v else none

section
variable {α : Type} {levels number : Nat} {step : α → Field → Option α} {a b : α}

theorem reads_value {v : Any} (put : Any → α) (hv : v.ReadsBack)
    (hl : (bytesField number v.encode).length < 0x10000000000000000)
    (hstep : ∀ bs, step a ⟨number, .bytes bs⟩ = (merge levels .unset bs).map put)
    (hn : IsNumber number := by decide) :
    Reads levels step (v.height ≤ levels) a (bytesField number v.encode) (put v) := by
  have hlen := Nat.lt_of_le_of_lt (length_le_bytesField number v.encode) hl
  refine .message hlen ?_ hn
  rw [hstep, hv hlen]
  split <;> rfl

theorem reads_option {o : Option Any} (put : Any → α) (ho : ∀ v ∈ o, v.ReadsBack)
    (hl : (encodeOption number o).length < 0x10000000000000000)
    (hstep : ∀ bs, step a ⟨number, .bytes bs⟩ = (merge levels .unset bs).map put) (hb : o.elim a put = b)
    (hn : IsNumber number := by decide) :
    Reads levels step (heightOption o ≤ levels) a (encodeOption number o) b := by
  subst hb
  cases o with
  | none => exact Reads.nil.congr (by simp [heightOption])
  | some v => exact reads_value put (ho v rfl) hl hstep hn

theorem reads_all {vs : List Any} (acc : List Any → α) (hvs : ∀ v ∈ vs, v.ReadsBack)
    (hl : (encodeAll number vs).length < 0x10000000000000000)
    (hstep : ∀ done bs, step (acc done) ⟨number, .bytes bs⟩ =
      (merge levels .unset bs).map fun v => acc (done ++ [v])) (hn : IsNumber number := by decide) :
    Reads levels step (heightAll vs ≤ levels) (acc []) (encodeAll number vs) (acc vs) := by
  rw [encodeAll_eq] at hl ⊢
  refine (Reads.all acc fun done v todo hsplit => ?_).congr heightAll_le.symm
  have hv : v ∈ vs := by simp [hsplit]
  have hfield := Nat.lt_of_le_of_lt (length_le_flatMap (f := fun v => bytesField number v.encode) hv) hl
  exact reads_value (fun v => acc (done ++ [v])) (hvs v hv) hfield (hstep done) hn

end

/-- An entry is a message of its own. -/
theorem mergeEntry_encode {m : String × Any} (hm : m.2.ReadsBack)
    (hl : (encodeEntry m).length < 0x10000000000000000) (levels : Nat) :
    mergeEntry levels ("", .unset) (encodeEntry m) = if m.2.height + 1 ≤ levels then some (some m) else none := by
  cases levels with
  | zero => rfl
  | succ levels =>
    rw [encodeEntry, List.length_append] at hl
    have hnameLength := length_le_bytesField 1 (Text.Utf8.encode m.1)
    have hvalueLength := length_le_bytesField 2 m.2.encode
    have hname : Reads levels (entryStep (merge levels)) True ("", .unset) (bytesField 1 (Text.Utf8.encode m.1))
        (m.1, .unset) := by
      refine .bytes (by omega) ?_
      simp only [entryStep, text?_encode, Option.map_some]
    have hvalue : Reads levels (entryStep (merge levels)) (m.2.height ≤ levels) (m.1, .unset)
        (bytesField 2 m.2.encode) m :=
      reads_value (fun v => (m.1, v)) hm (by omega) fun bs => rfl
    have hread := ((hname.trans hvalue).congr (Q := m.2.height + 1 ≤ levels + 1) (by simp)).fold_eq
    rw [mergeEntry, encodeEntry, foldEntry_bytesFields (by omega) (by omega), hread]
    split <;> rfl

theorem reads_entries {α : Type} {levels number : Nat} {step : α → Field → Option α} {ms : List (String × Any)}
    (acc : List (String × Any) → α) (hnames : (ms.map Prod.fst).Nodup)
    (hms : ∀ m ∈ ms, m.2.ReadsBack) (hl : (encodeEntries number ms).length < 0x10000000000000000)
    (hstep : ∀ done bs, step (acc done) ⟨number, .bytes bs⟩ =
      (mergeEntry levels ("", .unset) bs).map fun e => acc (Assoc.putAll done e.toList))
    (hn : IsNumber number := by decide) :
    Reads levels step (heightMembers ms ≤ levels) (acc []) (encodeEntries number ms) (acc ms) := by
  rw [encodeEntries_eq] at hl ⊢
  refine (Reads.all acc fun done m todo hsplit => ?_).congr heightMembers_le.symm
  have hm : m ∈ ms := by simp [hsplit]
  -- an entry would replace one of the same name, but there is none
  have hfresh : m.1 ∉ done.map Prod.fst := by
    rw [hsplit, List.map_append, List.map_cons] at hnames
    intro hmem
    exact (List.nodup_append.1 hnames).2.2 _ hmem _ (by simp) rfl
  have hfield := Nat.lt_of_le_of_lt (length_le_flatMap (f := fun m => bytesField number (encodeEntry m)) hm) hl
  have hlen := Nat.lt_of_le_of_lt (length_le_bytesField number (encodeEntry m)) hfield
  refine .message hlen ?_ hn
  rw [hstep, mergeEntry_encode (hms m hm) hlen]
  split
  · rw [Option.map_some, Option.toList_some, Assoc.putAll_cons, Assoc.put_of_notMem hfresh]
    rfl
  · rfl

/-! ## Values -/

/-- What is written for a record: an entity's lacks the ends. -/
def Record.encode (r : Record) : List UInt8 :=
  textField 1 r.typeName ++ encodeEntries 2 r.properties ++ encodeOption 3 r.id ++ encodeOption 4 r.origin ++
    encodeOption 5 r.destination

def Record.height (r : Record) : Nat :=
  max (max (heightMembers r.properties) (heightOption r.id))
    (max (heightOption r.origin) (heightOption r.destination)) + 1

structure Record.ReadsBack (r : Record) : Prop where
  names : (r.properties.map Prod.fst).Nodup
  properties : ∀ m ∈ r.properties, m.2.ReadsBack
  id : ∀ v ∈ r.id, v.ReadsBack
  origin : ∀ v ∈ r.origin, v.ReadsBack
  destination : ∀ v ∈ r.destination, v.ReadsBack

theorem mergeRecord_encode {r : Record} {ends : Bool} (hr : r.ReadsBack)
    (hends : ends = true ∨ r.origin = none ∧ r.destination = none)
    (hl : r.encode.length < 0x10000000000000000) (levels : Nat) :
    mergeRecord levels ends {} r.encode = if r.height ≤ levels then some r else none := by
  obtain ⟨typeName, properties, id, origin, destination⟩ := r
  cases levels with
  | zero => rfl
  | succ levels =>
    simp only [Record.encode, List.length_append] at hl
    let step := Record.step (mergeEntry levels ("", .unset)) (merge levels) ends
    have htype : Reads levels step True {} (textField 1 typeName) { typeName } := by
      refine .text (by omega) ?_ fun h => by rw [h]
      simp only [step, Record.step, text?_encode, Option.map_some]
    have hproperties : Reads levels step (heightMembers properties ≤ levels) { typeName }
        (encodeEntries 2 properties) { typeName, properties } :=
      reads_entries (fun ms => ({ typeName, properties := ms } : Record)) hr.names hr.properties
        (by omega) fun done bs => rfl
    have hid : Reads levels step (heightOption id ≤ levels) { typeName, properties } (encodeOption 3 id)
        { typeName, properties, id } :=
      reads_option (fun v => { typeName, properties, id := some v }) hr.id (by omega) (fun bs => rfl)
        (by cases id <;> rfl)
    have horigin : Reads levels step (heightOption origin ≤ levels) { typeName, properties, id }
        (encodeOption 4 origin) { typeName, properties, id, origin } := by
      rcases hends with rfl | ⟨rfl, -⟩
      · exact reads_option (fun v => { typeName, properties, id, origin := some v }) hr.origin (by omega)
          (fun bs => rfl) (by cases origin <;> rfl)
      · exact Reads.nil.congr (by simp [heightOption])
    have hdestination : Reads levels step (heightOption destination ≤ levels) { typeName, properties, id, origin }
        (encodeOption 5 destination) { typeName, properties, id, origin, destination } := by
      rcases hends with rfl | ⟨-, rfl⟩
      · exact reads_option (fun v => { typeName, properties, id, origin, destination := some v })
          hr.destination (by omega) (fun bs => rfl) (by cases destination <;> rfl)
      · exact Reads.nil.congr (by simp [heightOption])
    rw [mergeRecord, Record.encode]
    refine (Reads.congr ((((htype.trans hproperties).trans hid).trans horigin).trans hdestination) ?_).fold_eq
    simp only [Record.height, Nat.add_le_add_iff_right, Nat.max_le, true_and, and_assoc]

theorem mergeArray_encode {vs : List Any} (hvs : ∀ v ∈ vs, v.ReadsBack)
    (hl : (encodeAll 1 vs).length < 0x10000000000000000) (levels : Nat) :
    mergeArray levels [] (encodeAll 1 vs) = if heightAll vs + 1 ≤ levels then some vs else none := by
  cases levels with
  | zero => rfl
  | succ levels =>
    rw [mergeArray]
    refine (Reads.congr (reads_all (fun vs => vs) hvs hl fun done bs => rfl) ?_).fold_eq
    rw [Nat.add_le_add_iff_right]

theorem mergePath_encode {p : List Any × List Any} (h1 : ∀ v ∈ p.1, v.ReadsBack) (h2 : ∀ v ∈ p.2, v.ReadsBack)
    (hl : (encodeAll 1 p.1 ++ encodeAll 2 p.2).length < 0x10000000000000000) (levels : Nat) :
    mergePath levels ([], []) (encodeAll 1 p.1 ++ encodeAll 2 p.2) =
      if max (heightAll p.1) (heightAll p.2) + 1 ≤ levels then some p else none := by
  cases levels with
  | zero => rfl
  | succ levels =>
    rw [List.length_append] at hl
    have hentities : Reads levels (pathStep (merge levels)) (heightAll p.1 ≤ levels) ([], []) (encodeAll 1 p.1)
        (p.1, []) :=
      reads_all (fun vs => (vs, [])) h1 (by omega) fun done bs => rfl
    have hrelationships : Reads levels (pathStep (merge levels)) (heightAll p.2 ≤ levels) (p.1, [])
        (encodeAll 2 p.2) p :=
      reads_all (fun vs => (p.1, vs)) h2 (by omega) fun done bs => rfl
    rw [mergePath]
    refine (Reads.congr (hentities.trans hrelationships) ?_).fold_eq
    rw [Nat.add_le_add_iff_right, Nat.max_le]

theorem mergeObject_encode {ms : List (String × Any)} (hnames : (ms.map Prod.fst).Nodup)
    (hms : ∀ m ∈ ms, m.2.ReadsBack) (hl : (encodeEntries 1 ms).length < 0x10000000000000000) (levels : Nat) :
    mergeObject levels [] (encodeEntries 1 ms) = if heightMembers ms + 1 ≤ levels then some ms else none := by
  cases levels with
  | zero => rfl
  | succ levels =>
    rw [mergeObject]
    refine (Reads.congr (reads_entries (fun ms => ms) hnames hms hl fun done bs => rfl) ?_).fold_eq
    rw [Nat.add_le_add_iff_right]

/-- A variant is one field around the message of its content. -/
theorem readsBack_of_field {v : Any} {number sub : Nat} {bs : List UInt8} (hv : v.encode = bytesField number bs)
    (hheight : v.height = sub + 1)
    (hread : bs.length < 0x10000000000000000 →
      ∀ levels, merge (levels + 1) .unset (bytesField number bs) = if sub ≤ levels then some v else none) :
    v.ReadsBack := by
  intro hl levels
  rw [hv] at hl ⊢
  rw [hheight]
  cases levels with
  | zero => rfl
  | succ levels =>
    rw [hread (Nat.lt_of_le_of_lt (length_le_bytesField number bs) hl) levels]
    simp only [Nat.add_le_add_iff_right]

/-- Values whose numbers are in range and whose maps have each name once can be read back. -/
theorem WellFormed.readsBack {v : Any} (hv : v.WellFormed Primitive.InRange) : v.ReadsBack := by
  induction hv with
  | unset =>
    intro hl levels
    cases levels with
    | zero => rfl
    | succ levels => simp [merge, encode, height]
  | @primitive p hp =>
    have hencode : (Any.primitive p).encode = bytesField 1 p.encode := rfl
    refine readsBack_of_field hencode rfl fun hlen levels => ?_
    rw [merge]
    refine (Reads.message hlen ?_).fold_eq
    simp only [primitiveOf, Primitive.merge_encode hp hlen]
    split <;> rfl
  | @entity typeName properties id hnames _ _ ihproperties ihid =>
    have hr : Record.ReadsBack { typeName, properties, id } := ⟨hnames, ihproperties, ihid, nofun, nofun⟩
    have hencode : (Any.entity typeName properties id).encode =
        bytesField 2 (Record.encode { typeName, properties, id }) := by
      simp [encode, Record.encode, encodeOption]
    have hheight : (Any.entity typeName properties id).height = Record.height { typeName, properties, id } + 1 := by
      simp [height, Record.height, heightOption]
    refine readsBack_of_field hencode hheight fun hlen levels => ?_
    rw [merge]
    refine (Reads.message hlen ?_).fold_eq
    simp only [entityOf, mergeRecord_encode hr (.inr ⟨rfl, rfl⟩) hlen]
    split <;> rfl
  | @relationship typeName properties id origin destination hnames _ _ _ _ ihproperties ihid ihorigin ihdestination =>
    have hr : Record.ReadsBack ⟨typeName, properties, id, origin, destination⟩ :=
      ⟨hnames, ihproperties, ihid, ihorigin, ihdestination⟩
    have hencode : (Any.relationship typeName properties id origin destination).encode =
        bytesField 3 (Record.encode ⟨typeName, properties, id, origin, destination⟩) := rfl
    have hheight : (Any.relationship typeName properties id origin destination).height =
        Record.height ⟨typeName, properties, id, origin, destination⟩ + 1 := rfl
    refine readsBack_of_field hencode hheight fun hlen levels => ?_
    rw [merge]
    refine (Reads.message hlen ?_).fold_eq
    simp only [relationshipOf, mergeRecord_encode hr (.inl rfl) hlen]
    split <;> rfl
  | @path entities relationships _ _ ihentities ihrelationships =>
    have hencode : (Any.path entities relationships).encode =
        bytesField 4 (encodeAll 1 entities ++ encodeAll 2 relationships) := rfl
    refine readsBack_of_field hencode rfl fun hlen levels => ?_
    rw [merge]
    refine (Reads.message hlen ?_).fold_eq
    have hpath := mergePath_encode (p := (entities, relationships)) ihentities ihrelationships hlen levels
    simp only [pathOf, hpath]
    split <;> rfl
  | @array values _ ihvalues =>
    have hencode : (Any.array values).encode = bytesField 5 (encodeAll 1 values) := rfl
    refine readsBack_of_field hencode rfl fun hlen levels => ?_
    rw [merge]
    refine (Reads.message hlen ?_).fold_eq
    simp only [arrayOf, mergeArray_encode ihvalues hlen]
    split <;> rfl
  | @object members hnames _ ihmembers =>
    have hencode : (Any.object members).encode = bytesField 6 (encodeEntries 1 members) := rfl
    refine readsBack_of_field hencode rfl fun hlen levels => ?_
    rw [merge]
    refine (Reads.message hlen ?_).fold_eq
    simp only [objectOf, mergeObject_encode hnames ihmembers hlen]
    split <;> rfl

/-! ## What values stand for -/

theorem valueAll_eq_mapM (vs : List Any) : valueAll vs = vs.mapM value := by
  induction vs with
  | nil => rfl
  | cons v vs ih => simp only [valueAll, ih, List.mapM_cons]

theorem exists_valueMembers_eq_ok {ms : List (String × Any)} (h : ∀ m ∈ ms, ∃ x, m.2.value = .ok x) :
    ∃ xs, valueMembers ms = .ok xs := by
  induction ms with
  | nil => exact ⟨[], rfl⟩
  | cons m ms ih =>
    obtain ⟨x, hx⟩ := h m (by simp)
    obtain ⟨xs, hxs⟩ := ih fun m' hm => h m' (by simp [hm])
    exact ⟨(m.1, x) :: xs, by simp only [valueMembers, hx, hxs]; rfl⟩

theorem exists_valueOption_eq_ok {o : Option Any} (h : ∀ v ∈ o, ∃ x, v.value = .ok x) :
    ∃ x, valueOption o = .ok x := by
  cases o with
  | none => exact ⟨.null, rfl⟩
  | some v => exact h v rfl

theorem exists_valueAll_eq_ok {vs : List Any} (h : ∀ v ∈ vs, ∃ x, v.value = .ok x) : ∃ xs, valueAll vs = .ok xs := by
  rw [valueAll_eq_mapM]
  exact exists_mapM_eq_ok h

/-- A value whose identifiers all have 16 bytes stands for something. -/
theorem WellFormed.exists_value_eq_ok {v : Any} (hv : v.WellFormed Primitive.HasValue) : ∃ x, v.value = .ok x := by
  induction hv with
  | unset => exact ⟨.null, rfl⟩
  | primitive hp => exact hp.exists_value_eq_ok
  | entity _ _ _ ihproperties ihid =>
    obtain ⟨ms, hms⟩ := exists_valueMembers_eq_ok ihproperties
    obtain ⟨x, hx⟩ := exists_valueOption_eq_ok ihid
    exact ⟨_, by simp only [value, hms, hx]; rfl⟩
  | relationship _ _ _ _ _ ihproperties ihid ihorigin ihdestination =>
    obtain ⟨ms, hms⟩ := exists_valueMembers_eq_ok ihproperties
    obtain ⟨x, hx⟩ := exists_valueOption_eq_ok ihid
    obtain ⟨y, hy⟩ := exists_valueOption_eq_ok ihorigin
    obtain ⟨z, hz⟩ := exists_valueOption_eq_ok ihdestination
    exact ⟨_, by simp only [value, hms, hx, hy, hz]; rfl⟩
  | path _ _ ihentities ihrelationships =>
    obtain ⟨xs, hxs⟩ := exists_valueAll_eq_ok ihentities
    obtain ⟨ys, hys⟩ := exists_valueAll_eq_ok ihrelationships
    exact ⟨_, by simp only [value, hxs, hys]; rfl⟩
  | array _ ihvalues =>
    obtain ⟨xs, hxs⟩ := exists_valueAll_eq_ok ihvalues
    exact ⟨_, by simp only [value, hxs]; rfl⟩
  | object _ _ ihmembers =>
    obtain ⟨ms, hms⟩ := exists_valueMembers_eq_ok ihmembers
    exact ⟨_, by simp only [value, hms]; rfl⟩

end Wire.Any
end FeatureGraph
