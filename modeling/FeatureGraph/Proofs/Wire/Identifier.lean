import FeatureGraph.Wire.Query

/-! # Identifiers in values

What a value stands for can be found unless it holds, at any depth, an identifier that has not 16 bytes. -/
namespace FeatureGraph.Wire

def Primitive.identifiers : Primitive → List (List UInt8)
  | uuid bs => [bs]
  | _ => []

namespace Any

mutual

def identifiers : Any → List (List UInt8)
  | unset => []
  | primitive p => p.identifiers
  | entity _ properties id => identifiersOfMembers properties ++ identifiersOfOption id
  | relationship _ properties id origin destination =>
    identifiersOfMembers properties ++ (identifiersOfOption id ++
      (identifiersOfOption origin ++ identifiersOfOption destination))
  | path entities relationships => identifiersOfAll entities ++ identifiersOfAll relationships
  | array values => identifiersOfAll values
  | object members => identifiersOfMembers members

def identifiersOfAll : List Any → List (List UInt8)
  | [] => []
  | v :: r => v.identifiers ++ identifiersOfAll r

def identifiersOfMembers : List (String × Any) → List (List UInt8)
  | [] => []
  | (_, v) :: r => v.identifiers ++ identifiersOfMembers r

def identifiersOfOption : Option Any → List (List UInt8)
  | none => []
  | some v => v.identifiers

end

end Any

def RowFrame.identifiers (r : RowFrame) : List (List UInt8) := r.rows.flatMap Any.identifiersOfAll

/-- There is a result if all of some identifiers have 16 bytes, and otherwise their length is the only fault. -/
inductive HingesOn {α : Type} (ids : List (List UInt8)) : Except Defect α → Prop where
  | ok (a : α) (h : ∀ bs ∈ ids, bs.length = 16) : HingesOn ids (.ok a)
  | error (h : ∃ bs ∈ ids, bs.length ≠ 16) : HingesOn ids (.error .identifierLength)

namespace HingesOn

variable {α β : Type} {ids ids' : List (List UInt8)}

theorem pure (a : α) : HingesOn [] (.ok a) := .ok a (by simp)

/-- One step after another hinges on the identifiers of both. -/
theorem bind {x : Except Defect α} {f : α → Except Defect β} (hx : HingesOn ids x) (hf : ∀ a, HingesOn ids' (f a)) :
    HingesOn (ids ++ ids') (x >>= f) := by
  cases hx with
  | error h =>
    obtain ⟨bs, hbs, hlength⟩ := h
    exact .error ⟨bs, List.mem_append_left _ hbs, hlength⟩
  | ok a h =>
    have hfa : HingesOn ids' (f a) := hf a
    change HingesOn (ids ++ ids') (f a)
    generalize f a = y at hfa
    cases hfa with
    | error h' =>
      obtain ⟨bs, hbs, hlength⟩ := h'
      exact .error ⟨bs, List.mem_append_right _ hbs, hlength⟩
    | ok b h' => exact .ok b fun bs hbs => (List.mem_append.1 hbs).elim (h bs) (h' bs)

/-- A last step that only puts the result together. -/
theorem map {x : Except Defect α} (hx : HingesOn ids x) (f : α → β) :
    HingesOn ids (do return f (← x) : Except Defect β) := by
  have h := hx.bind fun a => pure (f a)
  rwa [List.append_nil] at h

theorem mapM {f : α → Except Defect β} {g : α → List (List UInt8)} (hf : ∀ a, HingesOn (g a) (f a)) (as : List α) :
    HingesOn (as.flatMap g) (as.mapM f) := by
  induction as with
  | nil => exact pure []
  | cons a as ih =>
    rw [List.mapM_cons, List.flatMap_cons]
    exact (hf a).bind fun _ => ih.map _

end HingesOn

theorem Primitive.value_hingesOn (p : Primitive) : HingesOn p.identifiers p.value := by
  cases p with
  | uuid bs =>
    rw [value]
    split
    · next h => exact .ok _ (by simpa [identifiers] using h)
    · next h => exact .error ⟨bs, by simp [identifiers], h⟩
  | _ => exact .pure _

namespace Any

mutual

theorem value_hingesOn : ∀ v : Any, HingesOn v.identifiers v.value
  | unset => .pure _
  | primitive p => p.value_hingesOn
  | entity _ properties id =>
    (valueMembers_hingesOn properties).bind fun _ => (valueOption_hingesOn id).map _
  | relationship _ properties id origin destination =>
    (valueMembers_hingesOn properties).bind fun _ =>
      (valueOption_hingesOn id).bind fun _ =>
        (valueOption_hingesOn origin).bind fun _ => (valueOption_hingesOn destination).map _
  | path entities relationships =>
    (valueAll_hingesOn entities).bind fun _ => (valueAll_hingesOn relationships).map _
  | array values => (valueAll_hingesOn values).map _
  | object members => (valueMembers_hingesOn members).map _

theorem valueAll_hingesOn : ∀ vs : List Any, HingesOn (identifiersOfAll vs) (valueAll vs)
  | [] => .pure _
  | v :: r => (value_hingesOn v).bind fun _ => (valueAll_hingesOn r).map _

theorem valueMembers_hingesOn : ∀ ms : List (String × Any), HingesOn (identifiersOfMembers ms) (valueMembers ms)
  | [] => .pure _
  | (_, v) :: r => (value_hingesOn v).bind fun _ => (valueMembers_hingesOn r).map _

theorem valueOption_hingesOn : ∀ o : Option Any, HingesOn (identifiersOfOption o) (valueOption o)
  | none => .pure _
  | some v => value_hingesOn v

end

end Any

theorem RowFrame.mapM_valueAll_hingesOn (r : RowFrame) : HingesOn r.identifiers (r.rows.mapM Any.valueAll) :=
  .mapM Any.valueAll_hingesOn r.rows

end FeatureGraph.Wire
