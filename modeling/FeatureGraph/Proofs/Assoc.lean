import Mathlib.Data.List.Nodup
import FeatureGraph.Assoc

/-! # Setting a named value -/
namespace FeatureGraph.Assoc

variable {α : Type} {name : String} {value : α} {ms : List (String × α)}

/-- A name that is not there goes to the end. -/
theorem put_of_notMem (h : name ∉ ms.map Prod.fst) : put name value ms = ms ++ [(name, value)] := by
  induction ms with
  | nil => rfl
  | cons m ms ih =>
    simp only [List.map_cons, List.mem_cons, not_or] at h
    rw [put, if_neg (Ne.symm h.1), ih h.2]
    rfl

/-- A name that is there keeps its place. -/
theorem map_fst_put_of_mem (h : name ∈ ms.map Prod.fst) : (put name value ms).map Prod.fst = ms.map Prod.fst := by
  induction ms with
  | nil => cases h
  | cons m ms ih =>
    rw [put]
    split
    · rfl
    · next hne =>
      have htail : name ∈ ms.map Prod.fst := (List.mem_cons.1 h).resolve_left (Ne.symm hne)
      rw [List.map_cons, List.map_cons, ih htail]

theorem nodup_put (h : (ms.map Prod.fst).Nodup) : ((put name value ms).map Prod.fst).Nodup := by
  by_cases hmem : name ∈ ms.map Prod.fst
  · rwa [map_fst_put_of_mem hmem]
  · rw [put_of_notMem hmem, List.map_append, List.map_singleton, ← List.concat_eq_append]
    exact h.concat hmem

theorem mem_put {m : String × α} (h : m ∈ put name value ms) : m ∈ ms ∨ m = (name, value) := by
  induction ms with
  | nil => exact .inr (List.mem_singleton.1 h)
  | cons m' ms ih =>
    rw [put] at h
    split at h
    · next heq =>
      rcases List.mem_cons.1 h with rfl | htail
      · exact .inr (by rw [heq])
      · exact .inl (List.mem_cons_of_mem _ htail)
    · rcases List.mem_cons.1 h with rfl | htail
      · exact .inl List.mem_cons_self
      · exact (ih htail).imp_left (List.mem_cons_of_mem _)

theorem mem_put_iff (hms : (ms.map Prod.fst).Nodup) {m : String × α} :
    m ∈ put name value ms ↔ m = (name, value) ∨ m ∈ ms ∧ m.1 ≠ name := by
  induction ms with
  | nil => simp [put]
  | cons m' ms ih =>
    rw [List.map_cons, List.nodup_cons] at hms
    rw [put]
    split
    · next heq =>
      have hne : m ∈ ms → m.1 ≠ name := by
        rintro hmem rfl
        exact hms.1 (heq ▸ List.mem_map_of_mem hmem)
      grind
    · next hne =>
      rw [List.mem_cons, List.mem_cons, ih hms.2]
      grind

/-! ## Setting many values -/

variable {new : List (String × α)}

theorem putAll_cons (p : String × α) : putAll ms (p :: new) = putAll (put p.1 p.2 ms) new := rfl

theorem nodup_putAll (h : (ms.map Prod.fst).Nodup) : ((putAll ms new).map Prod.fst).Nodup := by
  induction new generalizing ms with
  | nil => exact h
  | cons p new ih => exact ih (nodup_put h)

theorem mem_putAll {m : String × α} (h : m ∈ putAll ms new) : m ∈ ms ∨ m ∈ new := by
  induction new generalizing ms with
  | nil => exact .inl h
  | cons p new ih =>
    rcases ih h with hput | hnew
    · exact (mem_put hput).imp_right fun heq => List.mem_cons.2 (.inl heq)
    · exact .inr (List.mem_cons_of_mem p hnew)

/-- Of several values with one name the last one stays. -/
theorem mem_putAll_iff (hms : (ms.map Prod.fst).Nodup) {m : String × α} :
    m ∈ putAll ms new ↔ m ∈ ms ∧ m.1 ∉ new.map Prod.fst ∨
      ∃ before after, new = before ++ m :: after ∧ m.1 ∉ after.map Prod.fst := by
  induction new generalizing ms with
  | nil => simp [putAll]
  | cons p new ih =>
    rw [putAll_cons, ih (nodup_put hms), mem_put_iff hms]
    constructor
    · rintro (⟨rfl | ⟨hold, hne⟩, hnew⟩ | ⟨before, after, rfl, hafter⟩)
      · exact .inr ⟨[], new, rfl, hnew⟩
      · exact .inl ⟨hold, by simpa [hne] using hnew⟩
      · exact .inr ⟨p :: before, after, rfl, hafter⟩
    · rintro (⟨hold, hnew⟩ | ⟨before, after, hsplit, hafter⟩)
      · rw [List.map_cons, List.mem_cons, not_or] at hnew
        exact .inl ⟨.inr ⟨hold, hnew.1⟩, hnew.2⟩
      · cases before with
        | nil =>
          cases hsplit
          exact .inl ⟨.inl rfl, hafter⟩
        | cons p' before =>
          cases hsplit
          exact .inr ⟨before, after, rfl, hafter⟩

/-! ## Values that may be left out -/

def present (fields : List (String × Option α)) : List (String × α) := fields.filterMap fun p => p.2.map (p.1, ·)

variable {fields : List (String × Option α)}

@[simp] theorem present_nil : present ([] : List (String × Option α)) = [] := rfl

theorem present_cons (p : String × Option α) : present (p :: fields) = (p.2.map (p.1, ·)).toList ++ present fields := by
  rw [present, List.filterMap_cons]
  cases p.2 <;> rfl

theorem present_reverse : (present fields).reverse = present fields.reverse := List.filterMap_reverse.symm

theorem lookup_eq_none_of_notMem (h : name ∉ ms.map Prod.fst) : ms.lookup name = none := by
  rw [List.lookup_eq_none_iff]
  rintro p hp
  rw [bne_iff_ne]
  rintro rfl
  exact h (List.mem_map_of_mem hp)

theorem mem_of_lookup (h : ms.lookup name = some value) : (name, value) ∈ ms := by
  obtain ⟨before, after, rfl, -⟩ := List.lookup_eq_some_iff.1 h
  simp

/-- Where no name comes twice, the order does not count. -/
theorem lookup_reverse (h : (ms.map Prod.fst).Nodup) : ms.reverse.lookup name = ms.lookup name := by
  induction ms with
  | nil => rfl
  | cons m ms ih =>
    obtain ⟨other, value⟩ := m
    obtain ⟨hother, hrest⟩ := List.nodup_cons.1 h
    rw [List.reverse_cons, List.lookup_append, ih hrest]
    by_cases hname : name = other
    · subst hname
      rw [lookup_eq_none_of_notMem hother]
      simp
    · have hne : (name == other) = false := by simpa using hname
      simp [List.lookup_cons, hne]

theorem lookup_present (h : (fields.map Prod.fst).Nodup) : (present fields).lookup name = (fields.lookup name).join := by
  induction fields with
  | nil => rfl
  | cons p fields ih =>
    obtain ⟨other, value⟩ := p
    obtain ⟨hother, hrest⟩ := List.nodup_cons.1 h
    by_cases hname : name = other
    · subst hname
      rw [List.lookup_cons_self, present_cons, List.lookup_append, ih hrest, lookup_eq_none_of_notMem hother]
      cases value <;> simp
    · have hne : (name == other) = false := by simpa using hname
      rw [present_cons, List.lookup_append, ih hrest]
      cases value <;> simp [List.lookup_cons, hne]

end FeatureGraph.Assoc
