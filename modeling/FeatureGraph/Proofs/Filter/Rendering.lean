import FeatureGraph.Filter.Expr

/-! # The text and the columns of composed expressions -/
namespace FeatureGraph.Filter.Expr

section
variable {f : List Expr → Expr → Expr} {e : Expr} {es : List Expr}

theorem mapColumnsAll_eq (es : List Expr) : mapColumnsAll f es = es.map (mapColumns f) := by
  induction es with
  | nil => rw [mapColumnsAll, List.map_nil]
  | cons e es ih => rw [mapColumnsAll, ih, List.map_cons]

theorem mapColumnsParts_eq (ps : List (Expr × List Char)) :
    mapColumnsParts f ps = ps.map fun p => (p.1.mapColumns f, p.2) := by
  induction ps with
  | nil => rw [mapColumnsParts, List.map_nil]
  | cons p ps ih => rw [mapColumnsParts, ih, List.map_cons]

theorem renderedAll_eq (es : List Expr) : renderedAll es = es.map rendered := by
  induction es with
  | nil => rw [renderedAll, List.map_nil]
  | cons e es ih => rw [renderedAll, ih, List.map_cons]

theorem map_listed (g : Expr → Expr) (last : List Char) (es : List Expr) :
    (listed last es).map (fun p => (g p.1, p.2)) = listed last (es.map g) := by
  induction es with
  | nil => rfl
  | cons e es ih =>
    cases es with
    | nil => rfl
    | cons e' es => simpa [listed] using ih

/-- The text of a list has a comma and a blank between its elements. -/
theorem renderedParts_listed (last : List Char) (h : es ≠ []) :
    renderedParts (listed last es) = ", ".toList.intercalate (es.map rendered) ++ last := by
  induction es with
  | nil => exact absurd rfl h
  | cons e es ih =>
    cases es with
    | nil => simp [listed, renderedParts]
    | cons e' es =>
      have hlisted : listed last (e :: e' :: es) = (e, ", ".toList) :: listed last (e' :: es) := rfl
      rw [hlisted, renderedParts, ih (by simp), List.map_cons (l := e' :: es), List.map_cons (l := es),
        List.intercalate_cons_cons]
      simp only [List.append_assoc]

theorem mapColumns_followed (first last : List Char) :
    (e.followed first es last).mapColumns f = (e.mapColumns f).followed first (es.map (mapColumns f)) last := by
  cases es with
  | nil => rfl
  | cons e' es =>
    simp [followed, mapColumns, mapColumnsParts_eq, map_listed]

theorem rendered_followed (first last : List Char) :
    (e.followed first es last).rendered = e.rendered ++ first ++ ", ".toList.intercalate (es.map rendered) ++ last := by
  cases es with
  | nil => simp [followed, rendered, renderedParts]
  | cons e' es =>
    simp only [followed, List.isEmpty_cons, Bool.false_eq_true, if_false, rendered, renderedParts]
    rw [renderedParts_listed _ (by simp)]
    simp only [List.nil_append, List.append_assoc]

end

end FeatureGraph.Filter.Expr
