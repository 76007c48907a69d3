import FeatureGraph.Filter.Predicate
import FeatureGraph.Proofs.Filter.RoundTrip
import FeatureGraph.Proofs.Result
import Mathlib.Data.List.Forall2

/-! # Columns in a namespace

An expression in a namespace is the expression itself but for its columns without a table. Another time in the same
namespace changes nothing. -/
namespace FeatureGraph.Filter
open Grammar

/-- Some qualifiers say which table a column is of: the last of them has a name. -/
def HasTable (qualifiers : List Expr) : Prop := ∃ q ∈ qualifiers.getLast?, q.title ≠ []

/-- Two expressions that differ in the columns that have no table in the first: in the second these have a namespace
for it. -/
inductive Qualifies (namespaceName : Name) : Expr → Expr → Prop where
  | word (text : List Char) : Qualifies namespaceName (.word text) (.word text)
  | number (text : List Char) : Qualifies namespaceName (.number text) (.number text)
  | string (text : List Char) : Qualifies namespaceName (.string text) (.string text)
  | name (n : Name) : Qualifies namespaceName (.name n) (.name n)
  | star : Qualifies namespaceName .star .star
  | bare {m m' : Expr} (hm : Qualifies namespaceName m m') :
    Qualifies namespaceName (.column [] m) (.column [.name namespaceName] m')
  /-- The place of the table is empty. -/
  | untitled {q m m' : Expr} {qs qs' : List Expr} (hq : q.title = []) (hqs : List.Forall₂ (Qualifies namespaceName) qs qs')
    (hm : Qualifies namespaceName m m') :
    Qualifies namespaceName (.column (qs ++ [q]) m) (.column (qs' ++ [.name namespaceName]) m')
  | column {m m' : Expr} {qs qs' : List Expr} (htable : HasTable qs) (hqs : List.Forall₂ (Qualifies namespaceName) qs qs')
    (hm : Qualifies namespaceName m m') : Qualifies namespaceName (.column qs m) (.column qs' m')
  | binary {a a' b b' : Expr} (op : Operator) (remarks : List (List Char)) (ha : Qualifies namespaceName a a')
    (hb : Qualifies namespaceName b b') : Qualifies namespaceName (.binary op a b remarks) (.binary op a' b' remarks)
  | form {parts parts' : List (Expr × List Char)} (construct : Construct) (first : List Char)
    (hes : List.Forall₂ (Qualifies namespaceName) (parts.map Prod.fst) (parts'.map Prod.fst))
    (hwords : parts'.map Prod.snd = parts.map Prod.snd) :
    Qualifies namespaceName (.form construct first parts) (.form construct first parts')
  | remarked {e e' : Expr} (remarks : List (List Char)) (he : Qualifies namespaceName e e') :
    Qualifies namespaceName (.remarked e remarks) (.remarked e' remarks)

namespace Expr

variable {n : Name} {e m q : Expr} {qs : List Expr}

theorem qualify_column : (column qs m).qualify n = inNamespace n (qs.map (qualify n)) (m.qualify n) := by
  rw [qualify, mapColumns, mapColumnsAll_eq]
  rfl

theorem inNamespace_concat : inNamespace n (qs ++ [q]) m =
    column (if q.title.isEmpty then qs ++ [name n] else qs ++ [q]) m := by
  rw [inNamespace, List.getLast?_concat]
  dsimp only
  rw [List.dropLast_concat]

theorem exists_inNamespace (n : Name) (qs : List Expr) (m : Expr) : ∃ qs', inNamespace n qs m = column qs' m := by
  unfold inNamespace
  split
  · exact ⟨_, rfl⟩
  · exact ⟨_, rfl⟩

/-- What an expression is called does not depend on the namespace. -/
theorem title_qualify (n : Name) (e : Expr) : (e.qualify n).title = e.title := by
  have hcolumn : ∀ qs m, ((column qs m).qualify n).title = (column qs m).title ∧
      ∀ rs, (remarked ((column qs m).qualify n) rs).title = (remarked (column qs m) rs).title := by
    intro qs m
    obtain ⟨qs', heq⟩ := exists_inNamespace n (qs.map (qualify n)) (m.qualify n)
    rw [qualify_column, heq]
    cases m with
    | column qs m =>
      obtain ⟨qs', heq⟩ := exists_inNamespace n (qs.map (qualify n)) (m.qualify n)
      rw [qualify_column, heq]
      exact ⟨rfl, fun _ => rfl⟩
    | _ => exact ⟨rfl, fun _ => rfl⟩
  cases e with
  | column qs m => exact (hcolumn qs m).1
  | remarked e rs =>
    cases e with
    | column qs m => exact (hcolumn qs m).2 rs
    | _ => rfl
  | _ => rfl

theorem qualify_form (construct : Construct) (first : List Char) (parts : List (Expr × List Char)) :
    (form construct first parts).qualify n = form construct first (parts.map fun p => (p.1.qualify n, p.2)) := by
  rw [qualify, mapColumns, mapColumnsParts_eq]
  rfl

end Expr

/-! ## The columns without a table -/

section
variable {n : Name} {e e' m m' q : Expr} {qs qs' : List Expr}

theorem hasTable_concat : HasTable (qs ++ [q]) ↔ q.title ≠ [] := by simp [HasTable]

theorem qualifies_column (hqs : ∀ q ∈ qs, Qualifies n q (q.qualify n)) (hm : Qualifies n m (m.qualify n)) :
    Qualifies n (.column qs m) ((Expr.column qs m).qualify n) := by
  have hall : ∀ qs : List Expr, (∀ q ∈ qs, Qualifies n q (q.qualify n)) →
      List.Forall₂ (Qualifies n) qs (qs.map (Expr.qualify n)) := fun qs h =>
    List.forall₂_map_right_iff.2 (List.forall₂_same.2 h)
  rw [Expr.qualify_column]
  rcases List.eq_nil_or_concat' qs with rfl | ⟨qs, q, rfl⟩
  · exact .bare hm
  rw [List.map_append, List.map_singleton, Expr.inNamespace_concat, Expr.title_qualify]
  split
  · next htitle =>
    exact .untitled (List.isEmpty_iff.1 htitle) (hall qs fun q hq => hqs q (List.mem_append_left _ hq)) hm
  · next htitle =>
    have hforall := hall _ hqs
    rw [List.map_append, List.map_singleton] at hforall
    exact .column (hasTable_concat.2 fun h => htitle (List.isEmpty_iff.2 h)) hforall hm

theorem qualifies_form {parts : List (Expr × List Char)} (construct : Construct) (first : List Char)
    (h : ∀ p ∈ parts, Qualifies n p.1 (p.1.qualify n)) :
    Qualifies n (.form construct first parts) ((Expr.form construct first parts).qualify n) := by
  rw [Expr.qualify_form]
  refine .form construct first ?_ (by simp)
  rw [List.map_map, List.forall₂_map_left_iff, List.forall₂_map_right_iff, List.forall₂_same]
  exact h

mutual

/-- In a namespace only the columns without a table change. -/
theorem qualifies_qualify (n : Name) : (e : Expr) → Qualifies n e (e.qualify n)
  | .word text => .word text
  | .number text => .number text
  | .string text => .string text
  | .name n' => .name n'
  | .star => .star
  | .column qs m => qualifies_column (qualifies_qualifiers n qs) (qualifies_qualify n m)
  | .binary op a b remarks => .binary op remarks (qualifies_qualify n a) (qualifies_qualify n b)
  | .form construct first parts => qualifies_form construct first (qualifies_parts n parts)
  | .remarked e remarks => .remarked remarks (qualifies_qualify n e)

theorem qualifies_qualifiers (n : Name) : (qs : List Expr) → ∀ q ∈ qs, Qualifies n q (q.qualify n)
  | [] => List.forall_mem_nil _
  | q :: qs => List.forall_mem_cons.2 ⟨qualifies_qualify n q, qualifies_qualifiers n qs⟩

theorem qualifies_parts (n : Name) : (parts : List (Expr × List Char)) → ∀ p ∈ parts, Qualifies n p.1 (p.1.qualify n)
  | [] => List.forall_mem_nil _
  | (e, _) :: parts => List.forall_mem_cons.2 ⟨qualifies_qualify n e, qualifies_parts n parts⟩

end

end

/-! ## A second time -/

namespace Expr

variable {n : Name} {m : Expr} {qs : List Expr}

theorem qualify_column_twice (hqs : ∀ q ∈ qs, (q.qualify n).qualify n = q.qualify n)
    (hm : (m.qualify n).qualify n = m.qualify n) : ((column qs m).qualify n).qualify n = (column qs m).qualify n := by
  have hname : (name n).qualify n = name n := rfl
  have hall : ∀ qs : List Expr, (∀ q ∈ qs, (q.qualify n).qualify n = q.qualify n) →
      (qs.map (qualify n)).map (qualify n) = qs.map (qualify n) := by
    intro qs h
    rw [List.map_map]
    exact List.map_congr_left h
  -- The second time the last qualifier is the namespace or was not empty before.
  rcases List.eq_nil_or_concat' qs with rfl | ⟨qs, q, rfl⟩
  · have hfirst : (column [] m).qualify n = column ([] ++ [name n]) (m.qualify n) := qualify_column
    rw [hfirst, qualify_column, List.map_append, List.map_singleton, hname, hm, inNamespace_concat, ite_self]
    rfl
  · have hfront := hall qs fun q hq => hqs q (List.mem_append_left _ hq)
    have hlast := hqs q (by simp)
    rw [qualify_column, List.map_append, List.map_singleton, inNamespace_concat]
    split
    · rw [qualify_column, List.map_append, List.map_singleton, hfront, hname, hm, inNamespace_concat, ite_self]
    · next hne =>
      rw [qualify_column, List.map_append, List.map_singleton, hfront, hlast, hm, inNamespace_concat, if_neg hne]

mutual

theorem qualify_qualify : (e : Expr) → (e.qualify n).qualify n = e.qualify n
  | word _ | number _ | string _ | name _ | star => rfl
  | column qs m => qualify_column_twice (qualify_qualifiers qs) (qualify_qualify m)
  | binary op a b remarks => congrArg₂ (binary op · · remarks) (qualify_qualify a) (qualify_qualify b)
  | form construct first parts => by
    rw [qualify_form, qualify_form, List.map_map]
    exact congrArg (form construct first) (List.map_congr_left (qualify_parts parts))
  | remarked e remarks => congrArg (remarked · remarks) (qualify_qualify e)

theorem qualify_qualifiers : (qs : List Expr) → ∀ q ∈ qs, (q.qualify n).qualify n = q.qualify n
  | [] => List.forall_mem_nil _
  | q :: qs => List.forall_mem_cons.2 ⟨qualify_qualify q, qualify_qualifiers qs⟩

theorem qualify_parts : (parts : List (Expr × List Char)) → ∀ p ∈ parts,
    ((p.1.qualify n).qualify n, p.2) = (p.1.qualify n, p.2)
  | [] => List.forall_mem_nil _
  | (e, words) :: parts => List.forall_mem_cons.2 ⟨congrArg (·, words) (qualify_qualify e), qualify_parts parts⟩

end

end Expr

/-! ## A filter in its namespace -/

/-- A library reads the expressions of some part of SQL back from what it prints, and no column in a namespace leads out
of that part. -/
structure Library.Supports (library : Library) (namespaceName : List Char) (part : Expr → Prop) : Prop where
  parse_print : ∀ {e : Expr} {sql : List Char}, part e → library.print e = .ok sql →
    library.parse namespaceName sql = .ok (some e)
  qualify : ∀ {e : Expr}, part e → part (e.qualify (Name.ofText namespaceName))

section
variable {library : Library} {part : Expr → Prop} {ns w : String} {out : List Char} {e : Expr}

theorem qualified_eq_ok_iff : qualified ns w library = .ok out ↔
    ∃ e, library.parse ns.toList w.toList = .ok (some e) ∧
      library.print (e.qualify (Name.ofText ns.toList)) = .ok out := by
  constructor
  · intro h
    rw [qualified] at h
    obtain ⟨parsed, hparsed, h⟩ := exists_of_bind_eq_ok h
    cases parsed with
    | none => cases h
    | some e => exact ⟨e, mapError_eq_ok_iff.1 hparsed, mapError_eq_ok_iff.1 h⟩
  · rintro ⟨e, hparse, hprint⟩
    rw [qualified, hparse]
    exact congrArg (Except.mapError Fault.defect) hprint

/-- A filter that is accepted comes out as its tree with exactly the columns without a table in the namespace. If the
library supports the tree, what comes out is parsed as that tree, and another time in the namespace changes nothing. -/
theorem qualified_spec (hlibrary : library.Supports ns.toList part) (h : qualified ns w library = .ok out) :
    ∃ e, library.parse ns.toList w.toList = .ok (some e) ∧
      library.print (e.qualify (Name.ofText ns.toList)) = .ok out ∧
      Qualifies (Name.ofText ns.toList) e (e.qualify (Name.ofText ns.toList)) ∧
      (part e → library.parse ns.toList out = .ok (some (e.qualify (Name.ofText ns.toList))) ∧
        qualified ns (String.ofList out) library = .ok out) := by
  obtain ⟨e, hparse, hprint⟩ := qualified_eq_ok_iff.1 h
  refine ⟨e, hparse, hprint, qualifies_qualify _ e, fun he => ?_⟩
  have hagain := hlibrary.parse_print (hlibrary.qualify he) hprint
  refine ⟨hagain, qualified_eq_ok_iff.2 ⟨e.qualify (Name.ofText ns.toList), ?_, ?_⟩⟩
  · rwa [String.toList_ofList]
  · rwa [Expr.qualify_qualify]

/-- Trees that are legible with and without the namespace are read back. -/
theorem supports_legible (hns : IsTableName ns.toList) : Library.postgres.Supports ns.toList fun e =>
    Legible .disjunction .disjunction e ∧ Legible .disjunction .disjunction (e.qualify (Name.ofText ns.toList)) where
  parse_print := by
    rintro e sql ⟨he, -⟩ hsql
    obtain rfl : e.rendered = sql := Except.ok.inj hsql
    exact congrArg Except.ok (he.parse?_rendered hns)
  qualify := by
    rintro e ⟨-, he⟩
    exact ⟨he, by rwa [Expr.qualify_qualify]⟩

end

/-- A filter with a denied list, a call and a range, over columns under some qualifiers. -/
def monitored (qualifiers : List (List Char)) : Expr :=
  .binary .or
    ((plainColumn qualifiers "status".toList).followed " IN (".toList [.number ['1'], .number ['2']] [')']).negated
    (Expr.grouped (.binary .and
      (.binary .equal (.enclosed .call "UPPER(".toList [plainColumn qualifiers "kind".toList] [')']) (.string ['A']) [])
      (betweenExpr (plainColumn qualifiers "depth".toList) (plainColumn qualifiers "low".toList)
        (plainColumn [['m']] "high".toList)) [])) []

def sampleWords : List String := ["n", "m", "status", "kind", "depth", "low", "high", "UPPER"]

theorem isPlainWord_sample : ∀ s ∈ sampleWords, IsPlainWord s.toList := by
  intro s hs
  refine isPlainWord_of_ascii ?_ ?_ ?_ ?_ ?_ <;> revert s <;> decide +kernel

theorem legible_sample {qualifiers : List (List Char)} (h : qualifiers ∈ [[], [['n']]]) {s : String}
    (hs : s ∈ sampleWords) : Legible .unary .unary (plainColumn qualifiers s.toList) := by
  have hn := isPlainWord_sample "n" (by decide)
  have hword := isPlainWord_sample s hs
  rcases List.mem_pair.1 h with rfl | rfl
  · exact legible_plainColumn (by simp) (by simpa using hword)
  · exact legible_plainColumn (by simp) (by simpa using ⟨hn, hword⟩)

theorem legible_figure : ∀ c ∈ ['0', '1', '2'], Legible .unary .unary (.number [c]) := by
  intro c hc
  refine .number ⟨?_, ?_, ?_, ?_⟩ <;> revert c <;> decide

theorem legible_monitored {qualifiers : List (List Char)} (h : qualifiers ∈ [[], [['n']]]) :
    Legible .disjunction .disjunction (monitored qualifiers) := by
  have hhigh : Legible .unary .unary (plainColumn [['m']] "high".toList) :=
    legible_plainColumn (by simp)
      (by simpa using ⟨isPlainWord_sample "m" (by decide), isPlainWord_sample "high" (by decide)⟩)
  have hlist : Legible .ranged .bitwise
      ((plainColumn qualifiers "status".toList).followed " IN (".toList [.number ['1'], .number ['2']] [')']) :=
    .within ((legible_sample h (by decide)).operand (by decide)) (by simp)
      (by simpa using ⟨(legible_figure '1' (by simp)).operand (by decide), (legible_figure '2' (by simp)).operand (by decide)⟩)
  have hcall : Legible .unary .unary (.enclosed .call "UPPER(".toList [plainColumn qualifiers "kind".toList] [')']) :=
    .call (by simp) (isPlainWord_sample "UPPER" (by decide)).beginsCall rfl
      (by simpa using (legible_sample h (s := "kind") (by decide)).operand (by decide))
  have hequal : Legible .equality .comparison
      (.binary .equal (.enclosed .call "UPPER(".toList [plainColumn qualifiers "kind".toList] [')']) (.string ['A']) []) :=
    .binary (s := "=") (by decide) (hcall.operand (by decide)) ((Legible.string _).operand (by decide)) (by decide)
  have hrange : Legible .ranged .bitwise (betweenExpr (plainColumn qualifiers "depth".toList)
      (plainColumn qualifiers "low".toList) (plainColumn [['m']] "high".toList)) :=
    .between ((legible_sample h (by decide)).operand (by decide)) ((legible_sample h (by decide)).operand (by decide))
      (hhigh.operand (by decide)) (by decide)
  have hboth : Legible .conjunction .identity (.binary .and _ _ []) :=
    .binary (s := "AND") (by decide) (hequal.lift (by decide) (by decide) (by decide))
      (hrange.lift (by decide) (by decide) (by decide)) (by decide)
  have hdenied := (hlist.lift (l := .identity) (τ := .identity) (by decide) (by decide) (by decide)).negated (by decide)
  exact .binary (s := "OR") (by decide) (hdenied.lift (by decide) (by decide) (by decide))
    ((hboth.lift (by decide) (by decide) (by decide)).grouped.operand (by decide)) (by decide)

theorem qualified_monitored :
    Library.postgres.Supports "n".toList (fun e =>
      Legible .disjunction .disjunction e ∧ Legible .disjunction .disjunction (e.qualify (Name.ofText "n".toList))) ∧
      qualified "n" "NOT status IN (1, 2) OR (UPPER(kind) = 'A' AND depth BETWEEN low AND m.high)" =
        .ok "NOT n.status IN (1, 2) OR (UPPER(n.kind) = 'A' AND n.depth BETWEEN n.low AND m.high)".toList ∧
      Qualifies (Name.ofText "n".toList) (monitored []) (monitored [['n']]) ∧
      parse? "n".toList "NOT n.status IN (1, 2) OR (UPPER(n.kind) = 'A' AND n.depth BETWEEN n.low AND m.high)".toList =
        some (monitored [['n']]) ∧
      qualified "n" "NOT n.status IN (1, 2) OR (UPPER(n.kind) = 'A' AND n.depth BETWEEN n.low AND m.high)" =
        .ok "NOT n.status IN (1, 2) OR (UPPER(n.kind) = 'A' AND n.depth BETWEEN n.low AND m.high)".toList := by
  have htable : IsTableName "n".toList := isTableName_n
  have hlegible {qualifiers : List (List Char)} (h : qualifiers ∈ [[], [['n']]]) :
      Legible .disjunction .disjunction (monitored qualifiers) := legible_monitored h
  have hqualify : (monitored []).qualify (Name.ofText "n".toList) = monitored [['n']] := rfl
  have hbare : (monitored []).rendered =
      "NOT status IN (1, 2) OR (UPPER(kind) = 'A' AND depth BETWEEN low AND m.high)".toList := by decide +kernel
  have hout : (monitored [['n']]).rendered =
      "NOT n.status IN (1, 2) OR (UPPER(n.kind) = 'A' AND n.depth BETWEEN n.low AND m.high)".toList := by decide +kernel
  have hparse : parse? "n".toList (monitored []).rendered = _ := (hlegible (by simp)).parse?_rendered htable
  rw [hbare] at hparse
  have hqualified : qualified "n" "NOT status IN (1, 2) OR (UPPER(kind) = 'A' AND depth BETWEEN low AND m.high)" =
      .ok "NOT n.status IN (1, 2) OR (UPPER(n.kind) = 'A' AND n.depth BETWEEN n.low AND m.high)".toList := by
    rw [qualified_of_parse? hparse, hqualify, hout]
  obtain ⟨e, he, -, hqualifies, hagain⟩ := qualified_spec (supports_legible htable) hqualified
  obtain rfl : monitored [] = e := Option.some.inj (hparse.symm.trans (Except.ok.inj he))
  rw [hqualify] at hqualifies hagain
  obtain ⟨hread, hsame⟩ := hagain ⟨hlegible (by simp), hlegible (by simp)⟩
  exact ⟨supports_legible htable, hqualified, hqualifies, Except.ok.inj hread, hsame⟩

end FeatureGraph.Filter
