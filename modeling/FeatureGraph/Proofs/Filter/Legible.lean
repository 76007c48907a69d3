import FeatureGraph.Proofs.Filter.Calls
import FeatureGraph.Proofs.Filter.Tests
import FeatureGraph.Proofs.Filter.Texts

/-! # Expressions whose text shows their tree

The text of an expression has the parentheses of the expression and no more. It shows the tree if every operand binds at
least as tightly as its place asks for. -/
namespace FeatureGraph.Filter
open Grammar Reader

/-! ## Names -/

def boundWords : List String := ["SYMMETRIC", "ASYMMETRIC"]

structure Name.BeginsColumn (n : Name) : Prop where
  word : n.IsWord
  begins : Grammar.BeginsColumn n.lexeme
  bound : n.lexeme.token.upper ∉ boundWords

structure Name.NamesMember (n : Name) : Prop where
  word : n.IsWord
  names : Grammar.NamesMember n.lexeme

structure Name.BeginsCall (n : Name) : Prop where
  word : n.IsWord
  begins : Grammar.BeginsCall n.lexeme
  bound : n.lexeme.token.upper ∉ boundWords

/-- A word without a fixed meaning. -/
structure IsPlainWord (w : List Char) : Prop where
  text : IsWordText w
  first : w.head?.any Text.isDecimal = false
  keyword : keyword? (Text.upper (String.ofList w)) = none
  form : Text.upper (String.ofList w) ∉ formWords ++ boundWords ++ specialNames

section
variable {w : List Char}

/-- A word of plain letters is told from the keywords by its capital letters. -/
theorem isPlainWord_of_ascii (hw : ∀ c ∈ w, c.toNat < 0x80) (htext : IsWordText w) (hfirst : w.head?.any Text.isDecimal = false)
    (hkeyword : keyword? (String.ofList (w.map Char.toUpper)) = none)
    (hform : String.ofList (w.map Char.toUpper) ∉ formWords ++ boundWords ++ specialNames) : IsPlainWord w := by
  rw [← Text.upper_ofList hw] at hkeyword hform
  exact ⟨htext, hfirst, hkeyword, hform⟩

theorem IsPlainWord.lexeme (hw : IsPlainWord w) : (Name.mk w false).lexeme = ⟨.name, w⟩ := by
  show wordLexeme w = _
  rw [wordLexeme, wordToken, hw.keyword]

theorem IsPlainWord.beginsColumn (hw : IsPlainWord w) : (Name.mk w false).BeginsColumn := by
  have hform := hw.form
  simp only [List.mem_append, not_or] at hform
  refine ⟨.inr ⟨hw.first, hw.text⟩, ?_, ?_⟩
  · rw [hw.lexeme]
    exact ⟨⟨by simp, by simp, rfl⟩, ⟨by simp, .inr (.inr (.inr hform.1.1)), .inr (by simp)⟩, rfl, .inr rfl, by simp⟩
  · rw [hw.lexeme]
    exact hform.1.2

theorem IsPlainWord.namesMember (hw : IsPlainWord w) : (Name.mk w false).NamesMember := by
  refine ⟨.inr ⟨hw.first, hw.text⟩, ?_⟩
  rw [hw.lexeme]
  exact ⟨⟨by simp, .inl rfl, .inl rfl⟩, rfl, .inr rfl, by simp⟩

theorem IsPlainWord.beginsCall (hw : IsPlainWord w) : (Name.mk w false).BeginsCall := by
  have hform := hw.form
  simp only [List.mem_append, not_or] at hform
  refine ⟨.inr ⟨hw.first, hw.text⟩, ?_, ?_⟩
  · rw [hw.lexeme]
    exact ⟨⟨by simp, by simp, rfl⟩, ⟨by simp, hform.1.1, by simp, rfl⟩, rfl, hform.2, by simp⟩
  · rw [hw.lexeme]
    exact hform.1.2

end

/-! ## Expressions -/

/-- An expression of a level whose text shows its tree before whatever ends an expression of a second level. -/
inductive Legible : Level → Level → Expr → Prop where
  /-- An expression of a level is one of any weaker level. -/
  | lift {l m σ τ : Level} {e : Expr} (h : Legible m σ e) (hm : l ≤ m) (hτ : τ ≤ l.tighter) (hσ : τ ≤ σ) : Legible l τ e
  | number {text : List Char} (h : IsNumberText text) : Legible .unary .unary (.number text)
  | string (text : List Char) : Legible .unary .unary (.string text)
  | constant {s : String} (hs : s ∈ ["TRUE", "FALSE"]) : Legible .unary .unary (.word s.toList)
  | column {qualifiers : List Name} {member : Name} (hlength : qualifiers.length ≤ 3)
    (hfirst : ∀ n ∈ (qualifiers ++ [member]).head?, n.BeginsColumn)
    (hmore : ∀ n ∈ (qualifiers ++ [member]).tail, n.NamesMember) :
    Legible .unary .unary (.column (qualifiers.map .name) (.name member))
  | call {construct : Construct} {function : Name} {es : List Expr} (hconstruct : construct ∈ [.call, .aggregate])
    (hfunction : function.BeginsCall)
    (hcall : callExpr? function.lexeme.token es = some (.enclosed construct (function.rendered ++ ['(']) es [')']))
    (hes : ∀ e ∈ es, Legible .disjunction .disjunction e) :
    Legible .unary .unary (.enclosed construct (function.rendered ++ ['(']) es [')'])
  | grouped {e : Expr} (h : Legible .disjunction .disjunction e) : Legible .unary .unary e.grouped
  | row {es : List Expr} (hlength : 2 ≤ es.length) (hes : ∀ e ∈ es, Legible .disjunction .disjunction e) :
    Legible .unary .unary (.enclosed .row ['('] es [')'])
  | negative {σ : Level} {e : Expr} (h : Legible .unary σ e) : Legible .unary σ e.negative
  /-- A denial reaches as far as a test of identity. -/
  | negated {σ : Level} {e : Expr} (h : Legible .identity σ e) (hσ : σ ≤ .identity) : Legible .unary σ e.negated
  | binary {l τ : Level} {s : String} {op : Operator} {a b : Expr} (hop : (s, op) ∈ l.binaries)
    (ha : Legible l l.tighter a) (hb : Legible l.tighter τ b) (hτ : τ ≤ l.tighter) : Legible l τ (.binary op a b [])
  | pattern {τ : Level} {us : List Lexeme} {op : Operator} {a b : Expr} (hop : (us, op) ∈ patternTests)
    (ha : Legible .ranged .bitwise a) (hb : Legible .bitwise τ b) (hτ : τ ≤ .ranged) :
    Legible .ranged τ (patternExpr op a b none)
  | escaped {us : List Lexeme} {op : Operator} {a b : Expr} (hop : (us, op) ∈ patternTests)
    (ha : Legible .ranged .bitwise a) (hb : Legible .bitwise .bitwise b) (text : List Char) :
    Legible .ranged .ranged (patternExpr op a b (some text))
  | between {τ : Level} {a low high : Expr} (ha : Legible .ranged .bitwise a) (hlow : Legible .bitwise .identity low)
    (hhigh : Legible .bitwise τ high) (hτ : τ ≤ .bitwise) : Legible .ranged τ (betweenExpr a low high)
  | within {a : Expr} {es : List Expr} (ha : Legible .ranged .bitwise a) (hne : es ≠ [])
    (hes : ∀ e ∈ es, Legible .disjunction .disjunction e) :
    Legible .ranged .bitwise (a.followed " IN (".toList es [')'])
  | tested {us : List Lexeme} {op : Operator} {a c : Expr} (hop : (us, op, c) ∈ identityTests)
    (ha : Legible .identity .equality a) (hcomparison : a.isComparison = false) :
    Legible .identity .equality (.binary op a c [])

def plainColumn (qualifiers : List (List Char)) (member : List Char) : Expr :=
  .column (qualifiers.map fun q => .name ⟨q, false⟩) (.name ⟨member, false⟩)

section
variable {l σ τ : Level} {e : Expr}

theorem Legible.operand (h : Legible .unary .unary e) (hτ : τ ≤ l.tighter) : Legible l τ e :=
  h.lift (by cases l <;> decide) hτ (by cases τ <;> decide)

theorem legible_plainColumn {qualifiers : List (List Char)} {member : List Char} (hlength : qualifiers.length ≤ 3)
    (h : ∀ w ∈ qualifiers ++ [member], IsPlainWord w) : Legible .unary .unary (plainColumn qualifiers member) := by
  have hcolumn : plainColumn qualifiers member = .column ((qualifiers.map (Name.mk · false)).map .name) (.name ⟨member, false⟩) := by
    rw [plainColumn, List.map_map]
    rfl
  have hwords : ∀ n ∈ qualifiers.map (Name.mk · false) ++ [⟨member, false⟩], ∃ w, IsPlainWord w ∧ Name.mk w false = n := by
    rw [← List.map_singleton (f := (Name.mk · false)), ← List.map_append]
    intro n hn
    obtain ⟨w, hw, rfl⟩ := List.mem_map.1 hn
    exact ⟨w, h w hw, rfl⟩
  rw [hcolumn]
  refine .column (by simpa using hlength) (fun n hn => ?_) fun n hn => ?_
  · obtain ⟨w, hw, rfl⟩ := hwords n (List.mem_of_head? hn)
    exact hw.beginsColumn
  · obtain ⟨w, hw, rfl⟩ := hwords n (List.mem_of_mem_tail hn)
    exact hw.namesMember

theorem isTest_enclosed (construct : Construct) (first last : List Char) (es : List Expr) (h : construct ≠ .negation) :
    (Expr.enclosed construct first es last).isTest = false := by
  unfold Expr.enclosed
  split <;> (simp only [Expr.isTest, Expr.isDenial, Expr.bare]; split <;> simp_all)

theorem isQuery_enclosed {construct : Construct} (first last : List Char) (es : List Expr)
    (h : construct ∉ [.query, .subquery]) : isQuery (Expr.enclosed construct first es last) = false := by
  simp only [List.mem_cons, List.not_mem_nil, or_false, not_or] at h
  unfold Expr.enclosed
  split <;> (simp only [isQuery, Expr.bare]; split <;> simp_all)

theorem isTest_followed (first last : List Char) (es : List Expr) : (e.followed first es last).isTest = false := by
  unfold Expr.followed
  split <;> rfl

theorem isQuery_followed (first last : List Char) (es : List Expr) : isQuery (e.followed first es last) = false := by
  unfold Expr.followed
  split <;> rfl

theorem isTest_binary {op : Operator} {a b : Expr} {remarks : List (List Char)} (h : op ∉ [.is, .isNot]) :
    (Expr.binary op a b remarks).isTest = false := by
  simp only [List.mem_cons, List.not_mem_nil, or_false, not_or] at h
  simp only [Expr.isTest, Expr.isDenial, Expr.bare]
  split <;> simp_all

theorem not_mem_of_mem_binaries : ∀ l : Level, ∀ p ∈ l.binaries, p.2 ∉ [.is, .isNot] := by
  intro l
  cases l <;> decide

theorem not_mem_of_mem_patternTests : ∀ p ∈ patternTests, p.2 ∉ [.is, .isNot] := by decide

theorem isTest_of_isDenial (h : e.isDenial = true) : e.isTest = true := by
  unfold Expr.isTest
  split <;> first | rfl | exact h

/-- A denial may stand only where an expression of a weak level may end; so may a test of identity, unless it is of such
a level itself. -/
theorem Legible.level_of_isTest (h : Legible l σ e) :
    (e.isDenial = true → σ ≤ .identity) ∧ (e.isTest = true → l ≤ .identity ∨ σ ≤ .identity) := by
  have hno : ∀ {e : Expr} {p q : Prop}, e.isTest = false → (e.isDenial = true → p) ∧ (e.isTest = true → q) := by
    intro e p q hfalse
    have htest : e.isTest = true → False := by simp [hfalse]
    exact ⟨fun hdenial => (htest (isTest_of_isDenial hdenial)).elim, fun h => (htest h).elim⟩
  induction h with
  | lift _ hm _ hσ ih =>
    exact ⟨fun h => Nat.le_trans hσ (ih.1 h), fun h => (ih.2 h).imp (Nat.le_trans hm) (Nat.le_trans hσ)⟩
  | negated _ hσ => exact ⟨fun _ => hσ, fun _ => .inr hσ⟩
  | tested hop =>
    have hdenial : ∀ p ∈ identityTests, ∀ a, (Expr.binary p.2.1 a p.2.2 []).isDenial = false := fun _ _ _ => rfl
    exact ⟨fun h => by simp [hdenial _ hop] at h, fun _ => .inl (by decide)⟩
  | call hconstruct =>
    exact hno (isTest_enclosed _ _ _ _ (by rcases List.mem_pair.1 hconstruct with rfl | rfl <;> decide))
  | row => exact hno (isTest_enclosed _ _ _ _ (by decide))
  | within => exact hno (isTest_followed _ _ _)
  | binary hop => exact hno (isTest_binary (not_mem_of_mem_binaries _ _ hop))
  | pattern hop => exact hno (isTest_binary (not_mem_of_mem_patternTests _ hop))
  | _ => exact hno rfl

theorem Legible.isTest_eq_false (h : Legible l l.tighter e) (hl : ¬ l ≤ .identity) : e.isTest = false := by
  rw [Bool.eq_false_iff]
  exact fun htest => (h.level_of_isTest.2 htest).elim hl fun hle => hl (Nat.le_trans l.le_tighter hle)

theorem Legible.isDenial_eq_false (h : Legible l σ e) (hσ : ¬ σ ≤ .identity) : e.isDenial = false := by
  rw [Bool.eq_false_iff]
  exact fun hdenial => hσ (h.level_of_isTest.1 hdenial)

theorem isRemainder_enclosed (construct : Construct) (first last : List Char) (es : List Expr) :
    (Expr.enclosed construct first es last).isRemainder = false := by
  unfold Expr.enclosed
  split <;> rfl

theorem isRemainder_followed (first last : List Char) (es : List Expr) :
    (e.followed first es last).isRemainder = false := by
  unfold Expr.followed
  split <;> rfl

theorem isRemainder_binary {op : Operator} {a b : Expr} {remarks : List (List Char)} (h : op ≠ .modulo) :
    (Expr.binary op a b remarks).isRemainder = false := by
  simp only [Expr.isRemainder, Expr.bare]
  split <;> simp_all

/-- A remainder is an expression of the level of sums. -/
theorem Legible.level_of_isRemainder (h : Legible l σ e) : e.isRemainder = true → l ≤ .sum := by
  have hno : ∀ {e : Expr} {p : Prop}, e.isRemainder = false → e.isRemainder = true → p := by simp_all
  induction h with
  | lift _ hm _ _ ih => exact fun h => Nat.le_trans hm (ih h)
  | call => exact hno (isRemainder_enclosed _ _ _ _)
  | row => exact hno (isRemainder_enclosed _ _ _ _)
  | within => exact hno (isRemainder_followed _ _ _)
  | binary hop =>
    have hmodulo : ∀ l : Level, ∀ p ∈ l.binaries, p.2 = .modulo → l ≤ .sum := by
      intro l
      cases l <;> decide
    intro hremainder
    refine hmodulo _ _ hop (by_contra fun hne => ?_)
    rw [isRemainder_binary hne] at hremainder
    cases hremainder
  | pattern hop =>
    have hmodulo : ∀ p ∈ patternTests, p.2 ≠ .modulo := by decide
    exact hno (isRemainder_binary (hmodulo _ hop))
  | tested hop =>
    have hmodulo : ∀ p ∈ identityTests, p.2.1 ≠ .modulo := by decide
    exact hno (isRemainder_binary (hmodulo _ hop))
  | _ => exact hno rfl

theorem Legible.isRemainder_eq_false (h : Legible l σ e) (hl : ¬ l ≤ .sum) : e.isRemainder = false := by
  rw [Bool.eq_false_iff]
  exact fun hremainder => hl (h.level_of_isRemainder hremainder)

/-- An operation whose operands are legible needs no parentheses. -/
theorem Legible.operated {s : String} {op : Operator} {a b : Expr} (ha : Legible l l.tighter a)
    (hop : (s, op) ∈ l.binaries) (hb : Legible l.tighter τ b) : Expr.operated op a b = .binary op a b [] := by
  have htest : ¬ l ≤ .identity → a.compared = a := fun hl => by simp [Expr.compared, ha.isTest_eq_false hl]
  have hleft : ¬ l ≤ .sum → a.factor = a := fun hl => by simp [Expr.factor, ha.isRemainder_eq_false hl]
  have hright : ¬ l.tighter ≤ .sum → b.factor = b := fun hl => by simp [Expr.factor, hb.isRemainder_eq_false hl]
  cases l with
  | identity | ranged | unary => cases hop
  | disjunction | conjunction =>
    simp only [Level.binaries, List.mem_cons, Prod.mk.injEq, List.not_mem_nil, or_false] at hop
    obtain ⟨-, rfl⟩ := hop
    rfl
  | equality | comparison | bitwise =>
    have hoperated : ∀ p ∈ Level.equality.binaries ++ Level.comparison.binaries ++ Level.bitwise.binaries,
        Expr.operated p.2 a b = .binary p.2 a.compared b [] := by
      simp [Level.binaries, Expr.operated]
    have hcompared := hoperated (s, op) (by simp [hop])
    rwa [htest (by decide)] at hcompared
  | sum =>
    simp only [Level.binaries, List.mem_cons, Prod.mk.injEq, List.not_mem_nil, or_false] at hop
    rcases hop with ⟨-, rfl⟩ | ⟨-, rfl⟩ | ⟨-, rfl⟩ <;>
      simp only [Expr.operated, htest (by decide), hright (by decide)]
  | product =>
    simp only [Level.binaries, List.mem_cons, Prod.mk.injEq, List.not_mem_nil, or_false] at hop
    rcases hop with ⟨-, rfl⟩ | ⟨-, rfl⟩ <;>
      simp only [Expr.operated, htest (by decide), hleft (by decide), hright (by decide)]

theorem Legible.isQuery (h : Legible l σ e) : isQuery e = false := by
  induction h with
  | lift _ _ _ _ ih => exact ih
  | call hconstruct => exact isQuery_enclosed _ _ _ (by rcases List.mem_pair.1 hconstruct with rfl | rfl <;> decide)
  | row => exact isQuery_enclosed _ _ _ (by decide)
  | within => exact isQuery_followed _ _ _
  | _ => rfl

end

end FeatureGraph.Filter
