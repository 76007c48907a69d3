import FeatureGraph.Proofs.Filter.Operators
import FeatureGraph.Proofs.Text.LetterCase

/-! # Reading tests of range and of identity -/
namespace FeatureGraph.Filter.Grammar
open Reader Cursor

section
variable {σ τ : Level} {ts us : List Lexeme} {e a c : Expr} {b r : List Lexeme} {t : Lexeme} {g : Rules} {n : ℕ}

/-! ## Where an operand ends -/

theorem upper_of_mem_stops {s : String} (hs : s ∈ σ.stops) : (Lexeme.fixed s).token.upper = s := by
  have hletters : ∀ s ∈ Level.unary.stops, ∀ c ∈ s.toList, c.toNat < 0x80 ∧ c.toUpper = c := by decide +kernel
  show Text.upper (String.ofList s.toList) = s
  rw [String.ofList_toList]
  exact Text.upper_eq_self (hletters s (Level.stops_subset (by cases σ <;> decide) hs))

/-- An operand ends before an operator of a weaker level, or a word after it. -/
theorem stops_fixed {s : String} (hs : s ∈ σ.stops) (hr : ∀ u ∈ r.head?, u.kind ≠ .fixed "<" ∧ u.kind ≠ .fixed ">") :
    Stops σ (.fixed s :: r) := by
  refine ⟨?_, ?_⟩
  · rintro u ⟨⟩
    exact ⟨s, hs, rfl, upper_of_mem_stops hs⟩
  · rintro s' hs' - u hu
    rw [List.getElem?_cons_succ, ← List.head?_eq_getElem?] at hu
    rcases List.mem_pair.1 hs' with rfl | rfl
    · exact (hr u hu).1
    · exact (hr u hu).2

theorem stops_word {s : String} (hs : s ∈ σ.stops) (hangle : s ∉ ["<", ">"]) : Stops σ (.fixed s :: r) := by
  refine ⟨?_, ?_⟩
  · rintro u ⟨⟩
    exact ⟨s, hs, rfl, upper_of_mem_stops hs⟩
  · rintro s' hs' ⟨u, ⟨⟩, hkind⟩
    obtain rfl : s = s' := by simpa [Lexeme.fixed] using hkind
    exact absurd hs' hangle

/-! ## Denials -/

theorem Reads.negated (h : Reads .identity σ ts e) : Reads .unary σ (.fixed "NOT" :: ts) e.negated := by
  intro n hn b r hr
  rw [List.length_cons] at hn
  obtain ⟨m, rfl⟩ : ∃ m, n = m + 1 := Nat.exists_eq_succ_of_ne_zero (by omega)
  have hread : ((rules (m + 1)).identity).run (mid (b ++ [.fixed "NOT"]) (ts ++ r)) =
      some (some e, mid (b ++ [.fixed "NOT"] ++ ts) r) := h m (by omega) _ r hr
  have hnot : ∀ s, s ≠ "NOT" → (accept s).run (mid b (.fixed "NOT" :: (ts ++ r))) =
      some (false, mid b (.fixed "NOT" :: (ts ++ r))) := by
    intro s hs
    exact run_accept_none (by rintro u ⟨⟩; simpa [Lexeme.fixed] using hs.symm)
  show (unary _).run _ = _
  rw [List.cons_append, unary, run_bind_of (hnot "-" (by decide)), if_neg (by decide), run_bind_of (hnot "+" (by decide)),
    if_neg (by decide), run_bind_of (run_accept_of rfl), if_pos rfl, run_bind_of (run_need hread), run_bind_of (run_built _)]
  simp

/-! ## Tests of range -/

def rangeBody (g : Rules) (e : Expr) : Reader (Option Expr) := do
  match ← takeIf fun t => rangeOperators.any fun o => t.is o.1 with
  | some t => do
    let right ← need (bitwise g)
    let op := ((rangeOperators.find? fun o => t.is o.1).map Prod.snd).getD .like
    pure (some (← escaped (← built (.operated op e right))))
  | none => do
    match ← acceptAny ["BETWEEN", "IN", "<@", "@@", "OPERATOR"] with
    | none => pure none
    | some t =>
      if t.is "BETWEEN" then pure (some (← between g e))
      else if t.is "IN" then pure (some (← membership g e))
      else if t.is "<@" then pure (some (← escaped (← built (.operated .contains (← need (bitwise g)) e))))
      else if t.is "@@" then
        pure (some (← built (.form .plain [] [(e.compared, " @@ ".toList), (← need (bitwise g), [])])))
      else pure (some (← namedOperation g e))

theorem rangeTest_eq (g : Rules) (e : Expr) : rangeTest g e = (do
    let start ← get
    let isDenied ← accept "NOT"
    match ← rangeBody g e with
    | none =>
      backTo start
      return none
    | some e => if isDenied then return some (← denied e) else return some e) := by
  rw [rangeTest]
  refine bind_congr fun start => bind_congr fun isDenied => ?_
  simp only [rangeBody, bind_assoc]
  refine bind_congr fun o => ?_
  cases o with
  | some t => simp only [bind_assoc, pure_bind]
  | none =>
    dsimp only
    rw [bind_assoc]
    refine bind_congr fun o => ?_
    cases o with
    | none => rfl
    | some t =>
      dsimp only
      split_ifs <;> simp only [bind_assoc, pure_bind]

theorem run_rangeTest {c : Cursor} (ht : t.kind ≠ .fixed "NOT") (h : (rangeBody g a).run (mid b (t :: r)) = some (some e, c)) :
    (rangeTest g a).run (mid b (t :: r)) = some (some e, c) := by
  have hnot : (accept "NOT").run (mid b (t :: r)) = some (false, mid b (t :: r)) :=
    run_accept_none (by rintro u ⟨⟩; exact ht)
  rw [rangeTest_eq, run_bind_of (StateT.run_get _), run_bind_of hnot, run_bind_of h]
  rfl

theorem run_rangeTest_denied {c c' : Cursor} {e' : Expr} (h : (rangeBody g a).run (mid (b ++ [.fixed "NOT"]) r) = some (some e, c))
    (hdenied : (denied e).run c = some (e', c')) :
    (rangeTest g a).run (mid b (.fixed "NOT" :: r)) = some (some e', c') := by
  rw [rangeTest_eq, run_bind_of (StateT.run_get _), run_bind_of (run_accept_of rfl), run_bind_of h]
  dsimp only
  rw [if_pos rfl, run_bind_of hdenied]
  rfl

/-! ## Patterns -/

/-- A test with a pattern, and its escape character if it has one. -/
def patternExpr (op : Operator) (a e : Expr) : Option (List Char) → Expr
  | none => .binary op a e []
  | some text => .binary .escape (.binary op a e []) (.string text) []

def escapeTokens : Option (List Char) → List Lexeme
  | none => []
  | some text => [.fixed "ESCAPE", ⟨.string, text⟩]

theorem run_escaped {op : Operator} (escape : Option (List Char)) (hr : ∀ u ∈ r.head?, u.kind ≠ .fixed "ESCAPE") :
    (escaped (.binary op a e [])).run (mid b (escapeTokens escape ++ r)) =
      some (patternExpr op a e escape, mid (b ++ escapeTokens escape) r) := by
  cases escape with
  | none =>
    rw [escapeTokens, List.nil_append, List.append_nil, escaped, run_bind_of (run_accept_none hr)]
    rfl
  | some text =>
    have htext : escapeText.run (mid (b ++ [.fixed "ESCAPE"]) (⟨.string, text⟩ :: r)) =
        some (.string text, mid (b ++ [.fixed "ESCAPE", ⟨.string, text⟩]) r) := by
      rw [escapeText, run_bind_of (run_takeIf_of rfl)]
      dsimp only
      rw [List.append_assoc]
      exact run_built _
    show (escaped (.binary op a e [])).run (mid b (.fixed "ESCAPE" :: ⟨.string, text⟩ :: r)) = _
    rw [escaped, run_bind_of (run_accept_of rfl), if_pos rfl, run_bind_of htext, run_built]
    rfl

def patternOperators : List (String × Operator × Operator) := [("LIKE", .like, .notLike), ("ILIKE", .ilike, .notIlike)]

theorem operated_pattern {s : String} {op op' : Operator} (h : (s, op, op') ∈ patternOperators) (ha : a.isTest = false) :
    Expr.operated op a e = .binary op a e [] := by
  simp only [patternOperators, List.mem_cons, Prod.mk.injEq, List.not_mem_nil, or_false] at h
  rcases h with ⟨-, rfl, -⟩ | ⟨-, rfl, -⟩ <;> simp [Expr.operated, Expr.compared, ha]

theorem run_rangeBody_pattern {s : String} {op op' : Operator} {escape : Option (List Char)}
    (h : (s, op, op') ∈ patternOperators) (ha : a.isTest = false)
    (hright : ∀ b, (bitwise g).run (mid b (ts ++ (escapeTokens escape ++ r))) =
      some (some e, mid (b ++ ts) (escapeTokens escape ++ r)))
    (hr : ∀ u ∈ r.head?, u.kind ≠ .fixed "ESCAPE") (b : List Lexeme) :
    (rangeBody g a).run (mid b (.fixed s :: (ts ++ (escapeTokens escape ++ r)))) =
      some (some (patternExpr op a e escape), mid (b ++ .fixed s :: (ts ++ escapeTokens escape)) r) := by
  have htest : (fun o : String × Operator => (Lexeme.fixed s).token.is o.1) = fun o => decide (s = o.1) := by
    funext o
    simp
  have hfind : rangeOperators.find? (fun o => decide (s = o.1)) = some (s, op) := by
    simp only [patternOperators, List.mem_cons, Prod.mk.injEq, List.not_mem_nil, or_false] at h
    rcases h with ⟨rfl, rfl, -⟩ | ⟨rfl, rfl, -⟩ <;> rfl
  have htake : (takeIf fun t => rangeOperators.any fun o => t.is o.1).run
      (mid b (.fixed s :: (ts ++ (escapeTokens escape ++ r)))) =
      some (some (Lexeme.fixed s).token, mid (b ++ [.fixed s]) (ts ++ (escapeTokens escape ++ r))) :=
    run_takeIf_of (List.any_eq_true.2 ⟨_, List.mem_of_find?_eq_some hfind, by simp⟩)
  rw [rangeBody, run_bind_of htake]
  dsimp only
  rw [run_bind_of (run_need (hright _)), htest, hfind]
  dsimp only [Option.map_some, Option.getD_some]
  rw [run_bind_of (run_built _), operated_pattern h ha, run_bind_of (run_escaped escape hr)]
  simp

def patternTests : List (List Lexeme × Operator) :=
  patternOperators.flatMap fun (s, op, op') => [([.fixed s], op), ([.fixed "NOT", .fixed s], op')]

theorem readsStep_pattern {op : Operator} (escape : Option (List Char)) (h : (us, op) ∈ patternTests) (ha : a.isTest = false)
    (hright : Reads .bitwise σ ts e) (hτ : τ ≤ .ranged) (hnext : ∀ r, Stops τ r → Stops σ (escapeTokens escape ++ r)) :
    ReadsStep .ranged τ (us ++ (ts ++ escapeTokens escape)) a (patternExpr op a e escape) := by
  intro n hn b r hr
  simp only [List.length_append] at hn
  have hread := fun b => hright n (by omega) b _ (hnext r hr)
  have hend := (hr.mono hτ).next.kind_ne (s := "ESCAPE") (by decide)
  show (rangeTest (rules n) a).run _ = _
  obtain ⟨⟨s, base, denial⟩, hs, hcase⟩ := List.mem_flatMap.1 h
  simp only [List.mem_cons, Prod.mk.injEq, List.not_mem_nil, or_false] at hcase
  rw [List.append_assoc, List.append_assoc]
  rcases hcase with ⟨rfl, rfl⟩ | ⟨rfl, rfl⟩
  · refine run_rangeTest ?_ (run_rangeBody_pattern hs ha hread hend b)
    simp only [patternOperators, List.mem_cons, Prod.mk.injEq, List.not_mem_nil, or_false] at hs
    rcases hs with ⟨rfl, -⟩ | ⟨rfl, -⟩ <;> simp [Lexeme.fixed]
  · have hbody := run_rangeBody_pattern hs ha hread hend (b ++ [.fixed "NOT"])
    rw [List.append_assoc] at hbody
    refine run_rangeTest_denied hbody ?_
    simp only [patternOperators, List.mem_cons, Prod.mk.injEq, List.not_mem_nil, or_false] at hs
    rcases hs with ⟨rfl, rfl, rfl⟩ | ⟨rfl, rfl, rfl⟩ <;> cases escape <;> rfl

/-! ## Bounds -/

theorem run_acceptWords_none {s : String} {ws : List String} (ht : reads s t.token = false) :
    (acceptWords (s :: ws)).run (mid b (t :: r)) = some (false, mid b (t :: r)) := by
  have htake : (takeIf (reads s)).run (mid b (t :: r)) = some (none, mid b (t :: r)) :=
    run_takeIf_none (by rintro u ⟨⟩; exact ht)
  have hback : (backTo (mid b (t :: r))).run (mid b (t :: r)) = some ((), mid b (t :: r)) := run_backTo rfl
  simp only [Reader.acceptWords, StateT.run_bind, StateT.run_get, List.forIn_cons, htake, hback, Option.pure_def,
    Option.bind_eq_bind, Option.bind_some, Option.isNone_none, if_true]
  rfl

def betweenExpr (a low high : Expr) : Expr :=
  .form .plain [] [(a, " BETWEEN ".toList), (low, " AND ".toList), (high, [])]

/-- A lower bound may be denied, but what ends it is the word before the upper one. -/
theorem readsStep_between {low high : Expr} (ha : a.isTest = false) (hlow : Reads .bitwise σ ts low) (hσ : .identity ≤ σ)
    (hfirst : ∃ t ts', ts = t :: ts' ∧ ∀ s ∈ ["SYMMETRIC", "ASYMMETRIC"], reads s t.token = false)
    (hhigh : Reads .bitwise τ us high) :
    ReadsStep .ranged τ (.fixed "BETWEEN" :: (ts ++ .fixed "AND" :: us)) a (betweenExpr a low high) := by
  intro n hn b r hr
  simp only [List.length_cons, List.length_append] at hn
  have hand : Stops σ (.fixed "AND" :: (us ++ r)) := stops_word (Level.stops_subset hσ (by decide)) (by decide)
  have hreadLow : (bitwise (rules n)).run _ = _ := hlow n (by omega) (b ++ [.fixed "BETWEEN"]) _ hand
  have hreadHigh : (bitwise (rules n)).run _ = _ :=
    hhigh n (by omega) (b ++ [.fixed "BETWEEN"] ++ ts ++ [.fixed "AND"]) r hr
  have hbetween : (between (rules n) a).run (mid (b ++ [.fixed "BETWEEN"]) (ts ++ (.fixed "AND" :: (us ++ r)))) =
      some (betweenExpr a low high, mid (b ++ .fixed "BETWEEN" :: (ts ++ .fixed "AND" :: us)) r) := by
    obtain ⟨t, ts', rfl, hwords⟩ := hfirst
    rw [List.cons_append] at hreadLow ⊢
    rw [between, run_bind_of (run_acceptWords_none (hwords _ (by simp))), if_neg (by decide),
      run_bind_of (run_acceptWords_none (hwords _ (by simp))), if_neg (by decide), run_bind_of (StateT.run_pure _ _)]
    dsimp only
    rw [run_bind_of (run_need hreadLow), run_bind_of (run_accept_of rfl), run_bind_of (run_need hreadHigh), run_built,
      Expr.compared, ha]
    simp [betweenExpr]
  have hoperator : (takeIf fun t => rangeOperators.any fun o => t.is o.1).run
      (mid b (.fixed "BETWEEN" :: (ts ++ .fixed "AND" :: (us ++ r)))) =
      some (none, mid b (.fixed "BETWEEN" :: (ts ++ .fixed "AND" :: (us ++ r)))) :=
    run_takeIf_none (by rintro u ⟨⟩; decide)
  have htake : (acceptAny ["BETWEEN", "IN", "<@", "@@", "OPERATOR"]).run
      (mid b (.fixed "BETWEEN" :: (ts ++ .fixed "AND" :: (us ++ r)))) =
      some (some (Lexeme.fixed "BETWEEN").token, mid (b ++ [.fixed "BETWEEN"]) (ts ++ .fixed "AND" :: (us ++ r))) :=
    run_takeIf_of (by decide)
  have hbody : (rangeBody (rules n) a).run (mid b (.fixed "BETWEEN" :: (ts ++ .fixed "AND" :: (us ++ r)))) =
      some (some (betweenExpr a low high), mid (b ++ .fixed "BETWEEN" :: (ts ++ .fixed "AND" :: us)) r) := by
    rw [rangeBody, run_bind_of hoperator]
    dsimp only
    rw [run_bind_of htake]
    dsimp only
    rw [if_pos (by decide), run_bind_of hbetween]
    rfl
  show (rangeTest (rules n) a).run _ = _
  rw [List.cons_append, List.append_assoc, List.cons_append]
  exact run_rangeTest (by decide) hbody

/-! ## Tests of identity -/

/-- The constants that an expression may be tested for. -/
theorem reads_constant {s : String} (hs : s ∈ ["TRUE", "FALSE"]) : Reads .unary .unary [.fixed s] (.word s.toList) := by
  intro n _ b r hr
  have hplain : BeginsPlain (.fixed s) ∧ literalOf (Lexeme.fixed s).token = some (.word s.toList) := by
    rcases List.mem_pair.1 hs with rfl | rfl
    · exact ⟨⟨by decide, by decide, by decide⟩, rfl⟩
    · exact ⟨⟨by decide, by decide, by decide⟩, rfl⟩
  refine run_operand_of_reference [] hplain.1 ?_ hr.next
  exact run_reference_of_primary (run_primary_literal hplain.2 (by simp [Lexeme.fixed])) (by simp [Expr.popRemarks])

/-- The words of a test of identity, its operator, and what it tests for. -/
def identityTests : List (List Lexeme × Operator × Expr) :=
  [([.fixed "NULL"], .is, .null), ([.fixed "NOT", .fixed "NULL"], .isNot, .null),
    ([.fixed "TRUE"], .is, .word "TRUE".toList), ([.fixed "FALSE"], .is, .word "FALSE".toList)]

theorem operated_identity {op : Operator} (h : op = .is ∨ op = .isNot) (hcomparison : a.isComparison = false)
    (hdenial : a.isDenial = false) : Expr.operated op a c = .binary op a c [] := by
  rcases h with rfl | rfl <;> simp [Expr.operated, Expr.tested, hcomparison, hdenial]

theorem run_identityTest_null (isNot : Bool) (hcomparison : a.isComparison = false) (hdenial : a.isDenial = false)
    (hr : Next Level.unary.stops r) :
    (identityTest g a).run (mid b ((if isNot then [.fixed "NOT"] else []) ++ .fixed "NULL" :: r)) =
      some (some (.binary (if isNot then .isNot else .is) a .null []),
        mid (b ++ ((if isNot then [.fixed "NOT"] else []) ++ [.fixed "NULL"])) r) := by
  have hnot : (accept "NOT").run (mid b ((if isNot then [.fixed "NOT"] else []) ++ .fixed "NULL" :: r)) =
      some (isNot, mid (b ++ if isNot then [.fixed "NOT"] else []) (.fixed "NULL" :: r)) := by
    cases isNot with
    | true => exact run_accept_of rfl
    | false =>
      rw [if_neg (by decide), List.nil_append, List.append_nil]
      exact run_accept_none (by rintro u ⟨⟩; decide)
  have hop : (if isNot then Operator.isNot else .is) = .is ∨ (if isNot then Operator.isNot else .is) = .isNot := by
    cases isNot
    · exact .inl rfl
    · exact .inr rfl
  rw [identityTest, run_bind_of hnot, run_bind_of (run_acceptWords_none (by decide)), if_neg (by decide),
    run_bind_of (run_takeIf_of (by decide))]
  dsimp only
  rw [run_bind_of (run_built _), run_bind_of (run_built _), operated_identity hop hcomparison hdenial,
    run_bind_of (run_suffixes_none hr), List.append_assoc]
  rfl

theorem run_identityTest_constant {s : String} {n : ℕ} (hs : s ∈ ["TRUE", "FALSE"]) (hn : 1 < n)
    (hcomparison : a.isComparison = false) (hdenial : a.isDenial = false) (hr : Stops .equality r) :
    (identityTest (rules n) a).run (mid b (.fixed s :: r)) =
      some (some (.binary .is a (.word s.toList) []), mid (b ++ [.fixed s]) r) := by
  have hwords : ∀ s ∈ ["TRUE", "FALSE"], (Lexeme.fixed s).kind ≠ .fixed "NOT" ∧ (Lexeme.fixed s).kind ≠ .fixed "JSON" ∧
      reads "DISTINCT" (Lexeme.fixed s).token = false ∧
      ((Lexeme.fixed s).token.is "NULL" || (Lexeme.fixed s).token.is "UNKNOWN") = false ∧
      ∀ p ∈ ["?", "@", ":", "%"], (Lexeme.fixed s).kind ≠ .fixed p := by decide
  obtain ⟨hnot, hjson, hdistinct, hnull, hparameter⟩ := hwords s hs
  have hright : (bitwise (rules n)).run (mid b ([.fixed s] ++ r)) = some (some (.word s.toList), mid (b ++ [.fixed s]) r) :=
    (reads_constant hs).lift (m := .bitwise) (τ := .equality) (by decide) (by decide) (by decide) n (by simpa using hn) b r hr
  have hparameter : (parameter).run (mid b (.fixed s :: r)) = some (none, mid b (.fixed s :: r)) := by
    rw [parameter, run_bind_of (StateT.run_get _), run_bind_of (run_acceptAny_none ?_)]
    · rfl
    · rintro p hp u ⟨⟩
      exact hparameter p hp
  rw [identityTest, run_bind_of (run_accept_none (by rintro u ⟨⟩; exact hnot)),
    run_bind_of (run_acceptWords_none hdistinct), if_neg (by decide),
    run_bind_of (run_takeIf_none (by rintro u ⟨⟩; exact hnull))]
  dsimp only
  rw [run_bind_of (run_accept_none (by rintro u ⟨⟩; exact hjson)), if_neg (by decide),
    run_bind_of ((run_orElse_none hparameter).trans hright)]
  dsimp only
  rw [run_bind_of (run_built _), operated_identity (.inl rfl) hcomparison hdenial, if_neg (by decide),
    run_bind_of (StateT.run_pure _ _), run_bind_of (run_suffixes_none (hr.mono (by decide)).next)]
  rfl

theorem readsStep_identity {op : Operator} (h : (us, op, c) ∈ identityTests) (hcomparison : a.isComparison = false)
    (hdenial : a.isDenial = false) :
    ReadsStep .identity .equality (.fixed "IS" :: us) a (.binary op a c []) := by
  intro n hn b r hr
  rw [List.length_cons] at hn
  have htest : (identityTest (rules n) a).run (mid (b ++ [.fixed "IS"]) (us ++ r)) =
      some (some (.binary op a c []), mid (b ++ .fixed "IS" :: us) r) := by
    have happend : b ++ .fixed "IS" :: us = b ++ [.fixed "IS"] ++ us := by simp
    have hnext := (hr.mono (m := .unary) (by decide)).next
    simp only [identityTests, List.mem_cons, Prod.mk.injEq, List.not_mem_nil, or_false] at h
    rw [happend]
    rcases h with ⟨rfl, rfl, rfl⟩ | ⟨rfl, rfl, rfl⟩ | ⟨rfl, rfl, rfl⟩ | ⟨rfl, rfl, rfl⟩
    · exact run_identityTest_null false hcomparison hdenial hnext
    · exact run_identityTest_null true hcomparison hdenial hnext
    · exact run_identityTest_constant (by simp) (by simp at hn; omega) hcomparison hdenial hr
    · exact run_identityTest_constant (by simp) (by simp at hn; omega) hcomparison hdenial hr
  have hranges : ∀ e b, (rangeTests (rules n) e).run (mid b r) = some (e, mid b r) := fun e b =>
    run_repeated_none fun b => run_rangeTest_none hr.next (Level.stops_subset (by decide))
  have horders : ∀ e b, (chainFrom orders (ranged (rules n)) e).run (mid b r) = some (e, mid b r) := fun e b =>
    run_repeated_none fun b => run_chainStep_none hr.next (by decide)
  have hequalities : ∀ e b, (chainFrom equalities (comparison (rules n)) e).run (mid b r) = some (e, mid b r) := fun e b =>
    run_repeated_none fun b => run_chainStep_none hr.next (by decide)
  show (identityStep (rules n) a).run _ = _
  rw [List.cons_append, identityStep, run_bind_of (StateT.run_get _),
    run_bind_of (run_accept_none (by rintro u ⟨⟩; decide)), run_bind_of (run_accept_of rfl), if_pos rfl,
    run_bind_of htest]
  dsimp only
  rw [if_neg (by decide), run_bind_of (StateT.run_pure _ _), run_bind_of (hranges _ _), run_bind_of (horders _ _),
    run_bind_of (hequalities _ _)]
  rfl

end

end FeatureGraph.Filter.Grammar
