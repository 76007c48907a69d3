import FeatureGraph.Proofs.Filter.Operands

/-! # Reading operators and their operands -/
namespace FeatureGraph.Filter.Grammar
open Reader Cursor

/-! ## Expressions in their place -/

def nonOpeners : List String :=
  ["WITH", "SELECT", "VALUES", "DISTINCT", "AS", ":=", ")", ",", "<", ">", "]"]

def Opens (t : Lexeme) : Prop := ∀ s ∈ nonOpeners, t.kind ≠ .fixed s

instance (t : Lexeme) : Decidable (Opens t) := inferInstanceAs (Decidable (∀ s ∈ nonOpeners, t.kind ≠ .fixed s))

/-- An expression of a level, read from tokens the first of which may begin one. -/
structure Spans (l σ : Level) (ts : List Lexeme) (e : Expr) : Prop where
  reads : Reads l σ ts e
  opens : ∃ t ts', ts = t :: ts' ∧ Opens t

section
variable {l m σ τ : Level} {ts : List Lexeme} {e e' : Expr} {b r : List Lexeme} {t : Lexeme} {g : Rules}

theorem Spans.lift (h : Spans l σ ts e) (hm : m ≤ l) (hτm : τ ≤ m) (hτσ : τ ≤ σ) : Spans m τ ts e :=
  ⟨h.reads.lift hm hτm hτσ, h.opens⟩

theorem stops_of_next {stops : List String} (hr : Next stops r) (h : stops ⊆ Level.closers) : Stops .disjunction r := by
  refine ⟨hr.mono (List.subset_append_of_subset_left _ h), fun s hs hkind => ?_⟩
  obtain ⟨t, ht, hkind⟩ := hkind
  refine absurd hkind (hr.kind_ne (fun hmem => ?_) t ht)
  have hclosers : s ∉ Level.closers := by
    rcases List.mem_pair.1 hs with rfl | rfl
    · decide
    · decide
  exact hclosers (h hmem)

/-! ## Elements of lists -/

def queryWords : List String := ["WITH", "SELECT", "VALUES"]

theorem run_query_absent (ht : ∀ s ∈ queryWords, t.kind ≠ .fixed s) :
    (query g false).run (mid b (t :: r)) = some (none, mid b (t :: r)) := by
  have hnot : ∀ s ∈ queryWords, (accept s).run (mid b (t :: r)) = some (false, mid b (t :: r)) := by
    intro s hs
    refine run_accept_none ?_
    rintro u ⟨⟩
    exact ht s hs
  have hnamed : (namedQueries g).run (mid b (t :: r)) = some (none, mid b (t :: r)) := by
    rw [namedQueries, run_bind_of (hnot "WITH" (by decide))]
    rfl
  have hno : ¬false = true := by decide
  rw [query, run_bind_of hnamed, run_bind_of (hnot "SELECT" (by decide))]
  dsimp only
  rw [if_neg hno, run_bind_of run_acceptIf_false, if_neg hno, run_bind_of (hnot "VALUES" (by decide)), if_neg hno]
  rfl

theorem run_query_none (ht : Opens t) : (query g false).run (mid b (t :: r)) = some (none, mid b (t :: r)) := by
  have hopeners : ∀ s ∈ queryWords, s ∈ nonOpeners := by decide
  exact run_query_absent fun s hs => ht s (hopeners s hs)

theorem run_assignment (h : Reads .disjunction .disjunction ts e) {n : ℕ} (hn : ts.length < n)
    (hr : Stops .disjunction r) : (assignment (rules n)).run (mid b (ts ++ r)) = some (some e, mid (b ++ ts) r) := by
  have hread : (disjunction (rules n)).run (mid b (ts ++ r)) = some (some e, mid (b ++ ts) r) := h n hn b r hr
  rw [assignment, run_bind_of hread]
  dsimp only
  rw [run_bind_of (hr.next.accept (by decide))]
  rfl

theorem run_queryOrExpression (h : Spans .disjunction .disjunction ts e) {n : ℕ} (hn : ts.length + 1 < n)
    (hr : Stops .disjunction r) :
    (queryOrExpression (rules n) false).run (mid b (ts ++ r)) = some (some e, mid (b ++ ts) r) := by
  obtain ⟨m, rfl⟩ : ∃ m, n = m + 1 := Nat.exists_eq_succ_of_ne_zero (by omega)
  obtain ⟨t, ts', rfl, ht⟩ := h.opens
  have hquery : ((rules (m + 1)).query false).run (mid b (t :: ts' ++ r)) = some (none, mid b (t :: ts' ++ r)) :=
    run_query_none ht
  have hassignment : ((rules (m + 1)).assignment).run (mid b (t :: ts' ++ r)) = some (some e, mid (b ++ t :: ts') r) :=
    run_assignment h.reads (by omega) hr
  rw [queryOrExpression, run_orElse_none hquery, run_bind_of hassignment]
  rfl

def listedTokens : List (List Lexeme × Expr) → List Lexeme
  | [] => []
  | item :: items => item.1 ++ afterCommas items

theorem readsElement_queryOrExpression {n : ℕ} {item : List Lexeme × Expr}
    (h : Spans .disjunction .disjunction item.1 item.2) (hn : item.1.length + 1 < n) :
    ReadsElement (queryOrExpression (rules n) false) [")"] item := fun b r hr =>
  run_queryOrExpression h hn (stops_of_next hr (by decide))

theorem length_le_afterCommas {items : List (List Lexeme × Expr)} {item : List Lexeme × Expr} (h : item ∈ items) :
    item.1.length + 1 ≤ (afterCommas items).length := by
  induction items with
  | nil => exact absurd h List.not_mem_nil
  | cons first items ih =>
    rw [afterCommas, List.flatMap_cons, List.length_append, List.length_cons]
    rcases List.mem_cons.1 h with rfl | h
    · exact Nat.le_add_right _ _
    · exact Nat.le_trans (ih h) (Nat.le_add_left _ _)

theorem length_le_listedTokens {items : List (List Lexeme × Expr)} {item : List Lexeme × Expr} (h : item ∈ items) :
    item.1.length ≤ (listedTokens items).length := by
  cases items with
  | nil => exact absurd h List.not_mem_nil
  | cons first items =>
    rw [listedTokens, List.length_append]
    rcases List.mem_cons.1 h with rfl | h
    · exact Nat.le_add_right _ _
    · have := length_le_afterCommas h
      omega

/-- What follows `IN`: some elements in parentheses. -/
theorem run_membership {items : List (List Lexeme × Expr)} (hitems : ∀ item ∈ items, Spans .disjunction .disjunction item.1 item.2)
    (hne : items ≠ []) {n : ℕ} (hn : (listedTokens items).length + 1 < n) :
    (membership (rules n) e).run (mid b (.fixed "(" :: (listedTokens items ++ .fixed ")" :: r))) =
      some (e.compared.followed " IN (".toList (items.map Prod.snd) [')'],
        mid (b ++ .fixed "(" :: (listedTokens items ++ [.fixed ")"])) r) := by
  obtain ⟨first, items, rfl⟩ := List.exists_cons_of_ne_nil hne
  have hreads : ∀ item ∈ first :: items, ReadsElement (queryOrExpression (rules n) false) [")"] item := by
    intro item hitem
    have hlength := length_le_listedTokens hitem
    exact readsElement_queryOrExpression (hitems item hitem) (by omega)
  obtain ⟨hfirst, hrest⟩ := List.forall_mem_cons.1 hreads
  have hclose : Next [")"] (.fixed ")" :: r) := by
    rintro t ⟨⟩
    exact ⟨")", by simp, rfl, by decide⟩
  have hlist := run_separated hfirst hrest hclose (by decide) (b ++ [.fixed "("])
  have hopen : (acceptAny ["(", "["]).run (mid b (.fixed "(" :: (listedTokens (first :: items) ++ .fixed ")" :: r))) =
      some (some (Lexeme.fixed "(").token, mid (b ++ [.fixed "("]) (listedTokens (first :: items) ++ .fixed ")" :: r)) :=
    run_takeIf_of rfl
  have hpair : (acceptPair "UNNEST" "(").run (mid b (.fixed "(" :: (listedTokens (first :: items) ++ .fixed ")" :: r))) =
      some (false, mid b (.fixed "(" :: (listedTokens (first :: items) ++ .fixed ")" :: r))) := by
    rw [acceptPair, run_bind_of run_peek, run_bind_of run_peekSecond]
    rfl
  rw [membership, run_bind_of hpair, if_neg (by decide), run_bind_of hopen]
  dsimp only
  rw [listedTokens, run_bind_of hlist, run_bind_of (run_built _)]
  show (expectFor ")" _).run _ = _
  rw [run_expectFor rfl]
  simp

/-! ## Steps -/

/-- A test of range by a list of elements. -/
theorem readsStep_membership {items : List (List Lexeme × Expr)}
    (hitems : ∀ item ∈ items, Spans .disjunction .disjunction item.1 item.2) (hne : items ≠ [])
    (ht : t.kind = .fixed "IN") : ReadsStep .ranged σ (t :: .fixed "(" :: (listedTokens items ++ [.fixed ")"])) e
      (e.compared.followed " IN (".toList (items.map Prod.snd) [')']) := by
  intro n hn b r _
  simp only [List.length_cons, List.length_append] at hn
  have hnot : (accept "NOT").run (mid b (t :: .fixed "(" :: (listedTokens items ++ .fixed ")" :: r))) =
      some (false, mid b (t :: .fixed "(" :: (listedTokens items ++ .fixed ")" :: r))) :=
    run_accept_none (by rintro u ⟨⟩; rw [ht]; decide)
  have hoperator : (takeIf fun t => rangeOperators.any fun o => t.is o.1).run
      (mid b (t :: .fixed "(" :: (listedTokens items ++ .fixed ")" :: r))) =
      some (none, mid b (t :: .fixed "(" :: (listedTokens items ++ .fixed ")" :: r))) :=
    run_takeIf_none (by rintro u ⟨⟩; simp [Lexeme.is_token, ht, rangeOperators])
  have hin : (acceptAny ["BETWEEN", "IN", "<@", "@@", "OPERATOR"]).run
      (mid b (t :: .fixed "(" :: (listedTokens items ++ .fixed ")" :: r))) =
      some (some t.token, mid (b ++ [t]) (.fixed "(" :: (listedTokens items ++ .fixed ")" :: r))) :=
    run_takeIf_of (by simp [ht])
  show (rangeTest (rules n) e).run _ = _
  rw [List.cons_append, List.cons_append, List.append_assoc, List.singleton_append, rangeTest,
    run_bind_of (StateT.run_get _), run_bind_of hnot, run_bind_of hoperator]
  dsimp only
  rw [run_bind_of hin]
  simp only [Lexeme.is_token, ht, Kind.fixed.injEq, String.reduceEq, decide_false, decide_true, Bool.false_eq_true, if_false, if_true]
  rw [run_bind_of (run_membership hitems hne (by omega)), run_bind_of (StateT.run_pure _ _)]
  simp

/-! ## Signs -/

theorem Reads.negative (h : Reads .unary σ ts e) (he : e.isRemainder = false) :
    Reads .unary σ (.fixed "-" :: ts) e.negative := by
  intro n hn b r hr
  rw [List.length_cons] at hn
  obtain ⟨m, rfl⟩ : ∃ m, n = m + 1 := Nat.exists_eq_succ_of_ne_zero (by omega)
  have hread : ((rules (m + 1)).unary).run (mid (b ++ [.fixed "-"]) (ts ++ r)) =
      some (some e, mid (b ++ [.fixed "-"] ++ ts) r) := h m (by omega) _ r hr
  show (unary _).run _ = _
  rw [List.cons_append, unary, run_bind_of (run_accept_of rfl), if_pos rfl, run_bind_of (run_need hread),
    run_bind_of (run_built _)]
  simp [Expr.factor, he]

/-! ## Operators between two operands -/

theorem run_chainStep {operators : List (String × (Expr → Expr → Expr))} {right : Reader (Option Expr)} {s : String}
    {f : Expr → Expr → Expr} (ht : t.kind = .fixed s) (ho : operators.find? (fun o => decide (s = o.1)) = some (s, f))
    (hright : right.run (mid (b ++ [t]) (ts ++ r)) = some (some e', mid (b ++ [t] ++ ts) r)) :
    (chainStep operators right e).run (mid b (t :: ts ++ r)) = some (some (f e e'), mid (b ++ t :: ts) r) := by
  have htest : (fun o : String × (Expr → Expr → Expr) => t.token.is o.1) = fun o => decide (s = o.1) := by
    funext o
    simp [Lexeme.is_token, ht]
  have htake : (takeIf fun t => operators.any fun o => t.is o.1).run (mid b (t :: (ts ++ r))) =
      some (some t.token, mid (b ++ [t]) (ts ++ r)) := by
    refine run_takeIf_of (List.any_eq_true.2 ⟨_, List.mem_of_find?_eq_some ho, ?_⟩)
    simp [Lexeme.is_token, ht]
  rw [chainStep, List.cons_append, run_bind_of htake]
  dsimp only
  rw [run_bind_of run_waiting, run_bind_of (run_need hright), htest, ho]
  dsimp only
  rw [run_bind_of (run_builtWith _)]
  simp

/-- The operators of a level that stand between two operands of the next tighter level. -/
def Level.binaries : Level → List (String × Operator)
  | disjunction => [("OR", .or)]
  | conjunction => [("AND", .and)]
  | equality => [("=", .equal), ("<>", .notEqual)]
  | comparison => [("<", .less), ("<=", .lessEqual), (">", .greater), (">=", .greaterEqual)]
  | bitwise => [("||", .concat), ("&", .bitAnd), ("|", .bitOr), ("#", .bitXor)]
  | sum => [("+", .add), ("-", .subtract), ("%", .modulo)]
  | product => [("*", .multiply), ("/", .divide)]
  | identity | ranged | unary => []

theorem run_bitwiseStep {s : String} {op : Operator} (h : (s, op) ∈ Level.bitwise.binaries) (ht : t.kind = .fixed s)
    (hright : (Grammar.sum g).run (mid (b ++ [t]) (ts ++ r)) = some (some e', mid (b ++ [t] ++ ts) r)) :
    (bitwiseStep g e).run (mid b (t :: ts ++ r)) = some (some (.operated op e e'), mid (b ++ t :: ts) r) := by
  have hbuilt : (do return some (← built (.operated op e (← need (Grammar.sum g)))) : Reader (Option Expr)).run
      (mid (b ++ [t]) (ts ++ r)) = some (some (.operated op e e'), mid (b ++ t :: ts) r) := by
    rw [run_bind_of (run_need hright), run_bind_of (run_built _)]
    simp
  have hacc : (acceptAny ["&", "|", "#", "||", "??"]).run (mid b (t :: (ts ++ r))) =
      some (some t.token, mid (b ++ [t]) (ts ++ r)) := by
    refine run_takeIf_of ?_
    simp only [Level.binaries, List.mem_cons, Prod.mk.injEq, List.not_mem_nil, or_false] at h
    rcases h with ⟨rfl, -⟩ | ⟨rfl, -⟩ | ⟨rfl, -⟩ | ⟨rfl, -⟩ <;> simp [ht]
  rw [bitwiseStep, List.cons_append, run_bind_of hacc]
  simp only [Level.binaries, List.mem_cons, Prod.mk.injEq, List.not_mem_nil, or_false] at h
  rcases h with ⟨rfl, rfl⟩ | ⟨rfl, rfl⟩ | ⟨rfl, rfl⟩ | ⟨rfl, rfl⟩ <;>
    simpa [Lexeme.is_token, ht] using hbuilt

theorem readsStep_binary {s : String} {op : Operator} (h : (s, op) ∈ l.binaries) (ht : t.kind = .fixed s)
    (hright : Reads l.tighter τ ts e') (hτ : τ ≤ l.tighter) : ReadsStep l τ (t :: ts) e (.operated op e e') := by
  intro n hn b r hr
  rw [List.length_cons] at hn
  have hread := hright n (by omega) (b ++ [t]) r hr
  cases l with
  | identity | ranged | unary => cases h
  | bitwise => exact run_bitwiseStep h ht hread
  | product =>
    have hpower := run_power hread (hr.mono hτ).next
    simp only [Level.binaries, List.mem_cons, Prod.mk.injEq, List.not_mem_nil, or_false] at h
    rcases h with ⟨rfl, rfl⟩ | ⟨rfl, rfl⟩ <;> exact run_chainStep ht rfl hpower
  | disjunction | conjunction =>
    simp only [Level.binaries, List.mem_cons, Prod.mk.injEq, List.not_mem_nil, or_false] at h
    obtain ⟨rfl, rfl⟩ := h
    exact run_chainStep ht rfl hread
  | equality =>
    simp only [Level.binaries, List.mem_cons, Prod.mk.injEq, List.not_mem_nil, or_false] at h
    rcases h with ⟨rfl, rfl⟩ | ⟨rfl, rfl⟩ <;> exact run_chainStep ht rfl hread
  | comparison =>
    simp only [Level.binaries, List.mem_cons, Prod.mk.injEq, List.not_mem_nil, or_false] at h
    rcases h with ⟨rfl, rfl⟩ | ⟨rfl, rfl⟩ | ⟨rfl, rfl⟩ | ⟨rfl, rfl⟩ <;> exact run_chainStep ht rfl hread
  | sum =>
    simp only [Level.binaries, List.mem_cons, Prod.mk.injEq, List.not_mem_nil, or_false] at h
    rcases h with ⟨rfl, rfl⟩ | ⟨rfl, rfl⟩ | ⟨rfl, rfl⟩ <;> exact run_chainStep ht rfl hread

end

end FeatureGraph.Filter.Grammar
