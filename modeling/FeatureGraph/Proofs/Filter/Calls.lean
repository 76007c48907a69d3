import FeatureGraph.Proofs.Filter.Enclosed

/-! # Reading calls -/
namespace FeatureGraph.Filter.Grammar
open Reader Cursor

section
variable {σ : Level} {ts us : List Lexeme} {e : Expr} {b b' r : List Lexeme} {t : Lexeme} {g : Rules} {n : ℕ}
  {items : List (List Lexeme × Expr)}

/-! ## Arguments -/

theorem run_titledAs_explicit (hr : Next titleEnds r) (e : Option Expr) :
    (titledAs g true e).run (mid b r) = some (e, mid b r) := by
  have hlimit : (limitAhead g).run (mid b r) = some (false, mid b r) :=
    run_limitAhead fun s hs => hr.kind_ne (by rcases List.mem_pair.1 hs with rfl | rfl <;> decide)
  rw [titledAs, run_bind_of hlimit, if_neg (by decide), run_bind_of (hr.accept (by decide))]
  rfl

def argumentEnds : List String := [",", ")"]

theorem run_orderBy_none (hr : Next argumentEnds r) : (orderBy g).run (mid b r) = some (none, mid b r) := by
  rw [orderBy, run_bind_of (hr.accept (by decide))]
  rfl

theorem run_limit_none (hr : Next argumentEnds r) : (limit g).run (mid b r) = some (none, mid b r) := by
  rw [limit, run_bind_of (hr.accept (by decide)), if_neg (by decide), run_bind_of (hr.accept (by decide))]
  rfl

theorem run_argument (hread : Reads .disjunction .disjunction ts e) (hphrase : Phrase ts) (hbound : Unbound ts)
    (hn : ts.length + 1 < n) (hr : Next argumentEnds r) (explicit : Bool) :
    (argument (rules n) explicit).run (mid b (ts ++ r)) = some (some e, mid (b ++ ts) r) := by
  obtain ⟨t, ts', hts, hopens, -⟩ := hphrase.first
  have hnoArrow : NoArrow r := fun u hu => ⟨hr.kind_ne (by decide) u hu, hr.kind_ne (by decide) u hu⟩
  have hdistinct : (accept "DISTINCT").run (mid b (ts ++ r)) = some (false, mid b (ts ++ r)) := by
    rw [hts]
    exact run_accept_ne (hopens _ (by decide))
  have hexpression : (queryOrExpression (rules n) explicit).run (mid b (ts ++ r)) = some (some e, mid (b ++ ts) r) := by
    obtain ⟨m, rfl⟩ : ∃ m, n = m + 1 := Nat.exists_eq_succ_of_ne_zero (by omega)
    have hquery : ((rules (m + 1)).query false).run (mid b (ts ++ r)) = some (none, mid b (ts ++ r)) := by
      rw [hts]
      exact run_query_none hopens
    have hassignment : ((rules (m + 1)).assignment).run (mid b (ts ++ r)) = some (some e, mid (b ++ ts) r) :=
      run_assignment hread (by omega) (stops_of_next hr (by decide))
    rw [queryOrExpression, run_orElse_none hquery, run_bind_of hassignment]
    cases explicit with
    | true => exact run_titledAs_explicit (hr.mono (by decide)) _
    | false => rfl
  rw [argument, run_bind_of (hbound _ b r hnoArrow)]
  dsimp only
  rw [run_bind_of hdistinct, if_neg (by decide), run_bind_of hexpression]
  dsimp only
  rw [run_bind_of (run_emptyValues_none (hr.mono (by decide))), run_bind_of (StateT.run_pure _ _),
    run_bind_of (run_orderBy_none hr), run_bind_of (run_limit_none hr)]
  rfl

/-- No argument begins with the closing parenthesis. -/
theorem run_argument_none (explicit : Bool) :
    (argument (rules (n + 1)) explicit).run (mid b (.fixed ")" :: r)) = some (none, mid b (.fixed ")" :: r)) := by
  have hnothing : BeginsNothing (.fixed ")") := beginsNothing_ender (by simp [enders])
  have hr : Next argumentEnds (.fixed ")" :: r) := next_fixed (by simp [argumentEnds]) (by decide)
  have hnot : ∀ s, s ≠ ")" → (accept s).run (mid b (.fixed ")" :: r)) = some (false, mid b (.fixed ")" :: r)) :=
    fun s hs => run_accept_ne (by simpa [Lexeme.fixed] using hs.symm)
  have hbinding : (binding (rules (n + 1))).run (mid b (.fixed ")" :: r)) = some (none, mid b (.fixed ")" :: r)) := by
    have hname : anyName.run (mid b (.fixed ")" :: r)) = some (none, mid b (.fixed ")" :: r)) :=
      hnothing.nameWhere (by decide)
    rw [binding, run_bind_of (StateT.run_get _), run_bind_of (hnot _ (by decide)), if_neg (by decide), run_bind_of hname]
    exact run_binding_end (by rintro u ⟨⟩; decide) rfl
  have hexpression : (queryOrExpression (rules (n + 1)) explicit).run (mid b (.fixed ")" :: r)) =
      some (none, mid b (.fixed ")" :: r)) := by
    have hquery : ((rules (n + 1)).query false).run (mid b (.fixed ")" :: r)) = some (none, mid b (.fixed ")" :: r)) :=
      run_query_absent (by decide)
    have hassignment : ((rules (n + 1)).assignment).run (mid b (.fixed ")" :: r)) =
        some (none, mid b (.fixed ")" :: r)) := by
      show (assignment (rules n)).run _ = _
      rw [assignment, run_bind_of hnothing.disjunction]
      rfl
    rw [queryOrExpression, run_orElse_none hquery, run_bind_of hassignment]
    cases explicit with
    | true => exact run_titledAs_explicit (hr.mono (by decide)) _
    | false => rfl
  rw [argument, run_bind_of hbinding]
  dsimp only
  rw [run_bind_of (hnot _ (by decide)), if_neg (by decide), run_bind_of hexpression]
  dsimp only
  rw [run_bind_of (StateT.run_pure _ _), run_bind_of (run_orderBy_none hr), run_bind_of (run_limit_none hr)]
  rfl

/-! ## Calls -/

/-- A word that may name a function and is none of the words that begin an operand of their own. -/
structure NamesCall (t : Lexeme) : Prop where
  brace : t.kind ≠ .fixed "\x7b"
  form : t.token.upper ∉ formWords
  query : ∀ s ∈ ["ALL", "EXISTS", "SOME"], t.kind ≠ .fixed s
  call : mayCall false t.token = true

theorem run_functionCall_named (ht : NamesCall t) (hspecial : (specialForms g).lookup t.token.upper = none)
    (hread : (callOf g t.token false []).run (mid (b ++ [t, .fixed "("]) r) = some (e, mid b' us)) :
    (functionCall g false).run (mid b (t :: .fixed "(" :: r)) = some (some e, mid b' us) := by
  rw [run_functionCall_paren ht.brace ht.form ht.query rfl, if_pos ht.call, hspecial]
  dsimp only [Option.elim]
  rw [run_bind_of hread]
  rfl

theorem run_unary_of_functionCall (ts : List Lexeme) (ht : BeginsPlain t) (hliteral : literalOf t.token = none)
    (hpoint : t.kind ≠ .fixed ".") (hparen : t.kind ≠ .fixed "(") (hname : ∀ n, e.popRemarks.1 ≠ .name n)
    (h : (functionCall g false).run (mid b (t :: ts ++ r)) = some (some e, mid (b ++ t :: ts) r))
    (hr : Next Level.unary.stops r) : (unary g).run (mid b (t :: ts ++ r)) = some (some e, mid (b ++ t :: ts) r) := by
  refine run_operand_of_reference ts ht ?_ hr
  have hprimary := run_primary_none (g := g) (b := b) (r := ts ++ r) hliteral hpoint hparen
  have hfield : (field g false).run (mid b (t :: ts ++ r)) = some (some e, mid (b ++ t :: ts) r) := by
    rw [field, if_neg (by decide), List.cons_append, run_orElse_none hprimary]
    exact run_orElse_of h
  rw [reference, run_bind_of (run_orElse_of hfield)]
  dsimp only
  split
  · next n remarks hpop => exact absurd (congrArg Prod.fst hpop) (hname n)
  · rfl


/-- The functions whose arguments are of a kind of their own. -/
def specialNames : List String :=
  ["CAST", "TRY_CAST", "SAFE_CAST", "CONVERT", "TRY_CONVERT", "CEIL", "FLOOR", "CHAR", "CHR", "DECODE", "EXTRACT",
    "DATE_PART", "NORMALIZE", "OVERLAY", "POSITION", "STRING_AGG", "SUBSTRING", "TRIM", "ARG_MAX", "ARGMAX", "MAX_BY",
    "ARG_MIN", "ARGMIN", "MIN_BY", "INITCAP", "JSON_OBJECT", "JSON_OBJECTAGG", "MATCH", "XMLELEMENT"]

theorem lookup_specialForms_none {s : String} (hs : s ∉ specialNames) : (specialForms g).lookup s = none := by
  have hnames : (specialForms g).map Prod.fst = specialNames := rfl
  rw [List.lookup_eq_none_iff]
  intro p hp
  rw [bne_iff_ne]
  rintro rfl
  exact hs (hnames ▸ List.mem_map_of_mem hp)

/-- What a call comes to: what is known of its function, or a call by the same name. -/
def callExpr? (function : Token) (arguments : List Expr) : Option Expr :=
  match knownCall? function.upper arguments with
  | some e => e
  | none =>
    let shown := if function.kind == .quoted then Name.rendered ⟨function.text, true⟩ else function.upper.toList
    some (.enclosed .call (shown ++ ['(']) arguments [')'])

structure ReadsArgument (item : List Lexeme × Expr) : Prop where
  reads : Reads .disjunction .disjunction item.1 item.2
  phrase : Phrase item.1
  bound : Unbound item.1

theorem run_arguments (hitems : ∀ it ∈ items, ReadsArgument it) (hn : (listedTokens items).length + 1 < n) (explicit : Bool)
    (b : List Lexeme) : (separated (argument (rules n) explicit)).run (mid b (listedTokens items ++ .fixed ")" :: r)) =
      some (items.map Prod.snd, mid (b ++ listedTokens items) (.fixed ")" :: r)) := by
  cases items with
  | nil =>
    obtain ⟨m, rfl⟩ : ∃ m, n = m + 1 := Nat.exists_eq_succ_of_ne_zero (by omega)
    rw [listedTokens, List.nil_append, List.append_nil, separated_eq, run_bind_of (run_argument_none explicit),
      run_bind_of (run_repeated_none fun b => run_separatedStep_none (by rintro u ⟨⟩; decide))]
    rfl
  | cons item items =>
    have hreads : ∀ it ∈ item :: items, ReadsElement (argument (rules n) explicit) [")"] it := fun it hit b r hr =>
      run_argument (hitems it hit).reads (hitems it hit).phrase (hitems it hit).bound
        (by have := length_le_listedTokens hit; omega) hr explicit
    obtain ⟨hfirst, hmore⟩ := List.forall_mem_cons.1 hreads
    exact run_separated hfirst hmore (next_fixed (by simp) (by decide)) (by decide) b

theorem run_callOf (hitems : ∀ it ∈ items, ReadsArgument it) (hn : (listedTokens items).length + 1 < n)
    (hcall : callExpr? t.token (items.map Prod.snd) = some e) (hr : Next Level.unary.stops r) :
    (callOf (rules n) t.token false []).run (mid b (listedTokens items ++ .fixed ")" :: r)) =
      some (e, mid (b ++ (listedTokens items ++ [.fixed ")"])) r) := by
  have hend : ∀ e, (do overRows (rules n) (← expectFor ")" e) : Reader Expr).run (mid (b ++ listedTokens items) (.fixed ")" :: r)) =
      some (e, mid (b ++ (listedTokens items ++ [.fixed ")"])) r) := by
    intro e
    rw [run_bind_of (run_expectFor rfl e), List.append_assoc, run_overRows_none hr]
  rw [callOf, run_bind_of (run_arguments hitems hn _ b)]
  simp only [Bool.false_eq_true, if_false, addRemarks_nil]
  unfold callExpr? at hcall
  split at hcall
  · next known hknown =>
    rw [hknown, hcall]
    dsimp only
    rw [run_bind_of (StateT.run_pure _ _)]
    exact hend e
  · next hknown =>
    cases hcall
    rw [hknown]
    dsimp only
    rw [run_bind_of (run_built _)]
    exact hend _

/-- A word that calls a function of its own arguments. -/
structure BeginsCall (t : Lexeme) : Prop extends BeginsPlain t, NamesCall t where
  literal : literalOf t.token = none
  special : t.token.upper ∉ specialNames
  symbol : ∀ s ∈ [".", "("], t.kind ≠ .fixed s

theorem reads_call (ht : BeginsCall t) (hitems : ∀ it ∈ items, ReadsArgument it)
    (hcall : callExpr? t.token (items.map Prod.snd) = some e) (hname : ∀ n, e.popRemarks.1 ≠ .name n) :
    Reads .unary .unary (t :: .fixed "(" :: (listedTokens items ++ [.fixed ")"])) e := by
  intro n hn b r hr
  simp only [List.length_cons, List.length_append, List.length_nil] at hn
  refine run_unary_of_functionCall _ ht.toBeginsPlain ht.literal (ht.symbol _ (by simp)) (ht.symbol _ (by simp)) hname ?_ hr.next
  have hread := run_callOf (b := b ++ [t, .fixed "("]) (n := n) hitems (by omega) hcall hr.next
  rw [List.cons_append, List.cons_append, List.append_assoc, List.singleton_append,
    run_functionCall_named ht.toNamesCall (lookup_specialForms_none ht.special) hread]
  simp

end

end FeatureGraph.Filter.Grammar
