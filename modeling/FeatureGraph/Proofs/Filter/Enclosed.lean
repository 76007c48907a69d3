import FeatureGraph.Proofs.Filter.Missing
import FeatureGraph.Proofs.Filter.Statement

/-! # Reading parentheses

Parentheses stand around one expression or around several. Names in parentheses could also begin a function, so it is
shown that an expression in parentheses begins none. -/
namespace FeatureGraph.Filter.Grammar
open Reader Cursor

section
variable {σ τ : Level} {ts us : List Lexeme} {e : Expr} {b b' r : List Lexeme} {t : Lexeme} {g : Rules} {n : ℕ} {s : String}

theorem run_accept_fixed {s' : String} (h : s ≠ s') :
    (accept s').run (mid b (.fixed s :: r)) = some (false, mid b (.fixed s :: r)) :=
  run_accept_none (by rintro u ⟨⟩; simpa [Lexeme.fixed] using h)

/-! ## After a call -/

theorem run_emptyValues_none (hr : Next Level.unary.stops r) : (emptyValues e).run (mid b r) = some (e, mid b r) := by
  rw [emptyValues, run_bind_of (hr.acceptWords (by decide)), if_neg (by decide), run_bind_of (hr.acceptWords (by decide))]
  rfl

theorem run_overRows_none (hr : Next Level.unary.stops r) : (overRows g e).run (mid b r) = some (e, mid b r) := by
  have hwindowed : (windowed g e).run (mid b r) = some (none, mid b r) := by
    rw [windowed, run_bind_of (hr.accept (by decide))]
    rfl
  rw [overRows, run_bind_of (hr.acceptWords (by decide)), if_neg (by decide), run_bind_of (StateT.run_pure _ _),
    run_bind_of (hr.acceptPair (by decide)), if_neg (by decide), run_bind_of (StateT.run_pure _ _),
    run_bind_of (run_emptyValues_none hr)]
  refine run_repeated_none fun b => ?_
  rw [windowed, run_bind_of (hr.accept (by decide))]
  rfl

/-! ## The tokens of an expression -/

/-- Symbols that begin a value to be filled in later, or stand after a name for one. -/
def marks : List String := ["?", "@", ":", "%", "->", "=>"]

/-- The tokens of an expression: how they begin and end. -/
structure Phrase (ts : List Lexeme) : Prop where
  first : ∃ t ts', ts = t :: ts' ∧ Opens t ∧ ∀ s ∈ marks, t.kind ≠ .fixed s
  second : ∀ u ∈ ts[1]?, ∀ s ∈ [",", ")", "->", "=>"], u.kind ≠ .fixed s
  last : ∀ u ∈ ts.getLast?, u.kind ≠ .fixed ","

def isQuery (e : Expr) : Bool :=
  match e.bare with
  | .form .query .. | .form .subquery .. => true
  | _ => false

/-! ## Parentheses -/

def enclosedExpr : List Expr → Expr
  | [e] => e.grouped
  | es => .enclosed .row ['('] es [')']

theorem readsElement_titled {item : List Lexeme × Expr} (h : Reads .disjunction .disjunction item.1 item.2)
    (hn : item.1.length < n) : ReadsElement (titled (rules n)) [")"] item := fun b r hr =>
  run_titled h hn (hr.mono (by decide))

theorem run_parentheses {item : List Lexeme × Expr} {items : List (List Lexeme × Expr)}
    (hitems : ∀ it ∈ item :: items, Reads .disjunction .disjunction it.1 it.2 ∧ Phrase it.1)
    (hquery : isQuery item.2 = false) (hn : (listedTokens (item :: items)).length + 1 < n) (hr : Next Level.unary.stops r) :
    (parentheses (rules n)).run (mid b (.fixed "(" :: (listedTokens (item :: items) ++ .fixed ")" :: r))) =
      some (some (enclosedExpr (item.2 :: items.map Prod.snd)),
        mid (b ++ .fixed "(" :: (listedTokens (item :: items) ++ [.fixed ")"])) r) := by
  obtain ⟨m, rfl⟩ : ∃ m, n = m + 1 := Nat.exists_eq_succ_of_ne_zero (by omega)
  obtain ⟨hitem, hrest⟩ := List.forall_mem_cons.1 hitems
  obtain ⟨t, ts', hts, hopens, -⟩ := hitem.2.first
  have hq : ((rules (m + 1)).query false).run (mid (b ++ [.fixed "("]) (listedTokens (item :: items) ++ .fixed ")" :: r)) =
      some (none, mid (b ++ [.fixed "("]) (listedTokens (item :: items) ++ .fixed ")" :: r)) := by
    rw [listedTokens, hts]
    exact run_query_none hopens
  have helements : (separated (rules (m + 1)).titled).run
      (mid (b ++ [.fixed "("]) (listedTokens (item :: items) ++ .fixed ")" :: r)) =
      some (item.2 :: items.map Prod.snd, mid (b ++ [.fixed "("] ++ listedTokens (item :: items)) (.fixed ")" :: r)) := by
    have hreads : ∀ it ∈ item :: items, ReadsElement (rules (m + 1)).titled [")"] it := fun it hit =>
      readsElement_titled (hitems it hit).1 (by have := length_le_listedTokens hit; omega)
    obtain ⟨hfirst, hmore⟩ := List.forall_mem_cons.1 hreads
    exact run_separated hfirst hmore (next_fixed (by simp) (by decide)) (by decide) _
  rw [parentheses, run_bind_of (run_accept_of rfl)]
  simp only [Bool.not_true, Bool.false_eq_true, if_false]
  rw [run_bind_of run_waiting, run_bind_of hq]
  dsimp only
  rw [run_bind_of helements, run_bind_of (StateT.run_get _)]
  dsimp only
  have hplain : ∀ first parts, item.2.bare ≠ .form .query first parts ∧ item.2.bare ≠ .form .subquery first parts := by
    intro first parts
    constructor <;> intro hbare <;> simp [isQuery, hbare] at hquery
  split
  · next hbare => exact absurd hbare (hplain _ _).1
  · next hbare => exact absurd hbare (hplain _ _).2
  cases items with
  | nil =>
    have hlast : (mid (b ++ [.fixed "("] ++ listedTokens [item]) (.fixed ")" :: r)).last.any (·.is ",") = false := by
      have hend : item.1.getLast? = some (item.1.getLast (by simp [hts])) := List.getLast?_eq_some_getLast _
      have hcomma := hitem.2.last _ hend
      have htokens : listedTokens [item] = item.1 := List.append_nil _
      have hshow : (mid (b ++ [.fixed "("] ++ item.1) (.fixed ")" :: r)).last =
          (b ++ [Lexeme.fixed "("] ++ item.1).getLast?.map Lexeme.token := List.getLast?_map
      rw [htokens, hshow, List.getLast?_append, hend]
      simpa [Lexeme.is_token] using hcomma
    rw [hlast, if_neg (by simp), run_bind_of (run_built _), addRemarks_nil, run_bind_of (run_expectFor rfl _),
      List.append_assoc, List.append_assoc, List.singleton_append]
    split
    · rw [run_bind_of (run_overRows_none hr)]
      rfl
    · rfl
  | cons second items =>
    rw [if_pos (by simp), run_bind_of (run_built _), addRemarks_nil, run_bind_of (run_expectFor rfl _),
      List.append_assoc, List.append_assoc, List.singleton_append]
    rfl

theorem popRemarks_enclosedExpr (es : List Expr) (n : Name) : (enclosedExpr es).popRemarks.1 ≠ .name n := by
  unfold enclosedExpr
  split
  · simp [Expr.grouped, Expr.popRemarks]
  · unfold Expr.enclosed
    split <;> simp [Expr.popRemarks]

theorem reads_enclosed {item : List Lexeme × Expr} {items : List (List Lexeme × Expr)}
    (hitems : ∀ it ∈ item :: items, Reads .disjunction .disjunction it.1 it.2 ∧ Phrase it.1)
    (hquery : isQuery item.2 = false) :
    Reads .unary .unary (.fixed "(" :: (listedTokens (item :: items) ++ [.fixed ")"]))
      (enclosedExpr (item.2 :: items.map Prod.snd)) := by
  intro n hn b r hr
  simp only [List.length_cons, List.length_append, List.length_nil] at hn
  have hparentheses := run_parentheses (b := b) (n := n) hitems hquery (by omega) hr.next
  have hprimary : (primary (rules n)).run (mid b (.fixed "(" :: (listedTokens (item :: items) ++ [.fixed ")"]) ++ r)) =
      some (some (enclosedExpr (item.2 :: items.map Prod.snd)),
        mid (b ++ .fixed "(" :: (listedTokens (item :: items) ++ [.fixed ")"])) r) := by
    rw [primary, List.cons_append, run_bind_of (run_takeIf_none (by rintro u ⟨⟩; rfl))]
    dsimp only
    rw [run_bind_of (StateT.run_get _), run_bind_of (run_accept_fixed (by decide)), List.append_assoc, List.singleton_append]
    exact hparentheses
  exact run_operand_of_reference _ ⟨by decide, by decide, by decide⟩
    (run_reference_of_primary hprimary (popRemarks_enclosedExpr _)) hr.next

/-! ## What begins no function of names -/

/-- No arrow comes next, after which an argument would go on. -/
def NoArrow (r : List Lexeme) : Prop := ∀ u ∈ r.head?, u.kind ≠ .fixed "->" ∧ u.kind ≠ .fixed "=>"

/-- Tokens that name no value and begin no function. -/
def Unbound (ts : List Lexeme) : Prop :=
  ∀ g b r, NoArrow r → (binding g).run (mid b (ts ++ r)) = some (none, mid b (ts ++ r))

theorem Unbound.append (h : Unbound ts) (hus : NoArrow us) (hne : us ≠ []) : Unbound (ts ++ us) := by
  intro g b r _
  obtain ⟨u, us, rfl⟩ := List.exists_cons_of_ne_nil hne
  rw [List.append_assoc]
  exact h g b _ (by rintro v ⟨⟩; exact hus _ rfl)

/-- One word is taken for a name, or none. -/
theorem run_anyName (hmarks : ∀ s ∈ marks, t.kind ≠ .fixed s) :
    (∀ b r, anyName.run (mid b (t :: r)) = some (none, mid b (t :: r))) ∨
      ∃ e, ∀ b r, anyName.run (mid b (t :: r)) = some (some e, mid (b ++ [t]) r) := by
  have hparameter : ∀ b r, parameter.run (mid b (t :: r)) = some (none, mid b (t :: r)) := by
    intro b r
    rw [parameter, run_bind_of (StateT.run_get _), run_bind_of (run_acceptAny_none ?_)]
    · rfl
    · rintro s hs u ⟨⟩
      exact hmarks s (by simp [marks] at hs ⊢; tauto)
  by_cases hquoted : t.kind = .quoted
  · refine .inr ⟨.name ⟨t.text, true⟩, fun b r => ?_⟩
    have hname : quotedName.run (mid b (t :: r)) = some (some (.name ⟨t.text, true⟩), mid (b ++ [t]) r) := by
      rw [quotedName, run_bind_of (run_takeIf_of (by simp [hquoted]))]
      dsimp only
      rw [run_bind_of (run_lastName true)]
      rfl
    rw [anyName, nameWhere, run_orElse_of hname]
  have hname : ∀ b r, quotedName.run (mid b (t :: r)) = some (none, mid b (t :: r)) := by
    intro b r
    rw [quotedName, run_bind_of (run_takeIf_none (by rintro u ⟨⟩; simpa using hquoted))]
    exact hparameter b r
  by_cases htest : (mayNameAnything t.token || mayName t.token) = true
  · refine .inr ⟨.name ⟨t.text, t.kind == .string⟩, fun b r => ?_⟩
    rw [anyName, nameWhere, run_orElse_none (hname b r), run_bind_of (run_takeIf_of htest)]
    dsimp only
    rw [run_bind_of (run_lastName _)]
    rfl
  · refine .inl fun b r => ?_
    rw [anyName, nameWhere, run_orElse_none (hname b r),
      run_bind_of (run_takeIf_none (by rintro u ⟨⟩; simpa using htest))]
    rfl

theorem run_binding_end {names : List Expr} {b' r' : List Lexeme} (hr : NoArrow r) (happend : b ++ r = b' ++ r') :
    ((do
      if ← accept "->" then
        let body ← need g.disjunction
        let parameters := if names.length = 1 then Expr.listed " -> ".toList names
          else [(.enclosed .plain ['('] names ") -> ".toList, [])]
        return some (← built (.form .plain [] (parameters ++ [(body.bind (names.map Expr.title), [])])))
      else if ← accept "=>" then
        let value ← need g.disjunction
        return some (← built (.form .plain ((names.head?.elim [] Expr.title) ++ " => ".toList) [(value, [])]))
      else
        backTo (mid b' r')
        return none : Reader (Option Expr))).run (mid b r) = some (none, mid b' r') := by
  rw [run_bind_of (run_accept_none fun u hu => (hr u hu).1), if_neg (by decide),
    run_bind_of (run_accept_none fun u hu => (hr u hu).2), if_neg (by decide), run_bind_of (run_backTo happend.symm)]
  rfl

theorem unbound_of_first (hphrase : Phrase ts) (hparen : ∀ u ∈ ts.head?, u.kind ≠ .fixed "(") : Unbound ts := by
  intro g b r hr
  obtain ⟨t, ts', rfl, -, hmarks⟩ := hphrase.first
  have hnext : NoArrow (ts' ++ r) := by
    intro u hu
    cases ts' with
    | nil => exact hr u hu
    | cons v ts' =>
      cases hu
      exact ⟨hphrase.second _ rfl _ (by simp), hphrase.second _ rfl _ (by simp)⟩
  have hfirst : NoArrow (t :: (ts' ++ r)) := by
    rintro u ⟨⟩
    exact ⟨hmarks _ (by simp [marks]), hmarks _ (by simp [marks])⟩
  rw [List.cons_append, binding, run_bind_of (StateT.run_get _),
    run_bind_of (run_accept_ne (hparen t rfl)), if_neg (by decide)]
  rcases run_anyName hmarks with hname | ⟨e, hname⟩
  · rw [run_bind_of (hname _ _)]
    exact run_binding_end hfirst rfl
  · rw [run_bind_of (hname _ _)]
    exact run_binding_end hnext (by simp)

theorem run_separatedStep_none {p : Reader (Option Expr)} {state : List Expr × Option Expr}
    (hr : ∀ u ∈ r.head?, u.kind ≠ .fixed ",") : (separatedStep p state).run (mid b r) = some (none, mid b r) := by
  rw [separatedStep, run_bind_of (run_accept_none hr)]
  rfl

/-- Neither a comma nor a closing parenthesis comes next. -/
def NoList (r : List Lexeme) : Prop := ∀ u ∈ r.head?, u.kind ≠ .fixed "," ∧ u.kind ≠ .fixed ")"

theorem Phrase.noList (h : Phrase ts) : NoList (ts ++ us) := by
  obtain ⟨t, ts', rfl, hopens, -⟩ := h.first
  rintro u ⟨⟩
  exact ⟨hopens _ (by decide), hopens _ (by decide)⟩

theorem Phrase.noList_second {ts' : List Lexeme} (h : Phrase (t :: ts')) (hne : ts' ≠ []) : NoList (ts' ++ us) := by
  obtain ⟨v, ts', rfl⟩ := List.exists_cons_of_ne_nil hne
  rintro u ⟨⟩
  exact ⟨h.second _ rfl _ (by simp), h.second _ rfl _ (by simp)⟩

/-- Names between commas are read up to what is no name between commas. -/
theorem steps_anyName {items : List (List Lexeme × Expr)} (hitems : ∀ it ∈ items, Phrase it.1) (done : List Expr) (e : Expr) :
    ∃ p q state, afterCommas items = p ++ q ∧ NoList q ∧ Steps (separatedStep anyName) (q ++ r) p (done, some e) state := by
  induction items generalizing done e with
  | nil => exact ⟨[], [], _, rfl, by rintro u ⟨⟩, .nil _⟩
  | cons item items ih =>
    obtain ⟨hitem, hitems⟩ := List.forall_mem_cons.1 hitems
    obtain ⟨t, ts', hts, -, hmarks⟩ := hitem.first
    have hcomma : afterCommas (item :: items) = .fixed "," :: (t :: ts' ++ afterCommas items) := by
      rw [← hts]
      rfl
    have hstep : ∀ o b r' us, anyName.run (mid (b ++ [.fixed ","]) (t :: us)) = some (o, r') →
        (separatedStep anyName (done, some e)).run (mid b (.fixed "," :: t :: us)) =
          some (some (done ++ [e], o), r') := by
      intro o b r' us h
      rw [separatedStep, run_bind_of (run_accept_of rfl)]
      dsimp only
      rw [if_pos rfl, run_bind_of (run_built e), run_bind_of h]
      rfl
    rw [hts] at hitem
    rcases run_anyName hmarks with hnone | ⟨e', hsome⟩
    · refine ⟨[.fixed ","], t :: ts' ++ afterCommas items, (done ++ [e], none), hcomma, hitem.noList, ?_⟩
      refine Steps.snoc (Steps.nil _) ?_ (List.cons_ne_nil (Lexeme.fixed ",") [])
      exact fun b => hstep none b _ _ (hnone _ _)
    have hname : ∀ b us, (separatedStep anyName (done, some e)).run (mid b ([.fixed ",", t] ++ us)) =
        some (some (done ++ [e], some e'), mid (b ++ [.fixed ",", t]) us) := by
      intro b us
      simpa using hstep (some e') b _ us (hsome _ us)
    by_cases hne : ts' = []
    · subst hne
      obtain ⟨p, q, state, hsplit, hend, hsteps⟩ := ih hitems (done ++ [e]) e'
      refine ⟨[.fixed ",", t] ++ p, q, state, by rw [hcomma, hsplit]; rfl, hend, ?_⟩
      exact .cons (fun b => hname b _) (by simp) hsteps
    · refine ⟨[.fixed ",", t], ts' ++ afterCommas items, (done ++ [e], some e'), hcomma, hitem.noList_second hne, ?_⟩
      exact (Steps.nil _).snoc (fun b => hname b _) (by simp)

theorem run_separated_anyName {item : List Lexeme × Expr} {items : List (List Lexeme × Expr)}
    (hitems : ∀ it ∈ item :: items, Phrase it.1) (hr : ∀ u ∈ r.head?, u.kind ≠ .fixed ",") (b : List Lexeme) :
    ∃ names p q, listedTokens (item :: items) = p ++ q ∧ NoList q ∧
      (separated anyName).run (mid b (listedTokens (item :: items) ++ r)) = some (names, mid (b ++ p) (q ++ r)) := by
  obtain ⟨hitem, hitems⟩ := List.forall_mem_cons.1 hitems
  obtain ⟨t, ts', hts, -, hmarks⟩ := hitem.first
  have hlisted : listedTokens (item :: items) = t :: (ts' ++ afterCommas items) := by
    rw [listedTokens, hts]
    rfl
  have hend : ∀ q state b, NoList q →
      (separatedStep anyName state).run (mid b (q ++ r)) = some (none, mid b (q ++ r)) := by
    intro q state b hq
    refine run_separatedStep_none fun u hu => ?_
    cases q with
    | nil => exact hr u hu
    | cons v q => exact (hq u hu).1
  rw [hts] at hitem
  rw [hlisted]
  rcases run_anyName hmarks with hnone | ⟨e, hsome⟩
  · have hq : NoList (t :: (ts' ++ afterCommas items)) := hitem.noList
    refine ⟨[], [], t :: (ts' ++ afterCommas items), rfl, hq, ?_⟩
    have hnames : (repeated (separatedStep anyName) ([], none)).run (mid b (t :: (ts' ++ afterCommas items) ++ r)) =
        some (([], none), mid b (t :: (ts' ++ afterCommas items) ++ r)) := run_repeated_none fun b => hend _ _ b hq
    rw [separated_eq, List.cons_append, run_bind_of (hnone _ _), ← List.cons_append, run_bind_of hnames, List.append_nil]
    rfl
  by_cases hne : ts' = []
  · obtain ⟨p, q, state, hsplit, hq, h⟩ := steps_anyName (r := r) hitems [] e
    refine ⟨state.1 ++ state.2.toList, t :: p, q, by rw [hne, hsplit]; rfl, hq, ?_⟩
    rw [separated_eq, hne, List.nil_append, hsplit, List.cons_append, List.append_assoc, run_bind_of (hsome _ _),
      run_bind_of (h.run_repeated (fun b => hend q state b hq) _), List.append_assoc]
    rfl
  · have hq : NoList (ts' ++ afterCommas items) := hitem.noList_second hne
    refine ⟨[e], [t], ts' ++ afterCommas items, rfl, hq, ?_⟩
    rw [separated_eq, List.cons_append, run_bind_of (hsome _ _), run_bind_of (run_repeated_none fun b => hend _ _ b hq)]
    rfl

theorem unbound_enclosed {item : List Lexeme × Expr} {items : List (List Lexeme × Expr)}
    (hitems : ∀ it ∈ item :: items, Phrase it.1) :
    Unbound (.fixed "(" :: (listedTokens (item :: items) ++ [.fixed ")"])) := by
  intro g b r hr
  obtain ⟨names, p, q, hsplit, hq, hnames⟩ := run_separated_anyName (r := .fixed ")" :: r) hitems
    (by rintro u ⟨⟩; decide) (b ++ [.fixed "("])
  have hfirst : NoArrow (.fixed "(" :: (listedTokens (item :: items) ++ .fixed ")" :: r)) := by
    rintro u ⟨⟩
    decide
  rw [List.cons_append, List.append_assoc, List.singleton_append, binding, run_bind_of (StateT.run_get _),
    run_bind_of (run_accept_of rfl), if_pos rfl, run_bind_of hnames]
  cases q with
  | nil =>
    rw [List.nil_append, run_bind_of (run_accept_of rfl), if_pos rfl]
    refine run_binding_end hr ?_
    rw [hsplit]
    simp
  | cons u q =>
    have hclose : u.kind ≠ .fixed ")" := (hq u rfl).2
    rw [List.cons_append, run_bind_of (run_accept_ne hclose), if_neg (by decide), run_bind_of (run_backTo ?_)]
    · exact run_binding_end hfirst rfl
    · rw [hsplit]
      simp

end

end FeatureGraph.Filter.Grammar
