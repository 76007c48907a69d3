import FeatureGraph.Proofs.Filter.Reading

/-! # The levels of an expression

An expression of a level is one of the next tighter level with steps after it, each with an operator of the level.
It ends where an operator of a weaker level comes next, or a word or symbol that ends every expression. -/
namespace FeatureGraph.Filter.Grammar
open Reader Cursor

inductive Level where
  | disjunction
  | conjunction
  | identity
  | equality
  | comparison
  | ranged
  | bitwise
  | sum
  | product
  | unary
  deriving DecidableEq

namespace Level

def rank : Level → Nat
  | disjunction => 0
  | conjunction => 1
  | identity => 2
  | equality => 3
  | comparison => 4
  | ranged => 5
  | bitwise => 6
  | sum => 7
  | product => 8
  | unary => 9

instance : LE Level := ⟨fun a b => a.rank ≤ b.rank⟩

instance (a b : Level) : Decidable (a ≤ b) := inferInstanceAs (Decidable (a.rank ≤ b.rank))

def tighter : Level → Level
  | disjunction => conjunction
  | conjunction => identity
  | identity => equality
  | equality => comparison
  | comparison => ranged
  | ranged => bitwise
  | bitwise => sum
  | sum => product
  | product | unary => unary

theorem rank_injective {l m : Level} (h : l.rank = m.rank) : l = m := by
  cases l <;> cases m <;> first | rfl | exact absurd h (by decide)

theorem rank_tighter {l : Level} (hl : l ≠ unary) : l.tighter.rank = l.rank + 1 := by
  cases l <;> first | rfl | exact absurd rfl hl

theorem le_tighter (l : Level) : l ≤ l.tighter := by cases l <;> decide

theorem tighter_le {l m : Level} (h : l ≤ m) (hne : l ≠ m) : l.tighter ≤ m := by
  cases l <;> cases m <;> first | exact absurd rfl hne | exact absurd h (by decide) | decide

/-- What holds of a level holds of a weaker one, if it carries over from each level to the next. -/
theorem weaker_induction {P : Level → Prop} {l m : Level} (hm : m ≤ l) (base : P l)
    (weaken : ∀ k, k ≠ unary → m ≤ k → P k.tighter → P k) : P m := by
  suffices h : ∀ d k, l.rank - k.rank = d → m ≤ k → k ≤ l → P k from h _ m rfl (Nat.le_refl _) hm
  intro d
  induction d with
  | zero =>
    intro k hd _ hkl
    obtain rfl : k = l := rank_injective (Nat.le_antisymm hkl (by omega))
    exact base
  | succ d ih =>
    intro k hd hmk hkl
    have hne : k ≠ l := by
      rintro rfl
      omega
    have hk : k ≠ unary := by
      rintro rfl
      cases l <;> simp [rank] at hd
    refine weaken k hk hmk (ih k.tighter ?_ (Nat.le_trans hmk k.le_tighter) (tighter_le hkl hne))
    have hrank := rank_tighter hk
    omega

/-- Words and symbols that end every expression. -/
def closers : List String := [")", ",", "AS", "FROM", "FOR", "THEN", "WHEN", "ELSE", "END", "USING"]

/-- The words and symbols with which the steps of each level begin. -/
def operators : List (List String) :=
  [["OR"], ["AND"], ["IS"], ["=", "<>"], ["<", "<=", ">", ">="],
    ["NOT", "LIKE", "ILIKE", "SIMILAR TO", "BETWEEN", "IN", "ESCAPE"], ["||", "&", "|", "#"], ["+", "-", "%"], ["*", "/"]]

def stops (l : Level) : List String := closers ++ (operators.take l.rank).flatten

theorem stops_subset {l m : Level} (h : l ≤ m) : l.stops ⊆ m.stops := by
  have htake : operators.take l.rank <+: operators.take m.rank := List.take_prefix_take_left h
  obtain ⟨rest, hrest⟩ := htake
  intro s hs
  rw [stops, List.mem_append] at hs ⊢
  rw [← hrest, List.flatten_append, List.mem_append]
  exact hs.imp_right .inl

def reader : Level → Rules → Reader (Option Expr)
  | disjunction => Grammar.disjunction
  | conjunction => Grammar.conjunction
  | identity => Grammar.identity
  | equality => Grammar.equality
  | comparison => Grammar.comparison
  | ranged => Grammar.ranged
  | bitwise => Grammar.bitwise
  | sum => Grammar.sum
  | product => Grammar.product
  | unary => Grammar.unary

end Level

/-! ## Where an expression ends -/

/-- No pair of angle brackets comes next, which would be an operator by itself. -/
def Apart (r : List Lexeme) : Prop :=
  ∀ s ∈ ["<", ">"], (∃ t ∈ r.head?, t.kind = .fixed s) → ∀ t ∈ r[1]?, t.kind ≠ .fixed s

/-- An expression of a level ends before some tokens. -/
structure Stops (l : Level) (r : List Lexeme) : Prop where
  next : Next l.stops r
  apart : Apart r

theorem Stops.mono {l m : Level} {r : List Lexeme} (h : Stops l r) (hlm : l ≤ m) : Stops m r :=
  ⟨h.next.mono (Level.stops_subset hlm), h.apart⟩

/-! ## Steps -/

/-- One step of a chain: an operator and its right operand. -/
def chainStep (operators : List (String × (Expr → Expr → Expr))) (right : Reader (Option Expr)) (left : Expr) :
    Reader (Option Expr) := do
  match ← takeIf fun t => operators.any fun o => t.is o.1 with
  | none => return none
  | some t =>
    let remarks ← waiting
    let right ← need right
    match operators.find? fun o => t.is o.1 with
    | some o => return some (← builtWith remarks (o.2 left right))
    | none => return none

theorem chainFrom_eq (operators : List (String × (Expr → Expr → Expr))) (right : Reader (Option Expr)) :
    chainFrom operators right = repeated (chainStep operators right) := rfl

def sumOperators : List (String × (Expr → Expr → Expr)) :=
  [("+", fun a b => .operated .add a b), ("-", fun a b => .operated .subtract a b),
    ("%", fun a b => .operated .modulo a b), ("COLLATE", fun a b => .operated .collate a (collation b))]

def productOperators : List (String × (Expr → Expr → Expr)) :=
  [("*", fun a b => .operated .multiply a b), ("/", fun a b => .operated .divide a b),
    ("<->", fun a b => .operated .distance a b)]

namespace Level

def first (l : Level) (g : Rules) : Reader (Option Expr) :=
  match l with
  | product => do
    match ← power g with
    | some e => return some (← zoned g e)
    | none => return none
  | l => l.tighter.reader g

def step (l : Level) (g : Rules) (e : Expr) : Reader (Option Expr) :=
  match l with
  | disjunction => chainStep [("OR", fun a b => .operated .or a b)] (Grammar.conjunction g) e
  | conjunction => chainStep [("AND", fun a b => .operated .and a b)] (Grammar.identity g) e
  | identity => identityStep g e
  | equality => chainStep equalities (Grammar.comparison g) e
  | comparison => chainStep orders (Grammar.ranged g) e
  | ranged => rangeTest g e
  | bitwise => bitwiseStep g e
  | sum => chainStep sumOperators (Grammar.product g) e
  | product => chainStep productOperators (power g) e
  | unary => return none

end Level

section
variable {g : Rules} {e : Expr} {b r : List Lexeme}

theorem run_bind_some {p : Reader Expr} {c : Cursor} :
    (p >>= fun e => pure (some e)).run c = (p.run c).map fun q => (some q.1, q.2) := by
  rw [StateT.run_bind]
  cases p.run c <;> rfl

theorem run_chainOf {operators : List (String × (Expr → Expr → Expr))} {operand : Reader (Option Expr)} {c c' : Cursor}
    (h : operand.run c = some (some e, c')) :
    (chainOf operators operand).run c = ((repeated (chainStep operators operand) e).run c').map fun p => (some p.1, p.2) := by
  rw [chainOf, run_bind_of h, ← chainFrom_eq]
  exact run_bind_some

theorem run_product {c c' : Cursor} (h : (Level.product.first g).run c = some (some e, c')) :
    (product g).run c = ((repeated (chainStep productOperators (power g)) e).run c').map fun p => (some p.1, p.2) := by
  change (power g >>= _).run c = _ at h
  rw [StateT.run_bind] at h
  obtain ⟨⟨o, c₁⟩, hpower, h⟩ := Option.bind_eq_some_iff.1 h
  cases o with
  | none => cases h
  | some e₀ =>
    change (zoned g e₀ >>= fun e => pure (some e)).run c₁ = _ at h
    rw [run_bind_some] at h
    obtain ⟨⟨e', c₂⟩, hzoned, hpair⟩ := Option.map_eq_some_iff.1 h
    cases hpair
    rw [product, run_bind_of hpower]
    show (zoned g e₀ >>= fun e => chainFrom productOperators (power g) e >>= fun e => pure (some e)).run c₁ = _
    rw [run_bind_of hzoned, ← chainFrom_eq]
    exact run_bind_some

/-- A level after its first operand. -/
theorem Level.run_reader {l : Level} (hl : l ≠ .unary) {c c' : Cursor} (h : (l.first g).run c = some (some e, c')) :
    (l.reader g).run c = ((repeated (l.step g) e).run c').map fun p => (some p.1, p.2) := by
  cases l with
  | unary => exact absurd rfl hl
  | disjunction | conjunction | equality | comparison | sum => exact run_chainOf h
  | identity =>
    change (Grammar.equality g).run c = _ at h
    change (Grammar.identity g).run c = _
    rw [Grammar.identity, run_bind_of h]
    exact run_bind_some
  | ranged =>
    change (Grammar.bitwise g).run c = _ at h
    change (Grammar.ranged g).run c = _
    rw [Grammar.ranged, run_bind_of h]
    exact run_bind_some
  | bitwise =>
    change (Grammar.sum g).run c = _ at h
    change (Grammar.bitwise g).run c = _
    rw [Grammar.bitwise, run_bind_of h]
    exact run_bind_some
  | product => exact run_product h

/-! ## Where no step begins -/

theorem run_chainStep_none {stops : List String} (hr : Next stops r) {operators : List (String × (Expr → Expr → Expr))}
    {right : Reader (Option Expr)} (h : ∀ s ∈ stops, s ∉ operators.map Prod.fst) :
    (chainStep operators right e).run (mid b r) = some (none, mid b r) := by
  rw [chainStep, run_bind_of (run_takeIf_none fun t ht => ?_)]
  · rfl
  · obtain ⟨s, hs, hkind, -⟩ := hr t ht
    rw [List.any_eq_false]
    intro o ho his
    obtain rfl : s = o.1 := by simpa [Lexeme.is_token, hkind] using his
    exact h _ hs (List.mem_map_of_mem ho)

theorem run_acceptPair_none {s : String} (hr : Apart r) (hs : s ∈ ["<", ">"]) :
    (acceptPair s s).run (mid b r) = some (false, mid b r) := by
  have hpair : ((r.head?.map Lexeme.token).any (·.is s) && (r[1]?.map Lexeme.token).any (·.is s)) = false := by
    have hr := hr s hs
    match r with
    | [] | [_] => simp
    | t :: u :: r =>
      simp only [List.head?_cons, Option.mem_some_iff, exists_eq_left', List.getElem?_cons_succ, List.getElem?_cons_zero,
        forall_eq'] at hr
      simpa [Lexeme.is_token] using hr
  rw [acceptPair, run_bind_of run_peek, run_bind_of run_peekSecond, if_neg (by simp [hpair])]
  rfl

theorem run_bitwiseStep_none (hr : Stops .bitwise r) : (bitwiseStep g e).run (mid b r) = some (none, mid b r) := by
  rw [bitwiseStep, run_bind_of (hr.next.acceptAny (by decide))]
  dsimp only
  rw [run_bind_of (run_acceptPair_none hr.apart (by decide)), if_neg (by decide),
    run_bind_of (run_acceptPair_none hr.apart (by decide))]
  rfl

theorem run_rangeTest_none {stops : List String} (hr : Next stops r) (h : stops ⊆ Level.ranged.stops) :
    (rangeTest g e).run (mid b r) = some (none, mid b r) := by
  have hr := hr.mono h
  have hback : (backTo (mid b r)).run (mid b r) = some ((), mid b r) := run_backTo rfl
  have hoperators : (takeIf fun t => rangeOperators.any fun o => t.is o.1).run (mid b r) = some (none, mid b r) :=
    run_takeIf_none (hr.of_kind (fun k => rangeOperators.any fun o => k == .fixed o.1) (by decide))
  rw [rangeTest, run_bind_of (StateT.run_get _), run_bind_of (hr.accept (by decide)), run_bind_of hoperators]
  dsimp only
  rw [run_bind_of (hr.acceptAny (by decide))]
  dsimp only
  rw [run_bind_of (StateT.run_pure _ _), run_bind_of hback]
  rfl

theorem run_identityStep_none (hr : Next Level.identity.stops r) :
    (identityStep g e).run (mid b r) = some (none, mid b r) := by
  have hback : (backTo (mid b r)).run (mid b r) = some ((), mid b r) := run_backTo rfl
  have hno : ¬false = true := by decide
  rw [identityStep, run_bind_of (StateT.run_get _), run_bind_of (hr.accept (by decide)),
    run_bind_of (hr.accept (by decide))]
  dsimp only
  rw [if_neg hno, run_bind_of (hr.accept (by decide)), if_neg hno, run_bind_of (hr.accept (by decide)), if_neg hno,
    run_bind_of run_acceptIf_false, if_neg hno, run_bind_of (StateT.run_pure _ _)]
  dsimp only
  rw [run_bind_of hback]
  rfl

/-- A level ends where none of its operators comes next. -/
theorem Level.run_step_none {l : Level} (hr : Stops l r) : (l.step g e).run (mid b r) = some (none, mid b r) := by
  cases l with
  | unary => rfl
  | disjunction | conjunction | equality | comparison | sum | product => exact run_chainStep_none hr.next (by decide)
  | identity => exact run_identityStep_none hr.next
  | ranged => exact run_rangeTest_none hr.next (List.Subset.refl _)
  | bitwise => exact run_bitwiseStep_none hr

end

/-! ## Expressions -/

/-- An expression of a level is read from some tokens, wherever it ends before what comes next. -/
def Reads (l σ : Level) (ts : List Lexeme) (e : Expr) : Prop :=
  ∀ n, ts.length < n → ∀ b r, Stops σ r →
    (l.reader (rules n)).run (mid b (ts ++ r)) = some (some e, mid (b ++ ts) r)

/-- An expression of a level that may go on: a first operand and some steps. -/
def Chained (l σ : Level) (ts : List Lexeme) (e : Expr) : Prop :=
  ∃ ts₀ us e₀, ts = ts₀ ++ us ∧ ∀ n, ts.length < n → ∀ r, Stops σ r →
    (∀ b, (l.first (rules n)).run (mid b (ts₀ ++ (us ++ r))) = some (some e₀, mid (b ++ ts₀) (us ++ r))) ∧
    Steps (l.step (rules n)) r us e₀ e

def ReadsStep (l σ : Level) (ts : List Lexeme) (e e' : Expr) : Prop :=
  ∀ n, ts.length < n → ∀ b r, Stops σ r →
    (l.step (rules n) e).run (mid b (ts ++ r)) = some (some e', mid (b ++ ts) r)

section
variable {l σ τ : Level} {ts us : List Lexeme} {e e' : Expr}

theorem Reads.mono (h : Reads l σ ts e) (hτ : τ ≤ σ) : Reads l τ ts e := fun n hn b r hr => h n hn b r (hr.mono hτ)

theorem Chained.mono (h : Chained l σ ts e) (hτ : τ ≤ σ) : Chained l τ ts e := by
  obtain ⟨ts₀, us, e₀, rfl, hrun⟩ := h
  exact ⟨ts₀, us, e₀, rfl, fun n hn r hr => hrun n hn r (hr.mono hτ)⟩

theorem Chained.reads (h : Chained l σ ts e) (hl : l ≠ .unary) (hσ : σ ≤ l) : Reads l σ ts e := by
  obtain ⟨ts₀, us, e₀, rfl, hrun⟩ := h
  intro n hn b r hr
  obtain ⟨hfirst, hsteps⟩ := hrun n hn r hr
  rw [List.append_assoc, Level.run_reader hl (hfirst b),
    hsteps.run_repeated (fun b => Level.run_step_none (hr.mono hσ)), List.append_assoc]
  rfl

theorem Chained.step (h : Chained l σ ts e) (hstep : ReadsStep l τ us e e') (hus : us ≠ [])
    (hnext : ∀ r, Stops τ r → Stops σ (us ++ r)) : Chained l τ (ts ++ us) e' := by
  obtain ⟨ts₀, vs, e₀, rfl, hrun⟩ := h
  refine ⟨ts₀, vs ++ us, e₀, List.append_assoc .., fun n hn r hr => ?_⟩
  rw [List.length_append] at hn
  obtain ⟨hfirst, hsteps⟩ := hrun n (by omega) (us ++ r) (hnext r hr)
  rw [List.append_assoc]
  exact ⟨hfirst, hsteps.snoc (fun b => hstep n (by omega) b r hr) hus⟩

theorem run_zoned_none {g : Rules} {b r : List Lexeme} {stops : List String} (hr : Next stops r) (h : "AT" ∉ stops) :
    (zoned g e).run (mid b r) = some (e, mid b r) := by
  refine run_repeated_none fun b => ?_
  rw [run_bind_of (hr.acceptWords h)]
  rfl

theorem run_power {g : Rules} {c : Cursor} {b r : List Lexeme} (h : (unary g).run c = some (some e, mid b r)) (hr : Next Level.unary.stops r) :
    (power g).run c = some (some e, mid b r) := by
  rw [power, run_chainOf h, run_repeated_none fun b => run_chainStep_none hr (by decide)]
  rfl

/-- An expression of the next tighter level is one of a level, without a step. -/
theorem Reads.chained (h : Reads l.tighter σ ts e) (hl : l ≠ .unary) (hσ : σ ≤ l.tighter) : Chained l σ ts e := by
  refine ⟨ts, [], e, (List.append_nil ts).symm, fun n hn r hr => ⟨fun b => ?_, .nil e⟩⟩
  have hread := h n hn b r hr
  cases l with
  | unary => exact absurd rfl hl
  | product =>
    have hnext := (hr.mono hσ).next
    show (power (rules n) >>= _).run _ = _
    rw [List.nil_append, run_bind_of (run_power hread hnext)]
    dsimp only
    rw [run_bind_of (run_zoned_none hnext (by decide))]
    rfl
  | _ => exact hread

/-- The end of an expression of a level is the end of any tighter one. -/
theorem Reads.weaken (h : Reads l.tighter σ ts e) (hl : l ≠ .unary) (hσ : σ ≤ l) : Reads l σ ts e :=
  (h.chained hl (Nat.le_trans hσ l.le_tighter)).reads hl hσ

/-- An expression of a level is one of any weaker level. -/
theorem Reads.lift {m : Level} (h : Reads l σ ts e) (hm : m ≤ l) (hτm : τ ≤ m) (hτσ : τ ≤ σ) : Reads m τ ts e := by
  refine Level.weaker_induction (P := fun k => Reads k τ ts e) hm (h.mono hτσ) fun k hk hmk hread => ?_
  exact hread.weaken hk (Nat.le_trans hτm hmk)

end

end FeatureGraph.Filter.Grammar
