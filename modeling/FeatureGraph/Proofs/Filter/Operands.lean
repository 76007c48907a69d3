import FeatureGraph.Proofs.Filter.Levels

/-! # Reading operands -/
namespace FeatureGraph.Filter.Grammar
open Reader Cursor

section
variable {g : Rules} {e : Expr} {b r : List Lexeme} {t : Lexeme}

/-! ## What does not follow an operand -/

theorem run_brackets_none (hr : Next Level.unary.stops r) : (brackets g e).run (mid b r) = some (e, mid b r) := by
  refine run_repeated_none fun b => ?_
  rw [bracketed, run_bind_of (hr.accept (by decide)), if_neg (by decide), run_bind_of (hr.accept (by decide))]
  rfl

theorem run_suffix_none (hr : Next Level.unary.stops r) : (suffix g e).run (mid b r) = some (none, mid b r) := by
  rw [suffix, run_bind_of (hr.acceptAny (by decide))]
  rfl

theorem run_suffixes_none (hr : Next Level.unary.stops r) : (suffixes g e).run (mid b r) = some (e, mid b r) := by
  rw [suffixes, run_bind_of (run_brackets_none hr)]
  exact run_repeated_none fun b => run_suffix_none hr

/-! ## What does not begin an operand -/

/-- A token that is no sign and begins no value of a type. -/
structure BeginsPlain (t : Lexeme) : Prop where
  sign : ∀ s ∈ ["-", "+", "NOT", "RLIKE", "|/", "||/"], t.kind ≠ .fixed s
  interval : t.kind ≠ .fixed "INTERVAL"
  typeWord : isTypeWord t.token = false

theorem run_unary (ht : BeginsPlain t) : (unary g).run (mid b (t :: r)) = (operand g).run (mid b (t :: r)) := by
  have hnot : ∀ s ∈ ["-", "+", "NOT", "RLIKE", "|/", "||/"],
      (accept s).run (mid b (t :: r)) = some (false, mid b (t :: r)) := by
    intro s hs
    refine run_accept_none ?_
    rintro u ⟨⟩
    exact ht.sign s hs
  simp only [List.forall_mem_cons] at hnot
  obtain ⟨h1, h2, h3, h4, h5, h6, -⟩ := hnot
  rw [unary, run_bind_of h1, if_neg (by decide), run_bind_of h2, if_neg (by decide), run_bind_of h3,
    if_neg (by decide), run_bind_of h4, if_neg (by decide), run_bind_of h5, if_neg (by decide), run_bind_of h6,
    if_neg (by decide)]

theorem run_typedLiteral_none (ht : isTypeWord t.token = false) :
    (typedLiteral g).run (mid b (t :: r)) = some (none, mid b (t :: r)) := by
  have hname : (typeName false).run (mid b (t :: r)) = some (none, mid b (t :: r)) := by
    rw [typeName, run_bind_of (run_takeIf_none (by rintro u ⟨⟩; exact ht))]
    rfl
  have htype : (dataType g true false).run (mid b (t :: r)) = some (none, mid b (t :: r)) := by
    rw [dataType, run_bind_of (StateT.run_get _), typeOf, run_bind_of (StateT.run_get _), run_bind_of hname]
    rfl
  rw [typedLiteral, run_bind_of (StateT.run_get _), run_bind_of htype]
  rfl

theorem run_operand_of_column (ht : BeginsPlain t) {c : Cursor}
    (hcolumn : (column g).run (mid b (t :: r)) = some (some e, c)) (hend : (suffixes g e).run c = some (e, c)) :
    (operand g).run (mid b (t :: r)) = some (some e, c) := by
  have hinterval : (interval g).run (mid b (t :: r)) = some (none, mid b (t :: r)) := by
    rw [interval, run_bind_of (StateT.run_get _), run_bind_of (run_accept_none (by rintro u ⟨⟩; exact ht.interval))]
    rfl
  rw [operand, run_orElse_none hinterval, run_orElse_none (run_typedLiteral_none ht.typeWord), run_bind_of hcolumn]
  dsimp only
  rw [run_bind_of hend]
  rfl

/-! ## Literals -/

theorem run_primary_literal (h : (literalOf t.token) = some e) (hkind : t.kind ≠ .string) :
    (primary g).run (mid b (t :: r)) = some (some e, mid (b ++ [t]) r) := by
  rw [primary, run_bind_of (run_takeIf_of (by rw [h]; rfl))]
  dsimp only
  rw [h, run_bind_of (run_built _), if_neg (by simpa using hkind)]
  rfl

theorem run_primary_string (hr : Next Level.unary.stops r) (text : List Char) :
    (primary g).run (mid b (⟨.string, text⟩ :: r)) = some (some (.string text), mid (b ++ [⟨.string, text⟩]) r) := by
  have hadjacent : (adjacent (.string text)).run (mid (b ++ [⟨.string, text⟩]) r) =
      some (.string text, mid (b ++ [⟨.string, text⟩]) r) := by
    rw [adjacent, run_bind_of (run_repeated_none fun b => ?_)]
    · rfl
    · rw [run_bind_of (hr.takeIf_kind (by decide))]
      rfl
  rw [primary, run_bind_of (run_takeIf_of rfl)]
  dsimp only
  rw [run_bind_of (run_built _)]
  show (adjacent (.string text) >>= fun e => pure (some e)).run _ = _
  rw [run_bind_of hadjacent]
  rfl

theorem run_reference_of_primary {c c' : Cursor} (h : (primary g).run c = some (some e, c'))
    (hname : ∀ n, e.popRemarks.1 ≠ .name n) : (reference g).run c = some (some e, c') := by
  have hfield : (field g false).run c = some (some e, c') := by
    rw [field, if_neg (by decide)]
    exact run_orElse_of h
  rw [reference, run_bind_of (run_orElse_of hfield)]
  dsimp only
  split
  · next n remarks hpop => exact absurd (congrArg Prod.fst hpop) (hname n)
  · rfl

theorem run_operand_of_reference (ts : List Lexeme) (ht : BeginsPlain t)
    (h : (reference g).run (mid b (t :: ts ++ r)) = some (some e, mid (b ++ t :: ts) r))
    (hr : Next Level.unary.stops r) :
    (unary g).run (mid b (t :: ts ++ r)) = some (some e, mid (b ++ t :: ts) r) := by
  have hcolumn : (column g).run (mid b (t :: ts ++ r)) = some (some e, mid (b ++ t :: ts) r) := by
    rw [column, run_bind_of h]
    dsimp only
    rw [run_bind_of (run_suffixes_none hr)]
    rfl
  rw [List.cons_append] at hcolumn ⊢
  rw [run_unary ht, run_operand_of_column ht hcolumn (run_suffixes_none hr)]

/-! ## Names -/

/-- Words that begin an operand of their own, without parentheses. -/
def formWords : List String := ["CASE", "IF", "ANY", "VARIADIC", "CONNECT_BY_ROOT"]

/-- A word in quotes or not that calls no function and is no operand by itself. -/
structure MayTitle (afterPoint : Bool) (t : Lexeme) : Prop where
  brace : t.kind ≠ .fixed "\x7b"
  form : afterPoint = true ∨ t.kind = .quoted ∨ t.kind = .string ∨ t.token.upper ∉ formWords
  moment : afterPoint = true ∨ ∀ s, t.kind = .fixed s → (momentNames.contains s || s == "CURRENT_TIME") = false

theorem run_functionCall_none {isMember afterPoint : Bool} (ht : MayTitle afterPoint t)
    (hb : afterPoint = true → (b.getLast?.any fun u => u.kind == .fixed ".") = true)
    (hr : ∀ u ∈ r.head?, u.kind ≠ .fixed "(") :
    (functionCall g isMember).run (mid b (t :: r)) = some (none, mid b (t :: r)) := by
  have hbrace : (isAhead "\x7b").run (mid b (t :: r)) = some (false, mid b (t :: r)) := by
    rw [run_isAhead]
    simp [ht.brace]
  rw [functionCall, run_bind_of (StateT.run_get _), run_bind_of hbrace, run_bind_of run_peekSecond, Bool.false_and, if_neg (by decide)]
  rw [run_bind_of (StateT.run_pure _ _), run_bind_of (StateT.run_get _), run_bind_of run_peek]
  dsimp only [List.head?_cons, Option.map_some]
  have hlast : Option.any (fun x => x.is ".") (mid b (t :: r)).last = b.getLast?.any fun u => u.kind == .fixed "." := by
    cases hb : b.getLast? <;> simp [mid, hb, Token.is]
  have hparen : (Option.map Lexeme.token (t :: r)[1]?).any (·.is "(") = false := by
    cases r with
    | nil => rfl
    | cons u r => simpa [Lexeme.is_token] using hr u rfl
  split
  · next read hread =>
    exfalso
    split at hread
    · cases hread
    · next hno =>
      rw [hlast] at hno
      simp only [Bool.or_eq_true, not_or, Lexeme.kind_token, beq_iff_eq] at hno
      obtain ⟨⟨hdot, hquoted⟩, hstring⟩ := hno
      have hform : t.token.upper ∉ formWords := by
        rcases ht.form with h | h | h | h
        · exact absurd (hb h) hdot
        · exact absurd h hquoted
        · exact absurd h hstring
        · exact h
      split at hread
      all_goals first
        | cases hread; done
        | next hupper => exact hform (by rw [hupper]; decide)
  · rw [run_bind_of run_peekSecond, hparen]
    simp only [Bool.not_false, if_true]
    rw [if_neg ?_]
    · rw [run_bind_of (StateT.run_pure _ _)]
      rfl
    · rw [hlast, Bool.and_eq_true, not_and, Bool.not_eq_true']
      intro hkind
      rcases ht.moment with h | h
      · rw [hb h]
        decide
      · split at hkind
        · next s hs => exact absurd hkind (by rw [h s hs]; decide)
        · cases hkind

theorem run_primary_none (hliteral : literalOf t.token = none) (hpoint : t.kind ≠ .fixed ".")
    (hparen : t.kind ≠ .fixed "(") : (primary g).run (mid b (t :: r)) = some (none, mid b (t :: r)) := by
  rw [primary, run_bind_of (run_takeIf_none (by rintro u ⟨⟩; rw [hliteral]; rfl))]
  dsimp only
  rw [run_bind_of (StateT.run_get _), run_bind_of (run_accept_none (by rintro u ⟨⟩; exact hpoint))]
  show (parentheses g).run _ = _
  rw [parentheses, run_bind_of (run_accept_none (by rintro u ⟨⟩; exact hparen))]
  rfl

theorem run_lastName (isQuoted : Bool) :
    (lastName isQuoted).run (mid (b ++ [t]) r) = some (.name ⟨t.text, isQuoted⟩, mid (b ++ [t]) r) := by
  rw [lastName, run_bind_of (StateT.run_get _), run_built]
  simp [mid]

def Lexeme.title (t : Lexeme) : Name := ⟨t.text, t.kind == .quoted⟩

theorem run_nameWhere (test : Token → Bool) (htest : t.kind = .quoted ∨ test t.token = true)
    (hstring : t.kind ≠ .string) (hparameter : ∀ s ∈ ["?", "@", ":", "%"], t.kind ≠ .fixed s) :
    (nameWhere test).run (mid b (t :: r)) = some (some (.name (Lexeme.title t)), mid (b ++ [t]) r) := by
  by_cases hquoted : t.kind = .quoted
  · have hname : (quotedName).run (mid b (t :: r)) = some (some (.name (Lexeme.title t)), mid (b ++ [t]) r) := by
      rw [quotedName, run_bind_of (run_takeIf_of (by simp [hquoted]))]
      dsimp only
      rw [run_bind_of (run_lastName true)]
      simp [Lexeme.title, hquoted]
    rw [nameWhere, run_orElse_of hname]
  · have hname : (quotedName).run (mid b (t :: r)) = some (none, mid b (t :: r)) := by
      rw [quotedName, run_bind_of (run_takeIf_none (by rintro u ⟨⟩; simpa using hquoted))]
      dsimp only
      rw [parameter, run_bind_of (StateT.run_get _), run_bind_of (run_acceptAny_none ?_)]
      · rfl
      · rintro s hs u ⟨⟩
        exact hparameter s hs
    rw [nameWhere, run_orElse_none hname, run_bind_of (run_takeIf_of (htest.resolve_left hquoted))]
    dsimp only
    rw [run_bind_of (run_lastName _)]
    simp [Lexeme.title, hquoted, hstring]

structure BeginsColumn (t : Lexeme) : Prop extends BeginsPlain t, MayTitle false t where
  literal : literalOf t.token = none
  title : t.kind = .quoted ∨ mayName t.token = true
  symbol : ∀ s ∈ [".", "(", "?", "@", ":", "%"], t.kind ≠ .fixed s

structure NamesMember (t : Lexeme) : Prop extends MayTitle true t where
  literal : literalOf t.token = none
  title : t.kind = .quoted ∨ (mayNameAnything t.token || mayName t.token) = true
  symbol : ∀ s ∈ [".", "(", "?", "@", ":", "%"], t.kind ≠ .fixed s

theorem ne_string_of_literalOf (h : literalOf t.token = none) : t.kind ≠ .string := by
  intro hkind
  simp [literalOf, hkind] at h

theorem run_reference_column (ht : BeginsColumn t) (hr : ∀ u ∈ r.head?, u.kind ≠ .fixed "(") :
    (reference g).run (mid b (t :: r)) =
      some (some (.column [] (.name (Lexeme.title t))), mid (b ++ [t]) r) := by
  have hprimary := run_primary_none (g := g) (b := b) (r := r) ht.literal (ht.symbol _ (by simp)) (ht.symbol _ (by simp))
  have hcall : (functionCall g false).run (mid b (t :: r)) = some (none, mid b (t :: r)) :=
    run_functionCall_none ht.toMayTitle (by simp) hr
  have hname := run_nameWhere (b := b) (r := r) mayName ht.title (ne_string_of_literalOf ht.literal)
    fun s hs => ht.symbol s (List.mem_of_mem_drop (i := 2) hs)
  have hfield : (field g false).run (mid b (t :: r)) = some (some (.name (Lexeme.title t)), mid (b ++ [t]) r) := by
    rw [field, if_neg (by decide), run_orElse_none hprimary, run_orElse_none hcall, hname]
  rw [reference, run_bind_of (run_orElse_of hfield)]
  show (builtWith [] (.column [] (.name (Lexeme.title t))) >>= fun e => pure (some e)).run _ = _
  rw [run_bind_of (run_builtWith _)]
  rfl

theorem run_field_member (ht : NamesMember t) (hb : b.getLast?.any (fun u => u.kind == .fixed ".") = true)
    (hr : ∀ u ∈ r.head?, u.kind ≠ .fixed "(") :
    (field g true).run (mid b (t :: r)) = some (some (.name (Lexeme.title t)), mid (b ++ [t]) r) := by
  have hprimary := run_primary_none (g := g) (b := b) (r := r) ht.literal (ht.symbol _ (by simp)) (ht.symbol _ (by simp))
  have hcall : (functionCall g true).run (mid b (t :: r)) = some (none, mid b (t :: r)) :=
    run_functionCall_none ht.toMayTitle (fun _ => hb) hr
  have hname := run_nameWhere (b := b) (r := r) (fun t => mayNameAnything t || mayName t) ht.title
    (ne_string_of_literalOf ht.literal)
    fun s hs => ht.symbol s (List.mem_of_mem_drop (i := 2) hs)
  rw [field, if_pos rfl, run_orElse_none hcall, run_orElse_none hprimary, anyName, hname]

/-- A longer column after a point and a name. -/
theorem run_suffix_member {qualifiers : List Expr} {inner : Expr} (hlength : qualifiers.length < 3) (ht : NamesMember t)
    (hr : ∀ u ∈ r.head?, u.kind ≠ .fixed "(" ∧ u.kind ≠ .fixed "[" ∧ u.kind ≠ .fixed "\x7b") :
    (suffix g (.column qualifiers inner)).run (mid b (.fixed "." :: t :: r)) =
      some (some (.column (qualifiers ++ [inner]) (.name (Lexeme.title t))), mid (b ++ [.fixed ".", t]) r) := by
  have hpoint : (acceptAny [".", "::", "?::", "->", "->>", "#>", "#>>", "?"]).run (mid b (.fixed "." :: t :: r)) =
      some (some (Lexeme.fixed ".").token, mid (b ++ [.fixed "."]) (t :: r)) := run_takeIf_of rfl
  have hfield := run_field_member (g := g) (b := b ++ [.fixed "."]) ht (by simp [Lexeme.fixed]) fun u hu => (hr u hu).1
  have hbrackets : ∀ e, (brackets g e).run (mid (b ++ [.fixed "."] ++ [t]) r) = some (e, mid (b ++ [.fixed "."] ++ [t]) r) := by
    intro e
    refine run_repeated_none fun b => ?_
    rw [bracketed, run_bind_of (run_accept_none fun u hu => (hr u hu).2.2), if_neg (by decide),
      run_bind_of (run_accept_none fun u hu => (hr u hu).2.1)]
    rfl
  rw [suffix, run_bind_of hpoint]
  dsimp only
  simp only [Lexeme.is_fixed, String.reduceEq, decide_false, decide_true, Bool.or_false, Bool.false_eq_true, if_false, if_true]
  have hmember : (member (.column qualifiers inner) (.name (Lexeme.title t))).run (mid (b ++ [.fixed "."] ++ [t]) r) =
      some (.column (qualifiers ++ [inner]) (.name (Lexeme.title t)), mid (b ++ [.fixed "."] ++ [t]) r) := by
    show (if qualifiers.length < 3 then _ else _ : Reader Expr).run _ = _
    rw [if_pos hlength]
    exact run_builtWith _
  rw [run_bind_of (run_need hfield)]
  show (member (.column qualifiers inner) (.name (Lexeme.title t)) >>= fun e => pure (e.addRemarks []) >>= fun whole =>
    brackets g whole >>= fun e => pure (some e)).run _ = _
  rw [run_bind_of hmember, run_bind_of (StateT.run_pure _ _), addRemarks_nil, run_bind_of (hbrackets _)]
  simp

/-! ## Columns -/

def pathTokens (ts : List Lexeme) : List Lexeme := ts.flatMap fun t => [.fixed ".", t]

/-- A column with more names after it. -/
def lengthened (qualifiers : List Expr) (member : Expr) : List Name → Expr
  | [] => .column qualifiers member
  | n :: ns => lengthened (qualifiers ++ [member]) (.name n) ns

theorem lengthened_append (qualifiers : List Expr) (member : Expr) (ns : List Name) (n : Name) :
    lengthened qualifiers member (ns ++ [n]) = .column (qualifiers ++ member :: ns.map .name) (.name n) := by
  induction ns generalizing qualifiers member with
  | nil => rfl
  | cons m ns ih =>
    rw [List.cons_append, lengthened, ih, List.append_assoc]
    rfl

theorem kind_head_pathTokens {s : String} {ts : List Lexeme} (hr : Next Level.unary.stops r) (hs : s ∉ Level.unary.stops)
    (hpoint : s ≠ ".") : ∀ u ∈ (pathTokens ts ++ r).head?, u.kind ≠ .fixed s := by
  cases ts with
  | nil => exact hr.kind_ne hs
  | cons t ts =>
    rintro u ⟨⟩
    simpa [Lexeme.fixed] using hpoint.symm

theorem steps_suffix {ts : List Lexeme} (hts : ∀ t ∈ ts, NamesMember t) (hr : Next Level.unary.stops r)
    (qualifiers : List Expr) (hlength : qualifiers.length + ts.length ≤ 3) (member : Expr) :
    Steps (suffix g) r (pathTokens ts) (.column qualifiers member)
      (lengthened qualifiers member (ts.map Lexeme.title)) := by
  induction ts generalizing qualifiers member with
  | nil => exact .nil _
  | cons t ts ih =>
    obtain ⟨ht, hts⟩ := List.forall_mem_cons.1 hts
    rw [List.length_cons] at hlength
    refine Steps.cons (fun b => ?_) (List.cons_ne_nil (.fixed ".") [t])
      (ih hts (qualifiers ++ [member]) (by rw [List.length_append, List.length_singleton]; omega) _)
    refine run_suffix_member (by omega) ht fun u hu => ⟨?_, ?_, ?_⟩
    · exact kind_head_pathTokens hr (by decide) (by decide) u hu
    · exact kind_head_pathTokens hr (by decide) (by decide) u hu
    · exact kind_head_pathTokens hr (by decide) (by decide) u hu

end

theorem reads_column {t : Lexeme} {ts : List Lexeme} (ht : BeginsColumn t) (hts : ∀ t ∈ ts, NamesMember t)
    (hlength : ts.length ≤ 3) : Reads .unary .unary (t :: pathTokens ts)
      (lengthened [] (.name (Lexeme.title t)) (ts.map Lexeme.title)) := by
  intro n _ b r hr
  have hr := hr.next
  have hreference := run_reference_column (g := rules n) (b := b) (r := pathTokens ts ++ r) ht
    (kind_head_pathTokens hr (by decide) (by decide))
  have hbrackets : ∀ (e : Expr) b, (brackets (rules n) e).run (mid b (pathTokens ts ++ r)) = some (e, mid b (pathTokens ts ++ r)) := by
    intro e b
    refine run_repeated_none fun b => ?_
    rw [bracketed, run_bind_of (run_accept_none (kind_head_pathTokens hr (by decide) (by decide))), if_neg (by decide),
      run_bind_of (run_accept_none (kind_head_pathTokens hr (by decide) (by decide)))]
    rfl
  have hsteps := steps_suffix (g := rules n) hts hr [] (by simpa using hlength) (.name (Lexeme.title t))
  have hcolumn : (column (rules n)).run (mid b (t :: (pathTokens ts ++ r))) =
      some (some (lengthened [] (.name (Lexeme.title t)) (ts.map Lexeme.title)), mid (b ++ t :: pathTokens ts) r) := by
    rw [column, run_bind_of hreference]
    dsimp only
    have hsuffixes : (suffixes (rules n) (.column [] (.name (Lexeme.title t)))).run (mid (b ++ [t]) (pathTokens ts ++ r)) =
        some (lengthened [] (.name (Lexeme.title t)) (ts.map Lexeme.title), mid (b ++ [t] ++ pathTokens ts) r) := by
      rw [suffixes, run_bind_of (hbrackets _ _), hsteps.run_repeated fun b => run_suffix_none hr]
    rw [run_bind_of hsuffixes, List.append_assoc]
    rfl
  show (unary _).run _ = _
  rw [List.cons_append, run_unary ht.toBeginsPlain,
    run_operand_of_column ht.toBeginsPlain hcolumn (run_suffixes_none hr)]

theorem reads_name {t : Lexeme} (ht : BeginsColumn t) : Reads .unary .unary [t] (.column [] (.name (Lexeme.title t))) :=
  reads_column ht (List.forall_mem_nil _) (Nat.zero_le _)

theorem reads_number (text : List Char) : Reads .unary .unary [⟨.number, text⟩] (.number text) := by
  intro n _ b r hr
  refine run_operand_of_reference [] ⟨by simp, by simp, rfl⟩ ?_ hr.next
  exact run_reference_of_primary (run_primary_literal rfl (by simp)) (by simp [Expr.popRemarks])

theorem reads_string (text : List Char) : Reads .unary .unary [⟨.string, text⟩] (.string text) := by
  intro n _ b r hr
  refine run_operand_of_reference [] ⟨by simp, by simp, rfl⟩ ?_ hr.next
  exact run_reference_of_primary (run_primary_string hr.next text) (by simp [Expr.popRemarks])

end FeatureGraph.Filter.Grammar
