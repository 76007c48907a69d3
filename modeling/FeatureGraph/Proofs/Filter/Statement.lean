import FeatureGraph.Proofs.Filter.Operators

/-! # Reading a whole filter

A filter is read as the condition of a query. What stands before the condition is always the same but for the name of
the table. -/
namespace FeatureGraph.Filter.Grammar
open Reader Cursor

section
variable {g : Rules} {e : Expr} {b r ts : List Lexeme} {t : Lexeme} {stops : List String}

/-! ## Titles -/

theorem run_limitAhead (hr : ∀ s ∈ ["LIMIT", "OFFSET"], ∀ u ∈ r.head?, u.kind ≠ .fixed s) :
    (limitAhead g).run (mid b r) = some (false, mid b r) := by
  have hahead : ((r.head?.map Lexeme.token).any fun t => t.is "LIMIT" || t.is "OFFSET") = false := by
    cases r with
    | nil => rfl
    | cons u r => simp [Lexeme.is_token, hr "LIMIT" (by simp) u rfl, hr "OFFSET" (by simp) u rfl]
  rw [limitAhead, run_bind_of run_peek, hahead]
  rfl

theorem run_nameWhere_none {test : Token → Bool} (hr : Next stops r) (hquoted : ∀ s ∈ stops, s ∉ ["?", "@", ":", "%"])
    (htest : ∀ u ∈ r.head?, test u.token = false) : (nameWhere test).run (mid b r) = some (none, mid b r) := by
  have hname : (quotedName).run (mid b r) = some (none, mid b r) := by
    rw [quotedName, run_bind_of (hr.takeIf_kind (by simp))]
    dsimp only
    rw [parameter, run_bind_of (StateT.run_get _), run_bind_of (hr.acceptAny (by simpa using hquoted))]
    rfl
  rw [nameWhere, run_orElse_none hname, run_bind_of (run_takeIf_none htest)]
  rfl

def titleEnds : List String := ["FROM", ")", ","]

theorem run_titledAs_none (hr : Next titleEnds r) :
    (titledAs g false (some e)).run (mid b r) = some (some e, mid b r) := by
  have hlimit : (limitAhead g).run (mid b r) = some (false, mid b r) :=
    run_limitAhead fun s hs => hr.kind_ne (by rcases List.mem_pair.1 hs with rfl | rfl <;> decide)
  have hname : (nameWhere fun t => mayName t).run (mid b r) = some (none, mid b r) :=
    run_nameWhere_none hr (by decide) (hr.of_kind (fun k => mayName ⟨k, [], []⟩) (by decide))
  rw [titledAs, run_bind_of hlimit, if_neg (by decide), run_bind_of (hr.accept (by decide))]
  dsimp only
  rw [if_neg (by decide), run_bind_of run_waiting, run_bind_of (hr.accept (by decide))]
  simp only [Bool.false_eq_true, if_false]
  rw [run_bind_of hname]
  rfl

theorem run_titled (h : Reads .disjunction .disjunction ts e) {n : ℕ} (hn : ts.length < n) (hr : Next titleEnds r) :
    (titled (rules n)).run (mid b (ts ++ r)) = some (some e, mid (b ++ ts) r) := by
  rw [titled, run_bind_of (run_assignment h hn (stops_of_next hr (by decide))), run_titledAs_none hr]

theorem reads_star : Reads .unary .unary [.fixed "*"] .star := by
  intro n _ b r hr
  refine run_operand_of_reference [] ⟨by simp [Lexeme.fixed], by simp [Lexeme.fixed], by decide⟩ ?_ hr.next
  exact run_reference_of_primary (run_primary_literal rfl (by simp [Lexeme.fixed])) (by simp [Expr.popRemarks])

/-! ## The table -/

structure NamesTable (t : Lexeme) : Prop where
  title : t.kind = .quoted ∨ (mayNameAnything t.token || mayName t.token) = true
  string : t.kind ≠ .string
  symbol : ∀ s ∈ ["?", "@", ":", "%"], t.kind ≠ .fixed s

theorem next_fixed {s : String} (hs : s ∈ stops) (hupper : (Lexeme.fixed s).token.upper = s) :
    Next stops (.fixed s :: r) := by
  rintro u ⟨⟩
  exact ⟨s, hs, rfl, hupper⟩

theorem run_tableTitle (ht : NamesTable t) (hr : Next ["WHERE"] r) (test : Token → Bool) :
    (tableTitle g test).run (mid b (.fixed "AS" :: t :: r)) =
      some (some (.name (Lexeme.title t)), mid (b ++ [.fixed "AS", t]) r) := by
  have hlimit : (limitAhead g).run (mid b (.fixed "AS" :: t :: r)) = some (false, mid b (.fixed "AS" :: t :: r)) :=
    run_limitAhead (by rintro s hs u ⟨⟩; rcases List.mem_pair.1 hs with rfl | rfl <;> decide)
  have hname := run_nameWhere (b := b ++ [.fixed "AS"]) (r := r) (fun t => mayNameAnything t || mayName t)
    ht.title ht.string ht.symbol
  rw [tableTitle, run_bind_of hlimit, if_neg (by decide), run_bind_of (run_accept_of rfl)]
  simp only [if_true]
  rw [run_bind_of (run_orElse_of hname), run_bind_of (StateT.run_get _), run_bind_of (hr.accept (by decide)),
    if_neg (by decide), run_bind_of (StateT.run_pure _ _)]
  simp

end

def placeholder : Lexeme := ⟨.name, "BLAH".toList⟩

def opening (t : Lexeme) : List Lexeme :=
  [.fixed "SELECT", .fixed "*", .fixed "FROM", placeholder, .fixed "AS", t, .fixed "WHERE"]

section
variable {e : Expr} {b r ts : List Lexeme} {t : Lexeme} {n : ℕ}

theorem run_table (g : Rules) (depth : ℕ) (ht : NamesTable t) (hr : Next ["WHERE"] r) :
    (table g (depth + 2)).run (mid b (placeholder :: .fixed "AS" :: t :: r)) =
      some (some (.form .plain [] [(.name (Lexeme.title placeholder), " AS ".toList), (.name (Lexeme.title t), [])]),
        mid (b ++ [placeholder, .fixed "AS", t]) r) := by
  have hnot : ∀ s, (accept s).run (mid b (placeholder :: .fixed "AS" :: t :: r)) =
      some (false, mid b (placeholder :: .fixed "AS" :: t :: r)) := by
    intro s
    exact run_accept_none (by rintro u ⟨⟩; simp [placeholder])
  have hbraced : (bracedTable g (depth + 1)).run (mid b (placeholder :: .fixed "AS" :: t :: r)) =
      some (none, mid b (placeholder :: .fixed "AS" :: t :: r)) := by
    rw [bracedTable, run_bind_of (hnot _)]
    rfl
  have hname := run_nameWhere (b := b) (r := .fixed "AS" :: t :: r) (t := placeholder) mayName
    (.inr rfl) (by simp [placeholder]) (by simp [placeholder])
  have hfirst : ∀ q, (orElse (do if (← peekSecond).any (·.is "(") then functionCall g false else return none)
      (orElse (nameWhere mayName) q)).run (mid b (placeholder :: .fixed "AS" :: t :: r)) =
      some (some (.name (Lexeme.title placeholder)), mid (b ++ [placeholder]) (.fixed "AS" :: t :: r)) := by
    intro q
    have hcall : (do if (← peekSecond).any (·.is "(") then functionCall g false else return none : Reader (Option Expr)).run
        (mid b (placeholder :: .fixed "AS" :: t :: r)) = some (none, mid b (placeholder :: .fixed "AS" :: t :: r)) := by
      rw [run_bind_of run_peekSecond]
      rfl
    rw [run_orElse_none hcall, run_orElse_of hname]
  have htitle : (titledTable g (.name (Lexeme.title placeholder))).run (mid (b ++ [placeholder]) (.fixed "AS" :: t :: r)) =
      some (.form .plain [] [(.name (Lexeme.title placeholder), " AS ".toList), (.name (Lexeme.title t), [])],
        mid (b ++ [placeholder, .fixed "AS", t]) r) := by
    rw [titledTable, run_bind_of (run_tableTitle ht hr isTableTitle), List.append_assoc]
    rfl
  rw [table, run_bind_of (hnot _), if_neg (by decide), run_bind_of (hnot _), if_neg (by decide), run_bind_of hbraced]
  dsimp only
  rw [run_bind_of (hnot _), run_bind_of (run_need (hfirst _)), run_bind_of (run_repeated_none fun b => ?_)]
  · simp only [Bool.false_eq_true, if_false]
    rw [run_bind_of htitle, run_bind_of (hr.acceptWords (by decide))]
    rfl
  · rw [run_bind_of (run_accept_none (by rintro u ⟨⟩; decide))]
    rfl

theorem run_joins_none {stops : List String} (g : Rules) (depth : ℕ) (hr : Next stops r) (h : stops ⊆ ["WHERE"]) :
    (joins g (depth + 1)).run (mid b r) = some ([], mid b r) := by
  have hr := hr.mono h
  have hwords : ∀ b, joinWords.run (mid b r) = some ([], mid b r) := by
    intro b
    rw [joinWords, run_bind_of (hr.acceptAny (by decide)), run_bind_of (hr.acceptAny (by decide)),
      run_bind_of (hr.acceptAny (by decide))]
    rfl
  rw [joins]
  refine run_repeated_none fun b => ?_
  have hback : (backTo (mid b r)).run (mid b r) = some ((), mid b r) := run_backTo rfl
  rw [run_bind_of (hr.accept (by decide)), if_neg (by decide), run_bind_of (StateT.run_get _), run_bind_of (hwords b),
    run_bind_of (hr.accept (by decide)), if_pos (by decide), run_bind_of hback]
  rfl

def filterClause (e : Expr) : Clause × Expr := (.filter, .form .plain "WHERE ".toList [(e, [])])

theorem run_clause (h : Reads .disjunction .disjunction ts e) (hn : ts.length + 1 < n) :
    (clause (rules n)).run (mid b (.fixed "WHERE" :: ts)) =
      some (some [filterClause e], mid (b ++ .fixed "WHERE" :: ts) []) := by
  obtain ⟨m, rfl⟩ : ∃ m, n = m + 1 := Nat.exists_eq_succ_of_ne_zero (by omega)
  have hread : ((rules (m + 1)).disjunction).run (mid (b ++ [.fixed "WHERE"]) (ts ++ [])) =
      some (some e, mid (b ++ [.fixed "WHERE"] ++ ts) []) :=
    h m (by omega) _ [] ⟨by rintro u ⟨⟩, by rintro s - ⟨u, ⟨⟩, -⟩⟩
  rw [List.append_nil] at hread
  rw [clause, run_bind_of (StateT.run_get _), run_bind_of run_peek]
  show (advance >>= fun _ => Reader.waiting >>= fun remarks => need (rules (m + 1)).disjunction >>= fun e =>
    pure (some [(Clause.filter, (Expr.form .plain ("WHERE".toList ++ [' ']) [(e, [])]).led remarks)]) : Reader _).run _ = _
  rw [run_bind_of run_advance, run_bind_of run_waiting, run_bind_of (run_need hread), List.append_assoc]
  rfl

def clauseStep (g : Rules) (found : List (Clause × Expr)) : Reader (Option (List (Clause × Expr))) := do
  match ← clause g with
  | none => return none
  | some more =>
    if more.head?.any fun c => (found.lookup c.1).isSome then failure else return some (found ++ more)

theorem clausesAfter_eq (g : Rules) : clausesAfter g = repeated (clauseStep g) := rfl

theorem run_clauseStep_none (g : Rules) (found : List (Clause × Expr)) :
    (clauseStep g found).run (mid b []) = some (none, mid b []) := by
  have hclause : (clause g).run (mid b []) = some (none, mid b []) := by
    rw [clause, run_bind_of (StateT.run_get _), run_bind_of run_peek]
    rfl
  rw [clauseStep, run_bind_of hclause]
  rfl

theorem run_clausesAfter (h : Reads .disjunction .disjunction ts e) (hn : ts.length + 1 < n) :
    (clausesAfter (rules n) []).run (mid b (.fixed "WHERE" :: ts)) =
      some ([filterClause e], mid (b ++ .fixed "WHERE" :: ts) []) := by
  have hstep : ∀ b, (clauseStep (rules n) []).run (mid b (.fixed "WHERE" :: ts ++ ([] ++ []))) =
      some (some [filterClause e], mid (b ++ .fixed "WHERE" :: ts) ([] ++ [])) := by
    intro b
    rw [List.append_nil, List.append_nil, clauseStep, run_bind_of (run_clause h hn)]
    rfl
  have hsteps := (Steps.cons hstep (List.cons_ne_nil _ _) (.nil _)).run_repeated
    (fun b => run_clauseStep_none _ _) b
  rw [clausesAfter_eq]
  simpa using hsteps

theorem run_continuedSelect (s : Select) (hs : s.clauses = []) (h : Reads .disjunction .disjunction ts e)
    (hn : ts.length + 1 < n) : (continuedSelect (rules n) s).run (mid b (.fixed "WHERE" :: ts)) =
      some ({ s with tables := s.tables ++ [], clauses := [filterClause e] }, mid (b ++ .fixed "WHERE" :: ts) []) := by
  have hnext : Next ["WHERE"] (.fixed "WHERE" :: ts) := next_fixed (by simp) (by decide)
  have hjoins := run_joins_none (b := b) (rules n) (mid b (.fixed "WHERE" :: ts)).total hnext (List.Subset.refl _)
  rw [continuedSelect, run_bind_of (StateT.run_get _), run_bind_of hjoins, hs, run_bind_of (run_clausesAfter h hn)]
  rfl

theorem run_continuedSelect_none (g : Rules) (s : Select) :
    (continuedSelect g s).run (mid b []) = some ({ s with tables := s.tables ++ [] }, mid b []) := by
  have hnext : Next [] [] := by rintro u ⟨⟩
  have hjoins := run_joins_none (b := b) g (mid b []).total hnext (List.nil_subset _)
  have hclauses : (clausesAfter g s.clauses).run (mid b []) = some (s.clauses, mid b []) :=
    run_repeated_none fun b => run_clauseStep_none g _
  rw [continuedSelect, run_bind_of (StateT.run_get _), run_bind_of hjoins, run_bind_of hclauses]
  rfl

/-- The query from its second word to the end. -/
theorem run_select (ht : NamesTable t) (h : Reads .disjunction .disjunction ts e) (hn : ts.length + 2 < n) :
    ∃ s, s.clauses = [filterClause e] ∧
      (select (rules n)).run (mid [.fixed "SELECT"] ((opening t).drop 1 ++ ts)) = some (s, mid (opening t ++ ts) []) := by
  obtain ⟨m, rfl⟩ : ∃ m, n = m + 3 := ⟨n - 3, by omega⟩
  let r := placeholder :: .fixed "AS" :: t :: .fixed "WHERE" :: ts
  have hstar : ReadsElement (rules (m + 3)).titled ["FROM"] ([.fixed "*"], .star) := by
    intro b r hr
    refine run_titled (n := m + 2) (reads_star.lift (by decide) (by decide) (by decide)) (by simp) (hr.mono ?_)
    decide
  have hcolumns : (separated (rules (m + 3)).titled).run (mid [.fixed "SELECT"] (.fixed "*" :: .fixed "FROM" :: r)) =
      some ([.star], mid [.fixed "SELECT", .fixed "*"] (.fixed "FROM" :: r)) :=
    run_separated (r := .fixed "FROM" :: r) hstar (List.forall_mem_nil _)
      (next_fixed (by simp) (by decide)) (by decide) [.fixed "SELECT"]
  have hnot : ∀ s, s ≠ "*" → (accept s).run (mid [.fixed "SELECT"] (.fixed "*" :: .fixed "FROM" :: r)) =
      some (false, mid [.fixed "SELECT"] (.fixed "*" :: .fixed "FROM" :: r)) := by
    intro s hs
    exact run_accept_none (by rintro u ⟨⟩; simpa [Lexeme.fixed] using hs.symm)
  have htable := run_table (b := [.fixed "SELECT", .fixed "*", .fixed "FROM"]) (r := .fixed "WHERE" :: ts)
    (rules (m + 3)) (ts.length + 6) ht (next_fixed (by simp) (by decide))
  obtain ⟨s, hs, hselect⟩ : ∃ s, s.clauses = [] ∧
      (select (rules (m + 3))).run (mid [.fixed "SELECT"] (.fixed "*" :: .fixed "FROM" :: r)) =
        (continuedSelect (rules (m + 3)) s).run
          (mid [.fixed "SELECT", .fixed "*", .fixed "FROM", placeholder, .fixed "AS", t] (.fixed "WHERE" :: ts)) := by
    let head : Expr := .form .plain "SELECT".toList [(Expr.enclosed .plain [' '] [.star] [], [])]
    let table : Expr := .form .plain [] [(.name (Lexeme.title placeholder), " AS ".toList), (.name (Lexeme.title t), [])]
    refine ⟨⟨head, [.form .plain [' '] [(.form .plain "FROM ".toList [(table, [])], [])]], [], []⟩, rfl, ?_⟩
    have htotal : (mid ([.fixed "SELECT", .fixed "*"] ++ [.fixed "FROM"]) r).total + 1 = ts.length + 6 + 2 := by
      simp only [mid, r, List.length_cons, List.length_append, List.length_nil]
      omega
    rw [select, run_bind_of run_waiting, run_bind_of run_peekSecond]
    dsimp only
    have hselector : ((.fixed "*" :: .fixed "FROM" :: r : List Lexeme)[1]?.map Lexeme.token).any (fun t => !t.is ".") = true :=
      rfl
    rw [if_pos hselector, run_bind_of (hnot "ALL" (by decide)), if_pos hselector, run_bind_of (hnot "DISTINCT" (by decide)),
      run_bind_of run_acceptIf_false, if_neg (by decide), run_bind_of (StateT.run_pure _ _), if_neg (by decide),
      run_bind_of hcolumns, run_bind_of run_clear, run_bind_of (run_accept_of rfl), if_pos rfl,
      run_bind_of run_waiting, run_bind_of (StateT.run_get _)]
    rw [htotal]
    exact run_bind_of (run_need htable)
  exact ⟨_, rfl, hselect.trans (run_continuedSelect s hs h (by omega))⟩

/-- The condition of the query is the filter. -/
theorem run_condition (ht : NamesTable t) (h : Reads .disjunction .disjunction ts e) (hn : ts.length + 2 < n) :
    (condition? (rules n)).run (mid [] (opening t ++ ts)) = some (e, mid (opening t ++ ts) []) := by
  obtain ⟨s, hs, hselect⟩ := run_select ht h hn
  have hfirst : (expect "SELECT").run (mid [] (opening t ++ ts)) =
      some ((), mid [.fixed "SELECT"] ((opening t).drop 1 ++ ts)) := by
    show (expect "SELECT").run (mid [] (.fixed "SELECT" :: ((opening t).drop 1 ++ ts))) = _
    rw [expect, run_bind_of (run_accept_of rfl)]
    rfl
  rw [condition?, run_bind_of hfirst, run_bind_of hselect, run_bind_of (run_continuedSelect_none _ s),
    run_bind_of (run_acceptAny_none (by simp))]
  simp only [Option.isSome_none, Bool.false_eq_true, if_false]
  rw [run_bind_of (run_takeIf_none (by simp)), run_bind_of (StateT.run_get _), if_neg (by simp [mid]), hs]
  rfl

end

end FeatureGraph.Filter.Grammar
