import FeatureGraph.Proofs.Filter.Operands

/-! # Where no expression begins

Some words and symbols begin no expression. Every level gives nothing there, and takes nothing. -/
namespace FeatureGraph.Filter.Grammar
open Reader Cursor

/-- What a word without a form of its own comes to before a parenthesis: a call, or nothing. -/
theorem run_functionCall_paren {g : Rules} {b r : List Lexeme} {t u : Lexeme} (hbrace : t.kind ≠ .fixed "\x7b")
    (hform : t.token.upper ∉ formWords) (hquery : ∀ s ∈ ["ALL", "EXISTS", "SOME"], t.kind ≠ .fixed s)
    (hu : u.kind = .fixed "(") : (functionCall g false).run (mid b (t :: u :: r)) =
      if mayCall false t.token then
        (((specialForms g).lookup t.token.upper).elim (do return some (← callOf g t.token false [])) fun read => do
          let e ← read
          return some (← overRows g ((← acceptFor ")" e).getD e))).run (mid (b ++ [t, u]) r)
      else some (none, mid b (t :: u :: r)) := by
  have hahead : (isAhead "\x7b").run (mid b (t :: u :: r)) = some (false, mid b (t :: u :: r)) := by
    rw [run_isAhead]
    simp [hbrace]
  have hparen : (!(Option.map Lexeme.token (t :: u :: r)[1]?).any (·.is "(")) = false := by
    simp [Lexeme.is_token, hu]
  have hnoQuery : ["ALL", "EXISTS", "SOME"].any (t.token.is ·) = false := by
    simpa [Lexeme.is_token] using hquery
  have hafter : mid (b ++ [t] ++ [u]) r = mid (b ++ [t, u]) r := by rw [List.append_assoc, List.singleton_append]
  rw [functionCall, run_bind_of (StateT.run_get _), run_bind_of hahead, run_bind_of run_peekSecond, Bool.false_and,
    if_neg (by decide), run_bind_of (StateT.run_pure _ _), run_bind_of (StateT.run_get _), run_bind_of run_peek]
  dsimp only [List.head?_cons, Option.map_some]
  split
  · next form hread =>
    exfalso
    split at hread
    · cases hread
    · split at hread
      all_goals first
        | cases hread; done
        | next hupper => exact hform (by rw [hupper]; decide)
  · rw [run_bind_of run_peekSecond, hparen, if_neg (by decide)]
    by_cases hcall : mayCall false t.token = true
    · rw [if_pos hcall, if_neg (by simp [hcall]), run_bind_of run_advance, run_bind_of (StateT.run_get _),
        run_bind_of run_advance, if_neg (by decide), hafter, overQuery, hnoQuery]
      simp only [Bool.false_eq_true, if_false, Bool.not_false, if_true, bind_pure, pure_bind, Lexeme.remarks_token,
        addRemarks_nil]
      cases (specialForms g).lookup t.token.upper with
      | none => rfl
      | some read => rfl
    · rw [if_neg hcall, if_pos (by simp [hcall])]
      rfl

/-- A token that begins no expression and is no operator. -/
structure BeginsNothing (t : Lexeme) : Prop extends BeginsPlain t, MayTitle false t where
  literal : literalOf t.token = none
  symbol : ∀ s ∈ [".", "(", "[", "\x7b", "?", "@", ":", "%", "VALUES"], t.kind ≠ .fixed s
  quoted : t.kind ≠ .quoted
  call : mayCall false t.token = false
  title : mayName t.token = false
  operator : ∀ s ∈ ["^", "/", "<->", "*", "+", "-", "%", "COLLATE", "&", "|", "#", "||", "??", "<", "<=", ">", ">=", "=",
    "<>", "<=>", "AND", "OR"], t.kind ≠ .fixed s

/-- Words and symbols before which an expression may be missing. -/
def enders : List String := [")", "WHEN"]

theorem beginsNothing_ender {s : String} (hs : s ∈ enders) : BeginsNothing (.fixed s) := by
  have hwords : ∀ s ∈ enders, (Lexeme.fixed s).token.upper ∉ formWords := by decide +kernel
  refine ⟨⟨?_, ?_, ?_⟩, ⟨?_, .inr (.inr (.inr (hwords s hs))), .inr ?_⟩, ?_, ?_, ?_, ?_, ?_, ?_⟩ <;>
    (rcases List.mem_pair.1 hs with rfl | rfl) <;> first | decide | rfl | (rintro _ ⟨⟩; rfl)

section
variable {b r : List Lexeme} {t : Lexeme} {g : Rules}

theorem run_accept_ne {s : String} (h : t.kind ≠ .fixed s) :
    (accept s).run (mid b (t :: r)) = some (false, mid b (t :: r)) :=
  run_accept_none (by rintro u ⟨⟩; exact h)

theorem run_chainOf_none {operators : List (String × (Expr → Expr → Expr))} {operand : Reader (Option Expr)}
    (h : operand.run (mid b (t :: r)) = some (none, mid b (t :: r))) (hoperators : ∀ o ∈ operators, t.kind ≠ .fixed o.1) :
    (chainOf operators operand).run (mid b (t :: r)) = some (none, mid b (t :: r)) := by
  have hno : (Option.map Lexeme.token (t :: r).head?).any (fun t => operators.any fun o => t.is o.1) = false := by
    simpa [Lexeme.is_token] using hoperators
  rw [chainOf, run_bind_of h]
  dsimp only
  rw [run_bind_of run_peek, hno]
  rfl

section
variable (ht : BeginsNothing t)
include ht

theorem BeginsNothing.nameWhere {test : Token → Bool} (htest : test t.token = false) :
    (nameWhere test).run (mid b (t :: r)) = some (none, mid b (t :: r)) := by
  have hquoted : (quotedName).run (mid b (t :: r)) = some (none, mid b (t :: r)) := by
    rw [quotedName, run_bind_of (run_takeIf_none (by rintro u ⟨⟩; simpa using ht.quoted))]
    dsimp only
    rw [parameter, run_bind_of (StateT.run_get _), run_bind_of (run_acceptAny_none ?_)]
    · rfl
    · rintro s hs u ⟨⟩
      exact ht.symbol s (by simp at hs ⊢; tauto)
  rw [Grammar.nameWhere, run_orElse_none hquoted, run_bind_of (run_takeIf_none (by rintro u ⟨⟩; exact htest))]
  rfl

theorem BeginsNothing.functionCall :
    (functionCall g false).run (mid b (t :: r)) = some (none, mid b (t :: r)) := by
  by_cases hparen : ∀ u ∈ r.head?, u.kind ≠ .fixed "("
  · exact run_functionCall_none ht.toMayTitle (by simp) hparen
  · have hform : t.token.upper ∉ formWords := by
      simpa [ht.quoted, ne_string_of_literalOf ht.literal] using ht.form
    have hquery : ∀ s ∈ ["ALL", "EXISTS", "SOME"], t.kind ≠ .fixed s := by
      have hcalls : ∀ s ∈ ["ALL", "EXISTS", "SOME"], ∀ text, mayCall false ⟨.fixed s, text, []⟩ = true := by
        intro s hs text
        simp only [List.mem_cons, List.not_mem_nil, or_false] at hs
        rcases hs with rfl | rfl | rfl <;> rfl
      intro s hs hkind
      have hcall := hcalls s hs t.text
      rw [← hkind] at hcall
      exact absurd hcall (Bool.eq_false_iff.1 ht.call)
    obtain ⟨u, r, rfl, hu⟩ : ∃ u r', r = u :: r' ∧ u.kind = .fixed "(" := by
      cases r <;> simp_all
    rw [run_functionCall_paren ht.brace hform hquery hu, ht.call]
    rfl

theorem BeginsNothing.unary : (unary g).run (mid b (t :: r)) = some (none, mid b (t :: r)) := by
  have hprimary : (primary g).run (mid b (t :: r)) = some (none, mid b (t :: r)) :=
    run_primary_none ht.literal (ht.symbol _ (by simp)) (ht.symbol _ (by simp))
  have hfield : (field g false).run (mid b (t :: r)) = some (none, mid b (t :: r)) := by
    rw [field, if_neg (by decide), run_orElse_none hprimary, run_orElse_none ht.functionCall, ht.nameWhere ht.title]
  have hreference : (reference g).run (mid b (t :: r)) = some (none, mid b (t :: r)) := by
    have hvalues : (isAhead "VALUES").run (mid b (t :: r)) = some (false, mid b (t :: r)) := by
      rw [run_isAhead]
      simp [ht.symbol "VALUES" (by simp)]
    have hfound : ∀ q, (orElse (field g false) (do
        if (← isAhead "VALUES") && !(← peekSecond).any (·.is "(") then q else return none)).run (mid b (t :: r)) =
        some (none, mid b (t :: r)) := by
      intro q
      rw [run_orElse_none hfield, run_bind_of hvalues, run_bind_of run_peekSecond]
      rfl
    rw [reference, run_bind_of (hfound _)]
    rfl
  have hbracketed : (bracketed g none).run (mid b (t :: r)) = some (none, mid b (t :: r)) := by
    rw [bracketed, run_bind_of (run_accept_ne (ht.symbol _ (by simp))), if_neg (by decide),
      run_bind_of (run_accept_ne (ht.symbol _ (by simp)))]
    rfl
  have hcolumn : (column g).run (mid b (t :: r)) = some (none, mid b (t :: r)) := by
    rw [column, run_bind_of hreference]
    dsimp only
    rw [run_bind_of hbracketed]
    rfl
  have hinterval : (interval g).run (mid b (t :: r)) = some (none, mid b (t :: r)) := by
    rw [interval, run_bind_of (StateT.run_get _), run_bind_of (run_accept_ne ht.interval)]
    rfl
  rw [run_unary ht.toBeginsPlain, operand, run_orElse_none hinterval, run_orElse_none (run_typedLiteral_none ht.typeWord),
    run_bind_of hcolumn]
  rfl

theorem BeginsNothing.disjunction : (disjunction g).run (mid b (t :: r)) = some (none, mid b (t :: r)) := by
  have hop := ht.operator
  simp only [List.forall_mem_cons] at hop
  have hpower : (power g).run (mid b (t :: r)) = some (none, mid b (t :: r)) :=
    run_chainOf_none ht.unary (by simp [hop])
  have hproduct : (product g).run (mid b (t :: r)) = some (none, mid b (t :: r)) := by
    rw [product, run_bind_of hpower]
    dsimp only
    rw [run_bind_of (run_acceptAny_none ?_)]
    · rfl
    · rintro s hs u ⟨⟩
      simp only [List.mem_cons, List.not_mem_nil, or_false] at hs
      rcases hs with rfl | rfl <;> simp [hop]
  have hsum : (sum g).run (mid b (t :: r)) = some (none, mid b (t :: r)) := run_chainOf_none hproduct (by simp [hop])
  have hbitwise : (bitwise g).run (mid b (t :: r)) = some (none, mid b (t :: r)) := by
    rw [bitwise, run_bind_of hsum]
    dsimp only
    rw [run_bind_of (run_acceptAny_none ?_)]
    · rfl
    · rintro s hs u ⟨⟩
      simp only [List.mem_cons, List.not_mem_nil, or_false] at hs
      rcases hs with rfl | rfl | rfl | rfl | rfl <;> simp [hop]
  have hranged : (ranged g).run (mid b (t :: r)) = some (none, mid b (t :: r)) := by
    rw [ranged, run_bind_of hbitwise]
    rfl
  have hcomparison : (comparison g).run (mid b (t :: r)) = some (none, mid b (t :: r)) :=
    run_chainOf_none hranged (by simp [hop, orders])
  have hequality : (equality g).run (mid b (t :: r)) = some (none, mid b (t :: r)) :=
    run_chainOf_none hcomparison (by simp [hop, equalities])
  have hidentity : (identity g).run (mid b (t :: r)) = some (none, mid b (t :: r)) := by
    rw [identity, run_bind_of hequality]
    rfl
  exact run_chainOf_none (run_chainOf_none hidentity (by simp [hop])) (by simp [hop])

end

end

end FeatureGraph.Filter.Grammar
