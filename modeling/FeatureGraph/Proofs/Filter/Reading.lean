import FeatureGraph.Filter.Grammar
import Mathlib.Data.List.Basic

/-! # Reading tokens one after another

A reader stands between the tokens it has taken and the tokens ahead. Where no token has remarks, what it does is
settled by these two lists. -/
namespace FeatureGraph.Filter

structure Lexeme where
  kind : Kind
  text : List Char
  deriving DecidableEq

namespace Lexeme

def token (t : Lexeme) : Token := ⟨t.kind, t.text, []⟩

def fixed (spelling : String) : Lexeme := ⟨.fixed spelling, spelling.toList⟩

variable {t : Lexeme} {s : String}

@[simp] theorem kind_token : t.token.kind = t.kind := rfl

@[simp] theorem text_token : t.token.text = t.text := rfl

@[simp] theorem remarks_token : t.token.remarks = [] := rfl

theorem is_token : t.token.is s = decide (t.kind = .fixed s) := rfl

@[simp] theorem is_fixed (s' : String) : (fixed s').token.is s = decide (s' = s) := by
  simp [is_token, fixed]

end Lexeme

def Cursor.mid (before ahead : List Lexeme) : Cursor :=
  ⟨(before.map Lexeme.token).getLast?, ahead.map Lexeme.token, [], before.length, before.length + ahead.length⟩

namespace Reader
open Cursor

variable {α : Type} {b r : List Lexeme} {t : Lexeme} {test : Token → Bool} {s : String}

theorem run_bind_of {β : Type} {p : Reader α} {f : α → Reader β} {a : α} {c c' : Cursor} (h : p.run c = some (a, c')) :
    (p >>= f).run c = (f a).run c' := by
  rw [StateT.run_bind, h]
  rfl

/-! ## Tokens -/

@[simp] theorem run_peek : peek.run (mid b r) = some (r.head?.map Lexeme.token, mid b r) := by
  cases r <;> rfl

@[simp] theorem run_peekSecond : peekSecond.run (mid b r) = some (r[1]?.map Lexeme.token, mid b r) := by
  match r with
  | [] | [_] | _ :: _ :: _ => rfl

@[simp] theorem run_advance : advance.run (mid b (t :: r)) = some ((), mid (b ++ [t]) r) := by
  show some ((), (⟨_, _, _, _, _⟩ : Cursor)) = _
  simp [mid]
  omega

theorem run_takeIf : (takeIf test).run (mid b (t :: r)) =
    if test t.token then some (some t.token, mid (b ++ [t]) r) else some (none, mid b (t :: r)) := by
  rw [takeIf, run_bind_of run_peek]
  show (if test t.token then _ else _ : Reader _).run _ = _
  split
  · rw [run_bind_of run_advance]
    rfl
  · rfl

theorem run_takeIf_of (h : test t.token = true) :
    (takeIf test).run (mid b (t :: r)) = some (some t.token, mid (b ++ [t]) r) := by
  rw [run_takeIf, if_pos h]

theorem run_takeIf_none (h : ∀ t ∈ r.head?, test t.token = false) :
    (takeIf test).run (mid b r) = some (none, mid b r) := by
  cases r with
  | nil => rfl
  | cons t r => rw [run_takeIf, h t rfl]; rfl

theorem run_accept_of (h : t.kind = .fixed s) : (accept s).run (mid b (t :: r)) = some (true, mid (b ++ [t]) r) := by
  rw [accept, run_bind_of (run_takeIf_of (by simpa [Lexeme.is_token] using h))]
  rfl

theorem run_accept_none (h : ∀ t ∈ r.head?, t.kind ≠ .fixed s) :
    (accept s).run (mid b r) = some (false, mid b r) := by
  rw [accept, run_bind_of (run_takeIf_none fun t ht => by simpa [Lexeme.is_token] using h t ht)]
  rfl

theorem run_acceptAny_none {ss : List String} (h : ∀ s ∈ ss, ∀ t ∈ r.head?, t.kind ≠ .fixed s) :
    (acceptAny ss).run (mid b r) = some (none, mid b r) := by
  refine run_takeIf_none fun t ht => ?_
  dsimp only [Lexeme.kind_token]
  split
  · next s hs =>
    rw [List.contains_eq_mem, decide_eq_false_iff_not]
    exact fun hmem => h s hmem t ht hs
  · rfl

theorem run_acceptIf_false {c : Cursor} : (acceptIf false s).run c = some (false, c) := rfl

theorem run_isAhead : (isAhead s).run (mid b r) = some (r.head?.any (·.kind = .fixed s), mid b r) := by
  rw [isAhead, run_bind_of run_peek]
  cases r <;> rfl

theorem run_need {p : Reader (Option α)} {c c' : Cursor} {a : α} (h : p.run c = some (some a, c')) :
    (need p).run c = some (a, c') := by
  rw [need, run_bind_of h]
  rfl

theorem run_orElse_of {p q : Reader (Option α)} {c c' : Cursor} {a : α} (h : p.run c = some (some a, c')) :
    (orElse p q).run c = some (some a, c') := by
  rw [orElse, run_bind_of h]
  rfl

theorem run_orElse_none {p q : Reader (Option α)} {c c' : Cursor} (h : p.run c = some (none, c')) :
    (orElse p q).run c = q.run c' := by
  rw [orElse, run_bind_of h]

/-! ## Going back -/

theorem run_backTo {b' r' : List Lexeme} (h : b ++ r = b' ++ r') :
    (backTo (mid b r)).run (mid b' r') = some ((), mid b r) := by
  show some ((), if b'.length = b.length then mid b' r' else _) = _
  split
  · next hplace =>
    obtain ⟨rfl, rfl⟩ := List.append_inj h hplace.symm
    rfl
  · cases hlast : b.getLast? with
    | none => simp [mid, hlast]
    | some t => simp [mid, hlast]

/-! ## Remarks -/

@[simp] theorem run_waiting : waiting.run (mid b r) = some ([], mid b r) := rfl

@[simp] theorem addRemarks_nil (e : Expr) : e.addRemarks [] = e := by
  unfold Expr.addRemarks
  rfl

@[simp] theorem run_built (e : Expr) : (built e).run (mid b r) = some (e, mid b r) := by
  show some (e.addRemarks [], mid b r) = _
  rw [addRemarks_nil]

@[simp] theorem run_builtWith (e : Expr) : (builtWith [] e).run (mid b r) = some (e, mid b r) := run_built e

@[simp] theorem run_clear : (modify fun c : Cursor => { c with waiting := [] } : Reader Unit).run (mid b r) =
    some ((), mid b r) := rfl

theorem run_acceptFor_of (h : t.kind = .fixed s) (e : Expr) :
    (acceptFor s e).run (mid b (t :: r)) = some (some e, mid (b ++ [t]) r) := by
  rw [acceptFor, run_bind_of (run_accept_of h), if_pos rfl, run_bind_of (StateT.run_get _), run_bind_of run_clear]
  show some (some (e.addRemarks []), _) = _
  rw [addRemarks_nil]

theorem run_expectFor (h : t.kind = .fixed s) (e : Expr) :
    (expectFor s e).run (mid b (t :: r)) = some (e, mid (b ++ [t]) r) := by
  rw [expectFor, run_bind_of (run_acceptFor_of h e)]
  rfl

/-! ## Steps -/

/-- Steps that take some tokens, one after another, before some further tokens. -/
inductive Steps (step : α → Reader (Option α)) (r : List Lexeme) : List Lexeme → α → α → Prop where
  | nil (a : α) : Steps step r [] a a
  | cons {ts us : List Lexeme} {a a' a'' : α}
    (hstep : ∀ b, (step a).run (mid b (ts ++ (us ++ r))) = some (some a', mid (b ++ ts) (us ++ r))) (hts : ts ≠ [])
    (hrest : Steps step r us a' a'') : Steps step r (ts ++ us) a a''

section
variable {step : α → Reader (Option α)} {ts us : List Lexeme} {a a' a'' : α}

theorem Steps.snoc (h : Steps step (us ++ r) ts a a')
    (hstep : ∀ b, (step a').run (mid b (us ++ r)) = some (some a'', mid (b ++ us) r)) (hus : us ≠ []) :
    Steps step r (ts ++ us) a a'' := by
  induction h with
  | nil a =>
    rw [List.nil_append, ← List.append_nil us]
    exact .cons (by simpa using hstep) hus (.nil a'')
  | @cons ts vs a _ _ hfirst hts _ ih =>
    rw [List.append_assoc]
    refine .cons (fun b => ?_) hts (ih hstep)
    rw [List.append_assoc]
    exact hfirst b

/-- A run of steps, up to where there is none. -/
theorem Steps.run_stepped (h : Steps step r ts a a') (hend : ∀ b, (step a').run (mid b r) = some (none, mid b r))
    {bound : Nat} (hbound : ts.length ≤ bound) (b : List Lexeme) :
    (stepped step bound a).run (mid b (ts ++ r)) = some (a', mid (b ++ ts) r) := by
  induction h generalizing bound b with
  | nil a =>
    rw [List.nil_append, List.append_nil]
    cases bound with
    | zero => rfl
    | succ bound =>
      rw [stepped, run_bind_of (hend b)]
      rfl
  | @cons ts us a a' a'' hstep hts _ ih =>
    have hpos := List.length_pos_iff.2 hts
    obtain ⟨bound, rfl⟩ : ∃ m, bound = m + 1 := Nat.exists_eq_succ_of_ne_zero (by rw [List.length_append] at hbound; omega)
    rw [stepped, List.append_assoc, run_bind_of (hstep b)]
    dsimp only
    rw [ih hend (by rw [List.length_append] at hbound; omega), List.append_assoc]

theorem Steps.run_repeated (h : Steps step r ts a a') (hend : ∀ b, (step a').run (mid b r) = some (none, mid b r))
    (b : List Lexeme) : (repeated step a).run (mid b (ts ++ r)) = some (a', mid (b ++ ts) r) := by
  show (stepped step (mid b (ts ++ r)).total a).run _ = _
  refine h.run_stepped hend ?_ b
  simp only [mid, List.length_append]
  omega

theorem run_repeated_none (hend : ∀ b, (step a).run (mid b r) = some (none, mid b r)) :
    (repeated step a).run (mid b r) = some (a, mid b r) := by
  have h : Steps step r [] a a := .nil a
  simpa using h.run_repeated hend b

end

/-! ## What comes next -/

/-- What comes next is nothing, or one of some words and symbols. -/
def Next (stops : List String) (r : List Lexeme) : Prop :=
  ∀ t ∈ r.head?, ∃ s ∈ stops, t.kind = .fixed s ∧ t.token.upper = s

section
variable {stops : List String}

theorem Next.mono {more : List String} (h : Next stops r) (hsub : stops ⊆ more) : Next more r := fun t ht =>
  (h t ht).imp fun _ hs => ⟨hsub hs.1, hs.2⟩

theorem Next.kind_ne (h : Next stops r) (hs : s ∉ stops) : ∀ t ∈ r.head?, t.kind ≠ .fixed s := by
  intro t ht hkind
  obtain ⟨s', hs', hkind', -⟩ := h t ht
  obtain rfl : s' = s := by simpa [hkind'] using hkind
  exact hs hs'

theorem Next.upper_ne (h : Next stops r) (hs : s ∉ stops) : ∀ t ∈ r.head?, t.token.upper ≠ s := by
  intro t ht hupper
  obtain ⟨s', hs', -, hupper'⟩ := h t ht
  exact hs (hupper ▸ hupper' ▸ hs')

/-- A test that looks at the kind of a token only. -/
theorem Next.of_kind (h : Next stops r) (test : Kind → Bool) (htest : ∀ s ∈ stops, test (.fixed s) = false) :
    ∀ t ∈ r.head?, test t.kind = false := by
  intro t ht
  obtain ⟨s, hs, hkind, -⟩ := h t ht
  rw [hkind]
  exact htest s hs

theorem Next.accept (h : Next stops r) (hs : s ∉ stops) : (accept s).run (mid b r) = some (false, mid b r) :=
  run_accept_none (h.kind_ne hs)

theorem Next.acceptAny (h : Next stops r) {ss : List String} (hs : ∀ s ∈ stops, ss.contains s = false) :
    (acceptAny ss).run (mid b r) = some (none, mid b r) := by
  refine run_acceptAny_none fun s hmem => h.kind_ne fun hstop => ?_
  have hnot : s ∉ ss := by simpa using hs s hstop
  exact hnot hmem

theorem Next.takeIf_kind (h : Next stops r) {k : Kind} (hk : ∀ s ∈ stops, k ≠ .fixed s) :
    (takeIf (·.kind == k)).run (mid b r) = some (none, mid b r) := by
  refine run_takeIf_none (h.of_kind (· == k) fun s hs => ?_)
  simpa using (hk s hs).symm

theorem Next.acceptWords (h : Next stops r) {ws : List String} (hs : s ∉ stops) :
    (acceptWords (s :: ws)).run (mid b r) = some (false, mid b r) := by
  have htake : (takeIf (reads s)).run (mid b r) = some (none, mid b r) := by
    refine run_takeIf_none fun t ht => ?_
    have hupper := h.upper_ne hs t ht
    simp [reads, hupper]
  have hback : (backTo (mid b r)).run (mid b r) = some ((), mid b r) := run_backTo rfl
  simp only [Reader.acceptWords, StateT.run_bind, StateT.run_get, List.forIn_cons, htake, hback, Option.pure_def,
    Option.bind_eq_bind, Option.bind_some, Option.isNone_none, if_true]
  rfl

theorem Next.acceptPair (h : Next stops r) {s' : String} (hs : s ∉ stops) :
    (acceptPair s s').run (mid b r) = some (false, mid b r) := by
  have hhead : (r.head?.map Lexeme.token).any (·.is s) = false := by
    cases r with
    | nil => rfl
    | cons t r => simpa [Lexeme.is_token] using h.kind_ne hs t rfl
  simp only [Reader.acceptPair, StateT.run_bind, run_peek, run_peekSecond, Option.bind_eq_bind, Option.bind_some, hhead,
    Bool.false_and]
  rfl

end

/-! ## Elements between commas -/

def afterCommas (items : List (List Lexeme × Expr)) : List Lexeme := items.flatMap fun it => .fixed "," :: it.1

/-- An element is read where a comma or one of some ends is next. -/
def ReadsElement (p : Reader (Option Expr)) (ends : List String) (item : List Lexeme × Expr) : Prop :=
  ∀ b r, Next ("," :: ends) r → p.run (mid b (item.1 ++ r)) = some (some item.2, mid (b ++ item.1) r)

section
variable {p : Reader (Option Expr)} {ends : List String} {items : List (List Lexeme × Expr)}

theorem next_afterCommas (hr : Next ends r) : Next ("," :: ends) (afterCommas items ++ r) := by
  cases items with
  | nil => exact hr.mono (List.subset_cons_self _ _)
  | cons item items =>
    rintro t ⟨⟩
    exact ⟨",", by simp, rfl, by decide⟩

def separatedStep (p : Reader (Option Expr)) (state : List Expr × Option Expr) :
    Reader (Option (List Expr × Option Expr)) := do
  if ← accept "," then
    match state.2 with
    | some e =>
      let e ← built e
      return some (state.1 ++ [e], ← p)
    | none => return some (state.1, ← p)
  else return none

theorem separated_eq (p : Reader (Option Expr)) : separated p = (do
    let first ← p
    let (done, last) ← repeated (separatedStep p) ([], first)
    return done ++ last.toList) := rfl

theorem steps_separatedStep (hitems : ∀ item ∈ items, ReadsElement p ends item) (hr : Next ends r) (done : List Expr)
    (e : Expr) : ∃ done' last, Steps (separatedStep p) r (afterCommas items) (done, some e) (done', some last) ∧
      done' ++ [last] = done ++ e :: items.map Prod.snd := by
  induction items generalizing done e with
  | nil => exact ⟨done, e, .nil _, by simp⟩
  | cons item items ih =>
    obtain ⟨hitem, hitems⟩ := List.forall_mem_cons.1 hitems
    obtain ⟨done', last, hsteps, hall⟩ := ih hitems (done ++ [e]) item.2
    refine ⟨done', last, ?_, by simpa using hall⟩
    have hfirst : ∀ b, (separatedStep p (done, some e)).run (mid b (.fixed "," :: item.1 ++ (afterCommas items ++ r))) =
        some (some (done ++ [e], some item.2), mid (b ++ .fixed "," :: item.1) (afterCommas items ++ r)) := by
      intro b
      rw [separatedStep, List.cons_append, run_bind_of (run_accept_of rfl)]
      dsimp only
      rw [if_pos rfl, run_bind_of (run_built e), run_bind_of (hitem _ _ (next_afterCommas hr))]
      simp
    exact .cons hfirst (List.cons_ne_nil _ _) hsteps

theorem run_separated {first : List Lexeme × Expr} (hfirst : ReadsElement p ends first)
    (hitems : ∀ item ∈ items, ReadsElement p ends item) (hr : Next ends r) (hends : "," ∉ ends) (b : List Lexeme) :
    (separated p).run (mid b (first.1 ++ afterCommas items ++ r)) =
      some (first.2 :: items.map Prod.snd, mid (b ++ (first.1 ++ afterCommas items)) r) := by
  obtain ⟨done, last, hsteps, hall⟩ := steps_separatedStep hitems hr [] first.2
  have hend : ∀ b, (separatedStep p (done, some last)).run (mid b r) = some (none, mid b r) := by
    intro b
    rw [separatedStep, run_bind_of (hr.accept hends)]
    rfl
  rw [separated_eq, List.append_assoc, run_bind_of (hfirst b _ (next_afterCommas hr)),
    run_bind_of (hsteps.run_repeated hend _), List.append_assoc]
  show some (done ++ [last], _) = _
  rw [hall, List.nil_append]

end

end Reader
end FeatureGraph.Filter
