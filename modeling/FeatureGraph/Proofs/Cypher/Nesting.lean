import FeatureGraph.Cypher.Query
import FeatureGraph.Proofs.Cypher.Spelling
import FeatureGraph.Proofs.Filter.Spelled

/-! # Whether the parentheses of a filter match

The filter of a query stands in parentheses before the spatial predicate. They hold the filter together
exactly when its own parentheses match. -/
namespace FeatureGraph.Cypher

/-- Where a reader of a predicate stands: inside a string or not, and how many parentheses are open. -/
structure Place where
  inString : Bool
  depth : Nat
  deriving DecidableEq, Repr

namespace Place

/-- Outside strings, within a number of parentheses. -/
def within (depth : Nat) : Place := ⟨false, depth⟩

/-- The place after a character; none after a parenthesis that closes nothing. A quote in a string is
read as its end, and the second quote of a pair opens it again. -/
def step (p : Place) (c : Char) : Option Place :=
  if c = '\'' then some ⟨!p.inString, p.depth⟩
  else if p.inString then some p
  else if c = '(' then some (within (p.depth + 1))
  else if c = ')' then if p.depth = 0 then none else some (within (p.depth - 1))
  else some p

def walk (p : Place) (cs : List Char) : Option Place := cs.foldlM step p

end Place

/-- The parentheses of a predicate match, and its strings end. -/
def Nests (cs : List Char) : Prop := (Place.within 0).walk cs = some (.within 0)

instance (cs : List Char) : Decidable (Nests cs) := inferInstanceAs (Decidable (_ = _))

/-- What stands before the first parenthesis that closes nothing, and what stands after it. -/
def untilClosing (p : Place) : List Char → Option (List Char × List Char)
  | [] => none
  | c :: r =>
    match p.step c with
    | some p' => (untilClosing p' r).map fun (before, after) => (c :: before, after)
    | none => some ([], r)

section Walk
variable {p p' : Place} {c : Char} {cs ds : List Char}

@[simp] theorem Place.walk_nil : p.walk [] = some p := rfl

theorem Place.walk_cons : p.walk (c :: cs) = (p.step c).bind (·.walk cs) := by
  simp [walk]

theorem Place.walk_append : p.walk (cs ++ ds) = (p.walk cs).bind (·.walk ds) := by
  simp [walk, List.foldlM_append]

theorem Place.step_of_isPlain (h : IsPlain c) : p.step c = some p := by
  obtain ⟨h1, -, h3, h4⟩ := h
  simp [step, h1, h3, h4]

theorem Place.walk_of_isPlain (h : ∀ c ∈ cs, IsPlain c) : p.walk cs = some p := by
  induction cs with
  | nil => rfl
  | cons c cs ih =>
    rw [walk_cons, step_of_isPlain (h c (by simp))]
    exact ih fun d hd => h d (by simp [hd])

/-- The text between a quote and the one that closes it is passed over. -/
theorem Place.walk_literal {d : Nat} (h : Literal '\'' cs) : Place.walk ⟨true, d⟩ cs = some (within d) := by
  induction h with
  | close => rfl
  | char hc _ ih => rwa [walk_cons, show step ⟨true, d⟩ _ = some ⟨true, d⟩ by simp [step, hc]]
  | pair _ ih => exact ih

def Place.deeper (p : Place) (k : Nat) : Place := ⟨p.inString, p.depth + k⟩

theorem Place.step_deeper {k : Nat} (h : p.step c = some p') : (p.deeper k).step c = some (p'.deeper k) := by
  obtain ⟨inString, depth⟩ := p
  simp only [step, deeper, within] at h ⊢
  grind

/-- Parentheses that are open already change nothing for those that come after. -/
theorem Place.walk_deeper {k : Nat} (h : p.walk cs = some p') :
    (p.deeper k).walk cs = some (p'.deeper k) := by
  induction cs generalizing p with
  | nil =>
    obtain rfl : p = p' := by simpa using h
    rfl
  | cons c cs ih =>
    rw [walk_cons] at h
    obtain ⟨q, hq, h⟩ := Option.bind_eq_some_iff.1 h
    rw [walk_cons, step_deeper hq]
    exact ih h

theorem Nests.walk (h : Nests cs) (d : Nat) : (Place.within d).walk cs = some (.within d) := by
  simpa [Place.within, Place.deeper] using Place.walk_deeper (k := d) h

theorem Nests.append (h : Nests cs) (h' : Nests ds) : Nests (cs ++ ds) := by
  rw [Nests, Place.walk_append, h]
  exact h'

theorem Place.walk_trim : p.walk (Text.trim cs) = p.walk cs := by
  obtain ⟨lead, trail, h, hlead, htrail⟩ := Text.exists_eq_append_trim cs
  have hplain {ds : List Char} {p : Place} (h : ∀ c ∈ ds, Text.isBlank c) : p.walk ds = some p :=
    walk_of_isPlain fun c hc => isPlain_of_isBlank (h c hc)
  conv_rhs => rw [h, walk_append, walk_append, hplain hlead, Option.bind_some]
  cases p.walk (Text.trim cs) with
  | none => rfl
  | some p' => exact (hplain htrail).symm

theorem Place.step_closing_eq_none_iff : p.step ')' = none ↔ p = within 0 := by
  obtain ⟨inString, depth⟩ := p
  simp only [step, within]
  grind

/-- Text is all that stands before the parenthesis after it exactly when its own parentheses match. -/
theorem untilClosing_eq_iff {r : List Char} :
    untilClosing p (cs ++ ')' :: r) = some (cs, r) ↔ p.walk cs = some (.within 0) := by
  induction cs generalizing p with
  | nil =>
    rw [Place.walk_nil, Option.some_inj, ← Place.step_closing_eq_none_iff, List.nil_append, untilClosing]
    cases p.step ')' <;> simp
  | cons c cs ih =>
    rw [Place.walk_cons, List.cons_append, untilClosing]
    cases p.step c with
    | none => simp
    | some q => simp [← ih]

end Walk

/-- The number of open parentheses after a token; none after one that closes nothing. What stands in
quotes is one token, so that its parentheses do not count. -/
def Token.nest (depth : Nat) (t : Token) : Option Nat :=
  match t.kind with
  | .opening => some (depth + 1)
  | .closing => if depth = 0 then none else some (depth - 1)
  | _ => some depth

def openAfter (depth : Nat) (ts : List Token) : Option Nat := ts.foldlM Token.nest depth

def TokensNest (ts : List Token) : Prop := openAfter 0 ts = some 0

instance (ts : List Token) : Decidable (TokensNest ts) := inferInstanceAs (Decidable (_ = _))

section Tokens
variable {d d' k : Nat} {t : Token} {r ts us rest : List Token} {es : List (List Token)}

@[simp] theorem openAfter_nil : openAfter d [] = some d := rfl

theorem openAfter_cons : openAfter d (t :: ts) = (t.nest d).bind (openAfter · ts) := by
  simp [openAfter]

theorem openAfter_append : openAfter d (ts ++ us) = (openAfter d ts).bind (openAfter · us) := by
  simp [openAfter, List.foldlM_append]

theorem Token.nest_add (h : t.nest d = some d') : t.nest (d + k) = some (d' + k) := by
  simp only [nest] at h ⊢
  grind

theorem openAfter_add (h : openAfter d ts = some d') : openAfter (d + k) ts = some (d' + k) := by
  induction ts generalizing d with
  | nil =>
    obtain rfl : d = d' := by simpa using h
    rfl
  | cons t ts ih =>
    rw [openAfter_cons] at h
    obtain ⟨e, he, h⟩ := Option.bind_eq_some_iff.1 h
    rw [openAfter_cons, Token.nest_add he]
    exact ih h

theorem TokensNest.openAfter (h : TokensNest ts) (d : Nat) : openAfter d ts = some d := by
  simpa using openAfter_add (k := d) h

/-- A list is split at its own commas and closed by its own parenthesis: within an element they match. -/
theorem tokensNest_of_splitList {element : List Token} (h : splitList d element ts = some (es, rest))
    (he : openAfter 0 element.reverse = some d) : ∀ e ∈ es, TokensNest e := by
  induction ts generalizing d element es rest with
  | nil => simp [splitList] at h
  | cons t r ih =>
    -- The depth that the split carries is that of the element at hand.
    have step {d' : Nat} (h : splitList d' (t :: element) r = some (es, rest)) (ht : t.nest d = some d') :
        ∀ e ∈ es, TokensNest e := by
      refine ih h ?_
      rw [List.reverse_cons, openAfter_append, he, Option.bind_some, openAfter_cons, ht]
      rfl
    simp only [splitList] at h
    split at h
    · next hk => exact step h (by simp [Token.nest, hk])
    · next hk =>
      split at h
      · next hd =>
        obtain ⟨rfl, rfl⟩ : [element.reverse] = es ∧ r = rest := by simpa using h
        simpa [TokensNest, hd] using he
      · next hd => exact step h (by simp [Token.nest, hk, hd])
    · next hk =>
      split at h
      · next hd =>
        obtain ⟨⟨es', rest'⟩, hs, heq⟩ := Option.map_eq_some_iff.1 h
        obtain ⟨rfl, rfl⟩ : element.reverse :: es' = es ∧ rest' = rest := by simpa using heq
        exact List.forall_mem_cons.2 ⟨by simpa [TokensNest, hd] using he, ih hs rfl⟩
      · exact step h (by simp [Token.nest, hk])
    · exact step h (by simp [Token.nest, *])

theorem openAfter_listed {e : List Token} (h : ∀ e' ∈ e :: es, TokensNest e') :
    openAfter (d + 1) (listed (e :: es) rest) = openAfter d rest := by
  induction es generalizing e with
  | nil =>
    rw [listed_singleton, openAfter_append, (h e (by simp)).openAfter]
    simp [openAfter_cons, Token.nest]
  | cons e' es ih =>
    rw [listed_cons_cons, openAfter_append, (h e (by simp)).openAfter, Option.bind_some, openAfter_cons]
    exact ih fun e'' he => h e'' (by simp [he])

theorem openAfter_of_forall (h : ∀ t ∈ ts, t.nest d = some d) : openAfter d ts = some d := by
  induction ts with
  | nil => rfl
  | cons t ts ih =>
    rw [openAfter_cons, h t (by simp)]
    exact ih fun u hu => h u (by simp [hu])

/-- A list opens and closes the same parentheses. -/
theorem openAfter_list (h : t.list? r = some (some (es, rest))) (hl : ∀ u ∈ r, u.Lexed) :
    openAfter d (t :: r) = openAfter d rest := by
  obtain ⟨ts, hs⟩ := Token.splitList_of_list? h
  have hes := tokensNest_of_splitList hs rfl
  obtain ⟨hk, e, es, spaces, rfl, hspaces, rfl⟩ := Token.list?_eq h hl
  have hblank : openAfter d spaces = some d :=
    openAfter_of_forall fun u hu => by simp [Token.nest, hspaces u hu]
  rw [openAfter_cons, show t.nest d = some d by simp [Token.nest, hk], Option.bind_some, openAfter_append,
    hblank, Option.bind_some, openAfter_cons]
  exact openAfter_listed hes

theorem Place.walk_rendered (h : t.Lexed) (hq : t.kind = .quoted → Nests t.rendered) :
    (within d).walk t.rendered = (t.nest d).map within := by
  cases h with
  | string h => exact walk_literal h
  | quoted h => exact (hq rfl).walk d
  | opening => rfl
  | closing => cases d <;> rfl
  | comma => rfl
  | plain hk _ hc => rcases hk with rfl | rfl | rfl <;> exact walk_of_isPlain hc

theorem nests_intercalate {es : List (List Char)} (h : ∀ e ∈ es, Nests e) :
    Nests ([','].intercalate es) := by
  induction es with
  | nil => rfl
  | cons e es ih =>
    have he := h e (by simp)
    cases es with
    | nil => rwa [List.intercalate_singleton]
    | cons e' es =>
      rw [List.intercalate_cons_cons]
      exact (he.append (show Nests [','] from rfl)).append (ih fun e'' h' => h e'' (by simp [h']))

/-- A list in brackets opens no parenthesis and closes none. -/
theorem nests_bracketed {es : List (List Char)} (h : ∀ e ∈ es, Nests e) : Nests (bracketed es) := by
  have hes : ∀ e ∈ (es.map Text.trim).filter (!·.isEmpty), Nests e := by
    intro e he
    obtain ⟨e', he', rfl⟩ := List.mem_map.1 (List.mem_filter.1 he).1
    exact Place.walk_trim.trans (h e' he')
  have hopen : Nests "IN [".toList := by decide
  exact (hopen.append (nests_intercalate hes)).append (show Nests [']'] by decide)

/-- The parentheses of a filter that is spelled are those among its tokens, when they match in each of
its quoted names. -/
theorem walk_spelled {calls : Nat} {out : List Char} (h : spelledIn calls ts = .ok out) (hl : ∀ t ∈ ts, t.Lexed)
    (hq : ∀ t ∈ ts, t.kind = .quoted → Nests t.rendered) :
    (Place.within d).walk out = (openAfter d ts).map .within := by
  refine spelledIn_induction (Q := fun us => ∀ t ∈ us, t.Lexed ∧ (t.kind = .quoted → Nests t.rendered))
    (P := fun us out => ∀ d, (Place.within d).walk out = (openAfter d us).map .within)
    ?part ?lexed ?nil ?copy ?list h (fun t ht => ⟨hl t ht, hq t ht⟩) d
  case part => exact fun hsub hQ t ht => hQ t (hsub.subset ht)
  case lexed => exact fun hQ t ht => (hQ t ht).1
  case nil => exact fun d => rfl
  case copy =>
    intro t r out hQ _ ih d
    obtain ⟨ht, htq⟩ := hQ t (by simp)
    rw [Place.walk_append, Place.walk_rendered ht htq, openAfter_cons]
    cases t.nest d with
    | none => rfl
    | some d' => exact ih d'
  case list =>
    intro t r elements rest es out hQ hlist hes ih d
    have hr : ∀ u ∈ r, u.Lexed := fun u hu => (hQ u (by simp [hu])).1
    obtain ⟨us, hsplit⟩ := Token.splitList_of_list? hlist
    -- The parentheses match in each element, so that they do in what it is spelled as.
    have hnests : ∀ o ∈ es, Nests o := by
      refine forall_mem_of_forall₂ hes (tokensNest_of_splitList hsplit rfl) fun e o he ho => ?_
      rw [Nests, ho 0, he.openAfter, Option.map_some]
    rw [Place.walk_append, (nests_bracketed hnests).walk, openAfter_list hlist hr]
    exact ih d

end Tokens

/-- The text that the filter of a query is parsed from, or its object ids. -/
def filterText (q : FeatureQuery) : String :=
  match q.objectIds, q.filter with
  | [], .text s => String.ofList (Filter.normalizeObjectId s.toList)
  | ids, _ => Filter.ofObjectIds (ids.map .int)

theorem predicate_of_filterPredicate {q : FeatureQuery} {w : String} {platform : Platform}
    (h : filterPredicate q platform = .ok (some w)) :
    Filter.predicate "n" (filterText q) platform.sql platform.calls = .ok w := by
  rw [filterPredicate] at h
  cases hq : q.objectIds with
  | cons id ids =>
    have hne : q.objectIds.map Json.int ≠ [] := by simp [hq]
    have htext : filterText q = Filter.ofObjectIds (q.objectIds.map .int) := by simp [filterText, hq]
    rw [htext]
    -- Object ids win over a filter of any kind.
    cases hf : q.filter <;>
      exact Filter.predicate_of_restriction_ids hne (by simpa [hf, hq] using h)
  | nil =>
    cases hf : q.filter with
    | text s =>
      have hr : Filter.restriction "n" (some s) [] platform.sql platform.calls = .ok (some w) := by
        simpa [hq, hf] using h
      simpa [filterText, hq, hf] using Filter.predicate_of_restriction hr
    | _ => simp [hq, hf, Filter.restriction] at h

/-- The filter and the spatial predicate of a query hold together, whatever the filter is made of, exactly
when the parentheses of the filter match. If they match in each of its quoted names, they match in the
filter exactly when they do in its normal form. -/
theorem filters_grouped {policy : SpatialPolicy} {field : Option String} {q : FeatureQuery} {w s : String}
    (hw : filterPredicate q = .ok (some w)) (hs : spatialPredicate policy field q = .ok (some s)) :
    filters policy field q = .ok ("where (" ++ w ++ ") and " ++ s ++ " ") ∧
    (untilClosing (.within 0) (w ++ ") and " ++ s ++ " ").toList =
      some (w.toList, (" and " ++ s ++ " ").toList) ↔ Nests w.toList) ∧
    ∃ sql ts, Filter.qualified "n" (filterText q) = .ok sql ∧ tokens sql = .ok ts ∧
      ((∀ t ∈ ts, t.kind = .quoted → Nests t.rendered) → (Nests w.toList ↔ TokensNest ts)) := by
  refine ⟨?clause, ?group, ?nests⟩
  case clause =>
    rw [filters, hw, hs]
    rfl
  case group =>
    rw [Nests, ← untilClosing_eq_iff (r := (" and " ++ s ++ " ").toList)]
    simp
  case nests =>
    obtain ⟨sql, ts, hsql, hts, hout⟩ :=
      Filter.exists_tokens_of_predicate (predicate_of_filterPredicate hw)
    refine ⟨sql, ts, hsql, hts, fun hnames => ?_⟩
    have hwalk := walk_spelled (d := 0) hout (scanned_of_tokens hts).lexed hnames
    rw [Nests, TokensNest, hwalk]
    cases openAfter 0 ts <;> simp [Place.within]

/-- A parenthesis in a string does not count, and a list keeps to its brackets. -/
theorem filters_grouped_list :
    ∃ s, filters .skip (some "shape")
        { filter := .text "\"Q c\" in ('(', 1)", geometry := .object [("x", .int 1), ("y", .int 2)] } =
          .ok ("where (" ++ "n.Q c IN ['(',1]" ++ ") and " ++ s ++ " ") ∧
      untilClosing (.within 0) ("n.Q c IN ['(',1]" ++ ") and " ++ s ++ " ").toList =
        some ("n.Q c IN ['(',1]".toList, (" and " ++ s ++ " ").toList) := by
  let q : FeatureQuery :=
    { filter := .text "\"Q c\" in ('(', 1)", geometry := .object [("x", .int 1), ("y", .int 2)] }
  have hnormal : Filter.normalizeObjectId "\"Q c\" in ('(', 1)".toList = "\"Q c\" in ('(', 1)".toList := by decide +kernel
  have hspells : Filter.Spells (· = []) "\"Q c\" in ('(', 1)".toList
      [⟨.quoted, "Q c".toList⟩, ⟨.fixed "IN", "in".toList⟩, .fixed "(", ⟨.string, ['(']⟩, .fixed ",", ⟨.number, ['1']⟩,
        .fixed ")"] := by
    rintro r rfl
    decide +kernel
  have hsql : Filter.qualified "n" "\"Q c\" in ('(', 1)" = .ok "n.\"Q c\" IN ('(', 1)".toList := by
    refine Filter.qualified_of_spells Filter.isTableName_n hspells rfl ?_
    rw [Filter.wordLexeme_n]
    decide +kernel
  have hout : (ofRendered "n.\"Q c\" IN ('(', 1)".toList).toOption = some "n.Q c IN ['(',1]".toList := by decide +kernel
  have hw : filterPredicate q = .ok (some "n.Q c IN ['(',1]") := by
    rw [← String.ofList_toList (s := "\"Q c\" in ('(', 1)"), ← hnormal] at hsql
    exact Filter.restriction_of_predicate (by decide +kernel)
      (Filter.predicate_of_qualified hsql (eq_ok_of_toOption hout))
  obtain ⟨s, hs⟩ : ∃ s, spatialPredicate .skip (some "shape") q = .ok (some s) := ⟨_, rfl⟩
  obtain ⟨hclause, hgroup, -⟩ := filters_grouped hw hs
  exact ⟨s, hclause, hgroup.2 (by decide)⟩

/-- A name in which they do not match, within a normal form in which they do. -/
example : (ofRendered "n.\"a) or (b\" = 1".toList).toOption = some "n.a) or (b = 1".toList ∧
    ((tokens "n.\"a) or (b\" = 1".toList).toOption.any fun ts => TokensNest ts) = true ∧
    ¬ Nests "n.a) or (b = 1".toList := by
  decide +kernel

end FeatureGraph.Cypher
