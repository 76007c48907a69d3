import FeatureGraph.Proofs.Cypher.Rewriting
import FeatureGraph.Proofs.Cypher.Scanning

/-! # A filter in the words of Cypher stays as it is

What a filter without quoted names is spelled as is made of tokens that are scanned from it again, and none of
them begins a list. -/
namespace FeatureGraph.Cypher

/-- After no `IN` stands a list. -/
def Listless : List Token → Prop
  | [] => True
  | t :: r => t.list? r = none ∧ Listless r

/-- Tokens that are scanned from their text, and that it is spelled with. -/
structure Settled (ts : List Token) : Prop where
  whole : ∀ t ∈ ts, t.Whole
  separate : ts.IsChain Token.Separate
  unquoted : ∀ t ∈ ts, t.kind ≠ .quoted
  listless : Listless ts

structure Replaces (us vs : List Token) : Prop where
  settled : Settled vs
  separate : ∀ t : Token, (∀ u ∈ us.head?, t.Separate u) → ∀ v ∈ vs.head?, t.Separate v
  listless : listAfter? us = none → listAfter? vs = none

def inWord : Token := ⟨.word, ['I', 'N']⟩

section Lists
variable {t u : Token} {r ts us vs : List Token}

theorem spelledIn_of_listless {calls : Nat} (h : Listless ts) (hc : 0 < calls) :
    spelledIn calls ts = .ok (ts.flatMap Token.rendered) := by
  induction ts with
  | nil => rw [spelledIn, List.flatMap_nil]
  | cons t r ih =>
    rw [spelledIn_of_copy h.1 fun _ => hc, ih h.2]
    rfl

theorem rendered_of_unquoted (h : t.kind ≠ .quoted) : t.rendered = t.text := by
  simp [Token.rendered, h]

theorem Settled.ofRendered (h : Settled ts) : ofRendered (ts.flatMap Token.text) = .ok (ts.flatMap Token.text) := by
  have htext : ts.flatMap Token.rendered = ts.flatMap Token.text := by
    simp only [List.flatMap_def]
    rw [List.map_congr_left fun t ht => rendered_of_unquoted (h.unquoted t ht)]
  rw [ofRendered_of_tokens (tokens_flatMap_text h.whole h.separate), spelledIn_of_listless h.listless (by decide), htext]

/-- Whether a list stands after blanks does not depend on what follows, once anything does. -/
theorem listAfter?_of_append (h : listAfter? (us ++ vs) = none) : listAfter? us = none := by
  induction us with
  | nil => rfl
  | cons t us ih =>
    rw [List.cons_append] at h
    by_cases hk : t.kind = .space
    · rw [listAfter?_space hk] at h ⊢
      exact ih h
    · rw [listAfter?_cons hk] at h ⊢
      simpa using h

theorem listAfter?_append (h : listAfter? us = none) (hs : u.kind ≠ .space) (ho : u.kind ≠ .opening) :
    listAfter? (us ++ u :: vs) = none := by
  induction us with
  | nil => rw [List.nil_append, listAfter?_cons hs, if_neg ho]
  | cons t us ih =>
    rw [List.cons_append]
    by_cases hk : t.kind = .space
    · rw [listAfter?_space hk] at h ⊢
      exact ih h
    · rw [listAfter?_cons hk] at h ⊢
      simpa using h

theorem list?_of_listAfter? (h : t.list? us = none) (hv : listAfter? us = none → listAfter? vs = none) :
    t.list? vs = none := by
  by_cases hin : t.isIn <;> simp_all [Token.list?]

theorem Listless.of_append (h : Listless (us ++ vs)) : Listless us ∧ Listless vs := by
  induction us with
  | nil => exact ⟨trivial, h⟩
  | cons t us ih =>
    obtain ⟨hus, hvs⟩ := ih h.2
    exact ⟨⟨list?_of_listAfter? h.1 listAfter?_of_append, hus⟩, hvs⟩

theorem Listless.append (h : Listless us) (h' : Listless (u :: vs)) (hs : u.kind ≠ .space)
    (ho : u.kind ≠ .opening) : Listless (us ++ u :: vs) := by
  induction us with
  | nil => exact h'
  | cons t us ih => exact ⟨list?_of_listAfter? h.1 fun hn => listAfter?_append hn hs ho, ih h.2⟩

theorem Settled.of_infix (h : Settled vs) (hu : us <:+: vs) : Settled us := by
  obtain ⟨lead, trail, rfl⟩ := hu
  have hmem : ∀ t ∈ us, t ∈ lead ++ us ++ trail := fun t ht => by simp [ht]
  exact ⟨fun t ht => h.whole t (hmem t ht), List.IsChain.infix h.separate ⟨lead, trail, rfl⟩,
    fun t ht => h.unquoted t (hmem t ht), h.listless.of_append.1.of_append.2⟩

theorem Settled.cons (h : Settled vs) (hw : t.Whole) (hs : ∀ v ∈ vs.head?, t.Separate v) (hq : t.kind ≠ .quoted)
    (hl : t.list? vs = none) : Settled (t :: vs) :=
  ⟨List.forall_mem_cons.2 ⟨hw, h.whole⟩, List.isChain_cons.2 ⟨hs, h.separate⟩,
    List.forall_mem_cons.2 ⟨hq, h.unquoted⟩, hl, h.listless⟩

/-- Before a comma or a bracket every token ends, and no list stands there. -/
def Token.Divides (t : Token) : Prop := t = ⟨.comma, [',']⟩ ∨ t = ⟨.other, [']']⟩

theorem Settled.append (h : Settled us) (h' : Settled (u :: vs)) (hu : u.Divides) : Settled (us ++ u :: vs) := by
  have hends (kind : TokenKind) : ∀ c ∈ u.text.head?, kind.EndsBefore c := by
    rcases hu with rfl | rfl
    all_goals
      rintro c ⟨⟩
      cases kind <;> decide
  have hkind : u.kind ≠ .space ∧ u.kind ≠ .opening := by
    rcases hu with rfl | rfl <;> decide
  refine ⟨?_, ?_, ?_, h.listless.append h'.listless hkind.1 hkind.2⟩
  · exact List.forall_mem_append.2 ⟨h.whole, h'.whole⟩
  · refine List.isChain_append.2 ⟨h.separate, h'.separate, fun t _ v hv => ?_⟩
    obtain rfl : u = v := by simpa using hv
    exact hends t.kind
  · exact List.forall_mem_append.2 ⟨h.unquoted, h'.unquoted⟩

/-- Blanks at both ends of a text are whole tokens. -/
theorem dropWhile_flatMap {g : Token → List Char} (hs : ∀ t ∈ ts, t.kind = .space → ∀ c ∈ g t, Text.isBlank c)
    (hn : ∀ t ∈ ts, t.kind ≠ .space → ∃ c r, g t = c :: r ∧ Text.isBlank c = false) :
    (ts.flatMap g).dropWhile Text.isBlank = (ts.dropWhile isSpace).flatMap g := by
  induction ts with
  | nil => rfl
  | cons t ts ih =>
    by_cases hk : t.kind = .space
    · have hsp : isSpace t = true := by simp [isSpace, hk]
      rw [List.flatMap_cons, List.dropWhile_append_of_pos (hs t (by simp) hk), List.dropWhile_cons_of_pos hsp]
      exact ih (fun u hu => hs u (by simp [hu])) fun u hu => hn u (by simp [hu])
    · obtain ⟨c, r, hg, hc⟩ := hn t (by simp) hk
      rw [List.dropWhile_cons_of_neg (by simp [isSpace, hk]), List.flatMap_cons, hg, List.cons_append,
        List.dropWhile_cons_of_neg (by simp [hc])]

/-- Blanks are trimmed token by token. -/
theorem Settled.exists_trim (h : Settled vs) :
    ∃ ws, Settled ws ∧ ws.flatMap Token.text = Text.trim (vs.flatMap Token.text) := by
  let rest := vs.dropWhile isSpace
  have hrest : rest <:+ vs := List.dropWhile_suffix _
  have hlead : (vs.flatMap Token.text).dropWhile Text.isBlank = rest.flatMap Token.text := by
    refine dropWhile_flatMap (fun t ht => (h.whole t ht).isBlank) fun t ht hk => ?_
    obtain ⟨c, r, htext⟩ := (h.whole t ht).exists_text
    exact ⟨c, r, htext, ((h.whole t ht).not_isBlank hk).1 c (by simp [htext])⟩
  have htrail : (rest.flatMap Token.text).reverse.dropWhile Text.isBlank =
      (rest.reverse.dropWhile isSpace).flatMap (List.reverse ∘ Token.text) := by
    rw [List.reverse_flatMap]
    have hwhole : ∀ t ∈ rest.reverse, t.Whole := fun t ht => h.whole t (hrest.subset (List.mem_reverse.1 ht))
    refine dropWhile_flatMap (fun t ht hk c hc => ?_) fun t ht hk => ?_
    · exact (hwhole t ht).isBlank hk c (List.mem_reverse.1 hc)
    · have hlast := ((hwhole t ht).not_isBlank hk).2
      rw [← List.head?_reverse] at hlast
      cases hr : t.text.reverse with
      | nil =>
        obtain ⟨c, r, htext⟩ := (hwhole t ht).exists_text
        simp [htext] at hr
      | cons c r => exact ⟨c, r, hr, hlast c (by simp [hr])⟩
  refine ⟨(rest.reverse.dropWhile isSpace).reverse, h.of_infix ?_, ?_⟩
  · have hprefix : (rest.reverse.dropWhile isSpace).reverse <+: rest := by
      rw [← List.reverse_suffix, List.reverse_reverse]
      exact List.dropWhile_suffix _
    exact hprefix.isInfix.trans hrest.isInfix
  · rw [Text.trim, hlead, htrail, List.flatMap_reverse]

/-- The elements of a list and what follows it. -/
theorem Settled.exists_listed {es : List (List Char)}
    (h : ∀ e ∈ es, ∃ ws, Settled ws ∧ ws.flatMap Token.text = e) (hv : Settled vs) :
    ∃ ws, Settled ws ∧ ws.flatMap Token.text = [','].intercalate es ++ ']' :: vs.flatMap Token.text := by
  have hclose : Settled (⟨.other, [']']⟩ :: vs) :=
    hv.cons (.other (by simp [IsPlain]) (by decide) (by decide) (by decide)) (fun _ _ _ _ => trivial) (by simp) rfl
  induction es with
  | nil => exact ⟨_, hclose, rfl⟩
  | cons e es ih =>
    obtain ⟨ws, hws, rfl⟩ := h e (by simp)
    obtain ⟨ws', hws', htext⟩ := ih fun e' he => h e' (by simp [he])
    cases es with
    | nil => exact ⟨_, hws.append hclose (.inr rfl), by simp⟩
    | cons e' es =>
      have hcomma : Settled (⟨.comma, [',']⟩ :: ws') :=
        hws'.cons .comma (fun _ _ _ _ => trivial) (by simp) rfl
      exact ⟨_, hws.append hcomma (.inl rfl), by simp [htext, List.intercalate_cons_cons]⟩

/-- A list as it is spelled. -/
theorem Settled.exists_bracketed {es : List (List Char)}
    (h : ∀ e ∈ es, ∃ ws, Settled ws ∧ ws.flatMap Token.text = e) (hv : Settled vs) :
    ∃ ws, Settled (inWord :: ws) ∧
      (inWord :: ws).flatMap Token.text = bracketed es ++ vs.flatMap Token.text := by
  have hes : ∀ e ∈ (es.map Text.trim).filter (!·.isEmpty), ∃ ws, Settled ws ∧ ws.flatMap Token.text = e := by
    intro e he
    obtain ⟨e', he', rfl⟩ := List.mem_map.1 (List.mem_filter.1 he).1
    obtain ⟨ws, hws, rfl⟩ := h e' he'
    exact hws.exists_trim
  obtain ⟨ws, hws, htext⟩ := hv.exists_listed hes
  have hopen : Settled (⟨.other, ['[']⟩ :: ws) :=
    hws.cons (.other (by simp [IsPlain]) (by decide) (by decide) (by decide)) (fun _ _ _ _ => trivial) (by simp) rfl
  have hbracket : ∀ v ∈ (⟨.other, ['[']⟩ :: ws : List Token).head?, Token.Separate ⟨.space, [' ']⟩ v := by
    rintro v ⟨⟩ c ⟨⟩
    decide
  have hspace : Settled (⟨.space, [' ']⟩ :: ⟨.other, ['[']⟩ :: ws) :=
    hopen.cons (.space (by decide) (by simp)) hbracket (by simp) rfl
  have hsep : ∀ v ∈ (⟨.space, [' ']⟩ :: ⟨.other, ['[']⟩ :: ws : List Token).head?, inWord.Separate v := by
    rintro v ⟨⟩ c ⟨⟩
    decide
  refine ⟨_, hspace.cons (.word (by decide) (List.forall_mem_singleton.2 (by decide))) hsep (by decide) ?_, ?_⟩
  · simp [Token.list?, listAfter?_space, listAfter?_cons]
  · unfold bracketed
    simp [htext, inWord]

theorem Replaces.nil : Replaces [] [] :=
  ⟨⟨by simp, .nil, by simp, trivial⟩, fun _ h => h, id⟩

theorem Replaces.copy (h : Replaces r vs) (ht : t.Whole) (hq : t.kind ≠ .quoted)
    (hs : ∀ u ∈ r.head?, t.Separate u) (hl : t.list? r = none) : Replaces (t :: r) (t :: vs) := by
  refine ⟨h.settled.cons ht (h.separate t hs) hq (list?_of_listAfter? hl h.listless), fun _ h => h, fun hn => ?_⟩
  by_cases hk : t.kind = .space
  · rw [listAfter?_space hk] at hn ⊢
    exact h.listless hn
  · rw [listAfter?_cons hk] at hn ⊢
    simpa using hn

/-- A word ends where another begins only if it is none. -/
theorem Replaces.list (h : Settled (inWord :: vs)) (ht : t.Whole) (hk : t.kind = .word) :
    Replaces (t :: r) (inWord :: vs) := by
  refine ⟨h, fun u hu v hv => ?_, fun _ => rfl⟩
  obtain rfl : inWord = v := by simpa using hv
  have hut : u.Separate t := hu t rfl
  obtain ⟨c, s, htext⟩ := ht.exists_text
  have hc : isWordStart c := ht.isWordStart hk c (by simp [htext])
  have hends : u.kind.EndsBefore c := hut c (by simp [htext])
  have hword : u.kind ≠ .word := fun hu => by simp [hu, TokenKind.EndsBefore, isWordPart, hc] at hends
  intro d hd
  obtain rfl := Option.some.inj hd
  have hother (kind : TokenKind) : kind ≠ .word → kind.EndsBefore 'I' := by cases kind <;> decide
  exact hother u.kind hword

/-- What a filter without quoted names is spelled as has tokens that are spelled with their own texts. -/
theorem exists_replaces {calls : Nat} {out : List Char} (h : spelledIn calls ts = .ok out) (hw : ∀ t ∈ ts, t.Whole)
    (hc : ts.IsChain Token.Separate) (hq : ∀ t ∈ ts, t.kind ≠ .quoted) :
    ∃ vs, vs.flatMap Token.text = out ∧ Replaces ts vs := by
  refine spelledIn_induction (Q := fun us => (∀ t ∈ us, t.Whole ∧ t.kind ≠ .quoted) ∧ us.IsChain Token.Separate)
    (P := fun us out => ∃ vs, vs.flatMap Token.text = out ∧ Replaces us vs)
    ?part ?lexed ?nil ?copy ?list h ⟨fun t ht => ⟨hw t ht, hq t ht⟩, hc⟩
  case part => exact fun hsub hQ => ⟨fun t ht => hQ.1 t (hsub.subset ht), List.IsChain.infix hQ.2 hsub⟩
  case lexed => exact fun hQ t ht => (hQ.1 t ht).1.lexed
  case nil => exact ⟨[], rfl, .nil⟩
  case copy =>
    rintro t r _ hQ hlist ⟨vs, rfl, hvs⟩
    obtain ⟨ht, htq⟩ := hQ.1 t (by simp)
    exact ⟨t :: vs, by simp [rendered_of_unquoted htq], hvs.copy ht htq (List.isChain_cons.1 hQ.2).1 hlist⟩
  case list =>
    rintro t r elements rest es _ hQ hlist hes ⟨vs, rfl, hvs⟩
    obtain ⟨ht, -⟩ := hQ.1 t (by simp)
    have hsettled : ∀ e ∈ es, ∃ ws, Settled ws ∧ ws.flatMap Token.text = e :=
      forall_mem_of_forall₂ hes (p := fun _ => True) (fun _ _ => trivial) fun _ _ _ ⟨ws, htext, hws⟩ =>
        ⟨ws, hws.settled, htext⟩
    obtain ⟨ws, hws, htext⟩ := hvs.settled.exists_bracketed hsettled
    have hk : t.kind = .word := (Token.list?_eq hlist fun u hu => (hQ.1 u (by simp [hu])).1.lexed).1
    exact ⟨_, htext, .list hws ht hk⟩

end Lists

/-- A filter without quoted names that is spelled in the words of Cypher is spelled so again as it is. -/
theorem ofRendered_idempotent {cs out : List Char} (h : ofRendered cs = .ok out)
    (hq : ∀ ts, tokens cs = .ok ts → ∀ t ∈ ts, t.kind ≠ .quoted) : ofRendered out = .ok out := by
  obtain ⟨ts, hts, -, -⟩ := ofRendered_eq_ok_iff.1 h
  rw [ofRendered_of_tokens hts] at h
  obtain ⟨vs, rfl, hvs⟩ := exists_replaces h (scanned_of_tokens hts).whole (scanned_of_tokens hts).separate (hq ts hts)
  exact hvs.settled.ofRendered

/-- Blank elements, nested lists, an `IN` that ends a list and parentheses that close nothing. -/
theorem ofRendered_idempotent_nested :
    ofRendered "in In (f(a in( 1, 2)), , 'x, \"y\" in (3)', in ) (b) )".toList =
      .ok "in IN [f(a IN [1,2]),'x, \"y\" in (3)',in] (b) )".toList ∧
    ofRendered "in IN [f(a IN [1,2]),'x, \"y\" in (3)',in] (b) )".toList =
      .ok "in IN [f(a IN [1,2]),'x, \"y\" in (3)',in] (b) )".toList := by
  have hout : (ofRendered "in In (f(a in( 1, 2)), , 'x, \"y\" in (3)', in ) (b) )".toList).toOption =
      some "in IN [f(a IN [1,2]),'x, \"y\" in (3)',in] (b) )".toList := by decide +kernel
  have hunquoted : (tokens "in In (f(a in( 1, 2)), , 'x, \"y\" in (3)', in ) (b) )".toList).toOption.all
      (·.all (·.kind ≠ .quoted)) = true := by decide +kernel
  refine ⟨eq_ok_of_toOption hout, ofRendered_idempotent (eq_ok_of_toOption hout) fun ts hts t ht => ?_⟩
  rw [hts] at hunquoted
  simpa using List.all_eq_true.1 hunquoted t ht

end FeatureGraph.Cypher
