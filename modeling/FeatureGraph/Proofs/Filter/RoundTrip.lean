import FeatureGraph.Proofs.Filter.Legible

/-! # From a legible expression to its text and back

A legible expression is written with tokens that are read as the expression. The proof follows the rules by which an
expression is legible: operands are single tokens, prefixes and parentheses, and everything else is a step after an
operand. -/
namespace FeatureGraph.Filter
open Grammar Reader

section
variable {l m σ τ : Level} {e a : Expr} {ts us : List Lexeme} {t : Lexeme} {text cs : List Char} {item : List Lexeme × Expr}
  {items : List (List Lexeme × Expr)}

/-! ## What is read -/

/-- Tokens that are read as an expression of a level, which may go on. -/
structure ReadsAs (l σ : Level) (ts : List Lexeme) (e : Expr) : Prop where
  operand : l = .unary → Reads .unary σ ts e
  chained : l ≠ .unary → Chained l σ ts e

theorem Level.le_refl (l : Level) : l ≤ l := Nat.le_refl _

theorem Level.le_trans {k : Level} (h : l ≤ m) (h' : m ≤ k) : l ≤ k := Nat.le_trans h h'

theorem ReadsAs.mono (h : ReadsAs l σ ts e) (hσ : τ ≤ σ) : ReadsAs l τ ts e :=
  ⟨fun hl => (h.operand hl).mono hσ, fun hl => (h.chained hl).mono hσ⟩

theorem ReadsAs.reads (h : ReadsAs l σ ts e) (hσ : σ ≤ l) : Reads l σ ts e := by
  by_cases hl : l = .unary
  · subst hl
    exact h.operand rfl
  · exact (h.chained hl).reads hl hσ

theorem ReadsAs.lift (h : ReadsAs m σ ts e) (hm : l ≤ m) (hτ : τ ≤ l.tighter) (hσ : τ ≤ σ) : ReadsAs l τ ts e := by
  by_cases hlm : l = m
  · subst hlm
    exact h.mono hσ
  · have htighter : l.tighter ≤ m := Level.tighter_le hm hlm
    have hl : l ≠ .unary := by
      rintro rfl
      cases m <;> first | exact hlm rfl | exact absurd hm (by decide)
    have hread : Reads m τ ts e := (h.mono hσ).reads (Level.le_trans hτ htighter)
    exact ⟨fun h => absurd h hl, fun _ => (hread.lift htighter hτ (Level.le_refl τ)).chained hl hτ⟩

theorem Grammar.Reads.readsAs (h : Reads .unary σ ts e) : ReadsAs .unary σ ts e := ⟨fun _ => h, fun hl => absurd rfl hl⟩

theorem Grammar.Chained.readsAs (h : Chained l σ ts e) (hl : l ≠ .unary) : ReadsAs l σ ts e :=
  ⟨fun h => absurd h hl, fun _ => h⟩

/-! ## Phrases -/

theorem phrase_cons (ht : Opens t) (hmarks : ∀ s ∈ marks, t.kind ≠ .fixed s)
    (hsecond : ∀ u ∈ us.head?, ∀ s ∈ [",", ")", "->", "=>"], u.kind ≠ .fixed s)
    (hlast : ∀ u ∈ us.getLast?, u.kind ≠ .fixed ",") : Phrase (t :: us) := by
  refine ⟨⟨t, us, rfl, ht, hmarks⟩, ?_, ?_⟩
  · rw [List.getElem?_cons_succ, ← List.head?_eq_getElem?]
    exact hsecond
  · cases us with
    | nil =>
      rintro u ⟨⟩
      exact ht _ (by decide)
    | cons u us => simpa using hlast

theorem phrase_single (ht : Opens t) (hmarks : ∀ s ∈ marks, t.kind ≠ .fixed s) : Phrase [t] :=
  phrase_cons ht hmarks (by simp) (by simp)

structure Follows (us : List Lexeme) : Prop where
  first : ∃ u us', us = u :: us' ∧ ∀ s ∈ [",", ")", "->", "=>"], u.kind ≠ .fixed s
  last : ∀ u ∈ us.getLast?, u.kind ≠ .fixed ","

theorem Grammar.Phrase.append (h : Phrase ts) (hus : Follows us) : Phrase (ts ++ us) := by
  obtain ⟨t, ts', rfl, hopens, hmarks⟩ := h.first
  obtain ⟨u, us', rfl, hu⟩ := hus.first
  rw [List.cons_append]
  refine phrase_cons hopens hmarks ?_ ?_
  · cases ts' with
    | nil =>
      rintro v ⟨⟩
      exact hu
    | cons v ts' =>
      rintro w ⟨⟩
      exact h.second _ rfl
  · rw [List.getLast?_append_of_ne_nil _ (List.cons_ne_nil u us')]
    exact hus.last

theorem Follows.noArrow (h : Follows us) : NoArrow us := by
  obtain ⟨u, us', rfl, hu⟩ := h.first
  rintro v ⟨⟩
  exact ⟨hu _ (by simp), hu _ (by simp)⟩

theorem Follows.ne_nil (h : Follows us) : us ≠ [] := by
  obtain ⟨u, us', rfl, -⟩ := h.first
  exact List.cons_ne_nil _ _

theorem follows_fixed {s : String} (hs : s ∈ connectives) (hlast : ∀ u ∈ us.getLast?, u.kind ≠ .fixed ",") :
    Follows (.fixed s :: us) := by
  have hconnectives : ∀ s ∈ connectives, s ∉ [",", ")", "->", "=>"] := by decide
  have hs := hconnectives s hs
  refine ⟨⟨_, us, rfl, fun s' hs' => ?_⟩, ?_⟩
  · rintro ⟨⟩
    exact hs hs'
  · cases us with
    | nil =>
      rintro u ⟨⟩ ⟨⟩
      exact hs (by simp)
    | cons u us => simpa using hlast

/-! ## What is written -/

/-- A text whose tokens are read as an expression. -/
structure Written (l σ : Level) (text : List Char) (e : Expr) (ts : List Lexeme) : Prop where
  spells : Spells (Ends afterExpr) text ts
  reads : ReadsAs l σ ts e
  phrase : Phrase ts
  unbound : Unbound ts
  /-- As a lower bound it is not taken for a word of the test of range. -/
  bound : ∀ t ∈ ts.head?, ∀ s ∈ boundWords, Reader.reads s t.token = false
  /-- A sign before it is no part of a longer symbol. -/
  first : ∀ c ∈ text.head?, c ∉ ['>', '|']

theorem Written.lift (h : Written m σ text e ts) (hm : l ≤ m) (hτ : τ ≤ l.tighter) (hσ : τ ≤ σ) : Written l τ text e ts :=
  { h with reads := h.reads.lift hm hτ hσ }

theorem Written.spans (h : Written .disjunction .disjunction text e ts) : Spans .disjunction .disjunction ts e :=
  ⟨h.reads.reads (Level.le_refl _), h.phrase.first.imp fun _ => Exists.imp fun _ h => ⟨h.1, h.2.1⟩⟩

/-- An operand that begins with no parenthesis. -/
theorem written_operand (hspells : Spells (Ends afterExpr) text (t :: ts)) (hreads : Reads .unary σ (t :: ts) e)
    (hphrase : Phrase (t :: ts)) (hparen : t.kind ≠ .fixed "(") (hbound : ∀ s ∈ boundWords, Reader.reads s t.token = false)
    (hfirst : ∀ c ∈ text.head?, c ∉ ['>', '|']) : Written .unary σ text e (t :: ts) where
  spells := hspells
  reads := hreads.readsAs
  phrase := hphrase
  unbound := unbound_of_first hphrase (by rintro u ⟨⟩; exact hparen)
  bound := by
    rintro u ⟨⟩
    exact hbound
  first := hfirst

/-- A step after an operand. -/
theorem Written.step (ha : Written l σ text a ts) (hl : l ≠ .unary) (hstep : ReadsStep l τ us a e) (hus : Follows us)
    (hnext : ∀ r, Stops τ r → Stops σ (us ++ r)) (hspells : Spells (Ends afterExpr) cs us)
    (hends : ∀ r, Ends afterExpr (' ' :: (cs ++ r))) : Written l τ (text ++ ' ' :: cs) e (ts ++ us) where
  spells := by
    have hright : Spells (Ends afterExpr) ([' '] ++ cs) ([] ++ us) := spells_blank.then hspells
    exact ha.spells.append hright fun r _ => hends r
  reads := ((ha.reads.chained hl).step hstep hus.ne_nil hnext).readsAs hl
  phrase := ha.phrase.append hus
  unbound := ha.unbound.append hus.noArrow hus.ne_nil
  bound := by
    obtain ⟨t, ts', rfl, -⟩ := ha.phrase.first
    exact ha.bound
  first := by
    cases text with
    | nil =>
      rintro c ⟨⟩
      decide
    | cons c text => exact ha.first

/-! ## Operands -/

theorem reads_eq_false (h : t.token.upper ∉ boundWords) : ∀ s ∈ boundWords, Reader.reads s t.token = false := by
  intro s hs
  have hne : t.token.upper ≠ s := by
    rintro rfl
    exact h hs
  simp [Reader.reads, hne]

theorem opens_of_kind (test : Kind → Bool) (htest : ∀ s ∈ nonOpeners ++ marks, test (.fixed s) = false)
    (h : test t.kind = true) : Opens t ∧ ∀ s ∈ marks, t.kind ≠ .fixed s := by
  have hne : ∀ s ∈ nonOpeners ++ marks, t.kind ≠ .fixed s := by
    intro s hs hkind
    rw [hkind, htest s hs] at h
    cases h
  exact ⟨fun s hs => hne s (List.mem_append_left _ hs), fun s hs => hne s (List.mem_append_right _ hs)⟩

theorem Grammar.BeginsColumn.opens (h : Grammar.BeginsColumn t) : Opens t ∧ ∀ s ∈ marks, t.kind ≠ .fixed s := by
  refine opens_of_kind (fun k => k == .quoted || mayName ⟨k, [], []⟩) (by decide +kernel) ?_
  have hname : mayName t.token = mayName ⟨t.kind, [], []⟩ := rfl
  rcases h.title with hquoted | htitle
  · simp [hquoted]
  · simp [← hname, htitle]

theorem Grammar.BeginsCall.opens (h : Grammar.BeginsCall t) : Opens t ∧ ∀ s ∈ marks, t.kind ≠ .fixed s :=
  opens_of_kind (fun k => mayCall false ⟨k, [], []⟩) (by decide +kernel) h.call

theorem first_rendered_name {n : Name} (h : n.IsWord) : ∀ c ∈ (n.rendered ++ cs).head?, c ∉ ['>', '|'] := by
  obtain ⟨text, isQuoted⟩ := n
  cases isQuoted with
  | true =>
    rintro c ⟨⟩
    decide
  | false =>
    obtain ⟨hfirst, htext⟩ := h.resolve_left (by simp)
    obtain ⟨d, text, rfl⟩ := List.exists_cons_of_ne_nil htext.ne_nil
    have hrendered : Name.rendered ⟨d :: text, false⟩ = d :: text := by
      rw [Name.rendered, hfirst]
      rfl
    rw [hrendered]
    rintro c ⟨⟩ hmem
    have hsingles : ∀ c ∈ ['>', '|'], c ∈ singles := by decide
    exact not_mem_singles_of_isWordPart (htext.parts d (by simp)) (hsingles d hmem)

theorem rendered_column (qualifiers : List Name) (member : Name) :
    (Expr.column (qualifiers.map .name) (.name member)).rendered =
      ['.'].intercalate ((qualifiers ++ [member]).map Name.rendered) := by
  have hname : Expr.rendered ∘ Expr.name = Name.rendered := by
    funext n
    rw [Function.comp_apply, Expr.rendered]
  rw [Expr.rendered, Expr.renderedAll_eq, List.map_map, hname, Expr.rendered, List.map_append]
  rfl

theorem Grammar.NamesMember.comma (h : Grammar.NamesMember t) : t.kind ≠ .fixed "," := by
  intro hkind
  have htitle := h.title
  simp only [hkind, reduceCtorEq, false_or] at htitle
  have hnot : ∀ text, (mayNameAnything ⟨.fixed ",", text, []⟩ || mayName ⟨.fixed ",", text, []⟩) = false := fun _ => rfl
  rw [Lexeme.token, hkind, hnot] at htitle
  cases htitle

theorem forall_pathTokens {p : Lexeme → Prop} (hpoint : p (.fixed ".")) (h : ∀ t ∈ ts, p t) : ∀ u ∈ pathTokens ts, p u := by
  intro u hu
  obtain ⟨t, ht, hu⟩ := List.mem_flatMap.1 hu
  rcases List.mem_pair.1 hu with rfl | rfl
  · exact hpoint
  · exact h _ ht

theorem written_column {qualifiers : List Name} {member : Name} (hlength : qualifiers.length ≤ 3)
    (hfirst : ∀ n ∈ (qualifiers ++ [member]).head?, n.BeginsColumn)
    (hmore : ∀ n ∈ (qualifiers ++ [member]).tail, n.NamesMember) :
    ∃ ts, Written .unary .unary (Expr.column (qualifiers.map .name) (.name member)).rendered
      (.column (qualifiers.map .name) (.name member)) ts := by
  obtain ⟨n, ns, hns⟩ : ∃ n ns, qualifiers ++ [member] = n :: ns := by
    cases qualifiers <;> exact ⟨_, _, rfl⟩
  have hcolumn : lengthened [] (.name n) (ns.map fun n => Lexeme.title n.lexeme) =
      .column (qualifiers.map .name) (.name member) := by
    simp only [title_lexeme, List.map_id']
    cases qualifiers with
    | nil =>
      cases hns
      rfl
    | cons q qs =>
      cases hns
      exact lengthened_append _ _ _ _
  have htext := rendered_column qualifiers member
  rw [hns] at hfirst hmore htext
  have hn := hfirst n rfl
  have hlengths : ns.length ≤ 3 := by
    have := congrArg List.length hns
    simp only [List.length_append, List.length_cons, List.length_nil] at this
    omega
  have hnames : ∀ t ∈ ns.map Name.lexeme, Grammar.NamesMember t :=
    List.forall_mem_map.2 fun m hm => (hmore m hm).names
  have hreads := reads_column hn.begins hnames (by simpa using hlengths)
  rw [title_lexeme, List.map_map, Function.comp_def, hcolumn] at hreads
  obtain ⟨hopens, hmarks⟩ := hn.begins.opens
  have hphrase : Phrase (n.lexeme :: pathTokens (ns.map Name.lexeme)) := by
    refine phrase_cons hopens hmarks ?_ ?_
    · cases ns with
      | nil => simp [pathTokens]
      | cons m ns =>
        rintro u ⟨⟩
        decide
    · have hmembers : ∀ u ∈ pathTokens (ns.map Name.lexeme), u.kind ≠ .fixed "," :=
        forall_pathTokens (by decide) (List.forall_mem_map.2 fun m hm => (hmore m hm).names.comma)
      exact fun u hu => hmembers u (List.mem_of_getLast? hu)
  have hspells := spells_path hn.word fun m hm => (hmore m hm).word
  have hafter : afterExpr ⊆ afterWord := by decide
  refine ⟨_, written_operand ?_ hreads hphrase (hn.begins.symbol _ (by simp)) (reads_eq_false hn.bound) ?_⟩
  · rw [htext]
    exact hspells.mono fun r hr => hr.mono hafter
  · rw [htext, List.map_cons, intercalate_cons]
    exact first_rendered_name hn.word

theorem mem_figures {c : Char} (h : isFigure c = true) : c ∈ "0123456789".toList := by
  have hbounds : 48 ≤ c.toNat ∧ c.toNat ≤ 57 := by
    simp only [isFigure, Bool.and_eq_true, decide_eq_true_eq] at h
    exact ⟨UInt32.le_iff_toNat_le.1 h.1, UInt32.le_iff_toNat_le.1 h.2⟩
  have hall : ∀ n ∈ List.range' 48 10, Char.ofNat n ∈ "0123456789".toList := by decide +kernel
  rw [← Char.ofNat_toNat c]
  exact hall _ (List.mem_range'_1.2 ⟨hbounds.1, by omega⟩)

theorem written_number (h : IsNumberText text) : Written .unary .unary text (.number text) [⟨.number, text⟩] := by
  obtain ⟨c, text, rfl⟩ := List.exists_cons_of_ne_nil h.ne_nil
  have hfigures : ∀ c ∈ "0123456789".toList, Text.upperChar c = [c] ∧ c ∉ ['S', 'A', '>', '|'] := by decide +kernel
  obtain ⟨hupper, hletter⟩ := hfigures c (mem_figures (h.first c rfl))
  simp only [List.mem_cons, List.not_mem_nil, or_false, not_or] at hletter
  refine written_operand ?_ (reads_number _) (phrase_single (by simp [Opens]) (by simp)) (by simp) (reads_eq_false ?_) ?_
  · exact (spells_number h).mono fun r hr => hr.head
  · have htext : (Lexeme.mk .number (c :: text)).token.upper = String.ofList (c :: text.flatMap Text.upperChar) := by
      show Text.upper (String.ofList (c :: text)) = _
      rw [Text.upper, String.toList_ofList, List.flatMap_cons, hupper]
      rfl
    rw [htext]
    intro hmem
    rcases List.mem_pair.1 hmem with heq | heq
    · have hlist := congrArg String.toList heq
      simp [hletter] at hlist
    · have hlist := congrArg String.toList heq
      simp [hletter] at hlist
  · rintro d ⟨⟩
    simp [hletter]

theorem written_string (text : List Char) :
    Written .unary .unary (Expr.string text).rendered (.string text) [⟨.string, text⟩] := by
  refine written_operand ?_ (reads_string text) (phrase_single (by simp [Opens]) (by simp)) (by simp) ?_ ?_
  · intro r hr
    have hquote : ∀ c ∈ r.head?, c ≠ '\'' := by
      rintro c hc rfl
      exact absurd (hr.head _ hc) (by decide)
    show pieces? false ('\'' :: doubled '\'' text ++ ['\''] ++ r) = _
    rw [List.append_assoc, List.singleton_append, pieces?_string text hquote]
    rfl
  · intro s _
    rfl
  · rintro c ⟨⟩
    decide

theorem spells_constant {s : String} (hs : s ∈ ["NULL", "TRUE", "FALSE"]) :
    Spells (Ends afterExpr) s.toList [.fixed s] := by
  have hconnectives : ["NULL", "TRUE", "FALSE"] ⊆ connectives.drop symbolOperators.length := by decide
  have hafter : afterExpr ⊆ afterWord := by decide
  exact (isSoleWord_connective (hconnectives hs)).spells.mono fun r hr c hc => hafter (hr.head c hc)

theorem written_constant {s : String} (hs : s ∈ ["TRUE", "FALSE"]) :
    Written .unary .unary s.toList (.word s.toList) [.fixed s] := by
  have hwords : ∀ s ∈ ["TRUE", "FALSE"], s ∈ ["NULL", "TRUE", "FALSE"] ∧ Opens (.fixed s) ∧
      (∀ m ∈ marks, (Lexeme.fixed s).kind ≠ .fixed m) ∧ (Lexeme.fixed s).kind ≠ .fixed "(" ∧
      (∀ w ∈ boundWords, Reader.reads w (Lexeme.fixed s).token = false) ∧ ∀ c ∈ s.toList.head?, c ∉ ['>', '|'] := by
    decide +kernel
  obtain ⟨hconstant, hopens, hmarks, hparen, hbound, hfirst⟩ := hwords s hs
  exact written_operand (spells_constant hconstant) (reads_constant hs) (phrase_single hopens hmarks) hparen hbound hfirst

/-! ## Parentheses -/

theorem rendered_enclosed (construct : Construct) (first last : List Char) (es : List Expr) :
    (Expr.enclosed construct first es last).rendered = first ++ (", ".toList.intercalate (es.map Expr.rendered) ++ last) := by
  cases es with
  | nil => simp [Expr.enclosed, Expr.rendered, Expr.renderedParts]
  | cons e es =>
    show (Expr.form construct first (Expr.listed last (e :: es))).rendered = _
    rw [Expr.rendered, Expr.renderedParts_listed _ (List.cons_ne_nil e es)]

theorem rendered_enclosedExpr (e : Expr) (es : List Expr) :
    (enclosedExpr (e :: es)).rendered = '(' :: (", ".toList.intercalate ((e :: es).map Expr.rendered) ++ [')']) := by
  cases es with
  | nil => simp [enclosedExpr, Expr.grouped, Expr.rendered, Expr.renderedParts]
  | cons e' es =>
    show (Expr.enclosed .row ['('] (e :: e' :: es) [')']).rendered = _
    rw [rendered_enclosed]
    rfl

theorem phrase_enclosed (h : ∀ it ∈ items, Phrase it.1) (hne : items ≠ []) :
    Phrase (.fixed "(" :: (listedTokens items ++ [.fixed ")"])) := by
  obtain ⟨item, items, rfl⟩ := List.exists_cons_of_ne_nil hne
  obtain ⟨t, ts, hts, hopens, hmarks⟩ := (h item (by simp)).first
  have hlisted : listedTokens (item :: items) = t :: (ts ++ afterCommas items) := by
    rw [listedTokens, hts]
    rfl
  refine phrase_cons (by decide) (by decide) ?_ ?_
  · rw [hlisted]
    rintro u ⟨⟩ s hs
    have hsplit : ∀ s ∈ [",", ")", "->", "=>"], s ∈ nonOpeners ∨ s ∈ marks := by decide
    exact (hsplit s hs).elim (hopens s) (hmarks s)
  · rw [List.getLast?_concat]
    rintro u ⟨⟩
    decide

theorem written_enclosed (h : ∀ it ∈ item :: items, Written .disjunction .disjunction it.2.rendered it.2 it.1)
    (hquery : isQuery item.2 = false) :
    Written .unary .unary (enclosedExpr (item.2 :: items.map Prod.snd)).rendered
      (enclosedExpr (item.2 :: items.map Prod.snd))
      (.fixed "(" :: (listedTokens (item :: items) ++ [.fixed ")"])) where
  spells := by
    rw [rendered_enclosedExpr]
    exact (spells_enclosed (spells_elements fun it hit => (h it hit).spells)).mono fun _ _ => trivial
  reads := (reads_enclosed (fun it hit => ⟨(h it hit).reads.reads (Level.le_refl _), (h it hit).phrase⟩) hquery).readsAs
  phrase := phrase_enclosed (fun it hit => (h it hit).phrase) (List.cons_ne_nil _ _)
  unbound := unbound_enclosed fun it hit => (h it hit).phrase
  bound := by
    rintro u ⟨⟩
    decide
  first := by
    rw [rendered_enclosedExpr]
    rintro c ⟨⟩
    decide

theorem popRemarks_enclosed (construct : Construct) (first last : List Char) (es : List Expr) (n : Name) :
    (Expr.enclosed construct first es last).popRemarks.1 ≠ .name n := by
  unfold Expr.enclosed
  split <;> simp [Expr.popRemarks]

theorem written_call {function : Name} (hfunction : function.BeginsCall)
    (h : ∀ it ∈ items, Written .disjunction .disjunction it.2.rendered it.2 it.1)
    (hcall : callExpr? function.lexeme.token (items.map Prod.snd) = some e) (hname : ∀ n, e.popRemarks.1 ≠ .name n) :
    Written .unary .unary
      (function.rendered ++ ('(' :: (", ".toList.intercalate ((items.map Prod.snd).map Expr.rendered) ++ [')']))) e
      (function.lexeme :: .fixed "(" :: (listedTokens items ++ [.fixed ")"])) := by
  have hitems : ∀ it ∈ items, ReadsArgument it := fun it hit =>
    ⟨(h it hit).reads.reads (Level.le_refl _), (h it hit).phrase, (h it hit).unbound⟩
  have hreads := reads_call hfunction.begins hitems hcall hname
  obtain ⟨hopens, hmarks⟩ := hfunction.begins.opens
  have hphrase : Phrase (function.lexeme :: .fixed "(" :: (listedTokens items ++ [.fixed ")"])) := by
    refine phrase_cons hopens hmarks (by rintro u ⟨⟩; decide) ?_
    rw [← List.cons_append, List.getLast?_concat]
    rintro u ⟨⟩
    decide
  have harguments := spells_enclosed (spells_elements fun it hit => (h it hit).spells)
  exact written_operand ((spells_rendered_name hfunction.word).append (harguments.mono fun _ _ => trivial) fun r _ => ends_open _)
    hreads hphrase (hfunction.begins.symbol _ (by simp)) (reads_eq_false hfunction.bound) (first_rendered_name hfunction.word)

/-! ## Signs and denials -/

/-- A word or sign before an operand. -/
theorem Written.prefixed {s : String} {e' : Expr} {text' : List Char} (h : Written l τ text e ts) (hs : s ∈ ["-", "NOT"])
    (hreads : Reads .unary σ (.fixed s :: ts) e') (hspells : Spells (Ends afterExpr) text' (.fixed s :: ts))
    (hhead : text'.head? = s.toList.head?) : Written .unary σ text' e' (.fixed s :: ts) := by
  have hwords : ∀ s ∈ ["-", "NOT"], Opens (.fixed s) ∧ (∀ m ∈ marks, (Lexeme.fixed s).kind ≠ .fixed m) ∧
      (Lexeme.fixed s).kind ≠ .fixed "(" ∧ (∀ w ∈ boundWords, Reader.reads w (Lexeme.fixed s).token = false) ∧
      ∀ c ∈ s.toList.head?, c ∉ ['>', '|'] := by decide +kernel
  obtain ⟨hopens, hmarks, hparen, hbound, hfirst⟩ := hwords s hs
  have hsecond : ∀ u ∈ ts.head?, ∀ s ∈ [",", ")", "->", "=>"], u.kind ≠ .fixed s := by
    obtain ⟨t, ts', rfl, hopens, hmarks⟩ := h.phrase.first
    have hsplit : ∀ s ∈ [",", ")", "->", "=>"], s ∈ nonOpeners ∨ s ∈ marks := by decide
    rintro u ⟨⟩ s hs
    exact (hsplit s hs).elim (hopens s) (hmarks s)
  exact written_operand hspells hreads (phrase_cons hopens hmarks hsecond h.phrase.last) hparen hbound (hhead ▸ hfirst)

theorem Written.negative (h : Written .unary σ e.rendered e ts) (he : e.isRemainder = false) :
    Written .unary σ e.negative.rendered e.negative (.fixed "-" :: ts) := by
  have htext : e.negative.rendered = (if e.rendered.head? = some '-' then "- ".toList else ['-']) ++ e.rendered := by
    simp [Expr.negative, Expr.rendered, Expr.renderedParts]
  refine h.prefixed (by simp) ((h.reads.operand rfl).negative he) ?_ ?_
  · rw [htext]
    split
    · exact (connects_word (s := "-") (by decide)).spells_before h.spells
    · next hsign =>
      intro r hr
      have hnext : ∀ d ∈ (e.rendered ++ r).head?, d ∉ ['-', '>', '|'] := by
        intro d hd
        cases htext : e.rendered with
        | nil =>
          rw [htext] at hd
          have hmarks : ∀ c ∈ afterExpr, c ∉ ['-', '>', '|'] := by decide
          exact hmarks d (hr.head d hd)
        | cons c cs =>
          rw [htext] at hd hsign
          cases hd
          have hfirst := h.first d (by rw [htext]; rfl)
          simp only [List.mem_cons, not_or] at hfirst ⊢
          exact ⟨fun hc => hsign (by rw [hc]; rfl), hfirst⟩
      rw [List.append_assoc, List.singleton_append, pieces?_sign hnext, h.spells r hr, Option.map_map]
      rfl
  · rw [htext]
    split <;> rfl

theorem Written.negated (h : Written .identity σ text e ts) (hσ : σ ≤ .identity) :
    Written .unary σ ("NOT".toList ++ ' ' :: text) e.negated (.fixed "NOT" :: ts) :=
  h.prefixed (by simp) (h.reads.reads hσ).negated ((connects_word (by decide)).spells_before h.spells) rfl

/-! ## Operators -/

theorem rendered_binary (op : Operator) (a b : Expr) :
    (Expr.binary op a b []).rendered = a.rendered ++ ' ' :: (op.text ++ ' ' :: b.rendered) := by
  have hremarks : remarksText [] = [] := rfl
  rw [Expr.rendered, hremarks, List.append_nil, List.append_assoc, List.cons_append]

theorem Written.opens (h : Written l σ text e us) (r : List Lexeme) :
    ∀ u ∈ (us ++ r).head?, u.kind ≠ .fixed "<" ∧ u.kind ≠ .fixed ">" := by
  obtain ⟨t, us', rfl, hopens, -⟩ := h.phrase.first
  rintro u ⟨⟩
  exact ⟨hopens _ (by decide), hopens _ (by decide)⟩

theorem getLast?_append_phrase (h : Phrase us) (vs : List Lexeme) : ∀ u ∈ (vs ++ us).getLast?, u.kind ≠ .fixed "," := by
  obtain ⟨t, us', rfl, -⟩ := h.first
  rw [List.getLast?_append_of_ne_nil _ (List.cons_ne_nil t us')]
  exact h.last

theorem Written.binary {s : String} {op : Operator} {b : Expr} (hop : (s, op) ∈ l.binaries)
    (ha : Written l l.tighter text a ts) (hb : Written l.tighter τ cs b us) (hτ : τ ≤ l.tighter)
    (hoperated : Expr.operated op a b = .binary op a b []) :
    Written l τ (text ++ ' ' :: (op.text ++ ' ' :: cs)) (.binary op a b []) (ts ++ .fixed s :: us) := by
  have hbinaries : ∀ l : Level, ∀ p ∈ l.binaries, p.1 ∈ connectives ∧ p.1 ∈ l.tighter.stops ∧ p.2.text = p.1.toList ∧
      l ≠ .unary := by
    intro l
    cases l <;> decide +kernel
  obtain ⟨hconnective, hstop, htext, hl⟩ := hbinaries l _ hop
  have hstep := readsStep_binary (e := a) (t := .fixed s) hop rfl (hb.reads.reads hτ) hτ
  rw [hoperated] at hstep
  have hconnects : Connects op.text [.fixed s] := by
    rw [htext]
    exact connects_word hconnective
  refine ha.step hl hstep (follows_fixed hconnective hb.phrase.last) (fun r _ => stops_fixed hstop (hb.opens r))
    (hconnects.spells_before hb.spells) fun r => ?_
  have hends := hconnects.ends (cs ++ r)
  simpa using hends

/-! ## Tests of range -/

theorem connects_pattern {op : Operator} (h : (us, op) ∈ patternTests) : Connects op.text us ∧
    ∃ s vs, us = .fixed s :: vs ∧ s ∈ connectives ∧ s ∈ Level.bitwise.stops ∧ s ∉ ["<", ">"] := by
  have hnot : ∀ {s : String}, s ∈ connectives →
      Connects ("NOT".toList ++ ' ' :: s.toList) ([.fixed "NOT"] ++ [.fixed s]) := fun hs =>
    (connects_word (by decide)).append (connects_word hs)
  simp only [patternTests, patternOperators, List.flatMap_cons, List.flatMap_nil, List.append_nil, List.cons_append,
    List.nil_append, List.mem_cons, Prod.mk.injEq, List.not_mem_nil, or_false] at h
  rcases h with ⟨rfl, rfl⟩ | ⟨rfl, rfl⟩ | ⟨rfl, rfl⟩ | ⟨rfl, rfl⟩
  · exact ⟨connects_word (s := "LIKE") (by decide), _, _, rfl, by decide, by decide, by decide⟩
  · exact ⟨hnot (s := "LIKE") (by decide), _, _, rfl, by decide, by decide, by decide⟩
  · exact ⟨connects_word (s := "ILIKE") (by decide), _, _, rfl, by decide, by decide, by decide⟩
  · exact ⟨hnot (s := "ILIKE") (by decide), _, _, rfl, by decide, by decide, by decide⟩

theorem Written.pattern {op : Operator} {b : Expr} {vs : List Lexeme} (hop : (us, op) ∈ patternTests)
    (ha : Written .ranged .bitwise text a ts) (htest : a.isTest = false) (hb : Written .bitwise τ cs b vs)
    (hτ : τ ≤ .ranged) :
    Written .ranged τ (text ++ ' ' :: (op.text ++ ' ' :: cs)) (patternExpr op a b none) (ts ++ (us ++ vs)) := by
  obtain ⟨hconnects, s, us', hus, hconnective, hstop, hangle⟩ := connects_pattern hop
  have hread := hb.reads.reads (Level.le_trans hτ (by decide))
  have hstep := readsStep_pattern none hop htest hread hτ fun r hr => hr
  rw [escapeTokens, List.append_nil] at hstep
  refine ha.step (by decide) hstep ?_ (fun r _ => ?_) (hconnects.spells_before hb.spells) fun r => ?_
  · rw [hus, List.cons_append]
    exact follows_fixed hconnective (getLast?_append_phrase hb.phrase us')
  · rw [hus]
    exact stops_word hstop hangle
  · have hends := hconnects.ends (cs ++ r)
    simpa using hends

theorem Written.escaped {op : Operator} {b : Expr} {vs : List Lexeme} (hop : (us, op) ∈ patternTests)
    (ha : Written .ranged .bitwise text a ts) (htest : a.isTest = false) (hb : Written .bitwise .bitwise cs b vs)
    (escape : List Char) :
    Written .ranged .ranged
      (text ++ ' ' :: (op.text ++ ' ' :: (cs ++ ' ' :: ("ESCAPE".toList ++ ' ' :: (Expr.string escape).rendered))))
      (patternExpr op a b (some escape)) (ts ++ (us ++ (vs ++ escapeTokens (some escape)))) := by
  obtain ⟨hconnects, s, us', hus, hconnective, hstop, hangle⟩ := connects_pattern hop
  have hnext : ∀ r, Stops .ranged r → Stops .bitwise (escapeTokens (some escape) ++ r) := by
    intro r _
    rw [escapeTokens, List.cons_append]
    exact stops_word (by decide) (by decide)
  have hstep := readsStep_pattern (some escape) hop htest (hb.reads.reads (Level.le_refl _)) (Level.le_refl _) hnext
  have hescape : Connects "ESCAPE".toList [.fixed "ESCAPE"] := connects_word (by decide)
  refine ha.step (by decide) hstep ?_ (fun r _ => ?_)
    (hconnects.spells_before (hescape.spells_between hb.spells (written_string escape).spells)) fun r => ?_
  · rw [hus, List.cons_append]
    refine follows_fixed hconnective ?_
    rw [← List.append_assoc, escapeTokens, List.getLast?_append_of_ne_nil _ (by simp)]
    rintro u ⟨⟩
    simp
  · rw [hus]
    exact stops_word hstop hangle
  · have hends := hconnects.ends (cs ++ ' ' :: ("ESCAPE".toList ++ ' ' :: (Expr.string escape).rendered) ++ r)
    simpa using hends

theorem Written.between {low high : Expr} {vs : List Lexeme} {ds : List Char} (ha : Written .ranged .bitwise text a ts)
    (htest : a.isTest = false) (hlow : Written .bitwise .identity cs low us) (hhigh : Written .bitwise τ ds high vs)
    (hτ : τ ≤ .bitwise) :
    Written .ranged τ (text ++ ' ' :: ("BETWEEN".toList ++ ' ' :: (cs ++ ' ' :: ("AND".toList ++ ' ' :: ds))))
      (betweenExpr a low high) (ts ++ (.fixed "BETWEEN" :: (us ++ .fixed "AND" :: vs))) := by
  have hbetween : Connects "BETWEEN".toList [.fixed "BETWEEN"] := connects_word (by decide)
  have hand : Connects "AND".toList [.fixed "AND"] := connects_word (by decide)
  have hfirst : ∃ t ts', us = t :: ts' ∧ ∀ s ∈ boundWords, Reader.reads s t.token = false := by
    obtain ⟨t, ts', rfl, -⟩ := hlow.phrase.first
    exact ⟨t, ts', rfl, hlow.bound t rfl⟩
  have hstep := readsStep_between htest (hlow.reads.reads (by decide)) (Level.le_refl _) hfirst (hhigh.reads.reads hτ)
  refine ha.step (by decide) hstep ?_ (fun r _ => stops_word (by decide) (by decide))
    (hbetween.spells_before (hand.spells_between hlow.spells hhigh.spells)) fun r => ?_
  · refine follows_fixed (by decide) ?_
    rw [← List.singleton_append, ← List.append_assoc]
    exact getLast?_append_phrase hhigh.phrase _
  · have hends := hbetween.ends (cs ++ ' ' :: ("AND".toList ++ ' ' :: ds) ++ r)
    simpa using hends

theorem Written.within (ha : Written .ranged .bitwise text a ts) (htest : a.isTest = false) (hne : items ≠ [])
    (h : ∀ it ∈ items, Written .disjunction .disjunction it.2.rendered it.2 it.1) :
    Written .ranged .bitwise
      (text ++ ' ' :: ("IN".toList ++ ' ' :: '(' :: (", ".toList.intercalate ((items.map Prod.snd).map Expr.rendered) ++ [')'])))
      (a.followed " IN (".toList (items.map Prod.snd) [')'])
      (ts ++ (.fixed "IN" :: .fixed "(" :: (listedTokens items ++ [.fixed ")"]))) := by
  have hin : Connects "IN".toList [.fixed "IN"] := connects_word (by decide)
  have hstep := readsStep_membership (σ := .bitwise) (t := .fixed "IN") (e := a) (fun it hit => (h it hit).spans) hne rfl
  rw [Expr.compared, htest] at hstep
  have hlist := spells_enclosed (spells_elements fun it hit => (h it hit).spells)
  refine ha.step (by decide) hstep ?_ (fun r _ => stops_word (by decide) (by decide))
    (hin.spells_before (hlist.mono fun _ _ => trivial)) fun r => ?_
  · refine follows_fixed (by decide) ?_
    rw [← List.cons_append, List.getLast?_concat]
    rintro u ⟨⟩
    decide
  · have hends := hin.ends
      ('(' :: (", ".toList.intercalate ((items.map Prod.snd).map Expr.rendered) ++ [')']) ++ r)
    simpa using hends

/-! ## Tests of identity -/

/-- The text of a test of identity, after its first word. -/
theorem spells_identityTest {op : Operator} {c : Expr} (h : (us, op, c) ∈ identityTests) :
    ∃ cs, Spells (Ends afterExpr) cs us ∧ op.text ++ ' ' :: c.rendered = "IS".toList ++ ' ' :: cs ∧
      ∀ u ∈ us.getLast?, u.kind ≠ .fixed "," := by
  have hisNot : Operator.isNot.text = "IS".toList ++ ' ' :: "NOT".toList := by decide +kernel
  have hnot : Connects "NOT".toList [.fixed "NOT"] := connects_word (by decide)
  have hnull : Spells (Ends afterExpr) "NULL".toList [.fixed "NULL"] := spells_constant (by simp)
  simp only [identityTests, List.mem_cons, Prod.mk.injEq, List.not_mem_nil, or_false] at h
  rcases h with ⟨rfl, rfl, rfl⟩ | ⟨rfl, rfl, rfl⟩ | ⟨rfl, rfl, rfl⟩ | ⟨rfl, rfl, rfl⟩
  · exact ⟨_, hnull, rfl, by rintro u ⟨⟩; decide⟩
  · refine ⟨_, hnot.spells_before hnull, ?_, by rintro u ⟨⟩; decide⟩
    rw [hisNot, List.append_assoc, List.cons_append]
    rfl
  · exact ⟨_, spells_constant (by simp), by rw [Expr.rendered]; rfl, by rintro u ⟨⟩; decide⟩
  · exact ⟨_, spells_constant (by simp), by rw [Expr.rendered]; rfl, by rintro u ⟨⟩; decide⟩

theorem Written.tested {op : Operator} {c : Expr} (hop : (us, op, c) ∈ identityTests)
    (ha : Written .identity .equality text a ts) (hcomparison : a.isComparison = false) (hdenial : a.isDenial = false) :
    Written .identity .equality (text ++ ' ' :: (op.text ++ ' ' :: c.rendered)) (.binary op a c [])
      (ts ++ (.fixed "IS" :: us)) := by
  obtain ⟨cs, hspells, htext, hlast⟩ := spells_identityTest hop
  have his : Connects "IS".toList [.fixed "IS"] := connects_word (by decide)
  rw [htext]
  refine ha.step (by decide) (readsStep_identity hop hcomparison hdenial) (follows_fixed (by decide) hlast)
    (fun r _ => stops_word (by decide) (by decide)) (his.spells_before hspells) fun r => ?_
  have hends := his.ends (cs ++ r)
  simpa using hends

/-! ## All expressions -/

theorem rendered_patternExpr_escape (op : Operator) (a b : Expr) (escape : List Char) :
    (patternExpr op a b (some escape)).rendered = a.rendered ++
      ' ' :: (op.text ++ ' ' :: (b.rendered ++ ' ' :: ("ESCAPE".toList ++ ' ' :: (Expr.string escape).rendered))) := by
  have hword : Operator.escape.text = "ESCAPE".toList := rfl
  rw [patternExpr, rendered_binary, rendered_binary, hword]
  simp only [List.append_assoc, List.cons_append]

theorem rendered_betweenExpr (a low high : Expr) : (betweenExpr a low high).rendered = a.rendered ++
    ' ' :: ("BETWEEN".toList ++ ' ' :: (low.rendered ++ ' ' :: ("AND".toList ++ ' ' :: high.rendered))) := by
  simp [betweenExpr, Expr.rendered, Expr.renderedParts]

theorem rendered_within (a : Expr) (es : List Expr) : (a.followed " IN (".toList es [')']).rendered = a.rendered ++
    ' ' :: ("IN".toList ++ ' ' :: '(' :: (", ".toList.intercalate (es.map Expr.rendered) ++ [')'])) := by
  have hwords : " IN (".toList = ' ' :: ("IN".toList ++ ' ' :: ['(']) := by decide +kernel
  rw [Expr.rendered_followed, hwords]
  simp only [List.append_assoc, List.cons_append, List.nil_append]

theorem rendered_negated (e : Expr) : e.negated.rendered = "NOT".toList ++ ' ' :: e.rendered := by
  simp [Expr.negated, Expr.rendered, Expr.renderedParts]

theorem exists_written_items {es : List Expr} (h : ∀ e ∈ es, ∃ ts, Written .disjunction .disjunction e.rendered e ts) :
    ∃ items : List (List Lexeme × Expr), items.map Prod.snd = es ∧
      ∀ it ∈ items, Written .disjunction .disjunction it.2.rendered it.2 it.1 := by
  induction es with
  | nil => exact ⟨[], rfl, List.forall_mem_nil _⟩
  | cons e es ih =>
    obtain ⟨⟨ts, he⟩, hes⟩ := List.forall_mem_cons.1 h
    obtain ⟨items, rfl, hitems⟩ := ih hes
    exact ⟨(ts, e) :: items, rfl, List.forall_mem_cons.2 ⟨he, hitems⟩⟩

/-- The text of a legible expression has tokens that are read as the expression. -/
theorem Legible.exists_written (h : Legible l σ e) : ∃ ts, Written l σ e.rendered e ts := by
  induction h with
  | lift _ hm hτ hσ ih =>
    obtain ⟨ts, h⟩ := ih
    exact ⟨ts, h.lift hm hτ hσ⟩
  | number h =>
    rw [Expr.rendered]
    exact ⟨_, written_number h⟩
  | string text => exact ⟨_, written_string text⟩
  | constant hs =>
    rw [Expr.rendered]
    exact ⟨_, written_constant hs⟩
  | column hlength hfirst hmore => exact written_column hlength hfirst hmore
  | call _ hfunction hcall _ ih =>
    obtain ⟨items, rfl, hitems⟩ := exists_written_items ih
    rw [rendered_enclosed, List.append_assoc]
    exact ⟨_, written_call hfunction hitems hcall (popRemarks_enclosed _ _ _ _)⟩
  | @grouped e h ih =>
    obtain ⟨ts, hwritten⟩ := ih
    have hitem : ∀ it ∈ [(ts, e)], Written .disjunction .disjunction it.2.rendered it.2 it.1 := by simpa using hwritten
    exact ⟨_, written_enclosed hitem h.isQuery⟩
  | @row es hlength hes ih =>
    obtain ⟨items, rfl, hitems⟩ := exists_written_items ih
    rcases items with _ | ⟨item, _ | ⟨item', items⟩⟩
    · simp at hlength
    · simp at hlength
    · exact ⟨_, written_enclosed hitems (hes item.2 (by simp)).isQuery⟩
  | negative h ih =>
    obtain ⟨ts, hwritten⟩ := ih
    exact ⟨_, hwritten.negative (h.isRemainder_eq_false (by decide))⟩
  | negated _ hσ ih =>
    obtain ⟨ts, h⟩ := ih
    rw [rendered_negated]
    exact ⟨_, h.negated hσ⟩
  | binary hop ha hb hτ iha ihb =>
    obtain ⟨ts, hwritten⟩ := iha
    obtain ⟨us, hright⟩ := ihb
    rw [rendered_binary]
    exact ⟨_, hwritten.binary hop hright hτ (ha.operated hop hb)⟩
  | pattern hop ha _ hτ iha ihb =>
    obtain ⟨ts, hwritten⟩ := iha
    obtain ⟨us, hb⟩ := ihb
    have hexpr := hwritten.pattern hop (ha.isTest_eq_false (by decide)) hb hτ
    rw [← rendered_binary] at hexpr
    exact ⟨_, hexpr⟩
  | escaped hop ha _ text iha ihb =>
    obtain ⟨ts, hwritten⟩ := iha
    obtain ⟨us, hb⟩ := ihb
    rw [rendered_patternExpr_escape]
    exact ⟨_, hwritten.escaped hop (ha.isTest_eq_false (by decide)) hb text⟩
  | between ha _ _ hτ iha ihlow ihhigh =>
    obtain ⟨ts, hwritten⟩ := iha
    obtain ⟨us, hlow⟩ := ihlow
    obtain ⟨vs, hhigh⟩ := ihhigh
    rw [rendered_betweenExpr]
    exact ⟨_, hwritten.between (ha.isTest_eq_false (by decide)) hlow hhigh hτ⟩
  | within ha hne _ iha ihes =>
    obtain ⟨ts, hwritten⟩ := iha
    obtain ⟨items, rfl, hitems⟩ := exists_written_items ihes
    rw [rendered_within]
    exact ⟨_, hwritten.within (ha.isTest_eq_false (by decide)) (by rintro rfl; exact hne rfl) hitems⟩
  | tested hop ha hcomparison iha =>
    obtain ⟨ts, hwritten⟩ := iha
    rw [rendered_binary]
    exact ⟨_, hwritten.tested hop hcomparison (ha.isDenial_eq_false (by decide))⟩

/-- A text is parsed as the expression that its tokens are read as. -/
theorem Written.parse?_eq {w : List Char} (hw : IsTableName w) (h : Written .disjunction .disjunction text e ts) :
    parse? w text = some e :=
  parse?_of_reads hw h.spells (ends_nil _) (h.reads.reads (Level.le_refl _))

/-- The text of a legible expression is parsed as the expression. -/
theorem Legible.parse?_rendered {w : List Char} (hw : IsTableName w) (h : Legible .disjunction .disjunction e) :
    parse? w e.rendered = some e := by
  obtain ⟨ts, h⟩ := h.exists_written
  exact h.parse?_eq hw

end

end FeatureGraph.Filter
