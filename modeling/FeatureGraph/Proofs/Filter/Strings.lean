import FeatureGraph.Proofs.Cypher.Spelling
import FeatureGraph.Proofs.Filter.ObjectId
import FeatureGraph.Proofs.Filter.Spelled
import Mathlib.Data.List.Forall2

/-! # The strings of a filter in its predicate -/
namespace FeatureGraph.Cypher
open Text

/-- A name that is written without its quotes can be told from a literal. -/
def Token.Harmless (t : Token) : Prop := t.rendered ≠ [] ∧ ∀ c ∈ t.rendered, ¬ isQuote c

instance (t : Token) : Decidable t.Harmless :=
  decidable_of_iff (t.rendered ≠ [] ∧ t.rendered.all (!isQuote ·)) (by simp [Token.Harmless])

section
variable {t : Token} {r ts us rest : List Token} {elements : List (List Token)} {out : List Char}
  {es : List (List Char)} {lss : List (List (List Char))}

theorem literals_trim (cs : List Char) : literals (trim cs) = literals cs := by
  obtain ⟨lead, trail, h, hlead, htrail⟩ := exists_eq_append_trim cs
  have hplain {ds : List Char} (h : ∀ c ∈ ds, isBlank c) : ∀ c ∈ ds, ¬ isQuote c := by
    intro c hc
    obtain ⟨h1, h2, -, -⟩ := isPlain_of_isBlank (h c hc)
    simp [isQuote, h1, h2]
  conv_rhs => rw [h, literals_append_plain (hplain htrail), literals_plain_append (hplain hlead)]

theorem literals_intercalate (h : List.Forall₂ (fun e ls => literals e = some ls) es lss) :
    literals ([','].intercalate es) = some lss.flatten := by
  induction h with
  | nil => rfl
  | @cons e ls es lss he hes ih =>
    cases hes with
    | nil => simpa using he
    | cons he' hes =>
      rw [List.intercalate_cons_cons, List.append_assoc, literals_append he (by simp [isQuote]),
        literals_plain_append (by simp [isQuote]), ih]
      simp

/-- Blank elements hold no literals. -/
theorem exists_forall₂_filter (h : List.Forall₂ (fun e ls => literals e = some ls) es lss) :
    ∃ lss', List.Forall₂ (fun e ls => literals e = some ls) ((es.map trim).filter (!·.isEmpty)) lss' ∧
      lss'.flatten = lss.flatten := by
  induction h with
  | nil => exact ⟨[], .nil, rfl⟩
  | @cons e ls es lss he _ ih =>
    obtain ⟨lss', h, hflatten⟩ := ih
    have htrim : literals (trim e) = some ls := (literals_trim e).trans he
    by_cases hempty : trim e = []
    · have hls : ls = [] := by simpa [hempty] using htrim.symm
      exact ⟨lss', by simpa [hempty] using h, by simpa [hls] using hflatten⟩
    · exact ⟨ls :: lss', by simpa [hempty, htrim] using h, by simp [hflatten]⟩

theorem literals_bracketed_append (h : List.Forall₂ (fun e ls => literals e = some ls) es lss) :
    literals (bracketed es ++ out) = (literals out).map (lss.flatten ++ ·) := by
  obtain ⟨lss', h', hflatten⟩ := exists_forall₂_filter h
  unfold bracketed
  rw [List.append_assoc, List.append_assoc, literals_plain_append (by simp [isQuote]),
    literals_append (literals_intercalate h') (by simp [isQuote]), literals_plain_append (by simp [isQuote]), hflatten]

theorem stringTexts_append : stringTexts (ts ++ us) = stringTexts ts ++ stringTexts us := by
  simp [stringTexts]

theorem stringTexts_cons (h : t.kind ≠ .string) : stringTexts (t :: ts) = stringTexts ts := by
  simp [stringTexts, h]

theorem stringTexts_listed (e : List Token) (es : List (List Token)) :
    stringTexts (listed (e :: es) rest) = ((e :: es).map stringTexts).flatten ++ stringTexts rest := by
  induction es generalizing e with
  | nil => simp [stringTexts_append, stringTexts_cons]
  | cons e' es ih => simp [stringTexts_append, stringTexts_cons, ih]

/-- The strings of a list are those of its elements. -/
theorem stringTexts_list (h : t.list? r = some (some (elements, rest))) (hl : ∀ u ∈ r, u.Lexed) :
    stringTexts (t :: r) = (elements.map stringTexts).flatten ++ stringTexts rest := by
  obtain ⟨hk, e, es, spaces, rfl, hspaces, rfl⟩ := Token.list?_eq h hl
  have hblank : stringTexts spaces = [] := by
    simp only [stringTexts, List.map_eq_nil_iff, List.filter_eq_nil_iff]
    exact fun u hu => by simp [hspaces u hu]
  rw [stringTexts_cons (by simp [hk]), stringTexts_append, hblank, List.nil_append, stringTexts_cons (by simp),
    stringTexts_listed]

theorem Token.Lexed.harmless (h : t.Lexed) (hs : t.kind ≠ .string) (hq : t.kind = .quoted → t.Harmless) :
    t.Harmless := by
  by_cases hk : t.kind = .quoted
  · exact hq hk
  · have hchars := h.not_isQuote hs hk
    have hrendered : t.rendered = t.text := by simp [rendered, hk]
    refine ⟨?_, hrendered ▸ hchars⟩
    rw [hrendered]
    cases h with
    | plain _ hne _ => exact hne
    | _ => simp

theorem filter_isString_stringTexts (hl : ∀ t ∈ ts, t.Lexed) :
    (stringTexts ts).filter isString = stringTexts ts := by
  rw [List.filter_eq_self, stringTexts]
  intro cs hcs
  obtain ⟨t, ht, rfl⟩ := List.mem_map.1 hcs
  obtain ⟨hmem, hk⟩ := List.mem_filter.1 ht
  simpa [isString] using (hl t hmem).head?_of_string (by simpa using hk)

/-- The literals of a filter that is spelled are the strings among its tokens. -/
theorem literals_spelledIn {calls : Nat} (h : spelledIn calls ts = .ok out) (hl : ∀ t ∈ ts, t.Lexed) (ha : ts.IsChain Token.Apart)
    (hq : ∀ t ∈ ts, t.kind = .quoted → t.Harmless) : literals out = some (stringTexts ts) := by
  -- A string must not be followed by a quote, so that the text after it is told to start with none.
  refine (spelledIn_induction
    (Q := fun us => (∀ t ∈ us, t.Lexed ∧ (t.kind = .quoted → t.Harmless)) ∧ us.IsChain Token.Apart)
    (P := fun us out => literals out = some (stringTexts us) ∧
      ((∀ t ∈ us.head?, t.kind ≠ .string) → ∀ c ∈ out.head?, ¬ isQuote c))
    ?part ?lexed ?nil ?copy ?list h ⟨fun t ht => ⟨hl t ht, hq t ht⟩, ha⟩).1
  case part =>
    rintro us vs ⟨front, back, rfl⟩ ⟨htokens, hchain⟩
    exact ⟨fun t ht => htokens t (by simp [ht]), hchain.left_of_append.right_of_append⟩
  case lexed => exact fun hQ t ht => (hQ.1 t ht).1
  case nil => exact ⟨rfl, by simp⟩
  case copy =>
    intro t r out hQ _ ih
    obtain ⟨ht, htq⟩ := hQ.1 t (by simp)
    by_cases hs : t.kind = .string
    · have hnext : ∀ c ∈ out.head?, ¬ isQuote c :=
        ih.2 fun u hu => (List.isChain_cons.1 hQ.2).1 u hu hs
      refine ⟨?_, fun hhead => (hhead t rfl hs).elim⟩
      obtain ⟨body, rfl, hbody⟩ := ht.eq_string hs
      have hquote : out.head? ≠ some '\'' := fun hc => hnext _ hc rfl
      have hrendered : Token.rendered ⟨.string, '\'' :: body⟩ = '\'' :: body := rfl
      rw [hrendered, literals_literal_append rfl hbody hquote, ih.1]
      simp [stringTexts]
    · obtain ⟨hne, hchars⟩ := ht.harmless hs htq
      refine ⟨?_, fun _ => ?_⟩
      · rw [literals_plain_append hchars, stringTexts_cons hs]
        exact ih.1
      · obtain ⟨c, cs, hc⟩ := List.exists_cons_of_ne_nil hne
        intro d hd
        obtain rfl : c = d := by simpa [hc] using hd
        exact hchars c (by simp [hc])
  case list =>
    intro t r elements rest es out hQ hlist hes ih
    have hr : ∀ u ∈ r, u.Lexed := fun u hu => (hQ.1 u (by simp [hu])).1
    have hliterals : List.Forall₂ (fun e ls => literals e = some ls) es (elements.map stringTexts) :=
      List.forall₂_map_right_iff.2 (hes.flip.imp fun _ _ h => h.1)
    refine ⟨?_, fun _ => ?_⟩
    · rw [literals_bracketed_append hliterals, ih.1, stringTexts_list hlist hr]
      rfl
    · unfold bracketed
      simp [isQuote]

end

end FeatureGraph.Cypher

namespace FeatureGraph.Filter
open Cypher

/-- The strings of a predicate are those of the filter in normal form, unless a name without its quotes is
empty or holds quotes of its own. Where the normal form has the strings of what is parsed, the predicate has
those of the filter, with the id property in lower case within them too. -/
theorem restriction_stringLiterals {namespaceName text w : String} {library : Library} {calls : Nat}
    (hw : restriction namespaceName (some text) [] library calls = .ok (some w)) :
    ∃ sql ts, qualified namespaceName (String.ofList (normalizeObjectId text.toList)) library = .ok sql ∧
      tokens sql = .ok ts ∧
      ((∀ t ∈ ts, t.kind = .quoted → t.Harmless) →
        stringLiterals w.toList = stringLiterals sql ∧
        (stringLiterals sql = stringLiterals (normalizeObjectId text.toList) →
          stringLiterals w.toList = (stringLiterals text.toList).map (List.map normalizeObjectId) ∧
          (stringLiterals w.toList = stringLiterals text.toList ↔
            ∀ l ∈ (stringLiterals text.toList).getD [], normalizeObjectId l = l))) := by
  obtain ⟨sql, ts, hsql, hts, hout⟩ := exists_tokens_of_predicate (predicate_of_restriction hw)
  have hscanned := scanned_of_tokens hts
  have hstrings : stringLiterals sql = some (stringTexts ts) := by
    simp [stringLiterals, hts, Except.toOption]
  refine ⟨sql, ts, hsql, hts, fun hnames => ?_⟩
  have hw : stringLiterals w.toList = stringLiterals sql := by
    rw [stringLiterals_eq, literals_spelledIn hout hscanned.lexed hscanned.apart hnames, hstrings,
      Option.map_some, filter_isString_stringTexts hscanned.lexed]
  refine ⟨hw, fun hkeeps => ?_⟩
  have hrewritten := hw.trans (hkeeps.trans (stringLiterals_normalizeObjectId text.toList))
  refine ⟨hrewritten, ?_⟩
  rw [hrewritten]
  cases stringLiterals text.toList with
  | none => simp
  | some ls =>
    have hfixed : ls.map normalizeObjectId = ls.map id ↔ ∀ l ∈ ls, normalizeObjectId l = id l := List.map_inj_left
    simpa using hfixed

/-- A pair of quotes and a parenthesis in the strings of a list. -/
theorem restriction_stringLiterals_list :
    restriction "n" (some "\"Q c\" in ('it''s', '(')") [] = .ok (some "n.Q c IN ['it''s','(']") ∧
      stringLiterals "n.Q c IN ['it''s','(']".toList = stringLiterals "\"Q c\" in ('it''s', '(')".toList := by
  have hnormal : normalizeObjectId "\"Q c\" in ('it''s', '(')".toList = "\"Q c\" in ('it''s', '(')".toList := by
    decide +kernel
  have hspells : Spells (· = []) "\"Q c\" in ('it''s', '(')".toList
      [⟨.quoted, "Q c".toList⟩, ⟨.fixed "IN", "in".toList⟩, .fixed "(", ⟨.string, "it's".toList⟩, .fixed ",",
        ⟨.string, ['(']⟩, .fixed ")"] := by
    rintro r rfl
    decide +kernel
  have hsql : qualified "n" "\"Q c\" in ('it''s', '(')" = .ok "n.\"Q c\" IN ('it''s', '(')".toList := by
    refine qualified_of_spells isTableName_n hspells rfl ?_
    rw [wordLexeme_n]
    decide +kernel
  have hout : (ofRendered "n.\"Q c\" IN ('it''s', '(')".toList).toOption = some "n.Q c IN ['it''s','(']".toList := by
    decide +kernel
  have hnames : ((tokens "n.\"Q c\" IN ('it''s', '(')".toList).toOption.all fun ts =>
      ts.all fun t => t.kind = .quoted → t.Harmless) := by
    decide +kernel
  have hkeeps : stringLiterals "n.\"Q c\" IN ('it''s', '(')".toList = stringLiterals "\"Q c\" in ('it''s', '(')".toList := by
    decide +kernel
  have hfixed : ∀ l ∈ (stringLiterals "\"Q c\" in ('it''s', '(')".toList).getD [], normalizeObjectId l = l := by
    decide +kernel
  rw [← String.ofList_toList (s := "\"Q c\" in ('it''s', '(')"), ← hnormal] at hsql
  have hw := restriction_of_predicate (by decide +kernel) (predicate_of_qualified hsql (eq_ok_of_toOption hout))
  refine ⟨hw, ?_⟩
  obtain ⟨sql, ts, hsql', hts, h⟩ := restriction_stringLiterals hw
  obtain rfl := Except.ok.inj (hsql'.symm.trans hsql)
  rw [hts] at hnames
  have hharmless : ∀ t ∈ ts, t.kind = .quoted → t.Harmless := by
    intro t ht hk
    simpa [hk] using List.all_eq_true.1 hnames t ht
  rw [hnormal] at h
  exact ((h hharmless).2 hkeeps).2.2 hfixed

/-- A string that names the id property is not kept. -/
example : stringLiterals (normalizeObjectId "name = 'OBJECTID'".toList) = some ["'objectid'".toList] := by
  decide +kernel

end FeatureGraph.Filter
