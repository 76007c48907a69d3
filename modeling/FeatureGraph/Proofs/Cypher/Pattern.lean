import FeatureGraph.Proofs.Cypher.Quotation
import FeatureGraph.Proofs.Cypher.Scanning

/-! # Tokens by patterns

Tokens can be found by trying patterns in turn, each of which takes as much as it can and gives some of it back
where it would fail otherwise. A literal that is left open then matches up to a pair of quotes inside it, and only
the quote that remains is no token. The tokens of a text and the place of its fault are still those of the reading
that takes whole literals. -/
namespace FeatureGraph.Cypher

/-- How many characters a pattern may take at the front of a text, in the order in which it tries them. -/
abbrev Pattern := List Char → List Nat

namespace Pattern

def one (p : Char → Bool) : Pattern
  | [] => []
  | c :: _ => if p c then [1] else []

def followedBy (a b : Pattern) : Pattern := fun cs => (a cs).flatMap fun n => (b (cs.drop n)).map (n + ·)

def orElse (a b : Pattern) : Pattern := fun cs => a cs ++ b cs

/-- As many times as possible, and then fewer. -/
def many (a : Pattern) (cs : List Char) : List Nat :=
  ((a cs).flatMap fun n => if _h : 0 < n ∧ n ≤ cs.length then (many a (cs.drop n)).map (n + ·) else []) ++ [0]
termination_by cs.length
decreasing_by
  rw [List.length_drop]
  omega

/-- A run of characters, the first of a class of its own. -/
def run (first more : Char → Bool) : Pattern := (one first).followedBy (many (one more))

/-- What may stand in a literal: another character or a pair of quotes. -/
def inside (quote : Char) : Pattern :=
  (one (· ≠ quote)).orElse ((one (· = quote)).followedBy (one (· = quote)))

def body (quote : Char) : Pattern := followedBy (many (inside quote)) (one (· = quote))

def literal (quote : Char) : Pattern := (one (· = quote)).followedBy (body quote)

/-- The kinds of tokens with their patterns, in the order in which they are tried. -/
def table : List (TokenKind × Pattern) :=
  [(.string, literal '\''), (.quoted, literal '"'), (.word, run isWordStart isWordPart),
    (.space, run Text.isBlank Text.isBlank), (.opening, one (· = '(')), (.closing, one (· = ')')),
    (.comma, one (· = ','))]

/-- The kind of the first pattern that matches and how many more characters it takes. Any other character is a
token by itself. -/
def lexeme (c : Char) (rest : List Char) : TokenKind × Nat :=
  (table.findSome? fun t => (t.2 (c :: rest)).head?.map fun size => (t.1, size - 1)).getD (.other, 0)

/-- The tokens that match one after the other, or the position of a quote that is a token by itself. -/
def scan (here : Nat) : List Char → Except Nat (List Token)
  | [] => .ok []
  | c :: r =>
    if (lexeme c r).1 = .other ∧ isQuote c then .error here
    else
      (scan (here + 1 + (lexeme c r).2) (r.drop (lexeme c r).2)).map
        (⟨(lexeme c r).1, c :: r.take (lexeme c r).2⟩ :: ·)
termination_by cs => cs.length
decreasing_by
  rw [List.length_drop, List.length_cons]
  omega

section Repetition
variable {a b : Pattern} {p q : Char → Bool} {c : Char} {cs r : List Char} {n : Nat}

theorem many_of_nil (h : a cs = []) : many a cs = [0] := by
  rw [many, h]
  rfl

/-- Where one repetition can be had in one way only, there are those that begin with it, and none. -/
theorem many_of_singleton (h : a cs = [n]) (hn : 0 < n) (hle : n ≤ cs.length) :
    many a cs = (many a (cs.drop n)).map (n + ·) ++ [0] := by
  rw [many, h, List.flatMap_singleton, dif_pos ⟨hn, hle⟩]

theorem many_followedBy_of_nil (h : a cs = []) : followedBy (many a) b cs = b cs := by
  rw [followedBy, many_of_nil h]
  simp

theorem many_followedBy_of_singleton (h : a cs = [n]) (hn : 0 < n) (hle : n ≤ cs.length) :
    followedBy (many a) b cs = (followedBy (many a) b (cs.drop n)).map (n + ·) ++ b cs := by
  rw [followedBy, many_of_singleton h hn hle, List.flatMap_append, followedBy]
  simp [List.flatMap_map, List.map_flatMap, List.drop_drop, Nat.add_assoc, Function.comp_def]

theorem one_followedBy_cons : followedBy (one p) b (c :: r) = if p c then (b r).map (1 + ·) else [] := by
  by_cases hc : p c <;> simp [followedBy, one, hc]

theorem head?_many_one : (many (one p) cs).head? = some (cs.takeWhile p).length := by
  induction cs with
  | nil => rw [many_of_nil (by rfl)]; rfl
  | cons c cs ih =>
    by_cases hc : p c
    · rw [many_of_singleton (n := 1) (by simp [one, hc]) (by omega) (by simp), List.drop_one, List.tail_cons,
        List.head?_append, List.head?_map, ih, List.takeWhile_cons_of_pos hc]
      simp [Nat.add_comm]
    · rw [many_of_nil (by simp [one, hc]), List.takeWhile_cons_of_neg hc]
      rfl

theorem head?_run : (run p q (c :: r)).head? = if p c then some (1 + (r.takeWhile q).length) else none := by
  rw [run, one_followedBy_cons]
  split
  · rw [List.head?_map, head?_many_one, Option.map_some]
  · rfl

theorem head?_one : (one p (c :: r)).head? = if p c then some 1 else none := by
  rw [one]
  split <;> rfl

end Repetition

section Literals
variable {quote c : Char} {cs r : List Char}

theorem body_nil : body quote [] = [] := many_followedBy_of_nil rfl

theorem body_cons_of_ne (h : c ≠ quote) : body quote (c :: r) = (body quote r).map (1 + ·) := by
  have hinside : inside quote (c :: r) = [1] := by simp [inside, orElse, one, followedBy, h]
  rw [body, many_followedBy_of_singleton hinside (by omega) (by simp)]
  simp [one, h]

theorem body_pair : body quote (quote :: quote :: r) = (body quote r).map (2 + ·) ++ [1] := by
  have hinside : inside quote (quote :: quote :: r) = [2] := by simp [inside, orElse, one, followedBy]
  rw [body, many_followedBy_of_singleton hinside (by omega) (by simp)]
  simp [one]

theorem body_close (h : r.head? ≠ some quote) : body quote (quote :: r) = [1] := by
  have hinside : inside quote (quote :: r) = [] := by
    cases r with
    | nil => simp [inside, orElse, one, followedBy]
    | cons d r =>
      have hd : d ≠ quote := by simpa using h
      simp [inside, orElse, one, followedBy, hd]
  rw [body, many_followedBy_of_nil hinside]
  simp [one]

theorem head?_literal :
    (literal quote (c :: r)).head? = if c = quote then (body quote r).head?.map (1 + ·) else none := by
  rw [literal, one_followedBy_cons]
  by_cases hc : c = quote <;> simp [hc]

/-- A literal that is closed is taken whole. -/
theorem head?_body_of_closed {n : Nat} (h : literalSize? quote cs = some n) : (body quote cs).head? = some n := by
  induction cs using literalSize?.induct quote generalizing n with
  | case1 => simp [literalSize?] at h
  | case2 =>
    obtain rfl : 1 = n := by simpa [literalSize?] using h
    rw [body_close (by simp)]
    rfl
  | case3 c hc => simp [literalSize?, hc] at h
  | case4 c d r hc ih =>
    obtain ⟨m, hm, rfl⟩ : ∃ m, literalSize? quote (d :: r) = some m ∧ m + 1 = n := by
      simpa [literalSize?, hc] using h
    rw [body_cons_of_ne hc, List.head?_map, ih hm, Option.map_some, Nat.add_comm]
  | case5 c r hc ih =>
    obtain ⟨m, hm, rfl⟩ : ∃ m, literalSize? quote r = some m ∧ m + 2 = n := by
      simpa [literalSize?, hc] using h
    obtain rfl : c = quote := by simpa using hc
    rw [body_pair, List.head?_append, List.head?_map, ih hm, Option.map_some, Option.some_or, Nat.add_comm]
  | case6 c d r hc hd =>
    obtain rfl : 1 = n := by simpa [literalSize?, hc, hd] using h
    obtain rfl : c = quote := by simpa using hc
    rw [body_close (by simpa using hd)]
    rfl

/-- A literal that is left open matches nowhere, or up to the first quote of its last pair. In what follows that
quote there is no pair and no end. -/
theorem body_of_open (h : literalSize? quote cs = none) (fault here : Nat) :
    (body quote cs = [] ∧ openFault quote fault here cs = fault) ∨
      ∃ n rest, (body quote cs).head? = some n ∧ cs.drop n = quote :: rest ∧ body quote rest = [] ∧
        openFault quote fault here cs = here + n := by
  induction cs using literalSize?.induct quote generalizing fault here with
  | case1 => exact .inl ⟨body_nil, rfl⟩
  | case2 => simp [literalSize?] at h
  | case3 c hc => exact .inl ⟨by rw [body_cons_of_ne hc, body_nil]; rfl, rfl⟩
  | case4 c d r hc ih =>
    have hrest : literalSize? quote (d :: r) = none := by simpa [literalSize?, hc] using h
    have hfault : openFault quote fault here (c :: d :: r) = openFault quote fault (here + 1) (d :: r) := by
      rw [openFault, if_neg fun hq => hc hq.1]
    rw [body_cons_of_ne hc, hfault]
    rcases ih hrest fault (here + 1) with ⟨hnone, hplace⟩ | ⟨n, rest, hn, hdrop, hbody, hplace⟩
    · exact .inl ⟨by rw [hnone]; rfl, hplace⟩
    · refine .inr ⟨1 + n, rest, ?_, ?_, hbody, by omega⟩
      · rw [List.head?_map, hn, Option.map_some]
      · rw [Nat.add_comm, List.drop_succ_cons, hdrop]
  | case5 c r hc ih =>
    obtain rfl : c = quote := by simpa using hc
    have hrest : literalSize? c r = none := by simpa [literalSize?] using h
    have hfault : openFault c fault here (c :: c :: r) = openFault c (here + 1) (here + 2) r := by
      rw [openFault, if_pos ⟨rfl, rfl⟩]
    rw [body_pair, hfault]
    rcases ih hrest (here + 1) (here + 2) with ⟨hnone, hplace⟩ | ⟨n, rest, hn, hdrop, hbody, hplace⟩
    · -- no later pair: this one is broken up
      exact .inr ⟨1, r, by rw [hnone]; rfl, rfl, hnone, hplace⟩
    · refine .inr ⟨2 + n, rest, ?_, ?_, hbody, by omega⟩
      · rw [List.head?_append, List.head?_map, hn, Option.map_some, Option.some_or]
      · rw [Nat.add_comm, List.drop_succ_cons, List.drop_succ_cons, hdrop]
  | case6 c d r hc hd => simp [literalSize?, hc, hd] at h

end Literals

section Scanning
variable {c : Char} {r : List Char} {kind : TokenKind} {more n here : Nat}

def quoteKind (quote : Char) : TokenKind := if quote = '\'' then .string else .quoted

theorem quoteKind_ne_other : quoteKind c ≠ .other := by
  rw [quoteKind]
  split <;> decide

theorem lexeme?_of_isQuote (hq : isQuote c) : lexeme? c r = (literalSize? c r).map (quoteKind c, ·) := by
  simp only [isQuote, Bool.or_eq_true, beq_iff_eq] at hq
  rcases hq with rfl | rfl <;> rfl

theorem lexeme_of_body (hq : isQuote c) (h : (body c r).head? = some n) : lexeme c r = (quoteKind c, n) := by
  simp only [isQuote, Bool.or_eq_true, beq_iff_eq] at hq
  rcases hq with rfl | rfl
  · simp [lexeme, table, head?_literal, h, quoteKind]
  · simp [lexeme, table, head?_literal, h, quoteKind]

theorem lexeme_of_body_nil (hq : isQuote c) (h : body c r = []) : lexeme c r = (.other, 0) := by
  simp only [isQuote, Bool.or_eq_true, beq_iff_eq] at hq
  have hplain : ¬IsPlain c := fun hc => hq.elim hc.1 hc.2.1
  have hword : isWordStart c = false := Bool.eq_false_iff.2 fun hc => hplain (isPlain_of_isWordStart hc)
  have hblank : Text.isBlank c = false := Bool.eq_false_iff.2 fun hc => hplain (isPlain_of_isBlank hc)
  rcases hq with rfl | rfl
  · simp [lexeme, table, head?_literal, head?_run, head?_one, h, hword, hblank]
  · simp [lexeme, table, head?_literal, head?_run, head?_one, h, hword, hblank]

theorem lexeme_of_not_isQuote (hq : ¬isQuote c) : lexeme? c r = some (lexeme c r) := by
  simp only [isQuote, Bool.or_eq_true, beq_iff_eq, not_or] at hq
  obtain ⟨hsingle, hdouble⟩ := hq
  -- both try the classes of characters in one order
  simp only [lexeme?, if_neg hsingle, if_neg hdouble, lexeme, table, List.findSome?_cons, List.findSome?_nil,
    head?_literal, head?_run, head?_one, decide_eq_true_eq, Option.map_none]
  by_cases hword : isWordStart c
  · simp [hword]
  by_cases hblank : Text.isBlank c
  · simp [hword, hblank]
  simp only [if_neg hword, if_neg hblank, Option.map_none]
  by_cases hopening : c = '('
  · simp [hopening]
  by_cases hclosing : c = ')'
  · simp [hclosing]
  by_cases hcomma : c = ','
  · simp [hcomma]
  simp [hopening, hclosing, hcomma]

theorem lexeme_of_lexeme? (h : lexeme? c r = some (kind, more)) : lexeme c r = (kind, more) := by
  by_cases hq : isQuote c
  · rw [lexeme?_of_isQuote hq] at h
    obtain ⟨n, hn, he⟩ := Option.map_eq_some_iff.1 h
    rw [lexeme_of_body hq (head?_body_of_closed hn), he]
  · rw [lexeme_of_not_isQuote hq] at h
    exact Option.some.inj h

/-- A quote that no literal begins with is the fault. -/
theorem scan_of_body_nil (hq : isQuote c) (h : body c r = []) : scan here (c :: r) = .error here := by
  rw [scan, lexeme_of_body_nil hq h, if_pos ⟨rfl, hq⟩]

/-- The patterns find the tokens of a text, and fail where its reading does. -/
theorem scan_eq (here : Nat) (cs : List Char) : scan here cs = Cypher.scan here cs := by
  induction here, cs using Cypher.scan.induct with
  | case1 here => rw [scan, Cypher.scan]
  | case2 here c r hl =>
    obtain ⟨hq, hopen⟩ := open_of_lexeme? hl
    rw [Cypher.scan, hl]
    rcases body_of_open hopen here (here + 1) with
      ⟨hnone, hfault⟩ | ⟨n, rest, hn, hdrop, hrest, hfault⟩
    · rw [scan_of_body_nil hq hnone, hfault]
    · -- the pattern takes a shorter literal, and the quote behind that is the fault
      rw [scan, lexeme_of_body hq hn, if_neg fun h => quoteKind_ne_other h.1, hdrop, scan_of_body_nil hq hrest, hfault]
      rfl
  | case3 here c r kind more hl ih =>
    have hquote : ¬(kind = .other ∧ isQuote c) := by
      rintro ⟨rfl, hq⟩
      rw [lexeme?_of_isQuote hq] at hl
      obtain ⟨n, -, he⟩ := Option.map_eq_some_iff.1 hl
      exact quoteKind_ne_other (congrArg Prod.fst he)
    rw [scan, lexeme_of_lexeme? hl, if_neg hquote, ih, Cypher.scan, hl]

end Scanning

def tokens (cs : List Char) : Except Failure (List Token) :=
  (scan 0 cs).mapError fun (offset : Nat) =>
    .of .filterParse "unterminated quoted text in where clause" [("offset", .int offset)]

end Pattern

/-! ## What tokens tell of literals -/

/-- A reader of literals stands inside one at the end of a text. -/
def EndsInside (cs : List Char) : Prop := ∃ quote text, (LiteralReader.run {} cs).place = .inside quote text

/-- Tokens that a text is cut into. Nothing is lost and none is empty, and after any of them a reader of literals has
found those that are tokens so far. -/
structure CutsInto (cs : List Char) (ts : List Token) : Prop where
  text : ts.flatMap Token.text = cs
  ne_nil : ∀ t ∈ ts, t.text ≠ []
  string_iff : ∀ t ∈ ts, t.kind = .string ↔ t.text.head? = some '\''
  quoted_iff : ∀ t ∈ ts, t.kind = .quoted ↔ t.text.head? = some '"'
  literals : ∀ us, us <+: ts → literals (us.flatMap Token.text) = some (literalTexts us)

variable {cs : List Char} {ts : List Token} {t : Token}

theorem literals_eq_none_iff : literals cs = none ↔ EndsInside cs := by
  rw [literals, EndsInside, LiteralReader.finish]
  cases (LiteralReader.run {} cs).place <;> simp

theorem Token.Lexed.string_iff (h : t.Lexed) : t.kind = .string ↔ t.text.head? = some '\'' := by
  refine ⟨h.head?_of_string, fun hhead => ?_⟩
  by_contra hstring
  by_cases hquoted : t.kind = .quoted
  · rw [h.head?_of_quoted hquoted] at hhead
    cases hhead
  · exact h.not_isQuote hstring hquoted _ (List.mem_of_mem_head? hhead) rfl

theorem Token.Lexed.quoted_iff (h : t.Lexed) : t.kind = .quoted ↔ t.text.head? = some '"' := by
  refine ⟨h.head?_of_quoted, fun hhead => ?_⟩
  by_contra hquoted
  by_cases hstring : t.kind = .string
  · rw [h.head?_of_string hstring] at hhead
    cases hhead
  · exact h.not_isQuote hstring hquoted _ (List.mem_of_mem_head? hhead) rfl

theorem Scanned.cutsInto (h : Scanned cs ts) (htext : ts.flatMap Token.text = cs) : CutsInto cs ts where
  text := htext
  ne_nil t ht := by
    obtain ⟨c, r, htext⟩ := (h.whole t ht).exists_text
    simp [htext]
  string_iff t ht := (h.lexed t ht).string_iff
  quoted_iff t ht := (h.lexed t ht).quoted_iff
  literals us hus := by
    obtain ⟨vs, rfl⟩ := hus
    -- the first of the tokens are the tokens of their own text
    have hscan : scan 0 (us.flatMap Token.text) = .ok us :=
      scan_of_whole (fun t ht => h.whole t (List.mem_append_left vs ht)) h.separate.left_of_append
    rw [literals_eq_scan 0, hscan]
    rfl

/-- The tokens of a text are those that match its patterns one after the other. There are none, as the filter cannot be
parsed, exactly where a reader of literals ends inside one; otherwise the text is cut into its literals and the
tokens between them. -/
theorem tokens_cut_literals (cs : List Char) :
    Pattern.tokens cs = tokens cs ∧
    (EndsInside cs ↔ ∃ f, tokens cs = .error f ∧ f.kind = .filterParse) ∧
    (¬EndsInside cs ↔ ∃ ts, tokens cs = .ok ts ∧ CutsInto cs ts) := by
  refine ⟨by rw [Pattern.tokens, Pattern.scan_eq, tokens], ?_⟩
  rw [← literals_eq_none_iff, literals_eq_scan 0, tokens]
  cases hscan : scan 0 cs with
  | error offset =>
    refine ⟨iff_of_true rfl ⟨_, rfl, rfl⟩, iff_of_false (fun h => h rfl) ?_⟩
    rintro ⟨ts, h, -⟩
    cases h
  | ok ts =>
    have hcuts := (scanned_of_scan hscan).cutsInto (text_of_scan hscan)
    have hsome : (Except.ok ts : Except Nat _).toOption.map literalTexts ≠ none := Option.some_ne_none _
    refine ⟨iff_of_false hsome ?_, iff_of_true hsome ⟨ts, rfl, hcuts⟩⟩
    rintro ⟨f, h, -⟩
    cases h

end FeatureGraph.Cypher
