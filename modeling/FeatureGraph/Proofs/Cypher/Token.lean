import FeatureGraph.Cypher.Token
import Mathlib.Data.List.Chain
import Mathlib.Data.List.TakeWhile

/-! # What the texts of tokens look like -/
namespace FeatureGraph.Cypher

/-- What follows the opening quote of a literal, its closing quote included. -/
inductive Literal (quote : Char) : List Char → Prop
  | close : Literal quote [quote]
  | char {c : Char} {cs : List Char} : c ≠ quote → Literal quote cs → Literal quote (c :: cs)
  | pair {cs : List Char} : Literal quote cs → Literal quote (quote :: quote :: cs)

/-- A literal is not followed by its quote: a pair would not have closed it. -/
theorem literalSize?_spec {q : Char} {cs : List Char} {n : Nat} (h : literalSize? q cs = some n) :
    Literal q (cs.take n) ∧ (cs.drop n).head? ≠ some q := by
  induction cs using literalSize?.induct q generalizing n with
  | case1 => simp [literalSize?] at h
  | case2 =>
    obtain rfl : 1 = n := by simpa [literalSize?] using h
    exact ⟨.close, by simp⟩
  | case3 c hc => simp [literalSize?, hc] at h
  | case4 c d r hc ih =>
    obtain ⟨m, hm, rfl⟩ : ∃ m, literalSize? q (d :: r) = some m ∧ m + 1 = n := by
      simpa [literalSize?, hc] using h
    exact ⟨.char hc (ih hm).1, (ih hm).2⟩
  | case5 c r hc ih =>
    obtain ⟨m, hm, rfl⟩ : ∃ m, literalSize? q r = some m ∧ m + 2 = n := by
      simpa [literalSize?, hc] using h
    obtain rfl : c = q := by simpa using hc
    exact ⟨.pair (ih hm).1, (ih hm).2⟩
  | case6 c d r hc hd =>
    obtain rfl : 1 = n := by simpa [literalSize?, hc, hd] using h
    obtain rfl : c = q := by simpa using hc
    exact ⟨.close, by simpa using hd⟩

/-- A character that neither quotes nor groups. -/
def IsPlain (c : Char) : Prop := c ≠ '\'' ∧ c ≠ '"' ∧ c ≠ '(' ∧ c ≠ ')'

/-- Tokens whose text is of their kind. -/
inductive Token.Lexed : Token → Prop
  | string {body : List Char} : Literal '\'' body → Lexed ⟨.string, '\'' :: body⟩
  | quoted {body : List Char} : Literal '"' body → Lexed ⟨.quoted, '"' :: body⟩
  | opening : Lexed ⟨.opening, ['(']⟩
  | closing : Lexed ⟨.closing, [')']⟩
  | comma : Lexed ⟨.comma, [',']⟩
  | plain {kind : TokenKind} {text : List Char} :
      kind = .word ∨ kind = .space ∨ kind = .other → text ≠ [] → (∀ c ∈ text, IsPlain c) →
      Lexed ⟨kind, text⟩

theorem isPlain_of_isWordPart {c : Char} (h : isWordPart c = true) : IsPlain c := by
  refine ⟨?_, ?_, ?_, ?_⟩ <;> rintro rfl <;> exact absurd h (by decide)

theorem isPlain_of_isBlank {c : Char} (h : Text.isBlank c = true) : IsPlain c := by
  refine ⟨?_, ?_, ?_, ?_⟩ <;> rintro rfl <;> exact absurd h (by decide)

/-- A token that takes a whole run of characters holds none but those. -/
theorem forall_mem_run {p : Char → Bool} {c d : Char} {r : List Char} (hc : IsPlain c)
    (hp : ∀ {d}, p d = true → IsPlain d) (hd : d ∈ c :: r.take (r.takeWhile p).length) : IsPlain d := by
  rcases List.mem_cons.1 hd with rfl | hd
  · exact hc
  · rw [← List.prefix_iff_eq_take.1 (List.takeWhile_prefix p)] at hd
    exact hp (List.mem_takeWhile_imp hd)

theorem lexed_of_lexeme? {c : Char} {r : List Char} {kind : TokenKind} {more : Nat}
    (h : lexeme? c r = some (kind, more)) : Token.Lexed ⟨kind, c :: r.take more⟩ := by
  simp only [lexeme?] at h
  split at h
  · next hc =>
    obtain ⟨n, hn, h⟩ := Option.map_eq_some_iff.1 h
    cases h
    subst hc
    exact .string (literalSize?_spec hn).1
  split at h
  · next hc =>
    obtain ⟨n, hn, h⟩ := Option.map_eq_some_iff.1 h
    cases h
    subst hc
    exact .quoted (literalSize?_spec hn).1
  split at h
  · next hc =>
    cases h
    have hp : IsPlain c := isPlain_of_isWordPart (by simp [isWordPart, hc])
    exact .plain (.inl rfl) (by simp) fun d hd => forall_mem_run hp isPlain_of_isWordPart hd
  split at h
  · next hc =>
    cases h
    exact .plain (.inr (.inl rfl)) (by simp) fun d hd =>
      forall_mem_run (isPlain_of_isBlank hc) isPlain_of_isBlank hd
  split at h
  · next hc => cases h; exact hc ▸ .opening
  split at h
  · next hc => cases h; exact hc ▸ .closing
  split at h
  · next hc => cases h; exact hc ▸ .comma
  · cases h
    exact .plain (.inr (.inr rfl)) (by simp) (by simp [IsPlain, *])

namespace Token.Lexed
variable {t : Token}

theorem eq_string (h : t.Lexed) (hk : t.kind = .string) :
    ∃ body, t = ⟨.string, '\'' :: body⟩ ∧ Literal '\'' body := by
  cases h with
  | string hbody => exact ⟨_, rfl, hbody⟩
  | plain hk' _ _ => simp_all
  | _ => simp at hk

theorem head?_of_string (h : t.Lexed) (hk : t.kind = .string) : t.text.head? = some '\'' := by
  obtain ⟨body, rfl, -⟩ := h.eq_string hk
  rfl

theorem head?_of_quoted (h : t.Lexed) (hk : t.kind = .quoted) : t.text.head? = some '"' := by
  cases h <;> simp_all

theorem eq_opening (h : t.Lexed) (hk : t.kind = .opening) : t = ⟨.opening, ['(']⟩ := by
  cases h <;> simp_all

theorem eq_closing (h : t.Lexed) (hk : t.kind = .closing) : t = ⟨.closing, [')']⟩ := by
  cases h <;> simp_all

theorem eq_comma (h : t.Lexed) (hk : t.kind = .comma) : t = ⟨.comma, [',']⟩ := by
  cases h <;> simp_all

end Token.Lexed

theorem literalSize?_of_lexeme? {c : Char} {r : List Char} {kind : TokenKind} {more : Nat}
    (h : lexeme? c r = some (kind, more)) (hk : kind = .string ∨ kind = .quoted) :
    literalSize? c r = some more := by
  have ht := lexed_of_lexeme? h
  rcases hk with rfl | rfl
  · obtain rfl : c = '\'' := by simpa using ht.head?_of_string rfl
    simpa [lexeme?] using h
  · obtain rfl : c = '"' := by simpa using ht.head?_of_quoted rfl
    simpa [lexeme?] using h

inductive Scanned : List Char → List Token → Prop
  | nil : Scanned [] []
  | cons {c : Char} {r : List Char} {kind : TokenKind} {more : Nat} {ts : List Token} :
      lexeme? c r = some (kind, more) → Scanned (r.drop more) ts →
      Scanned (c :: r) (⟨kind, c :: r.take more⟩ :: ts)

theorem scanned_of_scan {here : Nat} {cs : List Char} {ts : List Token} (h : scan here cs = .ok ts) :
    Scanned cs ts := by
  induction here, cs using scan.induct generalizing ts with
  | case1 here =>
    obtain rfl : [] = ts := by simpa [scan] using h
    exact .nil
  | case2 here c r hl => simp [scan, hl] at h
  | case3 here c r kind more hl ih =>
    cases hs : scan (here + 1 + more) (r.drop more) with
    | error e => simp [scan, hl, hs, Except.map] at h
    | ok us =>
      obtain rfl : _ :: us = ts := by simpa [scan, hl, hs, Except.map] using h
      exact .cons hl (ih hs)

theorem scanned_of_tokens {cs : List Char} {ts : List Token} (h : tokens cs = .ok ts) : Scanned cs ts := by
  cases hs : scan 0 cs with
  | error offset => simp [tokens, hs, Except.mapError] at h
  | ok us =>
    obtain rfl : us = ts := by simpa [tokens, hs, Except.mapError] using h
    exact scanned_of_scan hs

/-- Two strings in a row would be one string with a pair of quotes. -/
def Token.Apart (t u : Token) : Prop := t.kind = .string → u.kind ≠ .string

namespace Scanned
variable {cs : List Char} {ts : List Token}

theorem lexed (h : Scanned cs ts) : ∀ t ∈ ts, t.Lexed := by
  induction h with
  | nil => simp
  | cons hl _ ih => exact List.forall_mem_cons.2 ⟨lexed_of_lexeme? hl, ih⟩

/-- The first token starts where the text does. -/
theorem head?_eq {t : Token} (h : Scanned cs (t :: ts)) : cs.head? = t.text.head? := by
  cases h
  rfl

theorem apart (h : Scanned cs ts) : ts.IsChain Token.Apart := by
  induction h with
  | nil => exact .nil
  | @cons c r kind more ts hl hs ih =>
    refine List.isChain_cons.2 ⟨fun u hu hk hu' => ?_, ih⟩
    obtain ⟨us, rfl⟩ : ∃ us, ts = u :: us := List.head?_eq_some_iff.1 hu
    have hq : u.text.head? = some '\'' := (hs.lexed u (by simp)).head?_of_string hu'
    obtain rfl : kind = .string := hk
    obtain rfl : c = '\'' := by simpa using (lexed_of_lexeme? hl).head?_of_string rfl
    exact (literalSize?_spec (literalSize?_of_lexeme? hl (.inl rfl))).2 (hs.head?_eq.trans hq)

end Scanned

end FeatureGraph.Cypher
