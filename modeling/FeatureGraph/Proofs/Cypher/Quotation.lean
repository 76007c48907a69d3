import FeatureGraph.Proofs.Cypher.Token

/-! # The literals of a text, character by character

A quote opens a literal; inside it a doubled quote stands for one, and a single one closes it. The tokens of
a text find the same literals. -/
namespace FeatureGraph.Cypher

def isQuote (c : Char) : Bool := c == '\'' || c == '"'

/-- Where a reader of literals stands. The text of the literal at hand begins with its opening quote; after a
quote that may close it, the next character decides. -/
inductive Quoting where
  | outside
  | inside (quote : Char) (text : List Char)
  | closing (quote : Char) (text : List Char)
  deriving DecidableEq, Repr

structure LiteralReader where
  found : List (List Char) := []
  place : Quoting := .outside
  deriving DecidableEq, Repr

namespace LiteralReader

def enter (c : Char) : Quoting := if isQuote c then .inside c [c] else .outside

def step (r : LiteralReader) (c : Char) : LiteralReader :=
  match r.place with
  | .outside => ⟨r.found, enter c⟩
  | .inside q text => ⟨r.found, if c = q then .closing q (text ++ [c]) else .inside q (text ++ [c])⟩
  | .closing q text => if c = q then ⟨r.found, .inside q (text ++ [c])⟩ else ⟨r.found ++ [text], enter c⟩

def run (r : LiteralReader) (cs : List Char) : LiteralReader := cs.foldl step r

/-- The literals found at the end of a text; none within a literal. -/
def finish (r : LiteralReader) : Option (List (List Char)) :=
  match r.place with
  | .outside => some r.found
  | .inside _ _ => none
  | .closing _ text => some (r.found ++ [text])

/-- Only quotes open literals. -/
def Sound (r : LiteralReader) : Prop :=
  match r.place with
  | .outside => True
  | .inside q _ => isQuote q
  | .closing q _ => isQuote q

/-- A reader that has found more before. -/
def after (found : List (List Char)) (r : LiteralReader) : LiteralReader := ⟨found ++ r.found, r.place⟩

end LiteralReader

/-- The literals of a text with their quotes; none where one is left open. -/
def literals (cs : List Char) : Option (List (List Char)) := (LiteralReader.run {} cs).finish

namespace LiteralReader
variable {r : LiteralReader} {q c : Char} {text cs ds : List Char} {found : List (List Char)}

@[simp] theorem run_nil : r.run [] = r := rfl

@[simp] theorem run_cons : r.run (c :: cs) = (r.step c).run cs := rfl

theorem run_append : r.run (cs ++ ds) = (r.run cs).run ds := by
  simp [run, List.foldl_append]

theorem step_after : (r.after found).step c = (r.step c).after found := by
  obtain ⟨found', place⟩ := r
  cases place with
  | outside => rfl
  | inside q text => rfl
  | closing q text =>
    simp only [step, after]
    split <;> simp

theorem run_after : (r.after found).run cs = (r.run cs).after found := by
  induction cs generalizing r with
  | nil => rfl
  | cons c cs ih => rw [run_cons, step_after, ih, run_cons]

theorem finish_after : (r.after found).finish = r.finish.map (found ++ ·) := by
  obtain ⟨found', place⟩ := r
  cases place <;> simp [finish, after]

theorem Sound.step (h : r.Sound) : (r.step c).Sound := by
  have henter (found : List (List Char)) : Sound ⟨found, enter c⟩ := by
    by_cases hc : isQuote c <;> simp [Sound, enter, hc]
  obtain ⟨found, place⟩ := r
  cases place with
  | outside => exact henter _
  | inside q text => by_cases hc : c = q <;> simpa [LiteralReader.step, Sound, hc] using h
  | closing q text =>
    by_cases hc : c = q
    · simpa [LiteralReader.step, Sound, hc] using h
    · simpa [LiteralReader.step, hc] using henter _

theorem Sound.run (h : r.Sound) : (r.run cs).Sound := by
  induction cs generalizing r with
  | nil => exact h
  | cons c cs ih => exact ih h.step

theorem finish_run_outside : (run ⟨found, .outside⟩ cs).finish = (literals cs).map (found ++ ·) := by
  have h : (⟨found, .outside⟩ : LiteralReader) = after found {} := by simp [after]
  rw [h, run_after, finish_after, literals]

/-- A literal that its quote has closed ends unless the same quote follows. -/
theorem finish_run_closing (h : cs.head? ≠ some q) :
    (run ⟨found, .closing q text⟩ cs).finish = (literals cs).map ((found ++ [text]) ++ ·) := by
  rw [← finish_run_outside]
  cases cs with
  | nil => rfl
  | cons c cs =>
    have hc : c ≠ q := by simpa using h
    simp [step, hc]

/-- The reader after text without quotes, which ends a literal that may be closed. -/
def pass (r : LiteralReader) (cs : List Char) : LiteralReader :=
  match r.place with
  | .outside => r
  | .inside q text => ⟨r.found, .inside q (text ++ cs)⟩
  | .closing _ text => ⟨r.found ++ [text], .outside⟩

theorem step_eq_pass (hr : r.Sound) (h : ¬ isQuote c) : r.step c = r.pass [c] := by
  obtain ⟨found, place⟩ := r
  have hne {q : Char} (hq : isQuote q) : c ≠ q := fun hc => h (hc ▸ hq)
  cases place with
  | outside => simp [step, pass, enter, h]
  | inside q text => simp [step, pass, hne hr]
  | closing q text => simp [step, pass, enter, h, hne hr]

theorem run_eq_pass (hr : r.Sound) (h : ∀ c ∈ cs, ¬ isQuote c) (hne : cs ≠ []) : r.run cs = r.pass cs := by
  induction cs generalizing r with
  | nil => exact absurd rfl hne
  | cons c cs ih =>
    have hc := h c (by simp)
    cases cs with
    | nil => exact step_eq_pass hr hc
    | cons d cs =>
      rw [run_cons, ih hr.step (fun e he => h e (by simp [he])) (by simp), step_eq_pass hr hc]
      obtain ⟨found, place⟩ := r
      cases place <;> simp [pass]

theorem finish_run_plain (hr : r.Sound) (h : ∀ c ∈ cs, ¬ isQuote c) : (r.run cs).finish = r.finish := by
  cases cs with
  | nil => rfl
  | cons c cs =>
    rw [run_eq_pass hr h (by simp)]
    obtain ⟨found, place⟩ := r
    cases place <;> rfl

theorem run_literal (h : Literal q cs) :
    run ⟨found, .inside q text⟩ cs = ⟨found, .closing q (text ++ cs)⟩ := by
  induction h generalizing text with
  | close => simp [step]
  | @char c cs hc _ ih => simp [step, hc, ih]
  | pair _ ih => simp [step, ih]

/-- A literal that its text does not close stays open. -/
theorem finish_run_open (h : literalSize? q cs = none) : (run ⟨found, .inside q text⟩ cs).finish = none := by
  induction cs using literalSize?.induct q generalizing text with
  | case1 => rfl
  | case2 => simp [literalSize?] at h
  | case3 c hc => simp [step, hc, finish]
  | case4 c d r hc ih =>
    have hc' : c ≠ q := hc
    have hr : literalSize? q (d :: r) = none := by simpa [literalSize?, hc'] using h
    rw [run_cons, show step ⟨found, .inside q text⟩ c = ⟨found, .inside q (text ++ [c])⟩ by simp [step, hc']]
    exact ih hr
  | case5 c r hc ih =>
    obtain rfl : c = q := by simpa using hc
    have hr : literalSize? c r = none := by simpa [literalSize?] using h
    rw [run_cons, run_cons, show step (step ⟨found, .inside c text⟩ c) c = ⟨found, .inside c (text ++ [c] ++ [c])⟩ by
      simp [step]]
    exact ih hr
  | case6 c d r hc hd => simp [literalSize?, hc, hd] at h

end LiteralReader

section Literals
variable {q : Char} {cs ds : List Char} {ls : List (List Char)}

@[simp] theorem literals_nil : literals [] = some [] := rfl

theorem literals_append (h : literals cs = some ls) (hq : ∀ c ∈ ds.head?, ¬ isQuote c) :
    literals (cs ++ ds) = (literals ds).map (ls ++ ·) := by
  have hsound : LiteralReader.Sound (LiteralReader.run {} cs) := LiteralReader.Sound.run (by trivial)
  rw [literals] at h
  rw [literals, LiteralReader.run_append]
  generalize LiteralReader.run {} cs = r at h hsound
  obtain ⟨found, place⟩ := r
  cases place with
  | outside =>
    obtain rfl : found = ls := by simpa [LiteralReader.finish] using h
    exact LiteralReader.finish_run_outside
  | inside q text => simp [LiteralReader.finish] at h
  | closing q text =>
    obtain rfl : found ++ [text] = ls := by simpa [LiteralReader.finish] using h
    exact LiteralReader.finish_run_closing fun hd => hq q hd hsound

theorem literals_append_plain (h : ∀ c ∈ ds, ¬ isQuote c) : literals (cs ++ ds) = literals cs := by
  rw [literals, LiteralReader.run_append]
  exact LiteralReader.finish_run_plain (LiteralReader.Sound.run (by trivial)) h

theorem literals_plain_append (h : ∀ c ∈ cs, ¬ isQuote c) : literals (cs ++ ds) = literals ds := by
  induction cs with
  | nil => rfl
  | cons c cs ih =>
    have hc : isQuote c = false := by simpa using h c (by simp)
    rw [← ih fun d hd => h d (by simp [hd])]
    simp [literals, LiteralReader.step, LiteralReader.enter, hc]

theorem literals_literal_append (hq : isQuote q) (h : Literal q cs) (hd : ds.head? ≠ some q) :
    literals (q :: cs ++ ds) = (literals ds).map ((q :: cs) :: ·) := by
  rw [literals, List.cons_append, LiteralReader.run_cons, LiteralReader.run_append,
    show LiteralReader.step {} q = ⟨[], .inside q [q]⟩ by simp [LiteralReader.step, LiteralReader.enter, hq],
    LiteralReader.run_literal h, LiteralReader.finish_run_closing hd]
  rfl

theorem literals_open (hq : isQuote q) (h : literalSize? q cs = none) : literals (q :: cs) = none := by
  rw [literals, LiteralReader.run_cons,
    show LiteralReader.step {} q = ⟨[], .inside q [q]⟩ by simp [LiteralReader.step, LiteralReader.enter, hq]]
  exact LiteralReader.finish_run_open h

end Literals

def literalTexts (ts : List Token) : List (List Char) :=
  (ts.filter fun t => t.kind = .string ∨ t.kind = .quoted).map Token.text

theorem literalTexts_cons_of_literal {t : Token} (ts : List Token) (h : t.kind = .string ∨ t.kind = .quoted) :
    literalTexts (t :: ts) = t.text :: literalTexts ts := by
  simp [literalTexts, h]

theorem literalTexts_cons_of_not {t : Token} (ts : List Token) (h : ¬ (t.kind = .string ∨ t.kind = .quoted)) :
    literalTexts (t :: ts) = literalTexts ts := by
  simp [literalTexts, h]

/-- Only literals hold quotes. -/
theorem Token.Lexed.not_isQuote {t : Token} (h : t.Lexed) (hs : t.kind ≠ .string) (hq : t.kind ≠ .quoted) :
    ∀ c ∈ t.text, ¬ isQuote c := by
  cases h with
  | string _ => exact absurd rfl hs
  | quoted _ => exact absurd rfl hq
  | opening => simp [isQuote]
  | closing => simp [isQuote]
  | comma => simp [isQuote]
  | plain _ _ hc =>
    intro c hmem
    obtain ⟨h1, h2, -, -⟩ := hc c hmem
    simp [isQuote, h1, h2]

theorem open_of_lexeme? {c : Char} {r : List Char} (h : lexeme? c r = none) :
    isQuote c ∧ literalSize? c r = none := by
  simp only [lexeme?] at h
  split at h
  · next hc => exact ⟨by simp [isQuote, hc], by simpa using h⟩
  split at h
  · next hc => exact ⟨by simp [isQuote, hc], by simpa using h⟩
  · grind

/-- A text has tokens exactly when no literal is left open in it, and they hold its literals. -/
theorem literals_eq_scan (here : Nat) (cs : List Char) :
    literals cs = (scan here cs).toOption.map literalTexts := by
  induction here, cs using scan.induct with
  | case1 here => simp [scan, Except.toOption, literalTexts]
  | case2 here c r hl =>
    obtain ⟨hq, hopen⟩ := open_of_lexeme? hl
    simp [literals_open hq hopen, scan, hl, Except.toOption]
  | case3 here c r kind more hl ih =>
    have ht := lexed_of_lexeme? hl
    have hscan : (scan here (c :: r)).toOption.map literalTexts =
        (scan (here + 1 + more) (r.drop more)).toOption.map
          fun ts => literalTexts (⟨kind, c :: r.take more⟩ :: ts) := by
      cases hs : scan (here + 1 + more) (r.drop more) <;> simp [scan, hl, hs, Except.map, Except.toOption]
    have hr : c :: r = c :: r.take more ++ r.drop more := by simp
    rw [hscan, hr]
    -- A literal is a token by itself, as the quote that ends it is not followed by another; no other token
    -- holds a quote.
    by_cases hk : kind = .string ∨ kind = .quoted
    · have hspec := literalSize?_spec (literalSize?_of_lexeme? hl hk)
      have hq : isQuote c := by
        rcases hk with rfl | rfl
        · simpa [isQuote] using Or.inl (ht.head?_of_string rfl)
        · simpa [isQuote] using Or.inr (ht.head?_of_quoted rfl)
      rw [literals_literal_append hq hspec.1 hspec.2, ih, Option.map_map]
      exact Option.map_congr fun ts _ => (literalTexts_cons_of_literal (t := ⟨kind, _⟩) ts hk).symm
    · have hplain := ht.not_isQuote (fun h => hk (.inl h)) fun h => hk (.inr h)
      rw [literals_plain_append hplain, ih]
      exact Option.map_congr fun ts _ => (literalTexts_cons_of_not (t := ⟨kind, _⟩) ts hk).symm

def stringTexts (ts : List Token) : List (List Char) := (ts.filter (·.kind = .string)).map Token.text

/-- The strings of a text with their quotes, as its tokens have them; none where it has no tokens. -/
def stringLiterals (cs : List Char) : Option (List (List Char)) := (tokens cs).toOption.map stringTexts

def isString (cs : List Char) : Bool := cs.head? == some '\''

theorem filter_isString_literalTexts {ts : List Token} (hl : ∀ t ∈ ts, t.Lexed) :
    (literalTexts ts).filter isString = stringTexts ts := by
  rw [literalTexts, List.filter_map, List.filter_filter, stringTexts]
  congr 1
  refine List.filter_congr fun t ht => ?_
  cases hl t ht with
  | plain hk _ _ => rcases hk with rfl | rfl | rfl <;> simp
  | _ => simp [isString]

/-- The strings of a text are its literals in single quotes. -/
theorem stringLiterals_eq (cs : List Char) :
    stringLiterals cs = (literals cs).map (List.filter isString) := by
  rw [literals_eq_scan 0, stringLiterals]
  cases hs : scan 0 cs with
  | error offset => simp [tokens, hs, Except.mapError, Except.toOption]
  | ok ts =>
    simp [tokens, hs, Except.mapError, Except.toOption,
      filter_isString_literalTexts (scanned_of_scan hs).lexed]

end FeatureGraph.Cypher
