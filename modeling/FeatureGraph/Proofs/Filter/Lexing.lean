import FeatureGraph.Proofs.Cypher.Scanning
import FeatureGraph.Proofs.Filter.Reading

/-! # The tokens of a text

A text spells some tokens if they are what comes of it before any text that does not run on from it. -/
namespace FeatureGraph.Filter

/-! ## Statements about the characters of a text

They are decided for the characters that the text has, not for all there are. -/

section
variable {p : Char → Prop} [DecidablePred p]

instance decidableForallMemText (cs : List Char) : Decidable (∀ c ∈ cs, p c) := List.decidableBAll p cs

instance decidableForallMemHead : (o : Option Char) → Decidable (∀ c ∈ o, p c)
  | none => .isTrue (by simp)
  | some c => decidable_of_iff (p c) (by simp)

instance decidableExistsMemHead : (o : Option Char) → Decidable (∃ c ∈ o, p c)
  | none => .isFalse (by simp)
  | some c => decidable_of_iff (p c) (by simp)

end

/-! ## Where a token ends -/

/-- The second words of the keywords of several words. -/
def phraseEnds : List String :=
  ["VARYING", "SET", "BY", "PRECISION", "KEY", "TIMESTAMP", "VERSION", "SETS", "TO", "WITH"]

/-- The first words of the keywords of several words. -/
def phraseFirsts : List String :=
  ["CHARACTER", "CHAR", "CLUSTER", "CONNECT", "DISTRIBUTE", "DOUBLE", "FOREIGN", "FOR", "GROUPING", "GROUP", "ORDER",
    "PARTITIONED", "PARTITION", "PRIMARY", "SIMILAR", "SORT", "START"]

/-- The next word, if one follows, is not the second one of a keyword. -/
def NoPhraseEnd (r : List Char) : Prop :=
  ∀ s ∈ phraseEnds, phraseSize? s.toList (r.drop (r.takeWhile Text.isBlank).length) = none

def afterWord : List Char := [' ', ')', ',', '.', '(']

def afterExpr : List Char := [' ', ')', ',']

/-- Nothing comes next, or one of some characters that end a token; and no second word of a keyword. -/
structure Ends (marks r : List Char) : Prop where
  head : ∀ c ∈ r.head?, c ∈ marks
  phrase : NoPhraseEnd r

section
variable {c : Char} {r w : List Char} {marks : List Char} {afterMark : Bool}

theorem Ends.mono {more : List Char} (h : Ends marks r) (hsub : marks ⊆ more) : Ends more r :=
  ⟨fun c hc => hsub (h.head c hc), h.phrase⟩

theorem ends_nil (marks : List Char) : Ends marks [] := ⟨by simp, by unfold NoPhraseEnd; decide⟩

theorem phraseSize?_letter {p : Char} {ps : List Char} (hp : p ≠ ' ') :
    phraseSize? (p :: ps) (c :: r) = if c.toUpper = p then (phraseSize? ps r).map (· + 1) else none := by
  rw [phraseSize?]
  exact fun h => hp h

/-- A word that begins with another letter is not there. -/
theorem phraseSize?_eq_none_of_head {ps letters : List Char} (hps : ∃ p ∈ ps.head?, p ≠ ' ' ∧ p ∈ letters)
    (h : c.toUpper ∉ letters) : phraseSize? ps (c :: r) = none := by
  obtain ⟨p, hp, hblank, hletter⟩ := hps
  obtain ⟨ps, rfl⟩ := List.head?_eq_some_iff.1 hp
  rw [phraseSize?_letter hblank, if_neg]
  rintro rfl
  exact h hletter

theorem phraseSize?_eq_none (h : c.toUpper ∉ "BKPSTVW".toList) :
    ∀ s ∈ phraseEnds, phraseSize? s.toList (c :: r) = none := by
  have hheads : ∀ s ∈ phraseEnds, ∃ p ∈ s.toList.head?, p ≠ ' ' ∧ p ∈ "BKPSTVW".toList := by decide +kernel
  exact fun s hs => phraseSize?_eq_none_of_head (hheads s hs) h

theorem ends_cons (hc : c ∈ marks) (hblank : Text.isBlank c = false) (hletter : c.toUpper ∉ "BKPSTVW".toList) :
    Ends marks (c :: r) := by
  refine ⟨by simpa using hc, ?_⟩
  rw [NoPhraseEnd, List.takeWhile_cons_of_neg (by simp [hblank])]
  exact phraseSize?_eq_none hletter

theorem ends_blank (hc : ' ' ∈ marks) (h : ∀ s ∈ phraseEnds, phraseSize? s.toList (c :: r) = none)
    (hblank : Text.isBlank c = false) : Ends marks (' ' :: c :: r) := by
  refine ⟨by simpa using hc, ?_⟩
  rw [NoPhraseEnd, List.takeWhile_cons_of_pos (by decide), List.takeWhile_cons_of_neg (by simp [hblank])]
  exact h

/-! ## Pieces -/

theorem pieces?_token {t : Token} {n : ℕ} (h : pieceAt afterMark c r = some (some (.token t), n)) :
    pieces? afterMark (c :: r) = (pieces? (t.is "@") (r.drop n)).map (.token t :: ·) := by
  rw [pieces?, h]

@[simp] theorem pieces?_nil : pieces? afterMark [] = some [] := by rw [pieces?]

theorem pieces?_blank : pieces? afterMark (' ' :: r) = pieces? afterMark r := by
  rw [pieces?]
  rfl

theorem phraseAt?_eq_none (h : c.toUpper ∉ "CDFGOPS".toList) : phraseAt? (c :: r) = none := by
  have hheads : ∀ p ∈ phrases, ∃ d ∈ p.1.toList.head?, d ≠ ' ' ∧ d ∈ "CDFGOPS".toList := by decide +kernel
  rw [phraseAt?, List.findSome?_eq_none_iff]
  intro p hp
  dsimp only
  rw [phraseSize?_eq_none_of_head (hheads p hp) h]
  rfl

/-- A text without a blank, a quote or a symbol that does not begin like a number or a block. -/
structure IsWordText (w : List Char) : Prop where
  parts : ∀ c ∈ w, isWordPart c = true
  ne_nil : w ≠ []
  first : ∀ c ∈ w.head?, isFigure c = false ∧ c ≠ '$'

theorem isBlank_of_isWordPart (h : isWordPart c = true) : Text.isBlank c = false := by
  simp only [isWordPart, Bool.and_eq_true, Bool.not_eq_true'] at h
  exact h.1

theorem phraseSize?_word {p₁ p₂ : List Char} (hw : ∀ c ∈ w, isWordPart c = true)
    (hp₁ : ∀ p ∈ p₁, p ≠ ' ' ∧ p ∉ afterWord.map Char.toUpper) (hr : ∀ c ∈ r.head?, c ∈ afterWord)
    (hp₂ : w.map Char.toUpper = p₁ → phraseSize? p₂ (r.drop (r.takeWhile Text.isBlank).length) = none) :
    phraseSize? (p₁ ++ ' ' :: p₂) (w ++ r) = none := by
  induction p₁ generalizing w with
  | nil =>
    cases w with
    | nil =>
      simp only [List.nil_append, phraseSize?, hp₂ rfl]
      simp
    | cons c w =>
      have hblank := isBlank_of_isWordPart (hw c (by simp))
      simp [phraseSize?, List.takeWhile_cons_of_neg, hblank]
  | cons p p₁ ih =>
    obtain ⟨hp, hp₁⟩ := List.forall_mem_cons.1 hp₁
    cases w with
    | nil =>
      cases r with
      | nil => simp [phraseSize?, hp.1]
      | cons c r =>
        have hne : c.toUpper ≠ p := by
          rintro rfl
          exact hp.2 (List.mem_map_of_mem (hr c rfl))
        rw [List.nil_append, List.cons_append, phraseSize?_letter hp.1, if_neg hne]
    | cons c w =>
      rw [List.cons_append, List.cons_append, phraseSize?_letter hp.1]
      split
      · next hc =>
        have hrest := ih (fun d hd => hw d (List.mem_cons_of_mem c hd)) hp₁ fun h => hp₂ (by simp [hc, h])
        rw [hrest, Option.map_none]
      · rfl

/-- Every keyword of several words is two words with a blank between them. -/
theorem exists_phrase_words : ∀ p ∈ phrases, ∃ p₁ ∈ phraseFirsts, ∃ p₂ ∈ phraseEnds,
    p.1.toList = p₁.toList ++ ' ' :: p₂.toList ∧ ∀ c ∈ p₁.toList, c ≠ ' ' ∧ c ∉ afterWord.map Char.toUpper := by
  decide +kernel

/-- A word is not the first one of a keyword, or the second one does not follow it. -/
def Alone (w r : List Char) : Prop := (∃ s ∈ phraseFirsts, w.map Char.toUpper = s.toList) → NoPhraseEnd r

theorem phraseAt?_word (hw : ∀ c ∈ w, isWordPart c = true) (hhead : ∀ c ∈ r.head?, c ∈ afterWord) (hr : Alone w r) :
    phraseAt? (w ++ r) = none := by
  rw [phraseAt?, List.findSome?_eq_none_iff]
  rintro ⟨phrase, usual⟩ hp
  obtain ⟨p₁, hp₁, p₂, hp₂, heq, hletters⟩ := exists_phrase_words _ hp
  dsimp only at heq ⊢
  rw [heq, phraseSize?_word hw hletters hhead fun h => hr ⟨p₁, hp₁, h⟩ p₂ hp₂]
  rfl

theorem ne_mark_of_keyword? {s usual : String} (h : keyword? s = some usual) : usual ≠ "@" := by
  have hspellings : ∀ p ∈ spellings, p.2 ≠ "@" := by decide +kernel
  have hwords : "@" ∉ keywords ∧ "@" ∉ typeWords := by decide +kernel
  rw [keyword?] at h
  split at h
  · next u hu =>
    cases h
    obtain ⟨_, _, heq, -⟩ := List.lookup_eq_some_iff.1 hu
    exact hspellings (s, usual) (by simp [heq])
  · split at h
    · next hword =>
      cases h
      rintro rfl
      simp only [Bool.or_eq_true, List.contains_iff_mem] at hword
      exact hword.elim hwords.1 hwords.2
    · cases h

theorem is_wordToken : (wordToken false w).is "@" = false := by
  rw [wordToken]
  split
  · next usual h => simpa [Token.is] using ne_mark_of_keyword? h
  · rfl

theorem not_mem_singles_of_isWordPart (h : isWordPart c = true) : c ∉ singles := by
  simp only [isWordPart, Bool.and_eq_true, Bool.not_eq_true', List.contains_eq_mem, decide_eq_false_iff_not] at h
  exact h.2

theorem takeWhile_word (hw : ∀ c ∈ w, isWordPart c = true) (hhead : ∀ c ∈ r.head?, c ∈ afterWord) :
    (w ++ r).takeWhile isWordPart = w := by
  have hmarks : ∀ c ∈ afterWord, isWordPart c = false := by decide
  exact Cypher.takeWhile_append_stop hw fun d hd => hmarks d (hhead d hd)

/-- A word is read up to where it ends. -/
theorem pieces?_word (hw : IsWordText w) (hhead : ∀ c ∈ r.head?, c ∈ afterWord) (hr : Alone w r) :
    pieces? false (w ++ r) = (pieces? false r).map (.token (wordToken false w) :: ·) := by
  obtain ⟨c, w, rfl⟩ := List.exists_cons_of_ne_nil hw.ne_nil
  obtain ⟨hc, hrest⟩ := List.forall_mem_cons.1 hw.parts
  obtain ⟨hfigure, hdollar⟩ := hw.first c rfl
  have hphrase : phraseAt? (c :: (w ++ r)) = none := phraseAt?_word hw.parts hhead hr
  have hquote : (w ++ r).head? ≠ some '\'' := by
    cases w with
    | nil => exact fun h => absurd (hhead _ h) (by decide)
    | cons d w =>
      have hd := not_mem_singles_of_isWordPart (hrest d (by simp))
      rintro ⟨⟩
      exact hd (by decide)
  have hsingle : ∀ d ∈ singles, c ≠ d := by
    rintro d hd rfl
    exact not_mem_singles_of_isWordPart hc hd
  have hbreak : ¬ (c = '\n' ∨ c = '\r') := by
    rintro (rfl | rfl) <;> exact absurd hc (by decide)
  have hpiece : pieceAt false c (w ++ r) = some (some (.token (wordToken false (c :: w))), w.length) := by
    rw [pieceAt, if_neg hbreak, if_neg (by simp [isBlank_of_isWordPart hc]), if_neg (by simp [hfigure]),
      if_neg (hsingle _ (by decide)), if_neg (hsingle _ (by decide)), if_neg (fun h => hquote h.1), if_neg hdollar,
      if_neg (fun h => hsingle '-' (by decide) h.1), if_neg (fun h => hsingle '/' (by decide) h.1), hphrase]
    dsimp only
    rw [if_pos hc, takeWhile_word hrest hhead]
  rw [List.cons_append, pieces?_token hpiece, is_wordToken, List.drop_left]

/-! ## Symbols -/

/-- A symbol that begins neither a quoted text nor a remark. -/
theorem pieces?_symbol (cs : List Char) {t : Lexeme} (hc : c ∈ singles) (hquote : c ∉ ['"', '\''])
    (hremark : ∀ d ∈ (cs ++ r).head?, ¬ (c = '-' ∧ d = '-') ∧ ¬ (c = '/' ∧ d = '*'))
    (h : symbolToken c (cs ++ r) = t.token) (htext : t.text = c :: cs) (hmark : t.kind ≠ .fixed "@") :
    pieces? false (c :: (cs ++ r)) = (pieces? false r).map (.token t.token :: ·) := by
  have hsingles : ∀ c ∈ singles, c ∉ ['"', '\''] → ¬ (c = '\n' ∨ c = '\r') ∧ Text.isBlank c = false ∧
      isFigure c = false ∧ "nNeEbBxX".toList.contains c = false ∧ c ≠ '$' ∧ c.toUpper ∉ "CDFGOPS".toList ∧
      isWordPart c = false := by decide +kernel
  obtain ⟨hbreak, hblank, hfigure, hletter, hdollar, hphrase, hpart⟩ := hsingles c hc hquote
  simp only [List.mem_cons, List.not_mem_nil, or_false, not_or] at hquote
  have hpiece : pieceAt false c (cs ++ r) = some (some (.token t.token), cs.length) := by
    rw [pieceAt, if_neg hbreak, if_neg (by simp [hblank]), if_neg (by simp [hfigure]), if_neg hquote.1, if_neg hquote.2,
      if_neg (fun h => absurd h.2 (by rw [hletter]; decide)), if_neg hdollar, if_neg (fun h => (hremark _ h.2).1 ⟨h.1, rfl⟩),
      if_neg (fun h => (hremark _ h.2).2 ⟨h.1, rfl⟩), phraseAt?_eq_none hphrase]
    dsimp only
    rw [if_neg (by simp [hpart]), h, Lexeme.text_token, htext]
    rfl
  rw [pieces?_token hpiece, List.drop_left, Lexeme.is_token]
  simp [hmark]

/-- Punctuation, whatever follows. -/
theorem pieces?_mark (hc : c ∈ ['(', ')', ',', '.']) :
    pieces? false (c :: r) = (pieces? false r).map (.token (Lexeme.fixed (String.singleton c)).token :: ·) := by
  have hmarks : ∀ c ∈ ['(', ')', ',', '.'], c ∈ singles ∧ c ∉ ['"', '\'', '-', '/'] ∧ String.singleton c ≠ "@" := by
    decide +kernel
  obtain ⟨hsingle, hother, hmark⟩ := hmarks c hc
  have hsymbol : symbolToken c r = (Lexeme.fixed (String.singleton c)).token := by
    simp only [List.mem_cons, List.not_mem_nil, or_false] at hc
    rcases hc with rfl | rfl | rfl | rfl <;> simp [symbolToken, symbols, List.find?, List.isPrefixOf, Lexeme.fixed, Lexeme.token]
  simp only [List.mem_cons, List.not_mem_nil, or_false, not_or] at hother
  refine pieces?_symbol [] hsingle (by simp [hother]) (by simp [hother]) hsymbol ?_ (by simpa [Lexeme.fixed] using hmark)
  simp [Lexeme.fixed]

def symbolOperators : List String := ["=", "<>", "<", "<=", ">", ">=", "||", "&", "|", "#", "+", "-", "%", "*", "/"]

theorem symbolToken_operator {s : String} {cs : List Char} (hs : s ∈ symbolOperators) (h : s.toList = c :: cs) :
    symbolToken c (cs ++ ' ' :: r) = (Lexeme.fixed s).token := by
  simp only [symbolOperators, List.mem_cons, List.not_mem_nil, or_false] at hs
  rcases hs with rfl | rfl | rfl | rfl | rfl | rfl | rfl | rfl | rfl | rfl | rfl | rfl | rfl | rfl | rfl
  all_goals
    simp only [String.reduceToList, List.cons.injEq] at h
    obtain ⟨rfl, rfl⟩ := h
    simp [symbolToken, symbols, List.find?, List.isPrefixOf, Lexeme.fixed, Lexeme.token]

theorem pieces?_operator {s : String} (hs : s ∈ symbolOperators) :
    pieces? false (s.toList ++ ' ' :: r) = (pieces? false r).map (.token (Lexeme.fixed s).token :: ·) := by
  have hoperators : ∀ s ∈ symbolOperators, ∃ c ∈ s.toList.head?, c ∈ singles ∧ c ∉ ['"', '\''] ∧ s ≠ "@" ∧
      ∀ d ∈ s.toList[1]?, d ∉ ['-', '*'] := by decide +kernel
  obtain ⟨c, hc, hsingle, hquote, hmark, hsecond⟩ := hoperators s hs
  obtain ⟨cs, hcs⟩ := List.head?_eq_some_iff.1 hc
  have hremark : ∀ d ∈ (cs ++ ' ' :: r).head?, ¬ (c = '-' ∧ d = '-') ∧ ¬ (c = '/' ∧ d = '*') := by
    intro d hd
    have hnot : d ∉ ['-', '*'] := by
      cases cs with
      | nil =>
        cases hd
        decide
      | cons e cs => exact hsecond d (by simpa [hcs] using hd)
    simp only [List.mem_cons, List.not_mem_nil, or_false, not_or] at hnot
    exact ⟨fun h => hnot.1 h.2, fun h => hnot.2 h.2⟩
  rw [hcs, List.cons_append, pieces?_symbol cs hsingle hquote hremark (symbolToken_operator hs hcs) hcs
    (by simpa [Lexeme.fixed] using hmark), pieces?_blank]

/-- A sign before what is no second part of a symbol. -/
theorem pieces?_sign (h : ∀ d ∈ r.head?, d ∉ ['-', '>', '|']) :
    pieces? false ('-' :: r) = (pieces? false r).map (.token (Lexeme.fixed "-").token :: ·) := by
  have hsymbol : symbolToken '-' r = (Lexeme.fixed "-").token := by
    cases r with
    | nil => simp [symbolToken, symbols, List.find?, List.isPrefixOf, Lexeme.fixed, Lexeme.token]
    | cons d r =>
      have hd := h d rfl
      simp only [List.mem_cons, List.not_mem_nil, or_false, not_or] at hd
      have hgreater : ('>' == d) = false := by simpa using Ne.symm hd.2.1
      have hbar : ('|' == d) = false := by simpa using Ne.symm hd.2.2
      simp [symbolToken, symbols, List.find?, List.isPrefixOf, Lexeme.fixed, Lexeme.token, hgreater, hbar]
  refine pieces?_symbol [] (by decide) (by decide) (fun d hd => ?_) hsymbol rfl (by decide)
  have hd := h d hd
  simp only [List.mem_cons, List.not_mem_nil, or_false, not_or] at hd
  exact ⟨fun h => hd.1 h.2, by simp⟩

/-! ## Numbers -/

structure IsNumberText (w : List Char) : Prop where
  first : ∀ c ∈ w.head?, isFigure c = true
  ne_nil : w ≠ []
  radix : w.head? = some '0' → ∀ d ∈ w[1]?, d ∉ "bBxX".toList
  whole : numberSize {} (w.drop 1) = (w.drop 1).length

theorem numberSize_append {s : NumberState} (hw : numberSize s w = w.length) (hr : ∀ c ∈ r.head?, c ∈ afterExpr) :
    numberSize s (w ++ r) = w.length := by
  induction w generalizing s with
  | nil =>
    cases r with
    | nil => rfl
    | cons c r =>
      have hc := hr c rfl
      simp only [afterExpr, List.mem_cons, List.not_mem_nil, or_false] at hc
      rcases hc with rfl | rfl | rfl <;> simp [numberSize, isFigure]
  | cons c w ih =>
    rw [List.cons_append, List.length_cons]
    rw [numberSize, List.length_cons] at hw
    rw [numberSize]
    split at hw
    · next hc => rw [if_pos hc, ih (by omega)]
    · next hc =>
      rw [if_neg hc]
      split at hw
      · next hpoint => rw [if_pos hpoint, ih (by omega)]
      · next hpoint =>
        rw [if_neg hpoint]
        split at hw
        · next hsign =>
          rw [if_pos hsign]
          split at hw
          · next hnext =>
            have hnext' : (w ++ r).head?.any isFigure = true := by
              cases w with
              | nil => simp at hnext
              | cons d w => simpa using hnext
            rw [if_pos hnext', ih (by omega)]
          · cases hw
        · next hsign =>
          rw [if_neg hsign]
          split at hw
          · next hmark => rw [if_pos hmark, ih (by omega)]
          · cases hw

theorem pieces?_number (hw : IsNumberText w) (hr : ∀ c ∈ r.head?, c ∈ afterExpr) :
    pieces? false (w ++ r) = (pieces? false r).map (.token (Lexeme.mk .number w).token :: ·) := by
  obtain ⟨c, w, rfl⟩ := List.exists_cons_of_ne_nil hw.ne_nil
  have hfigure := hw.first c rfl
  have hblank : Text.isBlank c = false := by
    have hbounds : 0x30 ≤ c.toNat ∧ c.toNat ≤ 0x39 := by
      simp only [isFigure, Bool.and_eq_true, decide_eq_true_eq] at hfigure
      exact ⟨UInt32.le_iff_toNat_le.1 hfigure.1, UInt32.le_iff_toNat_le.1 hfigure.2⟩
    simp only [Text.isBlank, Bool.or_eq_false_iff, Bool.and_eq_false_iff, decide_eq_false_iff_not, beq_eq_false_iff_ne]
    omega
  have hbreak : ¬ (c = '\n' ∨ c = '\r') := by
    rintro (rfl | rfl) <;> exact absurd hfigure (by decide)
  have hradix : ∀ p : Char → Bool, (∀ d, p d = true → d ∈ "bBxX".toList) → ¬ (c = '0' ∧ (w ++ r).head?.any p) := by
    rintro p hp ⟨rfl, hany⟩
    cases w with
    | nil =>
      have hmarks : ∀ d ∈ afterExpr, d ∉ "bBxX".toList := by decide
      obtain ⟨d, hd, hpd⟩ := (Option.any_eq_true p _).1 hany
      exact hmarks d (hr d hd) (hp d hpd)
    | cons d w => exact hw.radix rfl d rfl (hp d hany)
  have hsize : numberSize {} (w ++ r) = w.length := numberSize_append hw.whole hr
  have hpiece : pieceAt false c (w ++ r) = some (some (.token (Lexeme.mk .number (c :: w)).token), w.length) := by
    rw [pieceAt, if_neg hbreak, if_neg (by simp [hblank]), if_pos hfigure, numberToken,
      if_neg (hradix _ (by simp +contextual)), if_neg (hradix _ (by simp +contextual)), hsize]
    dsimp only
    rw [List.take_left]
    rfl
  rw [List.cons_append, pieces?_token hpiece, List.drop_left]
  rfl

/-- Digits are a number. -/
theorem isNumberText_of_figures (hw : ∀ c ∈ w, isFigure c = true) (hne : w ≠ []) : IsNumberText w := by
  have hwhole : ∀ (w : List Char) s, (∀ c ∈ w, isFigure c = true) → numberSize s w = w.length := by
    intro w s hw
    induction w with
    | nil => rfl
    | cons c w ih =>
      obtain ⟨hc, hw⟩ := List.forall_mem_cons.1 hw
      rw [numberSize, if_pos hc, ih hw, List.length_cons]
  refine ⟨fun c hc => hw c (List.mem_of_mem_head? hc), hne, fun _ d hd hletter => ?_,
    hwhole _ _ fun c hc => hw c (List.mem_of_mem_drop hc)⟩
  have hfigure := hw d (List.mem_of_getElem? hd)
  have hletters : ∀ d ∈ "bBxX".toList, isFigure d = false := by decide
  rw [hletters d hletter] at hfigure
  cases hfigure

/-! ## Quoted texts -/

def doubled (quote : Char) (text : List Char) : List Char :=
  text.flatMap fun c => if c = quote then [quote, quote] else [c]

theorem quoted?_doubled {quote : Char} (text : List Char) (hr : ∀ c ∈ r.head?, c ≠ quote) :
    quoted? quote [quote] (doubled quote text ++ quote :: r) = some (text, (doubled quote text).length + 1) := by
  induction text with
  | nil =>
    cases r with
    | nil => simp [doubled, quoted?]
    | cons c r => simp [doubled, quoted?, hr c rfl]
  | cons c text ih =>
    obtain ⟨d, s, hs⟩ : ∃ d s, doubled quote text ++ quote :: r = d :: s := by
      cases h : doubled quote text <;> exact ⟨_, _, rfl⟩
    by_cases hc : c = quote
    · subst hc
      have hdoubled : doubled c (c :: text) = c :: c :: doubled c text := by simp [doubled]
      rw [hdoubled, List.cons_append, List.cons_append, quoted?, ih]
      simp [hs]
    · have hdoubled : doubled quote (c :: text) = c :: doubled quote text := by simp [doubled, hc]
      rw [hdoubled, List.cons_append, hs, quoted?, ← hs, ih]
      simp [hc]

theorem pieces?_string (text : List Char) (hr : ∀ c ∈ r.head?, c ≠ '\'') :
    pieces? false ('\'' :: doubled '\'' text ++ '\'' :: r) =
      (pieces? false r).map (.token (Lexeme.mk .string text).token :: ·) := by
  have hpiece : pieceAt false '\'' (doubled '\'' text ++ '\'' :: r) =
      some (some (.token (Lexeme.mk .string text).token), (doubled '\'' text).length + 1) := by
    rw [pieceAt, if_neg (by decide), if_neg (by decide), if_neg (by decide), if_neg (by decide), if_pos rfl,
      quoted?_doubled text hr]
    rfl
  have hdrop : (doubled '\'' text ++ '\'' :: r).drop ((doubled '\'' text).length + 1) = r := by simp
  rw [List.cons_append, pieces?_token hpiece, hdrop]
  rfl

theorem pieces?_quoted (text : List Char) (hr : ∀ c ∈ r.head?, c ≠ '"') :
    pieces? false ('"' :: doubled '"' text ++ '"' :: r) =
      (pieces? false r).map (.token (Lexeme.mk .quoted text).token :: ·) := by
  have hpiece : pieceAt false '"' (doubled '"' text ++ '"' :: r) =
      some (some (.token (Lexeme.mk .quoted text).token), (doubled '"' text).length + 1) := by
    rw [pieceAt, if_neg (by decide), if_neg (by decide), if_neg (by decide), if_pos rfl, quoted?_doubled text hr]
    rfl
  have hdrop : (doubled '"' text ++ '"' :: r).drop ((doubled '"' text).length + 1) = r := by simp
  rw [List.cons_append, pieces?_token hpiece, hdrop]
  rfl

end

end FeatureGraph.Filter
