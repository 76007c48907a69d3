import FeatureGraph.Filter.Predicate
import FeatureGraph.Proofs.Filter.Lexing
import FeatureGraph.Proofs.Filter.Statement
import FeatureGraph.Proofs.Text.LetterCase

/-! # Texts that spell tokens

A text spells some tokens before what may follow it. Texts that spell tokens one after the other spell them all, and
a filter that spells the tokens of an expression is parsed as that expression. -/
namespace FeatureGraph.Filter
open Grammar Reader

/-- A text comes to some tokens, and so does what follows it by itself. -/
def Spells (before : List Char → Prop) (cs : List Char) (ts : List Lexeme) : Prop :=
  ∀ r, before r → pieces? false (cs ++ r) = (pieces? false r).map (ts.map (fun t => .token t.token) ++ ·)

def wordLexeme (w : List Char) : Lexeme := ⟨(wordToken false w).kind, w⟩

def Anything (_ : List Char) : Prop := True

section
variable {P Q : List Char → Prop} {cs ds w : List Char} {ts us : List Lexeme} {c : Char}

theorem token_wordLexeme (w : List Char) : (wordLexeme w).token = wordToken false w := by
  rw [wordLexeme, wordToken]
  split <;> rfl

theorem Spells.append (h : Spells P cs ts) (h' : Spells Q ds us) (hP : ∀ r, Q r → P (ds ++ r)) :
    Spells Q (cs ++ ds) (ts ++ us) := by
  intro r hr
  rw [List.append_assoc, h _ (hP r hr), h' r hr, Option.map_map]
  congr 1
  funext ps
  simp

theorem Spells.then (h : Spells Anything cs ts) (h' : Spells Q ds us) : Spells Q (cs ++ ds) (ts ++ us) :=
  h.append h' fun _ _ => trivial

theorem Spells.mono (h : Spells P cs ts) (hQ : ∀ r, Q r → P r) : Spells Q cs ts := fun r hr => h r (hQ r hr)

theorem spells_nil : Spells Anything [] [] := fun r _ => by simp

theorem spells_blank : Spells Anything [' '] [] := by
  intro r _
  rw [List.singleton_append, pieces?_blank]
  simp

theorem spells_mark (hc : c ∈ ['(', ')', ',', '.']) : Spells Anything [c] [.fixed (String.singleton c)] :=
  fun _ _ => pieces?_mark hc

/-- A word, if no keyword of several words begins with it. -/
theorem spells_word (hw : IsWordText w) (h : ∀ s ∈ phraseFirsts, w.map Char.toUpper ≠ s.toList) :
    Spells (fun r => ∀ c ∈ r.head?, c ∈ afterWord) w [wordLexeme w] := by
  intro r hr
  rw [pieces?_word hw hr (fun ⟨s, hs, heq⟩ => absurd heq (h s hs)), ← token_wordLexeme]
  rfl

/-- A word before what is no second word of a keyword. -/
theorem spells_name (hw : IsWordText w) : Spells (Ends afterWord) w [wordLexeme w] := by
  intro r hr
  rw [pieces?_word hw hr.head (fun _ => hr.phrase), ← token_wordLexeme]
  rfl

theorem spells_number (hw : IsNumberText w) : Spells (fun r => ∀ c ∈ r.head?, c ∈ afterExpr) w [⟨.number, w⟩] :=
  fun _ hr => pieces?_number hw hr

end

/-! ## Lists -/

theorem intercalate_cons {α : Type} (s x : List α) (xs : List (List α)) :
    s.intercalate (x :: xs) = x ++ xs.flatMap (s ++ ·) := by
  induction xs generalizing x with
  | nil => simp
  | cons y ys ih => rw [List.intercalate_cons_cons, ih, List.flatMap_cons]; simp only [List.append_assoc]

section
variable {α : Type} {P : List Char → Prop} {sep : List Char} {text : α → List Char} {item : α → List Lexeme × Expr}
  {x : α} {xs : List α}

theorem spells_afterCommas (hsep : Spells Anything sep [.fixed ","]) (hhead : sep.head? = some ',')
    (hP : ∀ r, P (',' :: r)) (h : ∀ x ∈ xs, Spells P (text x) (item x).1) :
    Spells P ((xs.map text).flatMap (sep ++ ·)) (afterCommas (xs.map item)) := by
  obtain ⟨rest, rfl⟩ := List.head?_eq_some_iff.1 hhead
  induction xs with
  | nil => exact spells_nil.mono fun _ _ => trivial
  | cons x xs ih =>
    obtain ⟨hx, hxs⟩ := List.forall_mem_cons.1 h
    refine (hsep.then hx).append (ih hxs) fun r hr => ?_
    cases xs with
    | nil => exact hr
    | cons y ys => exact hP _

/-- Texts with a separator between them spell the elements of a list. -/
theorem spells_listed (hsep : Spells Anything sep [.fixed ","]) (hhead : sep.head? = some ',')
    (hP : ∀ r, P (',' :: r)) (h : ∀ y ∈ x :: xs, Spells P (text y) (item y).1) :
    Spells P (sep.intercalate ((x :: xs).map text)) (listedTokens ((x :: xs).map item)) := by
  obtain ⟨hx, hxs⟩ := List.forall_mem_cons.1 h
  rw [List.map_cons, intercalate_cons]
  refine hx.append (spells_afterCommas hsep hhead hP hxs) fun r hr => ?_
  obtain ⟨rest, rfl⟩ := List.head?_eq_some_iff.1 hhead
  cases xs with
  | nil => exact hr
  | cons y ys => exact hP _

end

/-! ## From pieces to tokens -/

theorem remarkNewest_nil (made : List Token) : remarkNewest [] made = made := by
  cases made with
  | nil => rfl
  | cons t made => simp [remarkNewest]

theorem attach_tokens (made : List Token) (fresh : Bool) (ts : List Lexeme) :
    attach made fresh [] (ts.map fun t => .token t.token) = made.reverse ++ ts.map Lexeme.token := by
  induction ts generalizing made fresh with
  | nil => simp [attach, remarkNewest_nil]
  | cons t ts ih =>
    rw [List.map_cons, attach]
    split
    · simp [ih, remarkNewest_nil]
    · have hplain : ({ t.token with remarks := [] } : Token) = t.token := rfl
      rw [hplain, ih]
      simp

theorem tokens?_of_spells {P : List Char → Prop} {cs : List Char} {ts : List Lexeme} (h : Spells P cs ts) (hP : P []) :
    tokens? cs = some (ts.map Lexeme.token) := by
  have hpieces := h [] hP
  rw [List.append_nil, pieces?_nil] at hpieces
  rw [tokens?, hpieces]
  simp [attach_tokens]

/-! ## Words before a blank -/

instance (w : List Char) : Decidable (IsWordText w) :=
  decidable_of_iff ((∀ c ∈ w, isWordPart c = true) ∧ w ≠ [] ∧ ∀ c ∈ w.head?, isFigure c = false ∧ c ≠ '$')
    ⟨fun h => ⟨h.1, h.2.1, h.2.2⟩, fun h => ⟨h.parts, h.ne_nil, h.first⟩⟩

/-- A word that no keyword of several words begins with, and a blank. -/
theorem spells_plain {w : List Char} (hw : IsWordText w) (h : ∀ f ∈ phraseFirsts, w.map Char.toUpper ≠ f.toList) :
    Spells Anything (w ++ [' ']) [wordLexeme w] :=
  (spells_word hw h).append spells_blank fun r _ => by
    rintro c ⟨⟩
    decide

/-- A word of plain letters is a name if its capital letters spell no keyword. -/
theorem wordLexeme_of_ascii {w : List Char} (hw : ∀ c ∈ w, c.toNat < 0x80)
    (h : keyword? (String.ofList (w.map Char.toUpper)) = none) : wordLexeme w = ⟨.name, w⟩ := by
  rw [wordLexeme, wordToken, Text.upper_ofList hw, h]

/-- A keyword in capital letters that no keyword of several words begins with. -/
structure IsSoleWord (s : String) : Prop where
  text : IsWordText s.toList
  capitals : ∀ c ∈ s.toList, c.toNat < 0x80 ∧ c.toUpper = c
  alone : s ∉ phraseFirsts
  keyword : keyword? s = some s

instance (s : String) : Decidable (IsSoleWord s) :=
  decidable_of_iff (IsWordText s.toList ∧ (∀ c ∈ s.toList, c.toNat < 0x80 ∧ c.toUpper = c) ∧ s ∉ phraseFirsts ∧
      keyword? s = some s)
    ⟨fun h => ⟨h.1, h.2.1, h.2.2.1, h.2.2.2⟩, fun h => ⟨h.text, h.capitals, h.alone, h.keyword⟩⟩

section
variable {s : String}

theorem IsSoleWord.lexeme (h : IsSoleWord s) : wordLexeme s.toList = .fixed s := by
  rw [wordLexeme, wordToken, String.ofList_toList, Text.upper_eq_self h.capitals, h.keyword]
  rfl

theorem IsSoleWord.ne_phraseFirst (h : IsSoleWord s) : ∀ f ∈ phraseFirsts, s.toList.map Char.toUpper ≠ f.toList := by
  rw [Text.map_toUpper_eq_self fun c hc => (h.capitals c hc).2]
  rintro f hf heq
  exact h.alone (String.toList_inj.1 heq ▸ hf)

theorem IsSoleWord.spells (h : IsSoleWord s) : Spells (fun r => ∀ c ∈ r.head?, c ∈ afterWord) s.toList [.fixed s] :=
  h.lexeme ▸ spells_word h.text h.ne_phraseFirst

theorem IsSoleWord.spells_blank (h : IsSoleWord s) : Spells Anything (s.toList ++ [' ']) [.fixed s] :=
  h.lexeme ▸ spells_plain h.text h.ne_phraseFirst

/-- An operator and a blank. -/
theorem spells_operator (hs : s ∈ symbolOperators) : Spells Anything (s.toList ++ [' ']) [.fixed s] := by
  intro r _
  rw [List.append_assoc, List.singleton_append, pieces?_operator hs]
  rfl

end

/-! ## The statement around a filter -/

structure IsTableName (w : List Char) : Prop where
  text : IsWordText w
  alone : ∀ s ∈ phraseFirsts, w.map Char.toUpper ≠ s.toList
  title : (mayNameAnything (wordToken false w) || mayName (wordToken false w)) = true
  symbol : ∀ s ∈ ["?", "@", ":", "%"], (wordToken false w).kind ≠ .fixed s

theorem wordLexeme_n : wordLexeme "n".toList = ⟨.name, "n".toList⟩ := wordLexeme_of_ascii (by decide) (by decide +kernel)

theorem isTableName_n : IsTableName "n".toList := by
  refine ⟨by decide +kernel, by decide +kernel, ?_, ?_⟩
  · rw [← token_wordLexeme, wordLexeme_n]
    rfl
  · rw [← token_wordLexeme, wordLexeme_n]
    simp

theorem namesTable {w : List Char} (h : IsTableName w) : NamesTable (wordLexeme w) := by
  refine ⟨.inr ?_, ?_, ?_⟩
  · rw [token_wordLexeme]
    exact h.title
  · rw [wordLexeme, wordToken]
    split <;> simp
  · rw [wordLexeme]
    dsimp only
    exact h.symbol

/-- The statement in the words that its tokens are spelled with. -/
theorem statement_eq (w cs : List Char) : statement w cs =
    (("SELECT".toList ++ [' ']) ++ ("*".toList ++ [' ']) ++ ("FROM".toList ++ [' ']) ++ ("BLAH".toList ++ [' ']) ++
      ("AS".toList ++ [' '])) ++ ((w ++ [' ']) ++ (("WHERE".toList ++ [' ']) ++ cs)) := by
  have hfirst : "SELECT * FROM BLAH AS ".toList =
      ("SELECT".toList ++ [' ']) ++ ("*".toList ++ [' ']) ++ ("FROM".toList ++ [' ']) ++ ("BLAH".toList ++ [' ']) ++
      ("AS".toList ++ [' ']) := by decide +kernel
  have hwhere : " WHERE ".toList = [' '] ++ ("WHERE".toList ++ [' ']) := by decide +kernel
  unfold statement
  rewrite [hfirst, hwhere]
  simp only [List.append_assoc]

theorem spells_statement {P : List Char → Prop} {w cs : List Char} {ts : List Lexeme} (hw : IsTableName w)
    (h : Spells P cs ts) : Spells P (statement w cs) (opening (wordLexeme w) ++ ts) := by
  have hsole : ∀ s ∈ ["SELECT", "FROM", "AS", "WHERE"], IsSoleWord s := by decide +kernel
  have hselect := (hsole "SELECT" (by simp)).spells_blank
  have hfrom := (hsole "FROM" (by simp)).spells_blank
  have has := (hsole "AS" (by simp)).spells_blank
  have hwhere := (hsole "WHERE" (by simp)).spells_blank
  have hplaceholder : wordLexeme "BLAH".toList = placeholder :=
    wordLexeme_of_ascii (by decide +kernel) (by decide +kernel)
  have hblah : Spells Anything ("BLAH".toList ++ [' ']) [placeholder] :=
    hplaceholder ▸ spells_plain (by decide +kernel) (by decide +kernel)
  rw [statement_eq]
  exact ((((hselect.then (spells_operator (s := "*") (by decide))).then hfrom).then hblah).then has).then
    ((spells_plain hw.text hw.alone).then (hwhere.then h))

/-- A filter is parsed as the condition that is read after the opening of the statement. -/
theorem parse?_of_condition {P : List Char → Prop} {w cs : List Char} {ts : List Lexeme} {e : Expr} {c : Cursor}
    (hw : IsTableName w) (h : Spells P cs ts) (hP : P [])
    (hread : condition? (rules (2 * (opening (wordLexeme w) ++ ts).length + 8))
      (.ofTokens ((opening (wordLexeme w) ++ ts).map Lexeme.token)) = some (e, c)) : parse? w cs = some e := by
  have htokens := tokens?_of_spells (spells_statement hw h) hP
  rw [parse?, htokens, Option.bind_eq_bind, Option.bind_some, Option.bind_eq_bind, List.length_map, hread]
  rfl

/-- A filter is parsed as the expression that its tokens are read as. -/
theorem parse?_of_reads {P : List Char → Prop} {w cs : List Char} {ts : List Lexeme} {e : Expr} (hw : IsTableName w)
    (h : Spells P cs ts) (hP : P []) (he : Reads .disjunction .disjunction ts e) : parse? w cs = some e := by
  let all := opening (wordLexeme w) ++ ts
  have hstart : Cursor.ofTokens (all.map Lexeme.token) = Cursor.mid [] all := by
    simp [Cursor.ofTokens, Cursor.mid]
  have hread : condition? (rules (2 * all.length + 8)) (.ofTokens (all.map Lexeme.token)) =
      some (e, Cursor.mid all []) := by
    rw [hstart]
    exact run_condition (namesTable hw) he (by rw [List.length_append]; omega)
  exact parse?_of_condition hw h hP hread

theorem qualified_of_parse? {namespaceName text : String} {e : Expr}
    (h : parse? namespaceName.toList text.toList = some e) :
    qualified namespaceName text = .ok (e.qualify (Name.ofText namespaceName.toList)).rendered := by
  have hparse : Library.postgres.parse namespaceName.toList text.toList = .ok (some e) := congrArg Except.ok h
  rw [qualified, hparse]
  rfl

/-- The text of a filter comes of the expression that its tokens are read as, with its columns qualified. -/
theorem qualified_of_spells {P : List Char → Prop} {namespaceName text : String} {ts : List Lexeme} {sql : List Char}
    (hw : IsTableName namespaceName.toList) (h : Spells P text.toList ts) (hP : P [])
    (hread : (condition? (rules (2 * (opening (wordLexeme namespaceName.toList) ++ ts).length + 8))
      (.ofTokens ((opening (wordLexeme namespaceName.toList) ++ ts).map Lexeme.token))).map
        (fun (e, _) => (e.qualify (Name.ofText namespaceName.toList)).rendered) = some sql) :
    qualified namespaceName text = .ok sql := by
  obtain ⟨⟨e, c⟩, hcondition, rfl⟩ := Option.map_eq_some_iff.1 hread
  exact qualified_of_parse? (parse?_of_condition hw h hP hcondition)

end FeatureGraph.Filter
