import FeatureGraph.Proofs.Cypher.Token

/-! # The texts of tokens, scanned again

Tokens are scanned from their texts, one after the other, exactly when each has the text of its kind and none
is continued by the next. -/
namespace FeatureGraph.Cypher

/-- Tokens whose text is scanned as one token of their kind. -/
inductive Token.Whole : Token → Prop
  | string {body : List Char} : Literal '\'' body → Whole ⟨.string, '\'' :: body⟩
  | quoted {body : List Char} : Literal '"' body → Whole ⟨.quoted, '"' :: body⟩
  | word {c : Char} {cs : List Char} : isWordStart c → (∀ d ∈ cs, isWordPart d) → Whole ⟨.word, c :: cs⟩
  | space {c : Char} {cs : List Char} : Text.isBlank c → (∀ d ∈ cs, Text.isBlank d) → Whole ⟨.space, c :: cs⟩
  | opening : Whole ⟨.opening, ['(']⟩
  | closing : Whole ⟨.closing, [')']⟩
  | comma : Whole ⟨.comma, [',']⟩
  | other {c : Char} : IsPlain c → c ≠ ',' → isWordStart c = false → Text.isBlank c = false → Whole ⟨.other, [c]⟩

/-- A token of a kind is not continued by a character. -/
def TokenKind.EndsBefore (kind : TokenKind) (c : Char) : Prop :=
  match kind with
  | .string => c ≠ '\''
  | .quoted => c ≠ '"'
  | .word => isWordPart c = false
  | .space => Text.isBlank c = false
  | _ => True

instance (kind : TokenKind) (c : Char) : Decidable (kind.EndsBefore c) :=
  match kind with
  | .string | .quoted => inferInstanceAs (Decidable (_ ≠ _))
  | .word | .space => inferInstanceAs (Decidable (_ = _))
  | .opening | .closing | .comma | .other => inferInstanceAs (Decidable True)

def Token.Separate (t u : Token) : Prop := ∀ c ∈ u.text.head?, t.kind.EndsBefore c

section Scanning
variable {c q : Char} {cs ds r s : List Char} {kind : TokenKind} {more : Nat}

theorem isPlain_of_isWordStart (h : isWordStart c = true) : IsPlain c :=
  isPlain_of_isWordPart (by simp [isWordPart, h])

theorem not_isBlank_of_isWordPart (h : isWordPart c = true) : Text.isBlank c = false := by
  have hbounds : 0x20 < c.toNat ∧ c.toNat < 0x7F := by
    simp only [isWordPart, isWordStart, Bool.or_eq_true, Bool.and_eq_true, decide_eq_true_eq, beq_iff_eq] at h
    rcases h with (((⟨hl, hu⟩ | ⟨hl, hu⟩) | rfl) | ⟨hl, hu⟩) | rfl
    all_goals first
      | decide
      | exact ⟨Nat.lt_of_lt_of_le (by decide) (UInt32.le_iff_toNat_le.1 hl),
          Nat.lt_of_le_of_lt (UInt32.le_iff_toNat_le.1 hu) (by decide)⟩
  simp only [Text.isBlank, Bool.or_eq_false_iff, Bool.and_eq_false_iff, decide_eq_false_iff_not, beq_eq_false_iff_ne]
  omega

theorem Literal.getLast? (h : Literal q cs) : cs.getLast? = some q := by
  induction h with
  | close => rfl
  | char _ h ih => cases h <;> simp_all
  | pair h ih => cases h <;> simp_all

theorem Literal.literalSize? (h : Literal q cs) (hd : ds.head? ≠ some q) :
    literalSize? q (cs ++ ds) = some cs.length := by
  induction h with
  | close =>
    cases ds with
    | nil => simp [Cypher.literalSize?]
    | cons d ds =>
      have hne : d ≠ q := by simpa using hd
      simp [Cypher.literalSize?, hne]
  | @char c cs hc h ih =>
    obtain ⟨d, r, rfl⟩ : ∃ d r, cs = d :: r := by cases h <;> exact ⟨_, _, rfl⟩
    simp only [List.cons_append] at ih ⊢
    simp [Cypher.literalSize?, hc, ih]
  | pair _ ih => simp [Cypher.literalSize?, ih]

theorem takeWhile_append_stop {p : Char → Bool} (hr : ∀ d ∈ r, p d) (hs : ∀ d ∈ s.head?, p d = false) :
    (r ++ s).takeWhile p = r := by
  rw [List.takeWhile_append_of_pos hr]
  cases s with
  | nil => simp
  | cons d s => simp [hs d rfl]

/-- A token is scanned from its text, whatever follows that does not continue it. -/
theorem Token.Whole.lexeme? (h : Token.Whole ⟨kind, c :: r⟩) (hs : ∀ d ∈ s.head?, kind.EndsBefore d) :
    lexeme? c (r ++ s) = some (kind, r.length) := by
  cases h with
  | string h =>
    rw [Cypher.lexeme?, if_pos rfl, h.literalSize? fun hd => hs _ hd rfl]
    rfl
  | quoted h =>
    rw [Cypher.lexeme?, if_neg (by decide), if_pos rfl, h.literalSize? fun hd => hs _ hd rfl]
    rfl
  | word hc hr =>
    obtain ⟨h1, h2, -, -⟩ := isPlain_of_isWordStart hc
    rw [Cypher.lexeme?, if_neg h1, if_neg h2, if_pos hc, takeWhile_append_stop hr hs]
  | space hc hr =>
    obtain ⟨h1, h2, -, -⟩ := isPlain_of_isBlank hc
    have hw : isWordStart c ≠ true := fun hw => by
      simp [not_isBlank_of_isWordPart (c := c) (by simp [isWordPart, hw])] at hc
    rw [Cypher.lexeme?, if_neg h1, if_neg h2, if_neg hw, if_pos hc, takeWhile_append_stop hr hs]
  | opening => rfl
  | closing => rfl
  | comma => rfl
  | other hp hcomma hw hb => simp [Cypher.lexeme?, hp.1, hp.2.1, hp.2.2.1, hp.2.2.2, hcomma, hw, hb]

theorem forall_mem_take_takeWhile (p : Char → Bool) (cs : List Char) :
    (∀ d ∈ cs.take (cs.takeWhile p).length, p d) ∧ ∀ d ∈ (cs.drop (cs.takeWhile p).length).head?, p d = false := by
  constructor
  · intro d hd
    rw [← List.prefix_iff_eq_take.1 (List.takeWhile_prefix p)] at hd
    exact List.mem_takeWhile_imp hd
  · intro d hd
    have hdrop := congrArg (List.drop (cs.takeWhile p).length) (cs.takeWhile_append_dropWhile (p := p))
    rw [List.drop_left] at hdrop
    have hne := List.head?_dropWhile_not p cs
    rw [hdrop, hd] at hne
    exact hne

/-- What is scanned is a token by itself, and what follows does not continue it. -/
theorem whole_of_lexeme? (h : lexeme? c r = some (kind, more)) :
    Token.Whole ⟨kind, c :: r.take more⟩ ∧ ∀ d ∈ (r.drop more).head?, kind.EndsBefore d := by
  simp only [lexeme?] at h
  split at h
  · next hc =>
    obtain ⟨n, hn, h⟩ := Option.map_eq_some_iff.1 h
    cases h
    subst hc
    obtain ⟨hbody, hnext⟩ := literalSize?_spec hn
    exact ⟨.string hbody, fun d hd hdc => hnext (hdc ▸ hd)⟩
  split at h
  · next hc =>
    obtain ⟨n, hn, h⟩ := Option.map_eq_some_iff.1 h
    cases h
    subst hc
    obtain ⟨hbody, hnext⟩ := literalSize?_spec hn
    exact ⟨.quoted hbody, fun d hd hdc => hnext (hdc ▸ hd)⟩
  split at h
  · next hc =>
    cases h
    obtain ⟨hrun, hnext⟩ := forall_mem_take_takeWhile isWordPart r
    exact ⟨.word hc hrun, hnext⟩
  split at h
  · next hc =>
    cases h
    obtain ⟨hrun, hnext⟩ := forall_mem_take_takeWhile Text.isBlank r
    exact ⟨.space hc hrun, hnext⟩
  split at h
  · next hc => cases h; exact ⟨hc ▸ .opening, fun _ _ => trivial⟩
  split at h
  · next hc => cases h; exact ⟨hc ▸ .closing, fun _ _ => trivial⟩
  split at h
  · next hc => cases h; exact ⟨hc ▸ .comma, fun _ _ => trivial⟩
  · next h1 h2 hw hb h3 h4 h5 =>
    cases h
    exact ⟨.other ⟨h1, h2, h3, h4⟩ h5 (by simpa using hw) (by simpa using hb), fun _ _ => trivial⟩

end Scanning

namespace Scanned
variable {cs : List Char} {ts : List Token}

theorem whole (h : Scanned cs ts) : ∀ t ∈ ts, t.Whole := by
  induction h with
  | nil => simp
  | cons hl _ ih => exact List.forall_mem_cons.2 ⟨(whole_of_lexeme? hl).1, ih⟩

theorem separate (h : Scanned cs ts) : ts.IsChain Token.Separate := by
  induction h with
  | nil => exact .nil
  | @cons c r kind more ts hl hs ih =>
    refine List.isChain_cons.2 ⟨fun u hu d hd => ?_, ih⟩
    obtain ⟨us, rfl⟩ : ∃ us, ts = u :: us := List.head?_eq_some_iff.1 hu
    exact (whole_of_lexeme? hl).2 d (hs.head?_eq.symm ▸ hd)

end Scanned

namespace Token.Whole
variable {t : Token}

theorem exists_text (h : t.Whole) : ∃ c r, t.text = c :: r := by
  cases h <;> exact ⟨_, _, rfl⟩

theorem lexed (h : t.Whole) : t.Lexed := by
  cases h with
  | string h => exact .string h
  | quoted h => exact .quoted h
  | word hc hcs =>
    exact .plain (.inl rfl) (by simp) (List.forall_mem_cons.2
      ⟨isPlain_of_isWordStart hc, fun d hd => isPlain_of_isWordPart (hcs d hd)⟩)
  | space hc hcs =>
    exact .plain (.inr (.inl rfl)) (by simp) (List.forall_mem_cons.2
      ⟨isPlain_of_isBlank hc, fun d hd => isPlain_of_isBlank (hcs d hd)⟩)
  | opening => exact .opening
  | closing => exact .closing
  | comma => exact .comma
  | other hc _ _ _ => exact .plain (.inr (.inr rfl)) (by simp) (by simpa using hc)

theorem isBlank (h : t.Whole) (hk : t.kind = .space) : ∀ c ∈ t.text, Text.isBlank c := by
  cases h with
  | space hc hcs => exact List.forall_mem_cons.2 ⟨hc, hcs⟩
  | _ => cases hk

theorem isWordStart (h : t.Whole) (hk : t.kind = .word) : ∀ c ∈ t.text.head?, Cypher.isWordStart c := by
  cases h with
  | word hc _ => simpa using hc
  | _ => cases hk

/-- Other tokens neither begin nor end with a blank. -/
theorem not_isBlank (h : t.Whole) (hk : t.kind ≠ .space) :
    (∀ c ∈ t.text.head?, Text.isBlank c = false) ∧ ∀ c ∈ t.text.getLast?, Text.isBlank c = false := by
  cases h with
  | string h => simp [List.getLast?_cons, h.getLast?, show Text.isBlank '\'' = false by decide]
  | quoted h => simp [List.getLast?_cons, h.getLast?, show Text.isBlank '"' = false by decide]
  | @word c cs hc hcs =>
    have hblank : ∀ d ∈ c :: cs, Text.isBlank d = false := List.forall_mem_cons.2
      ⟨not_isBlank_of_isWordPart (by simp [isWordPart, hc]), fun d hd => not_isBlank_of_isWordPart (hcs d hd)⟩
    exact ⟨fun d hd => hblank d (List.mem_of_mem_head? hd), fun d hd => hblank d (List.mem_of_mem_getLast? hd)⟩
  | space hc hcs => exact absurd rfl hk
  | opening => simp [show Text.isBlank '(' = false by decide]
  | closing => simp [show Text.isBlank ')' = false by decide]
  | comma => simp [show Text.isBlank ',' = false by decide]
  | other _ _ _ hc => simpa using hc

end Token.Whole

theorem scan_of_whole {here : Nat} {ts : List Token} (h : ∀ t ∈ ts, t.Whole) (hc : ts.IsChain Token.Separate) :
    scan here (ts.flatMap Token.text) = .ok ts := by
  induction ts generalizing here with
  | nil => simp [scan]
  | cons t ts ih =>
    obtain ⟨kind, text⟩ := t
    have ht : Token.Whole ⟨kind, text⟩ := h _ (by simp)
    obtain ⟨c, r, rfl⟩ : ∃ c r, text = c :: r := ht.exists_text
    have hnext : ∀ d ∈ (ts.flatMap Token.text).head?, kind.EndsBefore d := by
      intro d hd
      cases ts with
      | nil => simp at hd
      | cons u ts =>
        obtain ⟨e, s, hu⟩ := (h u (by simp)).exists_text
        exact (List.isChain_cons_cons.1 hc).1 d (by simpa [hu] using hd)
    rw [List.flatMap_cons, List.cons_append, scan, ht.lexeme? hnext]
    simp only [List.drop_left, List.take_left, ih (fun u hu => h u (by simp [hu])) hc.tail, Except.map]

/-- Tokens are scanned from their texts where each is by itself and none takes in what follows it. -/
theorem tokens_flatMap_text {ts : List Token} (h : ∀ t ∈ ts, t.Whole) (hc : ts.IsChain Token.Separate) :
    tokens (ts.flatMap Token.text) = .ok ts := by
  rw [tokens, scan_of_whole h hc]
  rfl

end FeatureGraph.Cypher
