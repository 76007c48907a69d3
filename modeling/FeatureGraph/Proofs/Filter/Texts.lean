import FeatureGraph.Proofs.Filter.Rendering
import FeatureGraph.Proofs.Filter.Spelled

/-! # The texts of names, connectives and lists -/
namespace FeatureGraph.Filter
open Grammar Reader

section
variable {P : List Char → Prop} {cs ds r s : List Char} {ts us vs : List Lexeme} {n : Name} {ns : List Name}
  {items : List (List Lexeme × Expr)}

/-! ## Names -/

def Name.lexeme (n : Name) : Lexeme := if n.isQuoted then ⟨.quoted, n.text⟩ else wordLexeme n.text

/-- A name that is written as one token: in quotes any, and otherwise a word. -/
def Name.IsWord (n : Name) : Prop :=
  n.isQuoted = true ∨ n.text.head?.any Text.isDecimal = false ∧ IsWordText n.text

theorem title_lexeme (n : Name) : Lexeme.title n.lexeme = n := by
  obtain ⟨text, isQuoted⟩ := n
  cases isQuoted with
  | true => rfl
  | false =>
    have hkind : (wordLexeme text).kind ≠ .quoted := by
      rw [wordLexeme, wordToken]
      split <;> simp
    show Name.mk text ((wordLexeme text).kind == .quoted) = _
    rw [beq_eq_false_iff_ne.2 hkind]

theorem ends_point (r : List Char) : Ends afterWord ('.' :: r) := ends_cons (by decide) (by decide) (by decide)

theorem ends_open (r : List Char) : Ends afterWord ('(' :: r) := ends_cons (by decide) (by decide) (by decide)

theorem ends_close (r : List Char) : Ends afterExpr (')' :: r) := ends_cons (by decide) (by decide) (by decide)

theorem ends_comma (r : List Char) : Ends afterExpr (',' :: r) := ends_cons (by decide) (by decide) (by decide)

theorem spells_rendered_name (h : n.IsWord) : Spells (Ends afterWord) n.rendered [n.lexeme] := by
  obtain ⟨text, isQuoted⟩ := n
  cases isQuoted with
  | true =>
    intro r hr
    have hquote : ∀ c ∈ r.head?, c ≠ '"' := by
      rintro c hc rfl
      exact absurd (hr.head _ hc) (by decide)
    show pieces? false ('"' :: doubled '"' text ++ ['"'] ++ r) = _
    rw [List.append_assoc, List.singleton_append, pieces?_quoted text hquote]
    rfl
  | false =>
    obtain ⟨hfirst, htext⟩ := h.resolve_left (by simp)
    have hrendered : Name.rendered ⟨text, false⟩ = text := by
      rw [Name.rendered, hfirst]
      rfl
    rw [hrendered]
    exact spells_name htext

/-- Names with points between them. -/
theorem spells_path (hn : n.IsWord) (hns : ∀ m ∈ ns, m.IsWord) :
    Spells (Ends afterWord) (['.'].intercalate ((n :: ns).map Name.rendered)) (n.lexeme :: pathTokens (ns.map Name.lexeme)) := by
  have hmore : Spells (Ends afterWord) ((ns.map Name.rendered).flatMap (['.'] ++ ·)) (pathTokens (ns.map Name.lexeme)) ∧
      ∀ r, Ends afterWord r → Ends afterWord ((ns.map Name.rendered).flatMap (['.'] ++ ·) ++ r) := by
    induction ns with
    | nil => exact ⟨spells_nil.mono fun _ _ => trivial, fun _ hr => hr⟩
    | cons m ns ih =>
      obtain ⟨hm, hns⟩ := List.forall_mem_cons.1 hns
      obtain ⟨hspells, hends⟩ := ih hns
      exact ⟨((spells_mark (by decide)).then (spells_rendered_name hm)).append hspells hends, fun _ _ => ends_point _⟩
  rw [List.map_cons, intercalate_cons]
  exact (spells_rendered_name hn).append hmore.1 hmore.2

/-! ## Connectives -/

def connectives : List String :=
  symbolOperators ++ ["OR", "AND", "IS", "NOT", "NULL", "TRUE", "FALSE", "LIKE", "ILIKE", "ESCAPE", "BETWEEN", "IN"]

/-- A text that spells some tokens after a blank and before one. -/
structure Connects (cs : List Char) (us : List Lexeme) : Prop where
  spells : Spells Anything (cs ++ [' ']) us
  ends : ∀ r, Ends afterExpr (' ' :: (cs ++ ' ' :: r))

/-- A word that a text does not begin with does not come of it with more text after it. -/
theorem phraseSize?_append {p : List Char} (hp : ∀ c ∈ p, c ≠ ' ') (h : phraseSize? (p.take s.length) s = none) :
    phraseSize? p (s ++ r) = none := by
  induction p generalizing s with
  | nil => simp [phraseSize?] at h
  | cons c p ih =>
    obtain ⟨hc, hp⟩ := List.forall_mem_cons.1 hp
    cases s with
    | nil => simp [phraseSize?] at h
    | cons d s =>
      rw [List.length_cons, List.take_succ_cons, phraseSize?_letter hc] at h
      rw [List.cons_append, phraseSize?_letter hc]
      split at h
      · next hd => rw [if_pos hd, ih hp (by simpa using h)]; rfl
      · next hd => rw [if_neg hd]

theorem ends_connective {s : String} (hs : s ∈ connectives) (r : List Char) :
    Ends afterExpr (' ' :: (s.toList ++ ' ' :: r)) := by
  have hwords : ∀ s ∈ connectives, (∃ c ∈ s.toList.head?, Text.isBlank c = false) ∧
      ∀ p ∈ phraseEnds, (∀ c ∈ p.toList, c ≠ ' ') ∧ phraseSize? (p.toList.take s.toList.length) s.toList = none := by
    decide +kernel
  obtain ⟨⟨c, hc, hblank⟩, hphrase⟩ := hwords s hs
  have hnone := fun p hp => phraseSize?_append (r := ' ' :: r) (hphrase p hp).1 (hphrase p hp).2
  obtain ⟨cs, hcs⟩ := List.head?_eq_some_iff.1 hc
  rw [hcs] at hnone ⊢
  exact ends_blank (by decide) hnone hblank

theorem isSoleWord_connective {s : String} (hs : s ∈ connectives.drop symbolOperators.length) : IsSoleWord s := by
  have hwords : ∀ s ∈ connectives.drop symbolOperators.length, IsSoleWord s := by decide +kernel
  exact hwords s hs

theorem connects_word {s : String} (hs : s ∈ connectives) : Connects s.toList [.fixed s] := by
  refine ⟨?_, ends_connective hs⟩
  rcases List.mem_append.1 hs with hs | hs
  · exact spells_operator hs
  · exact (isSoleWord_connective hs).spells_blank

theorem Connects.append (h : Connects cs us) (h' : Connects ds vs) : Connects (cs ++ ' ' :: ds) (us ++ vs) := by
  refine ⟨?_, fun r => ?_⟩
  · have hspells := h.spells.then h'.spells
    simpa using hspells
  · have hends := h.ends (ds ++ ' ' :: r)
    simpa using hends

/-- A connective before an operand. -/
theorem Connects.spells_before (h : Connects cs us) (h' : Spells P ds vs) : Spells P (cs ++ ' ' :: ds) (us ++ vs) := by
  have hspells := h.spells.then h'
  rwa [List.append_assoc] at hspells

/-- A connective between operands. -/
theorem Connects.spells_between (h : Connects s us) (hc : Spells (Ends afterExpr) cs ts) (hd : Spells P ds vs) :
    Spells P (cs ++ ' ' :: (s ++ ' ' :: ds)) (ts ++ (us ++ vs)) := by
  have hright : Spells P ([' '] ++ (s ++ ' ' :: ds)) ([] ++ (us ++ vs)) := spells_blank.then (h.spells_before hd)
  refine hc.append hright fun r _ => ?_
  have hends := h.ends (ds ++ r)
  simpa using hends

/-! ## Lists -/

/-- A text between parentheses. -/
theorem spells_enclosed (h : Spells (Ends afterExpr) cs ts) :
    Spells Anything ('(' :: (cs ++ [')'])) (.fixed "(" :: (ts ++ [.fixed ")"])) := by
  have hopen : Spells Anything ['('] [.fixed "("] := spells_mark (by decide)
  have hclose : Spells Anything [')'] [.fixed ")"] := spells_mark (by decide)
  exact hopen.then (h.append hclose fun r _ => ends_close r)

theorem spells_elements (h : ∀ it ∈ items, Spells (Ends afterExpr) it.2.rendered it.1) :
    Spells (Ends afterExpr) (", ".toList.intercalate ((items.map Prod.snd).map Expr.rendered)) (listedTokens items) := by
  cases items with
  | nil => exact spells_nil.mono fun _ _ => trivial
  | cons item items =>
    have hcomma : Spells Anything ", ".toList [.fixed ","] := (spells_mark (c := ',') (by decide)).then spells_blank
    rw [List.map_map]
    have hlisted : Spells (Ends afterExpr) (", ".toList.intercalate ((item :: items).map (Expr.rendered ∘ Prod.snd)))
        (listedTokens ((item :: items).map id)) := spells_listed hcomma rfl ends_comma h
    rwa [List.map_id] at hlisted

end

end FeatureGraph.Filter
