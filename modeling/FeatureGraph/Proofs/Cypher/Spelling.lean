import FeatureGraph.Filter.Predicate
import FeatureGraph.Proofs.Cypher.Token
import FeatureGraph.Proofs.Result

/-! # How a filter is spelled, list by list -/
namespace FeatureGraph.Cypher

/-- The tokens of a list after its opening parenthesis, and of what follows it. -/
def listed (es : List (List Token)) (rest : List Token) : List Token :=
  [⟨.comma, [',']⟩].intercalate es ++ ⟨.closing, [')']⟩ :: rest

@[simp] theorem listed_singleton (e rest : List Token) :
    listed [e] rest = e ++ ⟨.closing, [')']⟩ :: rest := by
  simp [listed]

@[simp] theorem listed_cons_cons (e e' : List Token) (es : List (List Token)) (rest : List Token) :
    listed (e :: e' :: es) rest = e ++ ⟨.comma, [',']⟩ :: listed (e' :: es) rest := by
  simp [listed]

/-- Nothing is lost when a list is split but its commas and the parenthesis that closes it. -/
theorem splitList_eq {ts : List Token} {depth : Nat} {element : List Token} {es : List (List Token)}
    {rest : List Token} (h : splitList depth element ts = some (es, rest)) (hl : ∀ t ∈ ts, t.Lexed) :
    ∃ e es', es = e :: es' ∧ element.reverse ++ ts = listed (e :: es') rest := by
  induction ts generalizing depth element es rest with
  | nil => simp [splitList] at h
  | cons t r ih =>
    have ht := hl t (by simp)
    have hl' : ∀ u ∈ r, u.Lexed := fun u hu => hl u (by simp [hu])
    -- Wherever the token goes into the element at hand, the two still make up the same tokens.
    have step {depth : Nat} (h : splitList depth (t :: element) r = some (es, rest)) :
        ∃ e es', es = e :: es' ∧ element.reverse ++ t :: r = listed (e :: es') rest := by
      simpa using ih h hl'
    simp only [splitList] at h
    split at h
    · exact step h
    · next hk =>
      split at h
      · obtain ⟨rfl, rfl⟩ : [element.reverse] = es ∧ r = rest := by simpa using h
        exact ⟨_, [], rfl, by simp [ht.eq_closing hk]⟩
      · exact step h
    · next hk =>
      split at h
      · obtain ⟨⟨es', rest'⟩, hs, he⟩ := Option.map_eq_some_iff.1 h
        obtain ⟨rfl, rfl⟩ : element.reverse :: es' = es ∧ rest' = rest := by simpa using he
        obtain ⟨e, es', rfl, heq⟩ := ih hs hl'
        rw [List.reverse_nil, List.nil_append] at heq
        exact ⟨_, _, rfl, by simp [ht.eq_comma hk, heq]⟩
      · exact step h
    · exact step h

/-- The elements of a list stand one after the other in its tokens. -/
theorem infix_listed {es : List (List Token)} {rest e : List Token} (he : e ∈ es) :
    e <:+: listed es rest := by
  induction es with
  | nil => simp at he
  | cons e₀ es ih =>
    cases es with
    | nil =>
      obtain rfl : e = e₀ := by simpa using he
      rw [listed_singleton]
      exact (List.prefix_append _ _).isInfix
    | cons e₁ es =>
      rw [listed_cons_cons]
      rcases List.mem_cons.1 he with rfl | he
      · exact (List.prefix_append _ _).isInfix
      · exact (ih he).trans ((List.suffix_cons _ _).trans (List.suffix_append _ _)).isInfix

theorem suffix_listed (es : List (List Token)) (rest : List Token) : rest <:+ listed es rest :=
  (List.suffix_cons _ _).trans (List.suffix_append _ _)

theorem Token.kind_of_isIn {t : Token} (h : t.isIn) : t.kind = .word := by
  simp_all [isIn]

theorem listAfter?_space {t : Token} {r : List Token} (h : t.kind = .space) : listAfter? (t :: r) = listAfter? r := by
  simp [listAfter?, isSpace, h]

theorem listAfter?_cons {t : Token} {r : List Token} (h : t.kind ≠ .space) :
    listAfter? (t :: r) = if t.kind = .opening then some (splitList 0 [] r) else none := by
  simp [listAfter?, isSpace, h]

/-- The list after an `IN`, with its blanks and parentheses. -/
theorem Token.list?_eq {t : Token} {r rest : List Token} {es : List (List Token)}
    (h : t.list? r = some (some (es, rest))) (hl : ∀ u ∈ r, u.Lexed) :
    t.kind = .word ∧ ∃ e es' spaces, es = e :: es' ∧ (∀ u ∈ spaces, u.kind = .space) ∧
      r = spaces ++ ⟨.opening, ['(']⟩ :: listed (e :: es') rest := by
  simp only [Token.list?, listAfter?] at h
  split at h
  · next hin =>
    refine ⟨Token.kind_of_isIn hin, ?_⟩
    split at h
    · next u us hu =>
      split at h
      · next hk =>
        have hr : r.takeWhile isSpace ++ u :: us = r := hu ▸ List.takeWhile_append_dropWhile
        have hmem : ∀ v ∈ u :: us, v.Lexed := fun v hv => hl v (hr ▸ List.mem_append_right _ hv)
        obtain ⟨e, es', rfl, heq⟩ := splitList_eq (Option.some.inj h) fun v hv => hmem v (by simp [hv])
        refine ⟨e, es', r.takeWhile isSpace, rfl, fun v hv => ?_, ?_⟩
        · simpa [isSpace] using List.mem_takeWhile_imp hv
        · rw [← heq, ← (hmem u (by simp)).eq_opening hk]
          exact hr.symm
      · simp at h
    · simp at h
  · simp at h

/-- The elements and what follows the list are parts of what follows the `IN`. -/
theorem Token.infix_of_list? {t : Token} {r rest : List Token} {es : List (List Token)}
    (h : t.list? r = some (some (es, rest))) (hl : ∀ u ∈ r, u.Lexed) :
    (∀ e ∈ es, e <:+: r) ∧ rest <:+ r := by
  obtain ⟨-, e, es, spaces, rfl, -, rfl⟩ := Token.list?_eq h hl
  have hr : listed (e :: es) rest <:+ spaces ++ ⟨.opening, ['(']⟩ :: listed (e :: es) rest :=
    (List.suffix_cons _ _).trans (List.suffix_append _ _)
  constructor
  · intro e' he
    exact (infix_listed he).trans hr.isInfix
  · exact (suffix_listed _ _).trans hr

theorem Token.splitList_of_list? {t : Token} {r rest : List Token} {es : List (List Token)}
    (h : t.list? r = some (some (es, rest))) : ∃ ts, splitList 0 [] ts = some (es, rest) := by
  simp only [Token.list?, listAfter?] at h
  grind

/-! ## Step by step -/

section
variable {calls : Nat} {t : Token} {r rest : List Token} {elements : List (List Token)}

theorem Token.isIn_of_list? {o : Option (List (List Token) × List Token)} (h : t.list? r = some o) : t.isIn := by
  rw [Token.list?] at h
  exact (Option.ite_none_right_eq_some.1 h).1

/-- There is no room to look for a list. -/
theorem spelledIn_zero (h : t.isIn) : spelledIn 0 (t :: r) = .error (Defect.tooDeep "") := by
  rw [spelledIn, if_pos ⟨h, rfl⟩]

theorem spelledIn_of_copy (h : t.list? r = none) (hc : t.isIn → 0 < calls) :
    spelledIn calls (t :: r) = (spelledIn calls r).map (t.rendered ++ ·) := by
  rw [spelledIn, if_neg fun hzero => (hc hzero.1).ne' hzero.2]
  split <;> simp_all

theorem spelledIn_of_open (h : t.list? r = some none) (hc : 0 < calls) :
    spelledIn calls (t :: r) = .error unbalanced := by
  rw [spelledIn, if_neg fun hzero => hc.ne' hzero.2]
  split <;> simp_all

theorem spelledIn_of_list (h : t.list? r = some (some (elements, rest))) (hc : 2 ≤ calls) :
    spelledIn calls (t :: r) = (elements.mapM (spelledIn (calls - 2))).bind fun es =>
      (spelledIn calls rest).map (bracketed es ++ ·) := by
  rw [spelledIn, if_neg fun hzero => by omega]
  split
  · simp_all
  · simp_all
  · next elements' rest' h' =>
    obtain ⟨rfl, rfl⟩ : elements' = elements ∧ rest' = rest := by simpa [h] using h'.symm
    rw [if_neg (by omega), List.mapM_subtype fun _ _ => rfl, List.unattach_attach]
    cases elements'.mapM (spelledIn (calls - 2)) <;> cases spelledIn calls rest' <;> rfl

theorem spelledIn_of_lt_two (h : t.list? r = some (some (elements, rest))) (hc : calls < 2) :
    spelledIn calls (t :: r) = .error (Defect.tooDeep "") := by
  rw [spelledIn]
  split
  · rfl
  · split <;> simp_all

end

theorem eq_ok_of_toOption {ε α : Type} {x : Except ε α} {a : α} (h : x.toOption = some a) : x = .ok a := by
  cases x with
  | error e => simp [Except.toOption] at h
  | ok b => simpa [Except.toOption] using h

theorem forall_mem_of_forall₂ {α β : Type} {R : α → β → Prop} {p : α → Prop} {q : β → Prop} {xs : List α}
    {ys : List β} (h : List.Forall₂ R xs ys) (hp : ∀ x ∈ xs, p x) (hR : ∀ x y, p x → R x y → q y) :
    ∀ y ∈ ys, q y := by
  induction h with
  | nil => simp
  | @cons x y xs ys hxy _ ih =>
    have hy : q y := hR x y (hp x (by simp)) hxy
    exact List.forall_mem_cons.2 ⟨hy, ih fun z hz => hp z (by simp [hz])⟩

/-- What holds of text that is spelled, for tokens with a property that parts of them share: it holds of
none, of a token before such text, and of a list before such text when it holds of the elements. -/
theorem spelledIn_induction {Q : List Token → Prop} {P : List Token → List Char → Prop}
    (part : ∀ {us vs}, us <:+: vs → Q vs → Q us) (lexed : ∀ {us}, Q us → ∀ t ∈ us, t.Lexed) (nil : P [] [])
    (copy : ∀ t r out, Q (t :: r) → t.list? r = none → P r out → P (t :: r) (t.rendered ++ out))
    (list : ∀ t r elements rest es out, Q (t :: r) → t.list? r = some (some (elements, rest)) →
      List.Forall₂ P elements es → P rest out → P (t :: r) (bracketed es ++ out))
    {calls : Nat} {ts : List Token} {out : List Char} (h : spelledIn calls ts = .ok out) (hQ : Q ts) : P ts out := by
  induction calls, ts using spelledIn.induct generalizing out with
  | case1 =>
    obtain rfl : [] = out := by simpa [spelledIn] using h
    exact nil
  | case2 calls t r hzero =>
    obtain ⟨hin, rfl⟩ := hzero
    rw [spelledIn_zero hin] at h
    cases h
  | case3 calls t r hroom hlist ih =>
    rw [spelledIn_of_copy hlist fun hin => Nat.pos_of_ne_zero fun hzero => hroom ⟨hin, hzero⟩] at h
    obtain ⟨out', ho, rfl⟩ := exists_of_map_eq_ok h
    exact copy t r out' hQ hlist (ih ho (part (List.suffix_cons t r).isInfix hQ))
  | case4 calls t r hroom hlist =>
    rw [spelledIn_of_open hlist (Nat.pos_of_ne_zero fun hzero => hroom ⟨Token.isIn_of_list? hlist, hzero⟩)] at h
    cases h
  | case5 calls t r hroom elements rest hlist hlt =>
    rw [spelledIn_of_lt_two hlist hlt] at h
    cases h
  | case6 calls t r hroom elements rest hlist hlt ih ih' =>
    rw [spelledIn_of_list hlist (by omega)] at h
    obtain ⟨es, hes, h⟩ := exists_of_bind_eq_ok h
    obtain ⟨out', ho, rfl⟩ := exists_of_map_eq_ok h
    have hr : Q r := part (List.suffix_cons t r).isInfix hQ
    obtain ⟨helements, hrest⟩ := Token.infix_of_list? hlist (lexed hr)
    refine list t r elements rest es out' hQ hlist ?_ (ih' ho (part hrest.isInfix hr))
    have hall := (List.forall₂_and_left _ _).2 ⟨fun e (he : e ∈ elements) => he, forall₂_of_mapM_eq_ok hes⟩
    exact hall.imp fun e _ ⟨he, hs⟩ => ih ⟨e, he⟩ hs (part (helements e he) hr)

end FeatureGraph.Cypher

namespace FeatureGraph.Filter

section
variable {namespaceName text w : String} {library : Library} {calls : Nat}

/-- A predicate is spelled from the tokens of the filter in normal form. -/
theorem exists_tokens_of_predicate (h : predicate namespaceName text library calls = .ok w) :
    ∃ sql ts, qualified namespaceName text library = .ok sql ∧ Cypher.tokens sql = .ok ts ∧
      Cypher.spelledIn calls ts = .ok w.toList := by
  rw [predicate] at h
  obtain ⟨sql, hsql, h⟩ := exists_of_bind_eq_ok h
  obtain ⟨out, hout, hw⟩ := exists_of_bind_eq_ok h
  obtain rfl : String.ofList out = w := Except.ok.inj hw
  rw [Cypher.ofRendered] at hout
  obtain ⟨ts, hts, hspelled⟩ := exists_of_bind_eq_ok hout
  rw [String.toList_ofList]
  exact ⟨sql, ts, hsql, mapError_eq_ok_iff.1 hts, hspelled⟩

theorem predicate_of_qualified {sql : List Char} (hq : qualified namespaceName text library = .ok sql)
    (ho : Cypher.ofRendered sql calls = .ok w.toList) : predicate namespaceName text library calls = .ok w := by
  rw [predicate, hq]
  change (Cypher.ofRendered sql calls >>= fun out => pure (String.ofList out)) = _
  rw [ho]
  exact congrArg Except.ok String.ofList_toList

theorem restriction_of_predicate (ht : isTrivial text = false)
    (hp : predicate namespaceName (String.ofList (normalizeObjectId text.toList)) library calls = .ok w) :
    restriction namespaceName (some text) [] library calls = .ok (some w) := by
  simp only [restriction, List.isEmpty_nil, Bool.not_true, Bool.false_eq_true, if_false, ht, hp]
  rfl

theorem predicate_of_restriction (h : restriction namespaceName (some text) [] library calls = .ok (some w)) :
    predicate namespaceName (String.ofList (normalizeObjectId text.toList)) library calls = .ok w := by
  simp only [restriction, List.isEmpty_nil, Bool.not_true, Bool.false_eq_true, if_false] at h
  split at h
  · simp at h
  · obtain ⟨v, hv, heq⟩ := exists_of_map_eq_ok h
    rwa [← Option.some.inj heq]

theorem predicate_of_restriction_ids {filter : Option String} {ids : List Json} (hids : ids ≠ [])
    (h : restriction namespaceName filter ids library calls = .ok (some w)) :
    predicate namespaceName (ofObjectIds ids) library calls = .ok w := by
  have hempty : ids.isEmpty = false := by simpa using hids
  simp only [restriction, hempty, Bool.not_false, if_true] at h
  obtain ⟨text, htext, h⟩ := exists_of_bind_eq_ok h
  obtain ⟨v, hv, heq⟩ := exists_of_map_eq_ok h
  have hwritten : objectIds ids = .ok text := mapError_eq_ok_iff.1 htext
  rw [objectIds] at hwritten
  split at hwritten
  · obtain rfl := Except.ok.inj hwritten
    rwa [← Option.some.inj heq]
  · cases hwritten

end

end FeatureGraph.Filter
