import FeatureGraph.Proofs.Cypher.Forest
import FeatureGraph.Proofs.Cypher.Quotation
import FeatureGraph.Proofs.Cypher.Scanning

/-! # A filter is spelled as its forest is rewritten

The spelling of a filter goes through its tokens with a count of open parentheses, and its rewriting through the
groups of its forest. A list that is left open is all that the spelling refuses. -/
namespace FeatureGraph.Cypher

section Lists
variable {f inner rest : Forest} {t : Token} {r us element : List Token} {d calls : Nat}

namespace Forest

/-- What stands within further parentheses goes into the element at hand. -/
theorem Closed.splitList_append (h : f.Closed) :
    splitList (d + 1) element (f.tokens ++ us) = splitList (d + 1) (f.tokens.reverse ++ element) us := by
  induction f generalizing d element us with
  | nil => rfl
  | leaf t f ih =>
    have hstep : splitList (d + 1) element (t :: (f.tokens ++ us)) =
        splitList (d + 1) (t :: element) (f.tokens ++ us) := by
      rw [splitList]
      split <;> simp_all [Closed]
    rw [tokens, List.cons_append, hstep, ih h.2.2]
    simp
  | group i f ihi ih =>
    rw [tokens, List.cons_append, List.append_assoc, List.cons_append, splitList, ihi h.1, splitList]
    simp [ih h.2]

/-- A group is split at its commas. -/
theorem Closed.splitList_closing (h : f.Closed) :
    splitList 0 element (f.tokens ++ ⟨.closing, [')']⟩ :: us) =
      some ((f.segments.map tokens).modifyHead (element.reverse ++ ·), us) := by
  induction f generalizing element with
  | nil => simp [tokens, splitList, segments]
  | leaf t f ih =>
    rw [tokens, List.cons_append, segments]
    by_cases hk : t.kind = .comma
    · simp only [splitList, hk, ih h.2.2]
      cases f.segments <;> simp [tokens]
    · have hstep : splitList 0 element (t :: (f.tokens ++ ⟨.closing, [')']⟩ :: us)) =
          splitList 0 (t :: element) (f.tokens ++ ⟨.closing, [')']⟩ :: us) := by
        rw [splitList]
        split <;> simp_all [Closed]
      rw [hstep, ih h.2.2, if_neg hk]
      cases f.segments <;> simp [tokens]
  | group i f _ ih =>
    rw [tokens, List.cons_append, List.append_assoc, List.cons_append, splitList,
      h.1.splitList_append, splitList, if_neg (by simp), Nat.add_sub_cancel, ih h.2, segments]
    cases f.segments <;> simp [tokens]

theorem Matched.splitList_eq_none (h : f.Matched) (hc : f.untilClosing? = none) :
    splitList d element f.tokens = none := by
  induction f generalizing d element with
  | nil => rfl
  | leaf t f ih =>
    simp only [untilClosing?] at hc
    split at hc
    · simp at hc
    · have hf {d : Nat} {element : List Token} : splitList d element f.tokens = none :=
        ih h.2 (by simpa using hc)
      rw [tokens, splitList]
      split <;> simp_all
  | group i f _ ih =>
    rw [tokens, splitList, h.1.splitList_append, splitList, if_neg (by simp), Nat.add_sub_cancel]
    exact ih h.2 (by simpa [untilClosing?] using hc)

theorem Closed.of_mem_segments {s : Forest} (h : f.Closed) (hs : s ∈ f.segments) : s.Closed := by
  induction f generalizing s with
  | nil => simp_all [segments]
  | leaf t f ih =>
    simp only [segments] at hs
    split at hs
    · rcases List.mem_cons.1 hs with rfl | hs
      · trivial
      · exact ih h.2.2 hs
    · rcases mem_modifyHead hs with hs | ⟨s', hs', rfl⟩
      · exact ih h.2.2 hs
      · exact ⟨h.1, h.2.1, ih h.2.2 hs'⟩
  | group i f _ ih =>
    rcases mem_modifyHead hs with hs | ⟨s', hs', rfl⟩
    · exact ih h.2 hs
    · exact ⟨h.1, ih h.2 hs'⟩

theorem Closed.not_leftOpen (h : f.Closed) : ¬ f.LeftOpen := by
  have hopens {g : Forest} (hg : g.Closed) : ¬ g.Opens := by
    induction g with
    | leaf t g ih => exact fun ho => ho.elim hg.1 fun ho => ih hg.2.2 ho.2
    | _ => exact id
  induction f with
  | nil => exact id
  | leaf t f ih => exact fun ho => ho.elim (fun ho => hopens h.2.2 ho.2) (ih h.2.2)
  | group i f _ ih => exact ih h.2

/-- The list after an `IN` is the group that stands there. -/
theorem listAfter?_of_group? (h : f.group? = some (inner, rest)) (hi : inner.Closed) :
    listAfter? (f.tokens ++ us) = some (some (inner.segments.map tokens, rest.tokens ++ us)) := by
  induction f with
  | nil => simp [group?] at h
  | leaf t f ih =>
    simp only [group?] at h
    split at h
    · next hk =>
      rw [tokens, List.cons_append, listAfter?_space hk]
      exact ih h
    · simp at h
  | group i f =>
    obtain ⟨rfl, rfl⟩ : i = inner ∧ f = rest := by simpa [group?] using h
    rw [tokens, List.cons_append, List.append_assoc, List.cons_append, listAfter?_cons (by simp), if_pos rfl,
      hi.splitList_closing]
    cases i.segments <;> simp

theorem Matched.of_group? (h : f.Matched) (hg : f.group? = some (inner, rest)) :
    inner.Closed ∧ rest.Matched ∧ ¬ f.Opens ∧ (f.LeftOpen ↔ rest.LeftOpen) := by
  induction f with
  | nil => simp [group?] at hg
  | leaf t f ih =>
    simp only [group?] at hg
    split at hg
    · next hk =>
      obtain ⟨hi, hr, ho, hl⟩ := ih h.2 hg
      have hin : ¬ t.isIn := fun hin => by simp [Token.kind_of_isIn hin] at hk
      exact ⟨hi, hr, by simp [Opens, hk, ho], by simp [LeftOpen, hin, hl]⟩
    · simp at hg
  | group i f =>
    obtain ⟨rfl, rfl⟩ : i = inner ∧ f = rest := by simpa [group?] using hg
    exact ⟨h.1, h.2, id, Iff.rfl⟩

/-- No list stands after an `IN` where no parenthesis opens. -/
theorem listAfter?_eq_none (hg : f.group? = none) (ho : ¬ f.Opens) (hs : ∀ t ∈ us.head?, t.kind = .closing) :
    listAfter? (f.tokens ++ us) = none := by
  induction f with
  | nil =>
    cases us with
    | nil => rfl
    | cons t us =>
      have ht : t.kind = .closing := hs t rfl
      simp [tokens, listAfter?_cons, ht]
  | leaf t f ih =>
    obtain ⟨hk, ho⟩ : t.kind ≠ .opening ∧ (t.kind = .space → ¬ f.Opens) := by simpa [Opens] using ho
    rw [tokens, List.cons_append]
    by_cases hsp : t.kind = .space
    · rw [listAfter?_space hsp]
      exact ih (by simpa [group?, hsp] using hg) (ho hsp)
    · rw [listAfter?_cons hsp, if_neg hk]
  | group i f => simp [group?] at hg

theorem Matched.listAfter?_of_opens (h : f.Matched) (ho : f.Opens) : listAfter? f.tokens = some none := by
  induction f with
  | nil => exact ho.elim
  | leaf t f ih =>
    rcases ho with hk | ⟨hk, ho⟩
    · rw [tokens, listAfter?_cons (by simp [hk]), if_pos hk, h.2.splitList_eq_none (h.1 hk)]
    · rw [tokens, listAfter?_space hk]
      exact ih h.2 ho
  | group i f => exact ho.elim

/-- Results that are there if there is room for all. -/
theorem mapM_eq_ite {ε α β : Type} {f : α → Except ε β} {g : α → β} {needs : α → Nat} {xs : List α} {n : Nat} {e : ε}
    (h : ∀ x ∈ xs, f x = if needs x ≤ n then .ok (g x) else .error e) :
    xs.mapM f = if (xs.map needs).foldr max 0 ≤ n then .ok (xs.map g) else .error e := by
  induction xs with
  | nil => rfl
  | cons x xs ih =>
    obtain ⟨hx, hxs⟩ := List.forall_mem_cons.1 h
    rw [List.mapM_cons, hx, ih hxs, List.map_cons, List.foldr_cons, List.map_cons]
    by_cases hn : needs x ≤ n <;> by_cases hns : (xs.map needs).foldr max 0 ≤ n <;>
      simp only [Nat.max_le, hn, hns, and_true, and_false, if_true, if_false] <;> rfl

theorem list?_eq_none (h : (if t.isIn then f.group? else none) = none) (ho : ¬ (t.isIn ∧ f.Opens))
    (hs : ∀ t ∈ us.head?, t.kind = .closing) : t.list? (f.tokens ++ us) = none := by
  by_cases hin : t.isIn
  · rw [Token.list?, if_pos hin]
    exact listAfter?_eq_none (by simpa [hin] using h) (fun hf => ho ⟨hin, hf⟩) hs
  · rw [Token.list?, if_neg hin]

theorem calls_in_room {n : Nat} (hroom : t.isIn → 0 < calls) :
    max (if t.isIn then 1 else 0) n ≤ calls ↔ n ≤ calls := by
  split
  · next hin =>
    have := hroom hin
    omega
  · omega

/-- The parentheses of a group are copied. -/
theorem spelledIn_group (h : spelledIn calls (inner.tokens ++ ⟨.closing, [')']⟩ :: us) =
      if inner.calls ≤ calls then (spelledIn calls (⟨.closing, [')']⟩ :: us)).map (inner.rewritten ++ ·)
      else .error (Defect.tooDeep "")) :
    spelledIn calls ((group inner nil).tokens ++ us) =
      if inner.calls ≤ calls then (spelledIn calls us).map ('(' :: inner.rewritten ++ ')' :: ·)
      else .error (Defect.tooDeep "") := by
  have hopen : spelledIn calls ((group inner nil).tokens ++ us) =
      (spelledIn calls (inner.tokens ++ ⟨.closing, [')']⟩ :: us)).map ('(' :: ·) := by
    rw [tokens, List.cons_append, List.append_assoc]
    exact spelledIn_of_copy rfl (by simp [Token.isIn])
  have hclose : spelledIn calls (⟨.closing, [')']⟩ :: us) = (spelledIn calls us).map (')' :: ·) :=
    spelledIn_of_copy rfl (by simp [Token.isIn])
  rw [hopen, h, hclose]
  by_cases hc : inner.calls ≤ calls
  · rw [if_pos hc, if_pos hc]
    cases spelledIn calls us <;> simp [Except.map]
  · rw [if_neg hc, if_neg hc]
    rfl

theorem closing_of_mem_head?_nil : ∀ t ∈ ([] : List Token).head?, t.kind = .closing := nofun

/-- A list is spelled if there is room for its elements and for what follows it. -/
theorem spelledIn_list {x : Except Fault (List Char)} {n : Nat}
    (hlist : (if t.isIn then f.group? else none) = some (inner, rest)) (hinner : inner.Closed)
    (hsegments : ∀ s ∈ inner.segments, spelledIn (calls - 2) s.tokens =
      if s.calls ≤ calls - 2 then .ok s.rewritten else .error (Defect.tooDeep ""))
    (hrest : spelledIn calls (rest.tokens ++ us) = if n ≤ calls then x else .error (Defect.tooDeep "")) :
    spelledIn calls ((leaf t f).tokens ++ us) =
      if max (2 + (inner.segments.map Forest.calls).foldr max 0) n ≤ calls then
        x.map (bracketed (inner.segments.map rewritten) ++ ·)
      else .error (Defect.tooDeep "") := by
  obtain ⟨hin, hg⟩ := Option.ite_none_right_eq_some.1 hlist
  have hlist? : t.list? (f.tokens ++ us) = some (some (inner.segments.map tokens, rest.tokens ++ us)) := by
    rw [Token.list?, if_pos hin, listAfter?_of_group? hg hinner]
  rw [tokens, List.cons_append]
  by_cases htwo : calls < 2
  · rw [spelledIn_of_lt_two hlist? htwo, if_neg (by omega)]
  · have helements : (inner.segments.map tokens).mapM (spelledIn (calls - 2)) =
        if (inner.segments.map Forest.calls).foldr max 0 ≤ calls - 2 then .ok (inner.segments.map rewritten)
        else .error (Defect.tooDeep "") := by
      rw [List.mapM_map]
      exact mapM_eq_ite hsegments
    have hroom : max (2 + (inner.segments.map Forest.calls).foldr max 0) n ≤ calls ↔
        (inner.segments.map Forest.calls).foldr max 0 ≤ calls - 2 ∧ n ≤ calls := by omega
    rw [spelledIn_of_list hlist? (by omega), helements, hrest]
    simp only [hroom]
    by_cases hes : (inner.segments.map Forest.calls).foldr max 0 ≤ calls - 2 <;> by_cases hn : n ≤ calls <;>
      simp only [hes, hn, and_true, and_false, if_true, if_false] <;> rfl

/-- Tokens are spelled as their forest is rewritten, before what closes a group or nothing. -/
theorem Matched.spelledIn_append (h : f.Matched) (ho : ¬ f.LeftOpen) (hs : ∀ t ∈ us.head?, t.kind = .closing) :
    spelledIn calls (f.tokens ++ us) =
      if f.calls ≤ calls then (spelledIn calls us).map (f.rewritten ++ ·) else .error (Defect.tooDeep "") := by
  induction f using rewritten.induct generalizing calls us with
  | case1 =>
    rw [Forest.calls, if_pos (Nat.zero_le _), tokens, rewritten, List.nil_append]
    cases spelledIn calls us <;> rfl
  | case2 t f inner rest hlist ihs ih =>
    obtain ⟨-, hg⟩ := Option.ite_none_right_eq_some.1 hlist
    obtain ⟨hinner, hrest, -, hl⟩ := h.2.of_group? hg
    have hor : ¬ rest.LeftOpen := fun hr => ho (.inr (hl.2 hr))
    have hsegments : ∀ s ∈ inner.segments, spelledIn (calls - 2) s.tokens =
        if s.calls ≤ calls - 2 then .ok s.rewritten else .error (Defect.tooDeep "") := by
      intro s hs
      have hc := hinner.of_mem_segments hs
      have hspelled : spelledIn (calls - 2) (s.tokens ++ []) = _ :=
        ihs ⟨s, hs⟩ hc.matched hc.not_leftOpen closing_of_mem_head?_nil
      simpa [spelledIn, Except.map] using hspelled
    rw [spelledIn_list hlist hinner hsegments (ih hrest hor hs), calls_of_list hlist, rewritten_of_list hlist]
    cases spelledIn calls us <;> simp [Except.map]
  | case3 t f hlist ih =>
    obtain ⟨hopens, hof⟩ := not_or.1 ho
    rw [tokens, List.cons_append, calls_of_copy hlist hopens, rewritten_of_copy hlist]
    by_cases hroom : t.isIn → 0 < calls
    · rw [spelledIn_of_copy (list?_eq_none hlist hopens hs) hroom, ih h.2 hof hs]
      simp only [calls_in_room hroom]
      by_cases hc : f.calls ≤ calls
      · rw [if_pos hc, if_pos hc]
        cases spelledIn calls us <;> simp [Except.map]
      · rw [if_neg hc, if_neg hc]
        rfl
    · obtain ⟨hin, hzero⟩ := Classical.not_imp.1 hroom
      obtain rfl : calls = 0 := by omega
      rw [spelledIn_zero hin, if_pos hin, if_neg (by omega)]
  | case4 i f ihi ih =>
    have hf : (group i f).tokens ++ us = (group i nil).tokens ++ (f.tokens ++ us) := by simp [tokens]
    rw [hf, spelledIn_group (ihi h.1.matched h.1.not_leftOpen (by simp)), ih h.2 ho hs, calls_group, rewritten_group]
    by_cases hi : i.calls ≤ calls <;> by_cases hc : f.calls ≤ calls <;>
      cases spelledIn calls us <;> simp [hi, hc, Except.map]

theorem Matched.spelledIn_eq (h : f.Matched) (ho : ¬ f.LeftOpen) :
    spelledIn calls f.tokens = if f.calls ≤ calls then .ok f.rewritten else .error (Defect.tooDeep "") := by
  have hspelled : spelledIn calls (f.tokens ++ []) = _ := h.spelledIn_append ho closing_of_mem_head?_nil
  simpa [spelledIn, Except.map] using hspelled

/-- A list that is left open is refused, if there is room for what stands before it. -/
theorem Matched.spelledIn_of_leftOpen (h : f.Matched) (ho : f.LeftOpen) :
    spelledIn calls f.tokens = if f.calls ≤ calls then .error unbalanced else .error (Defect.tooDeep "") := by
  induction f using rewritten.induct with
  | case1 => exact ho.elim
  | case2 t f inner rest hlist _ ih =>
    obtain ⟨-, hg⟩ := Option.ite_none_right_eq_some.1 hlist
    obtain ⟨hinner, hrest, hopens, hl⟩ := h.2.of_group? hg
    have hor : rest.LeftOpen := hl.1 (ho.resolve_left fun ho => hopens ho.2)
    have hsegments : ∀ s ∈ inner.segments, spelledIn (calls - 2) s.tokens =
        if s.calls ≤ calls - 2 then .ok s.rewritten else .error (Defect.tooDeep "") := fun s hs =>
      (hinner.of_mem_segments hs).matched.spelledIn_eq (hinner.of_mem_segments hs).not_leftOpen
    have hspelled : spelledIn calls ((leaf t f).tokens ++ []) = _ :=
      spelledIn_list hlist hinner hsegments (by simpa using ih hrest hor)
    rw [List.append_nil] at hspelled
    rw [hspelled, calls_of_list hlist]
    rfl
  | case3 t f hlist ih =>
    by_cases hopens : t.isIn ∧ f.Opens
    · obtain ⟨hin, hof⟩ := hopens
      have hlist? : t.list? f.tokens = some none := by
        rw [Token.list?, if_pos hin, h.2.listAfter?_of_opens hof]
      rw [tokens, calls_of_open (by simpa [hin] using hlist) hin hof]
      by_cases hc : 1 ≤ calls
      · rw [spelledIn_of_open hlist? hc, if_pos hc]
      · obtain rfl : calls = 0 := by omega
        rw [spelledIn_zero hin, if_neg hc]
    · have hlist? : t.list? f.tokens = none := by
        simpa using list?_eq_none hlist hopens closing_of_mem_head?_nil
      rw [tokens, calls_of_copy hlist hopens]
      by_cases hroom : t.isIn → 0 < calls
      · rw [spelledIn_of_copy hlist? hroom, ih h.2 (ho.resolve_left hopens)]
        simp only [calls_in_room hroom]
        split <;> rfl
      · obtain ⟨hin, hzero⟩ := Classical.not_imp.1 hroom
        obtain rfl : calls = 0 := by omega
        rw [spelledIn_zero hin, if_pos hin, if_neg (by omega)]
  | case4 i f _ ih =>
    have hf : (group i f).tokens = (group i nil).tokens ++ f.tokens := by simp [tokens]
    rw [hf, spelledIn_group (h.1.matched.spelledIn_append h.1.not_leftOpen (by simp)), ih h.2 ho, calls_group]
    by_cases hi : i.calls ≤ calls <;> by_cases hc : f.calls ≤ calls <;> simp [hi, hc, Except.map]

/-- An `IN` before a group opens no list beyond it. -/
theorem Closed.leftOpen_append (h : inner.Closed) (ht : t.kind = .closing) :
    (inner.append (leaf t rest)).LeftOpen ↔ rest.LeftOpen := by
  have hopens {g : Forest} (hg : g.Closed) : ¬ (g.append (leaf t rest)).Opens := by
    induction g with
    | nil => simp [append, Opens, ht]
    | leaf u g ih => simp [append, Opens, hg.1, ih hg.2.2]
    | group i g => exact id
  induction inner with
  | nil => simp [append, LeftOpen, Token.isIn, ht]
  | leaf u f ih => simp [append, LeftOpen, hopens h.2.2, ih h.2.2]
  | group i f _ ih => exact ih h.2

end Forest

/-- A parenthesis is closed further on: those before the one that closes it match. -/
def Closes (ts : List Token) : Prop :=
  ∃ inner rest, ts = inner ++ ⟨.closing, [')']⟩ :: rest ∧ TokensNest inner

/-- A parenthesis that nothing closes comes first, blanks aside. -/
def OpensUnclosed (ts : List Token) : Prop :=
  ∃ spaces after, ts = spaces ++ ⟨.opening, ['(']⟩ :: after ∧ (∀ t ∈ spaces, t.kind = .space) ∧ ¬ Closes after

/-- An `IN` stands before such a parenthesis. -/
def ListLeftOpen (ts : List Token) : Prop :=
  ∃ before t after, ts = before ++ t :: after ∧ t.isIn ∧ OpensUnclosed after

theorem closes_iff (h : ∀ t ∈ r, t.Lexed) : Closes r ↔ (forest r).untilClosing? ≠ none := by
  constructor
  · rintro ⟨inner, rest, rfl, hn⟩
    have hl : ∀ t ∈ inner, t.Lexed := fun t ht => h t (by simp [ht])
    have hc := (closed_forest_iff hl).2 hn
    have happend : forest (inner ++ ⟨.closing, [')']⟩ :: rest) =
        (forest inner).append (forest (⟨.closing, [')']⟩ :: rest)) := by
      rw [← hc.forest_append, tokens_forest hl]
    rw [happend, forest]
    simp [Forest.untilClosing?_append hc]
  · intro hne
    obtain ⟨⟨inner, rest⟩, hc⟩ := Option.ne_none_iff_exists'.1 hne
    obtain ⟨hi, -, u, hu, hf⟩ := matched_forest.of_untilClosing? hc
    have hr := tokens_forest h
    rw [hf, Forest.tokens_append, Forest.tokens] at hr
    have hut : u.Lexed := h u (by simp [← hr])
    exact ⟨inner.tokens, rest.tokens, by rw [← hr, hut.eq_closing hu], hi.openAfter⟩

theorem opensUnclosed_cons (h : t.Lexed) :
    OpensUnclosed (t :: r) ↔ t.kind = .opening ∧ ¬ Closes r ∨ t.kind = .space ∧ OpensUnclosed r := by
  constructor
  · rintro ⟨spaces, after, heq, hs, hc⟩
    cases spaces with
    | nil =>
      obtain ⟨rfl, rfl⟩ : t = ⟨.opening, ['(']⟩ ∧ r = after := by simpa using heq
      exact .inl ⟨rfl, hc⟩
    | cons u spaces =>
      obtain ⟨rfl, rfl⟩ : t = u ∧ r = spaces ++ ⟨.opening, ['(']⟩ :: after := by simpa using heq
      exact .inr ⟨hs t (by simp), spaces, after, rfl, fun v hv => hs v (by simp [hv]), hc⟩
  · rintro (⟨hk, hc⟩ | ⟨hk, spaces, after, rfl, hs, hc⟩)
    · exact ⟨[], r, by rw [h.eq_opening hk]; rfl, by simp, hc⟩
    · exact ⟨t :: spaces, after, rfl, by simpa [hk] using hs, hc⟩

theorem opens_forest_iff (h : ∀ t ∈ r, t.Lexed) : (forest r).Opens ↔ OpensUnclosed r := by
  induction r with
  | nil => simp [forest, Forest.Opens, OpensUnclosed]
  | cons t r ih =>
    have hr : ∀ u ∈ r, u.Lexed := fun u hu => h u (by simp [hu])
    rw [opensUnclosed_cons (h t (by simp)), closes_iff hr, not_not, ← ih hr, forest]
    split
    · next inner rest hc =>
      obtain ⟨hk, hc⟩ := Option.ite_none_right_eq_some.1 hc
      simp [Forest.Opens, hk, hc]
    · next hc =>
      have hc : t.kind = .opening → (forest r).untilClosing? = none := fun hk => by simpa [hk] using hc
      exact or_congr_left ⟨fun hk => ⟨hk, hc hk⟩, And.left⟩

theorem listLeftOpen_cons : ListLeftOpen (t :: r) ↔ t.isIn ∧ OpensUnclosed r ∨ ListLeftOpen r := by
  constructor
  · rintro ⟨before, u, after, heq, hin, ho⟩
    cases before with
    | nil =>
      obtain ⟨rfl, rfl⟩ : t = u ∧ r = after := by simpa using heq
      exact .inl ⟨hin, ho⟩
    | cons v before =>
      obtain ⟨rfl, rfl⟩ : t = v ∧ r = before ++ u :: after := by simpa using heq
      exact .inr ⟨before, u, after, rfl, hin, ho⟩
  · rintro (⟨hin, ho⟩ | ⟨before, u, after, rfl, hin, ho⟩)
    · exact ⟨[], t, r, rfl, hin, ho⟩
    · exact ⟨t :: before, u, after, rfl, hin, ho⟩

theorem leftOpen_forest_iff (h : ∀ t ∈ r, t.Lexed) : (forest r).LeftOpen ↔ ListLeftOpen r := by
  induction r with
  | nil => simp [forest, Forest.LeftOpen, ListLeftOpen]
  | cons t r ih =>
    have hr : ∀ u ∈ r, u.Lexed := fun u hu => h u (by simp [hu])
    rw [listLeftOpen_cons, ← ih hr, ← opens_forest_iff hr, forest]
    split
    · next inner rest hc =>
      obtain ⟨hk, hc⟩ := Option.ite_none_right_eq_some.1 hc
      obtain ⟨hi, -, u, hu, hf⟩ := matched_forest.of_untilClosing? hc
      rw [hf, hi.leftOpen_append hu]
      simp [Forest.LeftOpen, Token.isIn, hk]
    · rfl

/-- Tokens are spelled as their forest is rewritten, unless a list is left open or there is no room. -/
theorem spelledIn_eq_ok_iff {out : List Char} (h : ∀ u ∈ r, u.Lexed) :
    spelledIn calls r = .ok out ↔ ¬ ListLeftOpen r ∧ (forest r).calls ≤ calls ∧ out = (forest r).rewritten := by
  rw [← leftOpen_forest_iff h]
  conv_lhs => rw [← tokens_forest h]
  by_cases ho : (forest r).LeftOpen
  · rw [matched_forest.spelledIn_of_leftOpen ho]
    split <;> simp [ho]
  · rw [matched_forest.spelledIn_eq ho]
    split <;> simp_all [eq_comm]

theorem spelledIn_eq_error_iff {e : Fault} (h : ∀ u ∈ r, u.Lexed) :
    spelledIn calls r = .error e ↔
      e = unbalanced ∧ ListLeftOpen r ∧ (forest r).calls ≤ calls ∨
      e = Defect.tooDeep "" ∧ calls < (forest r).calls := by
  rw [← leftOpen_forest_iff h]
  conv_lhs => rw [← tokens_forest h]
  by_cases ho : (forest r).LeftOpen
  · rw [matched_forest.spelledIn_of_leftOpen ho]
    split <;> simp_all [eq_comm]
  · rw [matched_forest.spelledIn_eq ho]
    split <;> simp_all [eq_comm]

/-- The elements of a list are spelled where there is room for them: nothing in them is left open. -/
theorem spelledIn_of_list? {es : List (List Token)} {e rest : List Token}
    (h : t.list? r = some (some (es, rest))) (hl : ∀ u ∈ r, u.Lexed) (he : e ∈ es) :
    spelledIn calls e =
      if (forest e).calls ≤ calls then .ok (forest e).rewritten else .error (Defect.tooDeep "") := by
  obtain ⟨us, hs⟩ := Token.splitList_of_list? h
  have hle : ∀ u ∈ e, u.Lexed := fun u hu => hl u (((Token.infix_of_list? h hl).1 e he).subset hu)
  have hc : (forest e).Closed := (closed_forest_iff hle).2 (tokensNest_of_splitList hs rfl e he)
  conv_lhs => rw [← tokens_forest hle]
  exact hc.matched.spelledIn_eq hc.not_leftOpen

theorem literals_eq_tokens (cs : List Char) : literals cs = (tokens cs).toOption.map literalTexts := by
  rw [literals_eq_scan 0, tokens]
  cases scan 0 cs <;> rfl

theorem ofRendered_of_tokens {cs : List Char} {ts : List Token} (h : tokens cs = .ok ts) :
    ofRendered cs calls = spelledIn calls ts := by
  rw [ofRendered, h]
  rfl

theorem ofRendered_of_tokens_error {cs : List Char} {e : Failure} (h : tokens cs = .error e) :
    ofRendered cs calls = .error (.failure e) := by
  rw [ofRendered, h]
  rfl

theorem kind_of_tokens_error {cs : List Char} {e : Failure} (h : tokens cs = .error e) :
    e.kind = .filterParse := by
  rw [tokens] at h
  cases hs : scan 0 cs with
  | error offset =>
    obtain rfl := Except.error.inj (hs ▸ h)
    rfl
  | ok ts => simp [hs, Except.mapError] at h

theorem ofRendered_eq_ok_iff {cs out : List Char} :
    ofRendered cs calls = .ok out ↔
      ∃ ts, tokens cs = .ok ts ∧ ¬ ListLeftOpen ts ∧ (forest ts).calls ≤ calls ∧ out = (forest ts).rewritten := by
  cases hts : tokens cs with
  | error e => simp [ofRendered_of_tokens_error hts]
  | ok ts =>
    rw [ofRendered_of_tokens hts, spelledIn_eq_ok_iff (scanned_of_tokens hts).lexed]
    simp

theorem ofRendered_eq_failure_iff {cs : List Char} :
    (∃ f : Failure, ofRendered cs calls = .error f) ↔
      literals cs = none ∨ ∃ ts, tokens cs = .ok ts ∧ ListLeftOpen ts ∧ (forest ts).calls ≤ calls := by
  rw [literals_eq_tokens]
  cases hts : tokens cs with
  | error e => simp [ofRendered_of_tokens_error hts, Except.toOption]
  | ok ts => simp [ofRendered_of_tokens hts, spelledIn_eq_error_iff (scanned_of_tokens hts).lexed, Except.toOption]

theorem ofRendered_eq_defect_iff {cs : List Char} {d : Defect} :
    ofRendered cs calls = .error d ↔ d = .tooDeep "" ∧ ∃ ts, tokens cs = .ok ts ∧ calls < (forest ts).calls := by
  cases hts : tokens cs with
  | error e => simp [ofRendered_of_tokens_error hts]
  | ok ts => simp [ofRendered_of_tokens hts, spelledIn_eq_error_iff (scanned_of_tokens hts).lexed]

theorem kind_of_ofRendered_error {cs : List Char} {f : Failure} (h : ofRendered cs calls = .error f) :
    f.kind = .filterParse := by
  cases hts : tokens cs with
  | error e =>
    obtain rfl : e = f := by simpa [ofRendered_of_tokens_error hts] using h
    exact kind_of_tokens_error hts
  | ok ts =>
    rw [ofRendered_of_tokens hts, spelledIn_eq_error_iff (scanned_of_tokens hts).lexed] at h
    rcases h with ⟨heq, -⟩ | ⟨heq, -⟩
    · obtain rfl := Fault.failure.inj heq
      rfl
    · cases heq

/-- A filter is spelled as its forest is rewritten, if there is room for its lists within each other: two calls for each
`IN` are enough. It is refused exactly when a quote or the list after an `IN` is left open, and never for an element of
a list. -/
theorem ofRendered_eq_rewritten (cs : List Char) (calls : Nat) :
    (∀ out, ofRendered cs calls = .ok out ↔
      ∃ ts, tokens cs = .ok ts ∧ ¬ ListLeftOpen ts ∧ (forest ts).calls ≤ calls ∧ out = (forest ts).rewritten) ∧
    ((∃ f : Failure, ofRendered cs calls = .error f) ↔
      literals cs = none ∨ ∃ ts, tokens cs = .ok ts ∧ ListLeftOpen ts ∧ (forest ts).calls ≤ calls) ∧
    (∀ f : Failure, ofRendered cs calls = .error f → f.kind = .filterParse) ∧
    (∀ d : Defect, ofRendered cs calls = .error d ↔
      d = .tooDeep "" ∧ ∃ ts, tokens cs = .ok ts ∧ calls < (forest ts).calls) ∧
    (∀ ts, tokens cs = .ok ts → (forest ts).calls ≤ 2 * ts.countP Token.isIn) ∧
    ∀ ts t r es rest e, tokens cs = .ok ts → t :: r <:+: ts → t.list? r = some (some (es, rest)) → e ∈ es →
      ∀ n, spelledIn n e =
        if (forest e).calls ≤ n then .ok (forest e).rewritten else .error (Defect.tooDeep "") := by
  refine ⟨fun _ => ofRendered_eq_ok_iff, ofRendered_eq_failure_iff, fun _ => kind_of_ofRendered_error,
    fun _ => ofRendered_eq_defect_iff, ?room, ?elements⟩
  case room =>
    intro ts hts
    have hl := (scanned_of_tokens hts).lexed
    conv_rhs => rw [← tokens_forest hl]
    exact (forest ts).calls_le
  case elements =>
    intro ts t r es rest e hts hr hlist he n
    have hl := (scanned_of_tokens hts).lexed
    exact spelledIn_of_list? hlist (fun u hu => hl u (hr.subset (by simp [hu]))) he

theorem ofRendered_eq_rewritten_nested :
    (∃ ts, tokens "a In (f(b in (1, 2)), , c) )".toList = .ok ts ∧ ¬ ListLeftOpen ts ∧ (forest ts).calls ≤ callLimit ∧
      "a IN [f(b IN [1,2]),c] )".toList = (forest ts).rewritten) ∧
    (∃ e, ofRendered "f(a) in (1, (2)".toList = .error (.failure e) ∧ e.kind = .filterParse) ∧
    spelledIn 0 [⟨.word, ['a']⟩] = .ok ['a'] := by
  have hout : (ofRendered "a In (f(b in (1, 2)), , c) )".toList).toOption =
      some "a IN [f(b IN [1,2]),c] )".toList := by decide +kernel
  have hfail : (match ofRendered "f(a) in (1, (2)".toList with
      | .error (.failure _) => true
      | _ => false) = true := by decide +kernel
  have htokens : (tokens "in (a)".toList).toOption =
      some [⟨.word, "in".toList⟩, ⟨.space, [' ']⟩, ⟨.opening, ['(']⟩, ⟨.word, ['a']⟩, ⟨.closing, [')']⟩] := by
    decide +kernel
  have helement : (forest [⟨.word, ['a']⟩]).calls ≤ 0 ∧ (forest [⟨.word, ['a']⟩]).rewritten = ['a'] := by decide +kernel
  refine ⟨((ofRendered_eq_rewritten _ _).1 _).1 (eq_ok_of_toOption hout), ?_, ?_⟩
  · split at hfail
    · next f hf => exact ⟨f, hf, (ofRendered_eq_rewritten _ _).2.2.1 f hf⟩
    · cases hfail
  · have hspelled := (ofRendered_eq_rewritten "in (a)".toList callLimit).2.2.2.2.2 _ ⟨.word, "in".toList⟩ _
      [[⟨.word, ['a']⟩]] [] _ (eq_ok_of_toOption htokens) List.infix_rfl (by decide +kernel) List.mem_cons_self 0
    rwa [if_pos helement.1, helement.2] at hspelled

/-! ## Lists within each other -/

namespace Forest

/-- A number of lists, each but the last the only element of the one before. -/
def nested : Nat → Forest
  | 0 => .nil
  | n + 1 => .leaf ⟨.word, ['i', 'n']⟩ (.group (nested n) .nil)

theorem closed_nested (n : Nat) : (nested n).Closed := by
  induction n with
  | zero => trivial
  | succ n ih => exact ⟨by simp, by simp, ih, trivial⟩

theorem segments_nested (n : Nat) : (nested n).segments = [nested n] := by
  cases n <;> rfl

/-- Each list takes two more calls. -/
theorem calls_nested (n : Nat) : (nested n).calls = 2 * n := by
  induction n with
  | zero => rw [nested, calls]
  | succ n ih =>
    have hin : Token.isIn ⟨.word, ['i', 'n']⟩ := by decide +kernel
    have hlist : (if Token.isIn ⟨.word, ['i', 'n']⟩ then (group (nested n) nil).group? else none) =
        some (nested n, nil) := if_pos hin
    rw [nested, calls_of_list hlist, segments_nested, List.map_singleton, ih, calls]
    simp
    omega

theorem append_nil (f : Forest) : f.append nil = f := by
  induction f <;> simp_all [append]

theorem whole_nested (n : Nat) : ∀ t ∈ (nested n).tokens, t.Whole := by
  induction n with
  | zero => simp [nested, tokens]
  | succ n ih =>
    simp only [nested, tokens, List.forall_mem_cons, List.forall_mem_append]
    exact ⟨.word (by decide) (by decide), .opening, ih, .closing, by simp⟩

theorem isChain_nested (n : Nat) {us : List Token} (h : us.IsChain Token.Separate) :
    ((nested n).tokens ++ us).IsChain Token.Separate := by
  have hopening (u : Token) : Token.Separate ⟨.opening, ['(']⟩ u := fun _ _ => trivial
  have hclosing (u : Token) : Token.Separate ⟨.closing, [')']⟩ u := fun _ _ => trivial
  induction n generalizing us with
  | zero => exact h
  | succ n ih =>
    have hin : Token.Separate ⟨.word, ['i', 'n']⟩ ⟨.opening, ['(']⟩ := by
      rintro c ⟨⟩
      decide
    have hrest := ih (List.isChain_cons.2 ⟨fun u _ => hclosing u, h⟩)
    simp only [nested, tokens, List.cons_append, List.append_assoc, List.nil_append]
    exact List.isChain_cons_cons.2 ⟨hin, List.isChain_cons.2 ⟨fun u _ => hopening u, hrest⟩⟩

end Forest

theorem tokens_nested (n : Nat) :
    tokens ((Forest.nested n).tokens.flatMap Token.text) = .ok (Forest.nested n).tokens := by
  refine tokens_flatMap_text (Forest.whole_nested n) ?_
  simpa using Forest.isChain_nested n .nil

theorem ofRendered_nested (n calls : Nat) :
    ofRendered ((Forest.nested n).tokens.flatMap Token.text) calls =
      if 2 * n ≤ calls then .ok (Forest.nested n).rewritten else .error (Defect.tooDeep "") := by
  have hc := Forest.closed_nested n
  rw [ofRendered_of_tokens (tokens_nested n), hc.matched.spelledIn_eq hc.not_leftOpen, Forest.calls_nested]

/-- No quote and no list is left open, but there is no room for the last list. -/
theorem ofRendered_nested_tooDeep :
    ∃ cs ts, cs = (Forest.nested 481).tokens.flatMap Token.text ∧ (literals cs).isSome ∧ tokens cs = .ok ts ∧
      ¬ ListLeftOpen ts ∧ ofRendered cs = .error (Defect.tooDeep "") := by
  have hts := tokens_nested 481
  have hl := (scanned_of_tokens hts).lexed
  refine ⟨_, _, rfl, ?_, hts, ?_, ?_⟩
  · rw [literals_eq_tokens, hts]
    rfl
  · rw [← leftOpen_forest_iff hl]
    exact ((closed_forest_iff hl).2 (Forest.closed_nested 481).openAfter).not_leftOpen
  · rw [ofRendered_nested, if_neg (by decide)]

end Lists

end FeatureGraph.Cypher
