import FeatureGraph.Proofs.Cypher.Nesting
import Mathlib.Data.List.MinMax
import Mathlib.Order.Nat

/-! # A filter as a forest of parentheses

The parentheses of a filter that match hold groups; those that do not stand alone. To group them and to count them
comes to the same. -/
namespace FeatureGraph.Cypher

/-- Tokens and groups in parentheses, one after the other. -/
inductive Forest where
  | nil
  | leaf (t : Token) (next : Forest)
  | group (inner : Forest) (next : Forest)

namespace Forest

def tokens : Forest → List Token
  | nil => []
  | leaf t f => t :: f.tokens
  | group inner f => ⟨.opening, ['(']⟩ :: (inner.tokens ++ ⟨.closing, [')']⟩ :: f.tokens)

def append : Forest → Forest → Forest
  | nil, g => g
  | leaf t f, g => leaf t (f.append g)
  | group inner f, g => group inner (f.append g)

/-- What stands before the first closing parenthesis that stands alone, and what stands after it. -/
def untilClosing? : Forest → Option (Forest × Forest)
  | nil => none
  | leaf t f =>
    if t.kind = .closing then some (nil, f) else f.untilClosing?.map fun (inner, rest) => (leaf t inner, rest)
  | group i f => f.untilClosing?.map fun (inner, rest) => (group i inner, rest)

/-- No parenthesis stands alone. -/
def Closed : Forest → Prop
  | nil => True
  | leaf t f => t.kind ≠ .opening ∧ t.kind ≠ .closing ∧ f.Closed
  | group inner f => inner.Closed ∧ f.Closed

/-- No parenthesis in a group stands alone, and no closing one that does follows an opening one that does:
all that could match do. -/
def Matched : Forest → Prop
  | nil => True
  | leaf t f => (t.kind = .opening → f.untilClosing? = none) ∧ f.Matched
  | group inner f => inner.Closed ∧ f.Matched

/-- The group that stands first, blanks aside, and what follows it. -/
def group? : Forest → Option (Forest × Forest)
  | nil => none
  | leaf t f => if t.kind = .space then f.group? else none
  | group inner f => some (inner, f)

/-- The segments between commas, those in groups aside. -/
def segments : Forest → List Forest
  | nil => [nil]
  | leaf t f => if t.kind = .comma then nil :: f.segments else f.segments.modifyHead (leaf t)
  | group inner f => f.segments.modifyHead (group inner)

/-- Whether an opening parenthesis that stands alone comes first, blanks aside. -/
def Opens : Forest → Prop
  | leaf t f => t.kind = .opening ∨ t.kind = .space ∧ f.Opens
  | _ => False

instance decidableOpens : (f : Forest) → Decidable f.Opens
  | nil => isFalse id
  | leaf _ f => @instDecidableOr _ _ _ (@instDecidableAnd _ _ _ (decidableOpens f))
  | group _ _ => isFalse id

/-- Whether an `IN` stands before such a parenthesis. -/
def LeftOpen : Forest → Prop
  | nil => False
  | leaf t f => t.isIn ∧ f.Opens ∨ f.LeftOpen
  | group _ f => f.LeftOpen

def size : Forest → Nat
  | nil => 0
  | leaf _ f => f.size + 1
  | group inner f => inner.size + f.size + 1

theorem size_of_group? {f inner rest : Forest} (h : f.group? = some (inner, rest)) :
    inner.size + rest.size < f.size := by
  induction f with
  | nil => simp [group?] at h
  | leaf t f ih =>
    simp only [group?] at h
    split at h
    · have := ih h
      simp only [size]
      omega
    · simp at h
  | group i f =>
    obtain ⟨rfl, rfl⟩ : i = inner ∧ f = rest := by simpa [group?] using h
    simp [size]

theorem mem_modifyHead {g : Forest → Forest} {s : Forest} {fs : List Forest} (h : s ∈ fs.modifyHead g) :
    s ∈ fs ∨ ∃ s' ∈ fs, s = g s' := by
  cases fs with
  | nil => simp at h
  | cons s' fs =>
    rcases List.mem_cons.1 h with rfl | h
    · exact .inr ⟨s', by simp, rfl⟩
    · exact .inl (by simp [h])

theorem size_of_mem_segments {f s : Forest} (h : s ∈ f.segments) : s.size ≤ f.size := by
  induction f generalizing s with
  | nil => simp_all [segments]
  | leaf t f ih =>
    simp only [segments] at h
    simp only [size]
    split at h
    · rcases List.mem_cons.1 h with rfl | h
      · simp [size]
      · exact (ih h).trans (Nat.le_succ _)
    · rcases mem_modifyHead h with h | ⟨s', hs, rfl⟩
      · exact (ih h).trans (Nat.le_succ _)
      · exact Nat.succ_le_succ (ih hs)
  | group i f _ ih =>
    simp only [size]
    rcases mem_modifyHead h with h | ⟨s', hs, rfl⟩
    · have := ih h
      omega
    · have := ih hs
      simp only [size]
      omega

/-- The forest as Cypher spells it: a group after an `IN`, blanks aside, stands in brackets, and the rest is
copied. -/
def rewritten : Forest → List Char
  | nil => []
  | leaf t f =>
    match _h : if t.isIn then f.group? else none with
    | some (inner, rest) => bracketed (inner.segments.attach.map fun s => s.1.rewritten) ++ rest.rewritten
    | none => t.rendered ++ f.rewritten
  | group inner f => '(' :: (inner.rewritten ++ ')' :: f.rewritten)
termination_by f => f.size
decreasing_by
  · have hs := size_of_mem_segments s.2
    have hg := size_of_group? (Option.ite_none_right_eq_some.1 _h).2
    simp only [size]
    omega
  · have hg := size_of_group? (Option.ite_none_right_eq_some.1 _h).2
    simp only [size]
    omega
  all_goals simp only [size]; omega

theorem rewritten_of_list {t : Token} {f inner rest : Forest}
    (h : (if t.isIn then f.group? else none) = some (inner, rest)) :
    (leaf t f).rewritten = bracketed (inner.segments.map rewritten) ++ rest.rewritten := by
  rw [rewritten]
  split <;> simp_all

theorem rewritten_of_copy {t : Token} {f : Forest} (h : (if t.isIn then f.group? else none) = none) :
    (leaf t f).rewritten = t.rendered ++ f.rewritten := by
  rw [rewritten]
  split <;> simp_all

theorem rewritten_group {inner f : Forest} :
    (group inner f).rewritten = '(' :: (inner.rewritten ++ ')' :: f.rewritten) := by
  rw [rewritten]

/-- How many calls within each other the spelling of the forest takes, up to a list that is left open: one looks for the
list after an `IN`, and the elements of the list are spelled two calls further in. -/
def calls : Forest → Nat
  | nil => 0
  | leaf t f =>
    match _h : if t.isIn then f.group? else none with
    | some (inner, rest) => max (2 + (inner.segments.attach.map fun s => s.1.calls).foldr max 0) rest.calls
    | none => if t.isIn then (if f.Opens then 1 else max 1 f.calls) else f.calls
  | group inner f => max inner.calls f.calls
termination_by f => f.size
decreasing_by
  · have hs := size_of_mem_segments s.2
    have hg := size_of_group? (Option.ite_none_right_eq_some.1 _h).2
    simp only [size]
    omega
  · have hg := size_of_group? (Option.ite_none_right_eq_some.1 _h).2
    simp only [size]
    omega
  all_goals simp only [size]; omega

theorem calls_of_list {t : Token} {f inner rest : Forest}
    (h : (if t.isIn then f.group? else none) = some (inner, rest)) :
    (leaf t f).calls = max (2 + (inner.segments.map calls).foldr max 0) rest.calls := by
  rw [calls]
  split <;> simp_all

theorem calls_of_copy {t : Token} {f : Forest} (h : (if t.isIn then f.group? else none) = none)
    (ho : ¬ (t.isIn ∧ f.Opens)) : (leaf t f).calls = max (if t.isIn then 1 else 0) f.calls := by
  rw [calls]
  split <;> split <;> simp_all

theorem calls_of_open {t : Token} {f : Forest} (h : f.group? = none) (hin : t.isIn) (ho : f.Opens) :
    (leaf t f).calls = 1 := by
  rw [calls]
  split <;> simp_all

theorem calls_group {inner f : Forest} : (group inner f).calls = max inner.calls f.calls := by
  rw [calls]

theorem countP_group? {p : Token → Bool} {f inner rest : Forest} (h : f.group? = some (inner, rest)) :
    inner.tokens.countP p + rest.tokens.countP p ≤ f.tokens.countP p := by
  induction f with
  | nil => simp [group?] at h
  | leaf t f ih =>
    simp only [group?] at h
    split at h
    · exact (ih h).trans (List.sublist_cons_self _ _).countP_le
    · simp at h
  | group i f =>
    obtain ⟨rfl, rfl⟩ : i = inner ∧ f = rest := by simpa [group?] using h
    simp only [tokens, List.countP_cons, List.countP_append]
    omega

theorem countP_segments {p : Token → Bool} {f s : Forest} (h : s ∈ f.segments) :
    s.tokens.countP p ≤ f.tokens.countP p := by
  induction f generalizing s with
  | nil => simp_all [segments]
  | leaf t f ih =>
    simp only [segments] at h
    split at h
    · rcases List.mem_cons.1 h with rfl | h
      · simp [tokens]
      · exact (ih h).trans (List.sublist_cons_self _ _).countP_le
    · rcases mem_modifyHead h with h | ⟨s', hs, rfl⟩
      · exact (ih h).trans (List.sublist_cons_self _ _).countP_le
      · simpa [tokens, List.countP_cons] using ih hs
  | group i f _ ih =>
    rcases mem_modifyHead h with h | ⟨s', hs, rfl⟩
    · have := ih h
      simp only [tokens, List.countP_cons, List.countP_append]
      omega
    · simpa [tokens, List.countP_cons] using ih hs

/-- Two calls for each `IN` are enough. -/
theorem calls_le (f : Forest) : f.calls ≤ 2 * f.tokens.countP Token.isIn := by
  induction f using rewritten.induct with
  | case1 => simp [calls]
  | case2 t f inner rest hlist ih ih' =>
    obtain ⟨hin, hg⟩ := Option.ite_none_right_eq_some.1 hlist
    have hcount := countP_group? (p := Token.isIn) hg
    have hsegments : (inner.segments.map calls).foldr max 0 ≤ 2 * inner.tokens.countP Token.isIn := by
      refine List.max_le_of_forall_le _ _ fun n hn => ?_
      obtain ⟨s, hs, rfl⟩ := List.mem_map.1 hn
      exact (ih ⟨s, hs⟩).trans (Nat.mul_le_mul_left 2 (countP_segments hs))
    rw [calls_of_list hlist, tokens, List.countP_cons, if_pos hin]
    omega
  | case3 t f hlist ih =>
    rw [tokens, List.countP_cons]
    by_cases hopens : t.isIn ∧ f.Opens
    · rw [calls_of_open (by simpa [hopens.1] using hlist) hopens.1 hopens.2, if_pos hopens.1]
      omega
    · rw [calls_of_copy hlist hopens]
      split <;> omega
  | case4 i f ihi ih =>
    simp only [calls_group, tokens, List.countP_cons, List.countP_append]
    omega

end Forest

def forest : List Token → Forest
  | [] => .nil
  | t :: r =>
    match if t.kind = .opening then (forest r).untilClosing? else none with
    | some (inner, rest) => .group inner rest
    | none => .leaf t (forest r)

section Structure
variable {f g inner rest : Forest} {t : Token} {ts us : List Token}

namespace Forest

theorem tokens_append : (f.append g).tokens = f.tokens ++ g.tokens := by
  induction f with
  | nil => rfl
  | leaf t f ih => simp [append, tokens, ih]
  | group i f _ ih => simp [append, tokens, ih]

theorem untilClosing?_append (h : f.Closed) (ht : t.kind = .closing) :
    (f.append (leaf t g)).untilClosing? = some (f, g) := by
  induction f with
  | nil => simp [append, untilClosing?, ht]
  | leaf u f ih => simp [append, untilClosing?, h.2.1, ih h.2.2]
  | group i f _ ih => simp [append, untilClosing?, ih h.2]

theorem Closed.matched (h : f.Closed) : f.Matched := by
  induction f with
  | nil => trivial
  | leaf t f ih => exact ⟨fun hk => absurd hk h.1, ih h.2.2⟩
  | group i f _ ih => exact ⟨h.1, ih h.2⟩

/-- Up to the first closing parenthesis that stands alone, all are in groups. -/
theorem Matched.of_untilClosing? (h : f.Matched) (hc : f.untilClosing? = some (inner, rest)) :
    inner.Closed ∧ rest.Matched ∧ ∃ t : Token, t.kind = .closing ∧ f = inner.append (leaf t rest) := by
  induction f generalizing inner with
  | nil => simp [untilClosing?] at hc
  | leaf t f ih =>
    simp only [untilClosing?] at hc
    split at hc
    · next ht =>
      obtain ⟨rfl, rfl⟩ : nil = inner ∧ f = rest := by simpa using hc
      exact ⟨trivial, h.2, t, ht, rfl⟩
    · next ht =>
      obtain ⟨⟨i, r⟩, hi, heq⟩ := Option.map_eq_some_iff.1 hc
      obtain ⟨rfl, rfl⟩ : leaf t i = inner ∧ r = rest := by simpa using heq
      obtain ⟨hclosed, hrest, u, hu, rfl⟩ := ih h.2 hi
      have hopen : t.kind ≠ .opening := fun hk => by simp [h.1 hk] at hi
      exact ⟨⟨hopen, ht, hclosed⟩, hrest, u, hu, rfl⟩
  | group j f _ ih =>
    obtain ⟨⟨i, r⟩, hi, heq⟩ := Option.map_eq_some_iff.1 hc
    obtain ⟨rfl, rfl⟩ : group j i = inner ∧ r = rest := by simpa using heq
    obtain ⟨hclosed, hrest, u, hu, rfl⟩ := ih h.2 hi
    exact ⟨⟨h.1, hclosed⟩, hrest, u, hu, rfl⟩

end Forest

/-- All parentheses that could match do. -/
theorem matched_forest : (forest ts).Matched := by
  induction ts with
  | nil => trivial
  | cons t r ih =>
    rw [forest]
    split
    · next inner rest h =>
      obtain ⟨hinner, hrest, -⟩ := ih.of_untilClosing? (Option.ite_none_right_eq_some.1 h).2
      exact ⟨hinner, hrest⟩
    · next h => exact ⟨fun hk => by simpa [hk] using h, ih⟩

/-- The forest of the tokens of a filter is made of them. -/
theorem tokens_forest (h : ∀ t ∈ ts, t.Lexed) : (forest ts).tokens = ts := by
  induction ts with
  | nil => rfl
  | cons t r ih =>
    have hr : (forest r).tokens = r := ih fun u hu => h u (by simp [hu])
    rw [forest]
    split
    · next inner rest hc =>
      obtain ⟨hk, hc⟩ := Option.ite_none_right_eq_some.1 hc
      obtain ⟨-, -, u, hu, hf⟩ := matched_forest.of_untilClosing? hc
      rw [hf, Forest.tokens_append, Forest.tokens] at hr
      have hut : u.Lexed := h u (by simp [← hr])
      rw [Forest.tokens, (h t (by simp)).eq_opening hk, ← hr, hut.eq_closing hu]
    · rw [Forest.tokens, hr]

/-- Tokens whose parentheses match are passed over. -/
theorem Forest.Closed.forest_append (h : f.Closed) : forest (f.tokens ++ us) = f.append (forest us) := by
  induction f generalizing us with
  | nil => rfl
  | leaf t f ih =>
    rw [Forest.tokens, List.cons_append, forest, ih h.2.2]
    simp [h.1, Forest.append]
  | group i f ihi ih =>
    rw [Forest.tokens, List.cons_append, List.append_assoc, List.cons_append, forest, ihi h.1, forest, ih h.2]
    simp [Forest.untilClosing?_append h.1, Forest.append]

theorem Forest.openAfter_group {d : Nat} (hi : openAfter (d + 1) inner.tokens = some (d + 1)) :
    openAfter d (group inner f).tokens = openAfter d f.tokens := by
  simp [tokens, openAfter_cons, openAfter_append, Token.nest, hi]

/-- Tokens whose parentheses match leave as many open as there are already. -/
theorem Forest.Closed.openAfter {d : Nat} (h : f.Closed) : openAfter d f.tokens = some d := by
  induction f generalizing d with
  | nil => rfl
  | leaf t f ih =>
    rw [tokens, openAfter_cons, show t.nest d = some d by simp [Token.nest, h.1, h.2.1]]
    exact ih h.2.2
  | group i f ihi ih =>
    rw [openAfter_group (ihi h.1)]
    exact ih h.2

/-- Parentheses that are open stay open where no closing one stands alone. -/
theorem Forest.Matched.le_openAfter {d e : Nat} (h : f.Matched) (hc : f.untilClosing? = none)
    (he : openAfter d f.tokens = some e) : d ≤ e := by
  induction f generalizing d with
  | nil =>
    obtain rfl : d = e := by simpa [tokens] using he
    exact le_rfl
  | leaf t f ih =>
    rw [tokens, openAfter_cons] at he
    obtain ⟨d', hd, he⟩ := Option.bind_eq_some_iff.1 he
    simp only [untilClosing?] at hc
    split at hc
    · simp at hc
    · next hk =>
      have hle : d ≤ d' := by
        simp only [Token.nest] at hd
        grind
      exact hle.trans (ih h.2 (by simpa using hc) he)
  | group i f _ ih =>
    rw [openAfter_group h.1.openAfter] at he
    exact ih h.2 (by simpa [untilClosing?] using hc) he

/-- Counting parentheses and grouping them agree on whether they match. -/
theorem closed_forest_iff (h : ∀ t ∈ ts, t.Lexed) : (forest ts).Closed ↔ TokensNest ts := by
  refine ⟨fun hc => ?_, fun hn => ?_⟩
  · rw [← tokens_forest h]
    exact hc.openAfter
  · rw [TokensNest, ← tokens_forest h] at hn
    have hm : (forest ts).Matched := matched_forest
    generalize forest ts = f at hn hm
    induction f with
    | nil => trivial
    | leaf t f ih =>
      rw [Forest.tokens, openAfter_cons] at hn
      obtain ⟨d, hd, hn⟩ := Option.bind_eq_some_iff.1 hn
      by_cases hk : t.kind = .opening
      · obtain rfl : 1 = d := by simpa [Token.nest, hk] using hd
        have := hm.2.le_openAfter (hm.1 hk) hn
        omega
      · have hk' : t.kind ≠ .closing := fun hk' => by simp [Token.nest, hk'] at hd
        obtain rfl : 0 = d := by simpa [Token.nest, hk, hk'] using hd
        exact ⟨hk, hk', ih hn hm.2⟩
    | group i f _ ih =>
      rw [Forest.openAfter_group hm.1.openAfter] at hn
      exact ⟨hm.1, ih hn hm.2⟩

end Structure

end FeatureGraph.Cypher
