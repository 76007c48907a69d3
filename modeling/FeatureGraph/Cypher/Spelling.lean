import FeatureGraph.Cypher.Token
import FeatureGraph.Text.LetterCase
import FeatureGraph.Text.Replace

/-! # A rendered filter in the words of Cypher

Quoted names lose their quotes, and the list after a word `IN` stands in square brackets, at every depth that there is
room for. All else is copied. -/
namespace FeatureGraph.Cypher

/-- Splits what follows an opening parenthesis at its commas, up to the parenthesis that closes it. The
tokens of the element at hand come in reverse. -/
def splitList (depth : Nat) (element : List Token) : List Token → Option (List (List Token) × List Token)
  | [] => none
  | t :: r =>
    match t.kind with
    | .opening => splitList (depth + 1) (t :: element) r
    | .closing =>
      if depth = 0 then some ([element.reverse], r) else splitList (depth - 1) (t :: element) r
    | .comma =>
      if depth = 0 then (splitList 0 [] r).map fun (es, rest) => (element.reverse :: es, rest)
      else splitList depth (t :: element) r
    | _ => splitList depth (t :: element) r

/-- The elements and the rest are parts of the tokens that were split. -/
theorem splitList_length {ts : List Token} {depth : Nat} {element : List Token}
    {es : List (List Token)} {rest : List Token} (h : splitList depth element ts = some (es, rest)) :
    rest.length < ts.length ∧ ∀ e ∈ es, e.length < element.length + ts.length := by
  induction ts generalizing depth element es rest with
  | nil => simp [splitList] at h
  | cons t r ih =>
    simp only [splitList] at h
    split at h
    · have := ih h
      simp only [List.length_cons] at this ⊢
      exact ⟨by omega, fun e he => by have := this.2 e he; omega⟩
    · split at h
      · simp only [Option.some.injEq, Prod.mk.injEq] at h
        obtain ⟨rfl, rfl⟩ := h
        simp
      · have := ih h
        simp only [List.length_cons] at this ⊢
        exact ⟨by omega, fun e he => by have := this.2 e he; omega⟩
    · split at h
      · obtain ⟨⟨es', rest'⟩, hs, he⟩ := Option.map_eq_some_iff.1 h
        simp only [Prod.mk.injEq] at he
        obtain ⟨rfl, rfl⟩ := he
        have := ih hs
        simp only [List.length_cons, List.length_nil] at this ⊢
        refine ⟨by omega, fun e he => ?_⟩
        rcases List.mem_cons.1 he with rfl | he
        · simp
        · have := this.2 e he
          omega
      · have := ih h
        simp only [List.length_cons] at this ⊢
        exact ⟨by omega, fun e he => by have := this.2 e he; omega⟩
    · have := ih h
      simp only [List.length_cons] at this ⊢
      exact ⟨by omega, fun e he => by have := this.2 e he; omega⟩

def Token.isIn (t : Token) : Bool :=
  t.kind == .word && Text.upper (String.ofList t.text) == "IN"

def isSpace (t : Token) : Bool := t.kind == .space

/-- The list after an `IN`, blanks aside, as its elements and what follows it: none where no list
stands there, `some none` where it is not closed. -/
def listAfter? (ts : List Token) : Option (Option (List (List Token) × List Token)) :=
  match ts.dropWhile isSpace with
  | t :: r => if t.kind = .opening then some (splitList 0 [] r) else none
  | [] => none

theorem listAfter?_length {ts : List Token} {es : List (List Token)} {rest : List Token}
    (h : listAfter? ts = some (some (es, rest))) :
    rest.length < ts.length ∧ ∀ e ∈ es, e.length < ts.length := by
  have hd := (List.dropWhile_sublist isSpace (l := ts)).length_le
  simp only [listAfter?] at h
  split at h
  · next t u hu =>
    split at h
    · have := splitList_length (Option.some.inj h)
      rw [hu] at hd
      simp only [List.length_cons, List.length_nil] at hd this
      exact ⟨by omega, fun e he => by have := this.2 e he; omega⟩
    · simp at h
  · simp at h

def Token.rendered (t : Token) : List Char :=
  if t.kind = .quoted then Text.unpair '"' (t.text.drop 1).dropLast else t.text

/-- The elements of a list that are not blank, between brackets. -/
def bracketed (elements : List (List Char)) : List Char :=
  "IN [".toList ++ [','].intercalate ((elements.map Text.trim).filter (!·.isEmpty)) ++ [']']

def Token.list? (t : Token) (rest : List Token) : Option (Option (List (List Token) × List Token)) :=
  if t.isIn then listAfter? rest else none

theorem Token.list?_length {t : Token} {ts : List Token} {es : List (List Token)} {rest : List Token}
    (h : t.list? ts = some (some (es, rest))) :
    rest.length < ts.length ∧ ∀ e ∈ es, e.length < ts.length := by
  simp only [Token.list?] at h
  split at h
  · exact listAfter?_length h
  · simp at h

def unbalanced : Failure := .of .filterParse "unbalanced parentheses in IN list"

/-- The tokens as Cypher spells them, in a number of calls within each other: one looks for the list after an `IN`, and
the elements of the list are spelled two calls further in. -/
def spelledIn (calls : Nat) : List Token → Except Fault (List Char)
  | [] => .ok []
  | t :: r =>
    if t.isIn ∧ calls = 0 then .error (Defect.tooDeep "")
    else
      match _h : t.list? r with
      | none => (spelledIn calls r).map (t.rendered ++ ·)
      | some none => .error unbalanced
      | some (some (elements, rest)) =>
        if calls < 2 then .error (Defect.tooDeep "")
        else do
          let es ← elements.attach.mapM fun e => spelledIn (calls - 2) e.1
          return bracketed es ++ (← spelledIn calls rest)
termination_by ts => ts.length
decreasing_by
  · simp
  · have := (Token.list?_length _h).2 e.1 e.2
    simp
    omega
  · have := (Token.list?_length _h).1
    simp
    omega

def ofRendered (cs : List Char) (calls : Nat := callLimit) : Except Fault (List Char) := do
  spelledIn calls (← (tokens cs).mapError .failure)

end FeatureGraph.Cypher
