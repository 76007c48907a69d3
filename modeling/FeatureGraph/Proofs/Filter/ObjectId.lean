import FeatureGraph.Filter.Basic
import FeatureGraph.Proofs.Cypher.Quotation

/-! # The id property in lower case, word by word

A filter is rewritten before it is parsed, so that words within its literals are rewritten too. A literal
starts and ends with a quote, which is in no word: it is rewritten as if it stood alone. -/
namespace FeatureGraph.Filter
open Cypher Text

def normalizeWord (word : List Char) : List Char := if isObjectId word then "objectid".toList else word

/-- No word runs from one text into the next. -/
def Parted (cs ds : List Char) : Prop := ∀ c ∈ cs.getLast?, ∀ d ∈ ds.head?, isWord c → ¬ isWord d

section
variable {c : Char} {w cs ds r : List Char}

/-- A text is made of words and of characters between them. -/
theorem word_induction {P : List Char → Prop} (nil : P [])
    (mark : ∀ c r, ¬ isWord c → P r → P (c :: r))
    (word : ∀ w r, (∀ c ∈ w, isWord c) → w ≠ [] → (∀ c ∈ r.head?, ¬ isWord c) → P r → P (w ++ r))
    (cs : List Char) : P cs := by
  induction cs using normalizeObjectId.induct with
  | case1 => exact nil
  | case2 c r hc ih =>
    have hw : ∀ d ∈ c :: r.takeWhile isWord, isWord d := by
      intro d hd
      rcases List.mem_cons.1 hd with rfl | hd
      · exact hc
      · exact List.mem_takeWhile_imp hd
    have hr : ∀ d ∈ (r.dropWhile isWord).head?, ¬ isWord d := by
      intro d hd
      have h := List.head?_dropWhile_not isWord r
      rw [Option.mem_def.1 hd] at h
      simpa using h
    have h := word _ _ hw (by simp) hr ih
    rwa [List.cons_append, List.takeWhile_append_dropWhile] at h
  | case3 c r hc ih => exact mark c r hc ih

@[simp] theorem normalizeObjectId_nil : normalizeObjectId [] = [] := by simp [normalizeObjectId]

theorem normalizeObjectId_cons (h : ¬ isWord c) : normalizeObjectId (c :: r) = c :: normalizeObjectId r := by
  rw [normalizeObjectId, if_neg h]

theorem normalizeObjectId_word (hw : ∀ c ∈ w, isWord c) (hne : w ≠ []) (hr : ∀ c ∈ r.head?, ¬ isWord c) :
    normalizeObjectId (w ++ r) = normalizeWord w ++ normalizeObjectId r := by
  obtain ⟨c, w, rfl⟩ := List.exists_cons_of_ne_nil hne
  have htail : ∀ d ∈ w, isWord d := fun d hd => hw d (by simp [hd])
  have htake : r.takeWhile isWord = [] := by
    cases r with
    | nil => rfl
    | cons d r => simpa using hr d rfl
  have hdrop : r.dropWhile isWord = r := by
    cases r with
    | nil => rfl
    | cons d r => simpa using hr d rfl
  rw [List.cons_append, normalizeObjectId, if_pos (hw c (by simp)), List.takeWhile_append_of_pos htail,
    List.dropWhile_append_of_pos htail, htake, hdrop, List.append_nil]
  rfl

theorem isWord_of_mem_normalizeWord (h : ∀ c ∈ w, isWord c) : ∀ c ∈ normalizeWord w, isWord c := by
  have hname : "objectid".toList.all isWord = true := by decide +kernel
  rw [normalizeWord]
  split
  · exact List.all_eq_true.1 hname
  · exact h

theorem normalizeWord_ne_nil (h : w ≠ []) : normalizeWord w ≠ [] := by
  rw [normalizeWord]
  split
  · decide
  · exact h

theorem Parted.of_append (h : Parted (cs ++ r) ds) : Parted r ds := by
  intro c hc
  refine h c ?_
  rw [List.getLast?_append, Option.mem_def.1 hc]
  rfl

theorem normalizeObjectId_append (h : Parted cs ds) :
    normalizeObjectId (cs ++ ds) = normalizeObjectId cs ++ normalizeObjectId ds := by
  induction cs using word_induction with
  | nil => simp
  | mark c r hc ih =>
    have hr : Parted r ds := Parted.of_append (show Parted ([c] ++ r) ds from h)
    rw [List.cons_append, normalizeObjectId_cons hc, normalizeObjectId_cons hc, ih hr, List.cons_append]
  | word w r hw hne hr ih =>
    have hnext : ∀ d ∈ (r ++ ds).head?, ¬ isWord d := by
      cases r with
      | nil =>
        intro d hd
        rw [List.append_nil] at h
        exact h _ (List.getLast?_eq_getLast_of_ne_nil hne) d hd (hw _ (List.getLast_mem hne))
      | cons c r => exact hr
    rw [List.append_assoc, normalizeObjectId_word hw hne hnext, normalizeObjectId_word hw hne hr,
      ih h.of_append, List.append_assoc]

/-- A character between words changes nothing before it. -/
theorem normalizeObjectId_concat (h : ¬ isWord c) :
    normalizeObjectId (cs ++ [c]) = normalizeObjectId cs ++ [c] := by
  have hparted : Parted cs [c] := by
    intro d _ e he _
    obtain rfl : c = e := by simpa using he
    exact h
  rw [normalizeObjectId_append hparted, normalizeObjectId_cons h, normalizeObjectId_nil]

/-- A word is one by itself after text that no word ends. -/
theorem normalizeObjectId_append_word (h : ∀ c ∈ cs.getLast?, ¬ isWord c) (hw : ∀ c ∈ w, isWord c)
    (hne : w ≠ []) : normalizeObjectId (cs ++ w) = normalizeObjectId cs ++ normalizeWord w := by
  have hparted : Parted cs w := fun c hc _ _ hword => (h c hc hword).elim
  rw [normalizeObjectId_append hparted]
  simpa using normalizeObjectId_word (r := []) hw hne (by simp)

end

theorem not_isQuote_of_isWord {c : Char} (h : isWord c) : ¬ isQuote c := by
  have hquotes : isWord '\'' = false ∧ isWord '"' = false := by decide +kernel
  intro hc
  simp only [isQuote, Bool.or_eq_true, beq_iff_eq] at hc
  rcases hc with rfl | rfl <;> simp_all

end FeatureGraph.Filter

namespace FeatureGraph.Cypher.LiteralReader
open FeatureGraph.Filter Text

/-- The text of the literal that a reader is in. -/
def text (r : LiteralReader) : List Char :=
  match r.place with
  | .outside => []
  | .inside _ text => text
  | .closing _ text => text

def normalize (r : LiteralReader) : LiteralReader :=
  ⟨r.found.map normalizeObjectId,
    match r.place with
    | .outside => .outside
    | .inside q text => .inside q (normalizeObjectId text)
    | .closing q text => .closing q (normalizeObjectId text)⟩

variable {r : LiteralReader} {c : Char} {w cs : List Char}

theorem Sound.normalize (h : r.Sound) : r.normalize.Sound := by
  obtain ⟨found, place⟩ := r
  cases place <;> exact h

theorem normalize_enter (found : List (List Char)) (hc : ¬ isWord c) :
    normalize ⟨found, enter c⟩ = ⟨found.map normalizeObjectId, enter c⟩ := by
  by_cases hq : isQuote c <;> simp [normalize, enter, hq, normalizeObjectId_cons hc]

theorem normalize_step (hc : ¬ isWord c) : r.normalize.step c = (r.step c).normalize := by
  obtain ⟨found, place⟩ := r
  cases place with
  | outside => exact (normalize_enter found hc).symm
  | inside q text =>
    have htext : normalizeObjectId (text ++ [c]) = normalizeObjectId text ++ [c] := normalizeObjectId_concat hc
    by_cases h : c = q
    · subst h
      simp [normalize, step, htext]
    · simp [normalize, step, h, htext]
  | closing q text =>
    by_cases h : c = q
    · subst h
      simp [normalize, step, normalizeObjectId_concat hc]
    · have henter := normalize_enter (found ++ [text]) hc
      simp [normalize, step, h] at henter ⊢
      exact henter.symm

theorem normalize_run_word (hr : r.Sound) (ht : ∀ c ∈ r.text.getLast?, ¬ isWord c)
    (hw : ∀ c ∈ w, isWord c) (hne : w ≠ []) : r.normalize.run (normalizeWord w) = (r.run w).normalize := by
  have hword : ∀ c ∈ normalizeWord w, ¬ isQuote c := fun c hc =>
    not_isQuote_of_isWord (isWord_of_mem_normalizeWord hw c hc)
  rw [run_eq_pass hr.normalize hword (normalizeWord_ne_nil hne),
    run_eq_pass hr (fun c hc => not_isQuote_of_isWord (hw c hc)) hne]
  obtain ⟨found, place⟩ := r
  cases place with
  | outside => rfl
  | inside q text =>
    have ht : ∀ c ∈ text.getLast?, ¬ isWord c := ht
    simp [normalize, pass, normalizeObjectId_append_word ht hw hne]
  | closing q text => simp [normalize, pass]

/-- After a character between words, no word ends the literal at hand. -/
theorem not_isWord_getLast?_step (hc : ¬ isWord c) : ∀ d ∈ (r.step c).text.getLast?, ¬ isWord d := by
  have hend (cs : List Char) : ∀ d ∈ (cs ++ [c]).getLast?, ¬ isWord d := by
    intro d hd
    obtain rfl : c = d := by simpa using hd
    exact hc
  have henter (found : List (List Char)) : ∀ d ∈ (text ⟨found, enter c⟩).getLast?, ¬ isWord d := by
    by_cases hq : isQuote c <;> simp [text, enter, hq, hc]
  obtain ⟨found, place⟩ := r
  cases place with
  | outside => exact henter _
  | inside q t => by_cases h : c = q <;> simpa [step, text, h] using hend t
  | closing q t =>
    by_cases h : c = q
    · simpa [step, text, h] using hend t
    · simpa [step, h] using henter (found ++ [t])

/-- A reader of a filter that is rewritten finds what it finds in the filter, rewritten. -/
theorem normalize_run (hr : r.Sound) (hp : Parted r.text cs) :
    r.normalize.run (normalizeObjectId cs) = (r.run cs).normalize := by
  -- By words, since a word within a literal is rewritten as a whole.
  induction cs using word_induction generalizing r with
  | nil => simp
  | mark c cs hc ih =>
    have hparted : Parted (r.step c).text cs := fun d hd _ _ hword =>
      (not_isWord_getLast?_step hc d hd hword).elim
    rw [normalizeObjectId_cons hc, run_cons, normalize_step hc, ih hr.step hparted, run_cons]
  | word w cs hw hne hcs ih =>
    have hlast : ∀ d ∈ r.text.getLast?, ¬ isWord d := by
      obtain ⟨c, w, rfl⟩ := List.exists_cons_of_ne_nil hne
      exact fun d hd hword => hp d hd c rfl hword (hw c (by simp))
    have hparted : Parted (r.run w).text cs := fun _ _ e he _ => hcs e he
    rw [normalizeObjectId_word hw hne hcs, run_append, normalize_run_word hr hlast hw hne,
      ih hr.run hparted, run_append]

theorem finish_normalize : r.normalize.finish = r.finish.map (List.map normalizeObjectId) := by
  obtain ⟨found, place⟩ := r
  cases place <;> simp [normalize, finish]

end FeatureGraph.Cypher.LiteralReader

namespace FeatureGraph.Cypher
open FeatureGraph.Filter Text

theorem literals_normalizeObjectId (cs : List Char) :
    literals (normalizeObjectId cs) = (literals cs).map (List.map normalizeObjectId) := by
  have hrun : LiteralReader.run {} (normalizeObjectId cs) = (LiteralReader.run {} cs).normalize :=
    LiteralReader.normalize_run (r := {}) (by trivial) (by simp [Parted, LiteralReader.text])
  rw [literals, hrun, LiteralReader.finish_normalize, literals]

theorem isString_word {w : List Char} (hw : ∀ c ∈ w, isWord c) (hne : w ≠ []) (cs : List Char) :
    isString (w ++ cs) = false := by
  obtain ⟨c, w, rfl⟩ := List.exists_cons_of_ne_nil hne
  have hc := not_isQuote_of_isWord (hw c (by simp))
  simp only [isQuote, Bool.or_eq_true, not_or] at hc
  simpa [isString] using hc.1

theorem isString_normalizeObjectId (cs : List Char) : isString (normalizeObjectId cs) = isString cs := by
  induction cs using word_induction with
  | nil => simp
  | mark c cs hc _ => simp [normalizeObjectId_cons hc, isString]
  | word w cs hw hne hcs _ =>
    rw [normalizeObjectId_word hw hne hcs, isString_word hw hne,
      isString_word (isWord_of_mem_normalizeWord hw) (normalizeWord_ne_nil hne)]

/-- The strings of a filter are rewritten like the rest of it. -/
theorem stringLiterals_normalizeObjectId (cs : List Char) :
    stringLiterals (normalizeObjectId cs) = (stringLiterals cs).map (List.map normalizeObjectId) := by
  rw [stringLiterals_eq, stringLiterals_eq, literals_normalizeObjectId, Option.map_map, Option.map_map]
  congr 1
  funext ls
  simp [List.filter_map, Function.comp_def, isString_normalizeObjectId]

end FeatureGraph.Cypher
