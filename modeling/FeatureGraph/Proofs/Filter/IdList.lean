import FeatureGraph.Proofs.Cypher.Idempotence
import FeatureGraph.Proofs.Filter.Rendering
import FeatureGraph.Proofs.Filter.Spelled
import FeatureGraph.Proofs.Number.Integer

/-! # Filters by object ids

The filter for some ids is a list of whole numbers. It is parsed as such, and in the words of Cypher the list stands in
brackets, with the ids in their order. -/
namespace FeatureGraph.Filter
open Grammar Number

/-! ## An id -/

def idText (i : ℤ) : List Char := (integerText i).toList

def idTokens (i : ℤ) : List Lexeme :=
  if i < 0 then [.fixed "-", ⟨.number, decimalDigits i.natAbs⟩] else [⟨.number, decimalDigits i.toNat⟩]

def idExpr (i : ℤ) : Expr :=
  if i < 0 then (Expr.number (decimalDigits i.natAbs)).negative else .number (decimalDigits i.toNat)

section
variable {n : ℕ} {i : ℤ}

theorem isFigure_of_mem_decimalDigits {c : Char} (h : c ∈ decimalDigits n) : isFigure c = true := by
  have hdigit := isDigit_of_mem_decimalDigits h
  rw [Char.isDigit, Bool.and_eq_true, decide_eq_true_eq, decide_eq_true_eq] at hdigit
  rw [isFigure, Bool.and_eq_true, decide_eq_true_eq, decide_eq_true_eq]
  exact hdigit

theorem decimalDigits_ne_nil (n : ℕ) : decimalDigits n ≠ [] := Nat.toDigits_ne_nil

theorem spells_digits (n : ℕ) : Spells (fun r => ∀ c ∈ r.head?, c ∈ afterExpr) (decimalDigits n) [⟨.number, decimalDigits n⟩] :=
  spells_number (isNumberText_of_figures (fun _ => isFigure_of_mem_decimalDigits) (decimalDigits_ne_nil n))

theorem spells_id (i : ℤ) : Spells (fun r => ∀ c ∈ r.head?, c ∈ afterExpr) (idText i) (idTokens i) := by
  by_cases h : i < 0
  · intro r hr
    have hsign : ∀ d ∈ (decimalDigits i.natAbs ++ r).head?, d ∉ ['-', '>', '|'] := by
      obtain ⟨d, ds, hds⟩ := List.exists_cons_of_ne_nil (decimalDigits_ne_nil i.natAbs)
      have hd := isFigure_of_mem_decimalDigits (n := i.natAbs) (c := d) (by simp [hds])
      rw [hds]
      rintro e ⟨⟩ hmem
      have hother : ∀ d ∈ ['-', '>', '|'], isFigure d = false := by decide
      rw [hother d hmem] at hd
      cases hd
    rw [idText, toList_integerText_of_neg h, idTokens, if_pos h, List.cons_append, pieces?_sign hsign,
      spells_digits _ r hr, Option.map_map]
    rfl
  · rw [idText, toList_integerText_of_nonneg (Int.not_lt.1 h), idTokens, if_neg h]
    exact spells_digits _

theorem spans_id (i : ℤ) : Spans .disjunction .disjunction (idTokens i) (idExpr i) := by
  have hspans : Spans .unary .unary (idTokens i) (idExpr i) := by
    rw [idTokens, idExpr]
    split
    · exact ⟨(reads_number _).negative rfl, _, _, rfl, by simp [Opens, nonOpeners, Lexeme.fixed]⟩
    · exact ⟨reads_number _, _, _, rfl, by simp [Opens]⟩
  exact hspans.lift (by decide) (by decide) (by decide)

theorem rendered_idExpr (i : ℤ) : (idExpr i).rendered = idText i := by
  by_cases h : i < 0
  · have hhead : (decimalDigits i.natAbs).head? ≠ some '-' := by
      intro hd
      have hfigure := isFigure_of_mem_decimalDigits (List.mem_of_mem_head? hd)
      revert hfigure
      decide
    rw [idText, toList_integerText_of_neg h, idExpr, if_pos h, Expr.negative, Expr.rendered, if_neg hhead]
    simp [Expr.rendered, Expr.renderedParts]
  · rw [idText, toList_integerText_of_nonneg (Int.not_lt.1 h), idExpr, if_neg h, Expr.rendered]

theorem qualify_idExpr (namespaceName : Name) (i : ℤ) : (idExpr i).qualify namespaceName = idExpr i := by
  rw [idExpr]
  split
  · rfl
  · rfl

end

/-! ## The list -/

def idItems (is : List ℤ) : List (List Lexeme × Expr) := is.map fun i => (idTokens i, idExpr i)

def idListTokens (is : List ℤ) : List Lexeme :=
  wordLexeme "objectid".toList :: wordLexeme "in".toList :: .fixed "(" :: (listedTokens (idItems is) ++ [.fixed ")"])

def idListExpr (qualifiers : List Expr) (is : List ℤ) : Expr :=
  (Expr.column qualifiers (.name ⟨"objectid".toList, false⟩)).followed " IN (".toList (is.map idExpr) [')']

theorem toList_ofObjectIds (is : List ℤ) : (ofObjectIds (is.map .int)).toList =
    ("objectid".toList ++ [' ']) ++ (("in".toList ++ [' ']) ++ (['('] ++ ([','].intercalate (is.map idText) ++ [')']))) := by
  have hfirst : "objectid in (".toList = ("objectid".toList ++ [' ']) ++ (("in".toList ++ [' ']) ++ ['(']) := by
    simp
  have hmarks : ",".toList = [','] ∧ ")".toList = [')'] := by simp
  have htexts : ((is.map Json.int).map Json.display).map String.toList = is.map idText := by
    rw [List.map_map, List.map_map]
    rfl
  unfold ofObjectIds
  rw [String.toList_append, String.toList_append, hfirst, String.toList_intercalate, htexts, hmarks.1, hmarks.2]
  simp only [List.append_assoc]

theorem spells_idList (i : ℤ) (is : List ℤ) :
    Spells Anything (ofObjectIds ((i :: is).map .int)).toList (idListTokens (i :: is)) := by
  have hids : Spells (fun r => ∀ c ∈ r.head?, c ∈ afterExpr) ([','].intercalate ((i :: is).map idText))
      (listedTokens (idItems (i :: is))) :=
    spells_listed (spells_mark (by decide)) rfl (fun r c hc => by cases hc; decide) fun i _ => spells_id i
  have hclose := hids.append (spells_mark (c := ')') (by decide)) fun r _ c hc => by
    cases hc
    decide
  have hwords : ∀ s ∈ ["objectid", "in"], IsWordText s.toList ∧ ∀ f ∈ phraseFirsts, s.toList.map Char.toUpper ≠ f.toList := by
    decide +kernel
  obtain ⟨hname, hin, -⟩ := List.forall_mem_cons.1 hwords |>.imp_right fun h => List.forall_mem_cons.1 h
  rw [toList_ofObjectIds]
  exact (spells_plain hname.1 hname.2).then ((spells_plain hin.1 hin.2).then
    ((spells_mark (c := '(') (by decide)).then hclose))

theorem reads_idList (i : ℤ) (is : List ℤ) :
    Reads .disjunction .disjunction (idListTokens (i :: is)) (idListExpr [] (i :: is)) := by
  have hname : Reads .unary .unary [wordLexeme "objectid".toList] (.column [] (.name ⟨"objectid".toList, false⟩)) := by
    have hword : wordLexeme "objectid".toList = ⟨.name, "objectid".toList⟩ :=
      wordLexeme_of_ascii (by decide +kernel) (by decide +kernel)
    rw [hword]
    refine reads_name ⟨⟨by simp, by simp, by decide⟩, ⟨by simp, .inr (.inr (.inr ?_)), .inr (by simp)⟩, rfl,
      .inr rfl, by simp⟩
    decide +kernel
  have hitems : ∀ item ∈ idItems (i :: is), Spans .disjunction .disjunction item.1 item.2 := by
    intro item hitem
    obtain ⟨j, -, rfl⟩ := List.mem_map.1 hitem
    exact spans_id j
  have hin : (wordLexeme "in".toList).kind = .fixed "IN" := by decide +kernel
  have hstops : ∀ r, Stops .bitwise (wordLexeme "in".toList :: r) := by
    refine fun r => ⟨?_, ?_⟩
    · rintro t ⟨⟩
      exact ⟨"IN", by decide, hin, by decide +kernel⟩
    · rintro s hs ⟨t, ⟨⟩, hkind⟩
      rw [hin, Kind.fixed.injEq] at hkind
      subst hkind
      exact absurd hs (by decide)
  have hstart : Chained .ranged .bitwise [wordLexeme "objectid".toList] (.column [] (.name ⟨"objectid".toList, false⟩)) :=
    (hname.lift (m := .bitwise) (τ := .bitwise) (by decide) (by decide) (by decide)).chained (l := .ranged) (by decide)
      (by decide)
  have hlist := hstart.step (readsStep_membership (σ := .ranged) hitems (by simp [idItems]) hin) (by simp)
    fun r _ => hstops _
  have hexprs : (idItems (i :: is)).map Prod.snd = (i :: is).map idExpr := by
    rw [idItems, List.map_map]
    rfl
  rw [hexprs] at hlist
  exact (hlist.reads (by decide) (by decide)).lift (by decide) (by decide) (by decide)

theorem qualify_idListExpr (is : List ℤ) :
    (idListExpr [] is).qualify (Name.ofText "n".toList) = idListExpr [.name ⟨['n'], false⟩] is := by
  have hids : (is.map idExpr).map (Expr.mapColumns (Expr.inNamespace (Name.ofText "n".toList))) = is.map idExpr := by
    rw [List.map_map]
    exact List.map_congr_left fun j _ => qualify_idExpr _ j
  have hcolumn : Expr.mapColumns (Expr.inNamespace (Name.ofText "n".toList))
      (.column [] (.name ⟨"objectid".toList, false⟩)) =
        .column [.name ⟨['n'], false⟩] (.name ⟨"objectid".toList, false⟩) := rfl
  rw [idListExpr, Expr.qualify, Expr.mapColumns_followed, hids, hcolumn, idListExpr]

theorem rendered_idList (i : ℤ) (is : List ℤ) : (idListExpr [.name ⟨['n'], false⟩] (i :: is)).rendered =
    "n.objectid IN (".toList ++ ", ".toList.intercalate ((i :: is).map idText) ++ [')'] := by
  have htexts : ((i :: is).map idExpr).map Expr.rendered = (i :: is).map idText := by
    rw [List.map_map]
    exact List.map_congr_left fun j _ => rendered_idExpr j
  have hcolumn : (Expr.column [.name ⟨['n'], false⟩] (.name ⟨"objectid".toList, false⟩)).rendered =
      "n.objectid".toList := by decide +kernel
  have hin : "n.objectid IN (".toList = "n.objectid".toList ++ " IN (".toList := by simp
  rewrite [idListExpr, Expr.rendered_followed, htexts, hcolumn, hin]
  rfl

/-- A library parses and prints a list of whole numbers, some with a sign, with its elements in order. -/
structure Library.KeepsIds (library : Library) : Prop where
  parse : ∀ is ≠ [], library.parse "n".toList (ofObjectIds (is.map .int)).toList = .ok (some (idListExpr [] is))
  print : ∀ is ≠ [], library.print (idListExpr [.name ⟨['n'], false⟩] is) =
    .ok ("n.objectid IN (".toList ++ ", ".toList.intercalate (is.map idText) ++ [')'])

theorem keepsIds_postgres : Library.postgres.KeepsIds where
  parse is h := by
    obtain ⟨i, is, rfl⟩ := List.exists_cons_of_ne_nil h
    exact congrArg Except.ok (parse?_of_reads isTableName_n (spells_idList i is) trivial (reads_idList i is))
  print is h := by
    obtain ⟨i, is, rfl⟩ := List.exists_cons_of_ne_nil h
    exact congrArg Except.ok (rendered_idList i is)

theorem Library.KeepsIds.qualified {library : Library} (hlibrary : library.KeepsIds) {is : List ℤ} (h : is ≠ []) :
    qualified "n" (ofObjectIds (is.map .int)) library =
      .ok ("n.objectid IN (".toList ++ ", ".toList.intercalate (is.map idText) ++ [')']) := by
  rw [Filter.qualified, hlibrary.parse is h]
  show (library.print ((idListExpr [] is).qualify (Name.ofText "n".toList))).mapError Fault.defect = _
  rw [qualify_idListExpr, hlibrary.print is h]
  rfl

end FeatureGraph.Filter

namespace FeatureGraph.Cypher
open FeatureGraph.Filter

/-! ## In the words of Cypher -/

/-- The tokens of an id: each character is one. -/
def idTokens (i : ℤ) : List Token := (idText i).map fun c => ⟨.other, [c]⟩

def spacedTokens (i : ℤ) : List Token := ⟨.space, [' ']⟩ :: idTokens i

section
variable {t u : Token} {r element us : List Token} {e : List Token} {es : List (List Token)} {c : Char} {i : ℤ}

/-- A token that no list is split at. -/
def Joins (t : Token) : Prop := t.kind ≠ .opening ∧ t.kind ≠ .closing ∧ t.kind ≠ .comma

theorem splitList_joins (h : ∀ t ∈ e, Joins t) : splitList 0 element (e ++ us) = splitList 0 (e.reverse ++ element) us := by
  induction e generalizing element with
  | nil => rfl
  | cons t e ih =>
    obtain ⟨⟨hopening, hclosing, hcomma⟩, he⟩ := List.forall_mem_cons.1 h
    have hstep : splitList 0 element (t :: (e ++ us)) = splitList 0 (t :: element) (e ++ us) := by
      rw [splitList]
      split <;> simp_all
    rw [List.cons_append, hstep, ih he, List.reverse_cons, List.append_assoc]
    rfl

/-- A list is split into its elements. -/
theorem splitList_listed (h : ∀ f ∈ e :: es, ∀ t ∈ f, Joins t) :
    splitList 0 [] (listed (e :: es) us) = some (e :: es, us) := by
  induction es generalizing e with
  | nil =>
    rw [listed_singleton, splitList_joins (h e (by simp)), splitList]
    simp
  | cons f es ih =>
    obtain ⟨he, hes⟩ := List.forall_mem_cons.1 h
    rw [listed_cons_cons, splitList_joins he, splitList]
    simp [ih hes]

/-- A token that nothing continues. -/
def Ended (t : Token) : Prop := t.kind = .other ∨ t.kind = .opening ∨ t.kind = .closing ∨ t.kind = .comma

theorem Ended.separate (h : Ended t) : t.Separate u := by
  intro c _
  rcases h with h | h | h | h <;> simp [h, TokenKind.EndsBefore]

theorem Ended.isChain_cons (h : Ended t) (hr : r.IsChain Token.Separate) : (t :: r).IsChain Token.Separate :=
  List.isChain_cons.2 ⟨fun _ _ => h.separate, hr⟩

theorem isChain_append (h : ∀ t ∈ e, Ended t) (hr : r.IsChain Token.Separate) : (e ++ r).IsChain Token.Separate := by
  induction e with
  | nil => exact hr
  | cons t e ih =>
    obtain ⟨ht, he⟩ := List.forall_mem_cons.1 h
    exact ht.isChain_cons (ih he)

/-- The characters of an id. -/
theorem toNat_of_mem_idText (h : c ∈ idText i) : c.toNat = 0x2D ∨ 0x30 ≤ c.toNat ∧ c.toNat ≤ 0x39 := by
  have hdigits : ∀ n, c ∈ Number.decimalDigits n → 0x30 ≤ c.toNat ∧ c.toNat ≤ 0x39 := fun n hc =>
    Number.toNat_bounds_of_isDigit (Number.isDigit_of_mem_decimalDigits hc)
  by_cases hi : i < 0
  · rw [idText, Number.toList_integerText_of_neg hi] at h
    rcases List.mem_cons.1 h with rfl | h
    · exact .inl rfl
    · exact .inr (hdigits _ h)
  · rw [idText, Number.toList_integerText_of_nonneg (Int.not_lt.1 hi)] at h
    exact .inr (hdigits _ h)

theorem not_isBlank_of_mem_idText (h : c ∈ idText i) : Text.isBlank c = false := by
  have hbounds := toNat_of_mem_idText h
  simp only [Text.isBlank, Bool.or_eq_false_iff, Bool.and_eq_false_iff, decide_eq_false_iff_not, beq_eq_false_iff_ne]
  omega

theorem idText_ne_nil (i : ℤ) : idText i ≠ [] := by
  by_cases hi : i < 0
  · rw [idText, Number.toList_integerText_of_neg hi]
    exact List.cons_ne_nil _ _
  · rw [idText, Number.toList_integerText_of_nonneg (Int.not_lt.1 hi)]
    exact decimalDigits_ne_nil _

theorem whole_of_mem_idTokens (h : t ∈ idTokens i) : t.Whole := by
  obtain ⟨c, hc, rfl⟩ := List.mem_map.1 h
  have hbounds := toNat_of_mem_idText hc
  have hne : ∀ d ∈ ['\'', '"', '(', ')', ','], c ≠ d := by
    rintro d hd rfl
    have hother : ∀ d ∈ ['\'', '"', '(', ')', ','], ¬ (d.toNat = 0x2D ∨ 0x30 ≤ d.toNat ∧ d.toNat ≤ 0x39) := by decide
    exact hother c hd hbounds
  have hword : isWordStart c = false := by
    by_contra hw
    rw [Bool.not_eq_false] at hw
    simp only [isWordStart, Bool.or_eq_true, Bool.and_eq_true, decide_eq_true_eq, beq_iff_eq] at hw
    rcases hw with (⟨hl, -⟩ | ⟨hl, -⟩) | rfl
    · have hnat : 0x41 ≤ c.toNat := UInt32.le_iff_toNat_le.1 hl
      omega
    · have hnat : 0x61 ≤ c.toNat := UInt32.le_iff_toNat_le.1 hl
      omega
    · revert hbounds
      decide
  exact .other ⟨hne _ (by simp), hne _ (by simp), hne _ (by simp), hne _ (by simp)⟩ (hne _ (by simp)) hword
    (not_isBlank_of_mem_idText hc)

theorem kind_of_mem_idTokens (h : t ∈ idTokens i) : t.kind = .other := by
  obtain ⟨c, -, rfl⟩ := List.mem_map.1 h
  rfl

theorem text_idTokens (i : ℤ) : (idTokens i).flatMap Token.text = idText i := by
  rw [idTokens, List.flatMap_map]
  simp

def moreTokens (is : List ℤ) : List Token := is.flatMap (fun j => ⟨.comma, [',']⟩ :: spacedTokens j) ++ [⟨.closing, [')']⟩]

theorem listed_ids (i : ℤ) (is : List ℤ) :
    listed (idTokens i :: is.map spacedTokens) [] = idTokens i ++ moreTokens is := by
  rw [listed, intercalate_cons, List.flatMap_map, List.append_assoc]
  rfl

theorem moreTokens_cons (i : ℤ) (is : List ℤ) :
    moreTokens (i :: is) = ⟨.comma, [',']⟩ :: ⟨.space, [' ']⟩ :: (idTokens i ++ moreTokens is) := by
  simp [moreTokens, spacedTokens]

theorem isChain_ids (i : ℤ) {r : List Token} (hr : r.IsChain Token.Separate) :
    (idTokens i ++ r).IsChain Token.Separate :=
  isChain_append (fun _ ht => .inl (kind_of_mem_idTokens ht)) hr

theorem isChain_moreTokens (is : List ℤ) : (moreTokens is).IsChain Token.Separate := by
  induction is with
  | nil => exact .singleton _
  | cons i is ih =>
    rw [moreTokens_cons]
    refine Ended.isChain_cons (.inr (.inr (.inr rfl))) (List.isChain_cons.2 ⟨fun t ht => ?_, isChain_ids i ih⟩)
    have hmem : t ∈ idTokens i := by
      obtain ⟨c, cs, hcs⟩ := List.exists_cons_of_ne_nil (idText_ne_nil i)
      rw [idTokens, hcs] at ht ⊢
      cases ht
      exact List.mem_cons_self
    obtain ⟨c, hc, rfl⟩ := List.mem_map.1 hmem
    rintro d ⟨⟩
    exact not_isBlank_of_mem_idText hc

theorem whole_moreTokens (is : List ℤ) : ∀ t ∈ moreTokens is, t.Whole := by
  induction is with
  | nil => simpa [moreTokens] using Token.Whole.closing
  | cons i is ih =>
    rw [moreTokens_cons]
    simp only [List.forall_mem_cons, List.forall_mem_append]
    exact ⟨.comma, .space (by decide) (by simp), fun _ => whole_of_mem_idTokens, ih⟩

theorem text_moreTokens (is : List ℤ) :
    (moreTokens is).flatMap Token.text = (is.map idText).flatMap (", ".toList ++ ·) ++ [')'] := by
  induction is with
  | nil => rfl
  | cons i is ih =>
    rw [moreTokens_cons, List.flatMap_cons, List.flatMap_cons, List.flatMap_append, ih, text_idTokens, List.map_cons,
      List.flatMap_cons]
    simp

theorem rendered_idTokens (i : ℤ) : (idTokens i).flatMap Token.rendered = idText i := by
  rw [idTokens, List.flatMap_map]
  simp [Token.rendered]

/-- No word is among the tokens, so that no room is needed. -/
theorem spelledIn_idTokens (calls : Nat) (i : ℤ) : spelledIn calls (idTokens i) = .ok (idText i) := by
  have hplain : ∀ ts : List Token, (∀ t ∈ ts, t.kind = .other) → spelledIn calls ts = .ok (ts.flatMap Token.rendered) := by
    intro ts hts
    induction ts with
    | nil => rw [spelledIn, List.flatMap_nil]
    | cons t ts ih =>
      obtain ⟨ht, hts⟩ := List.forall_mem_cons.1 hts
      have hin : t.isIn = false := by simp [Token.isIn, ht]
      rw [spelledIn_of_copy (by simp [Token.list?, hin]) (by simp [hin]), ih hts]
      rfl
  rw [hplain _ fun _ => kind_of_mem_idTokens, rendered_idTokens]

theorem spelledIn_spacedTokens (calls : Nat) (i : ℤ) : spelledIn calls (spacedTokens i) = .ok (' ' :: idText i) := by
  rw [spacedTokens, spelledIn_of_copy rfl (by simp [Token.isIn]), spelledIn_idTokens]
  rfl

/-- Without the blanks, the elements of the list are the ids. -/
theorem bracketed_ids (i : ℤ) (is : List ℤ) : bracketed (idText i :: is.map fun j => ' ' :: idText j) =
    "IN [".toList ++ [','].intercalate ((i :: is).map idText) ++ [']'] := by
  have htrim : ∀ lead j, (∀ c ∈ lead, Text.isBlank c) → Text.trim (lead ++ idText j) = idText j := by
    intro lead j hlead
    simpa using Text.trim_padded hlead (List.forall_mem_nil _) fun c hc => not_isBlank_of_mem_idText (i := j) hc
  have hid : Text.trim (idText i) = idText i := by
    rw [← List.nil_append (idText i), htrim [] i (List.forall_mem_nil _), List.nil_append]
  have hspaced : ∀ j ∈ is, (Text.trim ∘ fun j => ' ' :: idText j) j = idText j := by
    intro j _
    rw [Function.comp_apply, ← List.singleton_append, htrim [' '] j (by simp [show Text.isBlank ' ' = true by decide])]
  have htexts : (idText i :: is.map fun j => ' ' :: idText j).map Text.trim = (i :: is).map idText := by
    rw [List.map_cons, hid, List.map_map, List.map_cons, List.map_congr_left hspaced]
  have hfilter : ((i :: is).map idText).filter (!·.isEmpty) = (i :: is).map idText := by
    refine List.filter_eq_self.2 fun text htext => ?_
    obtain ⟨j, -, rfl⟩ := List.mem_map.1 htext
    simpa using idText_ne_nil j
  unfold bracketed
  rw [htexts, hfilter]

end

def idListStart : List Token :=
  [⟨.word, ['n']⟩, ⟨.other, ['.']⟩, ⟨.word, "objectid".toList⟩, ⟨.space, [' ']⟩, inWord, ⟨.space, [' ']⟩, ⟨.opening, ['(']⟩]

/-- The first tokens are apart from each other, and one of them, the fifth, asks for a list. -/
theorem idListStart_spec :
    idListStart.IsChain Token.Separate ∧ (∀ t ∈ idListStart.take 4, t.isIn = false) ∧ inWord.isIn = true := by
  unfold Token.Separate
  decide +kernel

theorem tokens_idList (i : ℤ) (is : List ℤ) :
    tokens ("n.objectid IN (".toList ++ ", ".toList.intercalate ((i :: is).map idText) ++ [')']) =
      .ok (idListStart ++ (idTokens i ++ moreTokens is)) := by
  have hstart : "n.objectid IN (".toList = idListStart.flatMap Token.text := by simp [idListStart, inWord]
  have htext : "n.objectid IN (".toList ++ ", ".toList.intercalate ((i :: is).map idText) ++ [')'] =
      (idListStart ++ (idTokens i ++ moreTokens is)).flatMap Token.text := by
    rewrite [hstart, List.map_cons, intercalate_cons, List.flatMap_append, List.flatMap_append, text_idTokens,
      text_moreTokens]
    simp only [List.append_assoc]
  rw [htext]
  refine tokens_flatMap_text ?_ ?_
  · simp only [List.forall_mem_append]
    refine ⟨?_, fun _ => whole_of_mem_idTokens, whole_moreTokens is⟩
    simp only [idListStart, inWord, List.forall_mem_cons]
    exact ⟨.word (by decide) (by simp), .other ⟨by decide, by decide, by decide, by decide⟩ (by decide) (by decide) (by decide),
      .word (by decide) (by decide), .space (by decide) (by simp), .word (by decide) (by decide),
      .space (by decide) (by simp), .opening, by simp⟩
  · refine List.isChain_append.2 ⟨idListStart_spec.1, isChain_ids i (isChain_moreTokens is), ?_⟩
    rintro t ht u -
    obtain rfl : ⟨.opening, ['(']⟩ = t := by simpa [idListStart] using ht
    exact Ended.separate (.inr (.inl rfl))

theorem spelledIn_idList {calls : Nat} (hcalls : 2 ≤ calls) (i : ℤ) (is : List ℤ) :
    spelledIn calls (idListStart ++ (idTokens i ++ moreTokens is)) =
      .ok ("n.objectid IN [".toList ++ [','].intercalate ((i :: is).map idText) ++ [']']) := by
  obtain ⟨-, hcopy, hin⟩ := idListStart_spec
  have hjoins : ∀ f ∈ idTokens i :: is.map spacedTokens, ∀ t ∈ f, Joins t := by
    have hid : ∀ j, ∀ t ∈ idTokens j, Joins t := fun j t ht => by simp [Joins, kind_of_mem_idTokens ht]
    refine List.forall_mem_cons.2 ⟨hid i, fun f hf => ?_⟩
    obtain ⟨j, -, rfl⟩ := List.mem_map.1 hf
    exact List.forall_mem_cons.2 ⟨by simp [Joins], hid j⟩
  have hlist : inWord.list? (⟨.space, [' ']⟩ :: ⟨.opening, ['(']⟩ :: (idTokens i ++ moreTokens is)) =
      some (some (idTokens i :: is.map spacedTokens, [])) := by
    rw [Token.list?, if_pos hin, listAfter?_space rfl, listAfter?_cons (by simp), if_pos rfl, ← listed_ids,
      splitList_listed hjoins]
  have helements : (idTokens i :: is.map spacedTokens).mapM (spelledIn (calls - 2)) =
      .ok (idText i :: is.map fun j => ' ' :: idText j) := by
    have hmore : (is.map spacedTokens).mapM (spelledIn (calls - 2)) = .ok (is.map fun j => ' ' :: idText j) := by
      have htexts : spelledIn (calls - 2) ∘ spacedTokens = fun j => pure (' ' :: idText j) :=
        funext (spelledIn_spacedTokens _)
      rw [List.mapM_map, htexts]
      exact List.mapM_pure
    rw [List.mapM_cons, spelledIn_idTokens, hmore]
    rfl
  have hspelled : spelledIn calls (inWord :: ⟨.space, [' ']⟩ :: ⟨.opening, ['(']⟩ :: (idTokens i ++ moreTokens is)) =
      .ok ("IN [".toList ++ [','].intercalate ((i :: is).map idText) ++ [']']) := by
    rw [spelledIn_of_list hlist hcalls, helements, spelledIn, ← bracketed_ids]
    exact congrArg Except.ok (List.append_nil _)
  have hfirst : ∀ t ∈ idListStart.take 4, ∀ r, spelledIn calls (t :: r) = (spelledIn calls r).map (t.rendered ++ ·) :=
    fun t ht r => spelledIn_of_copy (by rw [Token.list?, hcopy t ht]; rfl) (by simp [hcopy t ht])
  have hstart : "n.objectid IN [".toList = (idListStart.take 4).flatMap Token.rendered ++ "IN [".toList := by
    simp [idListStart, Token.rendered]
  have htokens : idListStart ++ (idTokens i ++ moreTokens is) =
      ⟨.word, ['n']⟩ :: ⟨.other, ['.']⟩ :: ⟨.word, "objectid".toList⟩ :: ⟨.space, [' ']⟩ ::
        (inWord :: ⟨.space, [' ']⟩ :: ⟨.opening, ['(']⟩ :: (idTokens i ++ moreTokens is)) := rfl
  rw [htokens, hfirst _ (by simp [idListStart]), hfirst _ (by simp [idListStart]), hfirst _ (by simp [idListStart]),
    hfirst _ (by simp [idListStart]), hspelled, hstart]
  simp [idListStart, Except.map]

theorem ofRendered_idList {calls : Nat} (hcalls : 2 ≤ calls) (i : ℤ) (is : List ℤ) :
    ofRendered ("n.objectid IN (".toList ++ ", ".toList.intercalate ((i :: is).map idText) ++ [')']) calls =
      .ok ("n.objectid IN [".toList ++ [','].intercalate ((i :: is).map idText) ++ [']']) := by
  rw [ofRendered_of_tokens (tokens_idList i is), spelledIn_idList hcalls]

end FeatureGraph.Cypher

namespace FeatureGraph.Filter
open Number

theorem objectIds_eq (ids : List ℤ) : objectIds (ids.map .int) =
    if ∀ i ∈ ids, WithinLimit i then .ok (ofObjectIds (ids.map .int)) else .error .unwritableInteger := by
  simp [objectIds, Json.isWritable]

/-- Object ids win over any filter: the predicate is the list of their decimal texts, in their order, unless one of them
has too many digits to be written. -/
theorem restriction_objectIds {library : Library} (hlibrary : library.KeepsIds) {calls : Nat} (hcalls : 2 ≤ calls)
    (filter : Option String) {ids : List ℤ} (h : ids ≠ []) :
    restriction "n" filter (ids.map .int) library calls =
      if ∀ i ∈ ids, WithinLimit i then .ok (some ("n.objectid IN [" ++ ",".intercalate (ids.map integerText) ++ "]"))
      else .error Defect.unwritableInteger := by
  have hempty : (ids.map Json.int).isEmpty = false := by simpa using h
  simp only [restriction, hempty, Bool.not_false, if_true, objectIds_eq]
  split
  · have hpredicate : predicate "n" (ofObjectIds (ids.map .int)) library calls =
        .ok ("n.objectid IN [" ++ ",".intercalate (ids.map integerText) ++ "]") := by
      refine predicate_of_qualified (hlibrary.qualified h) ?_
      obtain ⟨i, is, rfl⟩ := List.exists_cons_of_ne_nil h
      have htexts : (((i :: is).map integerText).map String.toList) = (i :: is).map idText := by
        rw [List.map_map]
        rfl
      rewrite [Cypher.ofRendered_idList hcalls, String.toList_append, String.toList_append, String.toList_intercalate,
        htexts]
      rfl
    exact congrArg (some <$> ·) hpredicate
  · rfl

/-- Signs, a repeated id and a number beyond any fixed size; the filter is not well-formed. -/
theorem restriction_objectIds_signed : Library.postgres.KeepsIds ∧ 2 ≤ callLimit ∧
    [-7, 0, 18446744073709551616, -7] ≠ ([] : List ℤ) ∧
    restriction "n" (some "a = ) '") [.int (-7), .int 0, .int 18446744073709551616, .int (-7)] =
      .ok (some "n.objectid IN [-7,0,18446744073709551616,-7]") := by
  have hne : [-7, 0, 18446744073709551616, -7] ≠ ([] : List ℤ) := by simp
  have htext : "n.objectid IN [" ++ ",".intercalate ([-7, 0, 18446744073709551616, -7].map integerText) ++ "]" =
      "n.objectid IN [-7,0,18446744073709551616,-7]" := by decide +kernel
  have hlimit : ∀ i ∈ ([-7, 0, 18446744073709551616, -7] : List ℤ), WithinLimit i := by decide +kernel
  have hrestriction := restriction_objectIds keepsIds_postgres (show 2 ≤ callLimit by decide) (some "a = ) '") hne
  rw [if_pos hlimit, htext] at hrestriction
  exact ⟨keepsIds_postgres, by decide, hne, hrestriction⟩

/-- An id of one digit too many. -/
theorem restriction_longId : restriction "n" none [.int ((10 ^ digitLimit : ℕ) : ℤ)] = .error Defect.unwritableInteger := by
  have hlong : ¬WithinLimit ((10 ^ digitLimit : ℕ) : ℤ) := by
    rw [withinLimit_iff, Int.natAbs_natCast]
    exact Nat.lt_irrefl _
  have hids : objectIds [.int ((10 ^ digitLimit : ℕ) : ℤ)] = .error .unwritableInteger := by
    have heq := objectIds_eq [((10 ^ digitLimit : ℕ) : ℤ)]
    rwa [if_neg fun h => hlong (h _ List.mem_cons_self)] at heq
  rw [restriction, hids]
  rfl

end FeatureGraph.Filter
