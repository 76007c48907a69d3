import FeatureGraph.Proofs.Schema.Numbering

/-! # References to layers

A reference comes to a layer, or it is invalid. What escapes the two is a text that looks like digits and is not read as a
number, such as a superscript two, and a whole number that has too many digits to be written in a failure. -/
namespace FeatureGraph

/-! ## References that no number is meant by -/

/-- What a value is shown as has a character that no number of a layer has. -/
def Json.IsMarked (v : Json) : Prop := ∃ c ∈ v.display.toList, Text.isBlank c = false ∧ Text.isDigitLike c = false

section
variable {c : Char} {cs : List Char} {ref : Json}

theorem mem_trim (hc : c ∈ cs) (hblank : Text.isBlank c = false) : c ∈ Text.trim cs := by
  obtain ⟨lead, trail, hcs, hlead, htrail⟩ := Text.exists_eq_append_trim cs
  rw [hcs, List.mem_append, List.mem_append] at hc
  rcases hc with (hc | hc) | hc
  · rw [hlead c hc] at hblank
    cases hblank
  · exact hc
  · rw [htrail c hc] at hblank
    cases hblank

theorem point_mem_positional (ds : List Char) (magnitude : Int) :
    '.' ∈ Number.FloatLayout.plain.positional ds magnitude := by
  unfold Number.FloatLayout.positional
  split
  · simp
  · dsimp only
    split
    · simp [Number.FloatLayout.plain]
    · simp

/-- A double is written with a point or an exponent, or as a word. -/
theorem isMarked_float (x : Float) : (Json.float x).IsMarked := by
  have hword : Text.isBlank 'n' = false ∧ Text.isDigitLike 'n' = false := by decide
  change ∃ c ∈ (Number.FloatLayout.plain.write x).toList, _
  unfold Number.FloatLayout.write
  cases Number.parts x with
  | nan => exact ⟨'n', by decide, hword⟩
  | infinite negative => cases negative <;> exact ⟨'n', by decide, hword⟩
  | finite negative m e =>
    obtain ⟨c, hc, hmark⟩ : ∃ c ∈ Number.FloatLayout.plain.unsigned m e,
        Text.isBlank c = false ∧ Text.isDigitLike c = false := by
      unfold Number.FloatLayout.unsigned
      dsimp only
      split
      · exact ⟨'.', point_mem_positional _ _, by decide⟩
      · exact ⟨'e', by simp [Number.FloatLayout.scientific], by decide⟩
    cases negative with
    | false => exact ⟨c, by simpa using hc, hmark⟩
    | true => exact ⟨c, by simpa using .inr hc, hmark⟩

theorem layerNumber_of_isMarked (h : ref.IsMarked) (hbool : ∀ b, ref ≠ .bool b) (hint : ∀ n, ref ≠ .int n) :
    layerNumber ref = .error (.showing ref (invalidLayer ref)) := by
  obtain ⟨c, hc, hblank, hdigit⟩ := h
  have hnone : (Text.trim ref.display.toList).all Text.isDigitLike = false := by
    refine Bool.eq_false_iff.2 fun hall => ?_
    rw [List.all_eq_true.1 hall c (mem_trim hc hblank)] at hdigit
    cases hdigit
  unfold layerNumber
  split
  · exact absurd rfl (hbool _)
  · exact absurd rfl (hint _)
  · simp only [hnone, Bool.not_false, Bool.or_true, if_true]

end

namespace Schema

/-! ## What references name -/

/-- The place that a reference names: a whole number, or the decimal digits of one, of any script and between blanks. -/
def Names : Json → Nat → Prop
  | .int n, i => n = i
  | .text t, i => Text.trim t.toList ≠ [] ∧ ∃ ds, (Text.trim t.toList).map Text.digitValue = ds.map some ∧
      i = Number.ofDigits ds
  | _, _ => False

/-- A text of digits of which no number is read: one is a digit by its look only, or they are too many. -/
def IsUnreadable (cs : List Char) : Prop :=
  cs ≠ [] ∧ (∀ c ∈ cs, Text.isDigitLike c) ∧ ((∃ c ∈ cs, ¬Text.isDecimal c) ∨ Number.digitLimit < cs.length)

section
variable {t : String} {ref : Json} {i j : Nat}

theorem Names.unique (h : Names ref i) (h' : Names ref j) : i = j := by
  cases ref with
  | int n => exact Int.ofNat_inj.1 (h.symm.trans h')
  | text t =>
    obtain ⟨-, ds, hds, rfl⟩ := h
    obtain ⟨-, ds', hds', rfl⟩ := h'
    rw [List.map_inj_right (fun _ _ => Option.some.inj) |>.1 (hds.symm.trans hds')]
  | _ => exact absurd h id

theorem Names.isDigitLike (h : Names (.text t) i) :
    Text.trim t.toList ≠ [] ∧ ∀ c ∈ Text.trim t.toList, Text.isDigitLike c := by
  obtain ⟨hne, ds, hds, -⟩ := h
  refine ⟨hne, fun c hc => Text.isDigitLike_of_isDecimal ?_⟩
  have hmem : Text.digitValue c ∈ ds.map some := hds ▸ List.mem_map_of_mem hc
  obtain ⟨d, -, hd⟩ := List.mem_map.1 hmem
  rw [Text.isDecimal, ← hd]
  rfl

theorem layerNumber_text_of_not_digits
    (h : Text.trim t.toList = [] ∨ ¬∀ c ∈ Text.trim t.toList, Text.isDigitLike c) :
    layerNumber (.text t) = .error (invalidLayer (.text t)) := by
  have hbranch : ((Text.trim t.toList).isEmpty || !(Text.trim t.toList).all Text.isDigitLike) = true := by
    rw [Bool.or_eq_true]
    refine h.imp (fun h => by rw [h]; rfl) fun h => ?_
    rwa [Bool.not_eq_true', ← Bool.not_eq_true, List.all_eq_true]
  simp only [layerNumber, Json.display, hbranch, if_true]
  rfl

theorem layerNumber_text_of_digits_like (hne : Text.trim t.toList ≠ [])
    (h : ∀ c ∈ Text.trim t.toList, Text.isDigitLike c) :
    (∃ i : Nat, layerNumber (.text t) = .ok i ∧ Names (.text t) i ∧ Number.WithinLimit i ∧
        ¬IsUnreadable (Text.trim t.toList)) ∨
      ∃ d : Defect, layerNumber (.text t) = .error d ∧ d.name = "ValueError" ∧ IsUnreadable (Text.trim t.toList) := by
  have hbranch : ((Text.trim t.toList).isEmpty || !(Text.trim t.toList).all Text.isDigitLike) = false := by
    rw [Bool.or_eq_false_iff, List.isEmpty_eq_false_iff, Bool.not_eq_false', List.all_eq_true]
    exact ⟨hne, h⟩
  have hread := Number.integer?_isSome_iff h
  cases hn : Number.integer? (Text.trim t.toList) with
  | some n =>
    rw [hn] at hread
    obtain ⟨-, hdecimal, hshort⟩ := hread.1 rfl
    obtain ⟨ds, hds, rfl⟩ := Number.exists_values_of_integer? h hn
    refine .inl ⟨_, by simp [layerNumber, Json.display, hbranch, hn]; rfl, ⟨hne, ds, hds, rfl⟩,
      Number.withinLimit_of_integer? hn, ?_⟩
    rintro ⟨-, -, ⟨c, hc, hother⟩ | hlong⟩
    · exact hother (hdecimal c hc)
    · omega
  | none =>
    rw [hn] at hread
    have hunreadable : IsUnreadable (Text.trim t.toList) := by
      refine ⟨hne, h, ?_⟩
      by_contra hnot
      rw [not_or] at hnot
      have hdecimal : ∀ c ∈ Text.trim t.toList, Text.isDecimal c := fun c hc => by
        by_contra hother
        exact hnot.1 ⟨c, hc, hother⟩
      exact absurd (hread.2 ⟨hne, hdecimal, Nat.not_lt.1 hnot.2⟩) (by decide)
    by_cases hlong : Number.digitLimit < ((Text.trim t.toList).takeWhile Text.isDecimal).length
    · exact .inr ⟨.tooManyDigits _, by simp [layerNumber, Json.display, hbranch, hn, hlong]; rfl, rfl, hunreadable⟩
    · exact .inr ⟨.invalidInteger _, by simp [layerNumber, Json.display, hbranch, hn, hlong]; rfl, rfl, hunreadable⟩

end

/-! ## What references come to -/

variable {s : Schema} {ref : Json} {n : Int}

/-- References that are read as no number or name one that cannot be written: a text of digits that is unreadable, a
whole number outside the layers with too many digits, a list or an object that holds one. -/
def Escapes (s : Schema) : Json → Prop
  | .text t => IsUnreadable (Text.trim t.toList)
  | .int n => ¬Number.WithinLimit n ∧ (n < 0 ∨ s.all.length ≤ n)
  | ref => ref.isWritable = false

/-- The layer in the place that the reference names, or the failure of an invalid reference if there is none. -/
def IsSettled (s : Schema) (ref : Json) (x : Except Fault Layer) : Prop :=
  (∃ i l, Names ref i ∧ s.all[i]? = some l ∧ x = .ok l) ∨
    (∀ i, Names ref i → s.all.length ≤ i) ∧ ∃ f, x = .error (.failure f) ∧ f.kind = .invalidLayer

def IsDefective {α : Type} (x : Except Fault α) : Prop := ∃ d : Defect, x = .error (.defect d) ∧ d.name = "ValueError"

/-- A reference is settled unless a condition holds, and defective if it does. -/
structure SettlesUnless (s : Schema) (p : Prop) (ref : Json) : Prop where
  settled : ¬p → s.IsSettled ref (s.layer ref)
  defective : p → IsDefective (s.layer ref)

theorem IsSettled.unless {p : Prop} (h : s.IsSettled ref (s.layer ref)) (hp : ¬p) : s.SettlesUnless p ref :=
  ⟨fun _ => h, fun h => absurd h hp⟩

theorem IsDefective.unless {p : Prop} (h : IsDefective (s.layer ref)) (hp : p) : s.SettlesUnless p ref :=
  ⟨fun h => absurd hp h, fun _ => h⟩

theorem IsDefective.not_isSettled {x : Except Fault Layer} (h : IsDefective x) : ¬s.IsSettled ref x := by
  obtain ⟨d, rfl, -⟩ := h
  rintro (⟨i, l, -, -, hl⟩ | ⟨-, f, hf, -⟩)
  · cases hl
  · cases hf

section
variable (hnone : ∀ i, ¬Names ref i)
include hnone

theorem isSettled_invalid (h : layerNumber ref = .error (invalidLayer ref)) : s.IsSettled ref (s.layer ref) :=
  .inr ⟨fun i hi => absurd hi (hnone i), _, layer_of_no_number h, rfl⟩

theorem layer_of_naming (h : layerNumber ref = .error (.naming n (invalidLayer ref))) :
    s.SettlesUnless (¬Number.WithinLimit n) ref := by
  have hlayer := layer_of_no_number (s := s) h
  rw [Fault.naming] at hlayer
  split at hlayer
  · next hlimit =>
    exact IsSettled.unless (.inr ⟨fun i hi => absurd hi (hnone i), _, hlayer, rfl⟩) (not_not.2 hlimit)
  · next hlimit => exact IsDefective.unless ⟨_, hlayer, rfl⟩ hlimit

theorem layer_of_isMarked (h : ref.IsMarked) (hbool : ∀ b, ref ≠ .bool b) (hint : ∀ n, ref ≠ .int n) :
    s.SettlesUnless (ref.isWritable = false) ref := by
  have hlayer := layer_of_no_number (s := s) (layerNumber_of_isMarked h hbool hint)
  rw [Fault.showing] at hlayer
  split at hlayer
  · next hwritable =>
    exact IsSettled.unless (.inr ⟨fun i hi => absurd hi (hnone i), _, hlayer, rfl⟩) (by simp [hwritable])
  · next hwritable => exact IsDefective.unless ⟨_, hlayer, rfl⟩ (by simpa using hwritable)

end

theorem layer_of_layerNumber {i : Nat} (hi : Names ref i) (h : layerNumber ref = .ok i) :
    s.SettlesUnless (¬Number.WithinLimit i ∧ s.all.length ≤ i) ref := by
  rcases Nat.lt_or_ge i s.all.length with hlt | hge
  · have hl := List.getElem?_eq_getElem hlt
    exact IsSettled.unless (.inl ⟨i, _, hi, hl, layer_of_number h hl⟩) fun hp => absurd hlt (Nat.not_lt.2 hp.2)
  · obtain ⟨f, hkind, hlayer⟩ := layer_of_number_outside h hge
    rw [Fault.naming] at hlayer
    split at hlayer
    · next hlimit =>
      refine IsSettled.unless (.inr ⟨fun j hj => ?_, f, hlayer, hkind⟩) fun hp => hp.1 hlimit
      rwa [hj.unique hi]
    · next hlimit => exact IsDefective.unless ⟨_, hlayer, rfl⟩ ⟨hlimit, hge⟩

/-- Every reference is settled that does not escape. -/
theorem layer_settlesUnless (s : Schema) (ref : Json) : s.SettlesUnless (s.Escapes ref) ref := by
  cases ref with
  | bool b =>
    have hnone (i : Nat) : ¬Names (.bool b) i := fun h => h
    exact (isSettled_invalid hnone rfl).unless (by simp [Escapes, Json.isWritable])
  | int n =>
    rcases Int.lt_or_le n 0 with hneg | hnonneg
    · have hnumber : layerNumber (.int n) = .error (.naming n (invalidLayer (.int n))) := by rw [layerNumber, if_pos hneg]
      have hnone (i : Nat) : ¬Names (.int n) i := fun hi => by
        rw [Names] at hi
        omega
      obtain ⟨hsettled, hdefective⟩ := layer_of_naming (s := s) hnone hnumber
      exact ⟨fun h => hsettled fun hlimit => h ⟨hlimit, .inl hneg⟩, fun h => hdefective h.1⟩
    · have hnumber : layerNumber (.int n) = .ok n.toNat := by rw [layerNumber, if_neg (Int.not_lt.2 hnonneg)]
      have hnames : Names (.int n) n.toNat := (Int.toNat_of_nonneg hnonneg).symm
      obtain ⟨hsettled, hdefective⟩ := layer_of_layerNumber (s := s) hnames hnumber
      rw [Int.toNat_of_nonneg hnonneg] at hsettled hdefective
      refine ⟨fun h => hsettled fun hp => h ⟨hp.1, .inr (by omega)⟩, fun h => hdefective ⟨h.1, ?_⟩⟩
      have hhigh := h.2.resolve_left (Int.not_lt.2 hnonneg)
      omega
  | text t =>
    by_cases hdigits : Text.trim t.toList ≠ [] ∧ ∀ c ∈ Text.trim t.toList, Text.isDigitLike c
    · rcases layerNumber_text_of_digits_like hdigits.1 hdigits.2 with
        ⟨i, hnumber, hnames, hlimit, hreadable⟩ | ⟨d, hnumber, hname, hunreadable⟩
      · exact ((layer_of_layerNumber hnames hnumber).settled fun hp => hp.1 hlimit).unless hreadable
      · exact IsDefective.unless ⟨d, layer_of_no_number hnumber, hname⟩ hunreadable
    · have hnumber : layerNumber (.text t) = .error (invalidLayer (.text t)) := by
        apply layerNumber_text_of_not_digits
        rwa [ne_eq, not_and_or, not_not] at hdigits
      exact (isSettled_invalid (fun _ hi => hdigits hi.isDigitLike) hnumber).unless fun h => hdigits ⟨h.1, h.2.1⟩
  | null => exact layer_of_isMarked (fun _ h => h) ⟨'N', by decide, by decide⟩ (by simp) (by simp)
  | float x => exact layer_of_isMarked (fun _ h => h) (isMarked_float x) (by simp) (by simp)
  | list items =>
    have hmarked : (Json.list items).IsMarked := ⟨'[', by simp [Json.display, Json.literal], by decide⟩
    exact layer_of_isMarked (fun _ h => h) hmarked (by simp) (by simp)
  | object members =>
    have hmarked : (Json.object members).IsMarked := ⟨'\x7b', by simp [Json.display, Json.literal], by decide⟩
    exact layer_of_isMarked (fun _ h => h) hmarked (by simp) (by simp)

theorem escapes_superscript (s : Schema) : s.Escapes (.text "²") :=
  ⟨by decide, List.forall_mem_singleton.2 (by decide), .inl ⟨'²', by decide, by decide⟩⟩

/-- A superscript two is neither settled nor read as a number. -/
theorem not_settled_superscript : ¬∀ (s : Schema) (ref : Json), s.IsSettled ref (s.layer ref) := by
  intro h
  let s : Schema := .ofModel {}
  exact ((layer_settlesUnless s (.text "²")).defective (escapes_superscript s)).not_isSettled (h s (.text "²"))

end Schema

end FeatureGraph
