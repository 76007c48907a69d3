import FeatureGraph.Proofs.Wire.Field
import FeatureGraph.Proofs.Wire.Frame

/-! # Fields in the midst of a message

What stands before a field either leaves it to be folded in its turn, or puts it in a group, where it does not
count, or spoils the message. So messages that differ in one field are read alike if that field is folded alike. -/
namespace FeatureGraph.Wire

def IsField (bs : List UInt8) (f : Field) : Prop := token? bs = some (.field f, [])

theorem takeBytes_append_of_some {count : Nat} {bs b r : List UInt8} (h : takeBytes count bs = some (b, r))
    (s : List UInt8) : takeBytes count (bs ++ s) = some (b, r ++ s) := by
  unfold takeBytes at h
  split at h
  · next hcount =>
    cases h
    rw [takeBytes, if_pos (by rw [List.length_append]; omega), List.take_append_of_le_length hcount,
      List.drop_append_of_le_length hcount]
  · cases h

theorem tokenOf_append {number form : Nat} {bs r : List UInt8} {t : Token} (h : tokenOf number form bs = some (t, r))
    (s : List UInt8) : tokenOf number form (bs ++ s) = some (t, r ++ s) := by
  unfold tokenOf at h ⊢
  split at h
  · obtain ⟨p, hp, he⟩ := Option.map_eq_some_iff.1 h
    cases he
    rw [Varint.read_append hp]
    rfl
  · obtain ⟨p, hp, he⟩ := Option.map_eq_some_iff.1 h
    cases he
    rw [takeBytes_append_of_some hp]
    rfl
  · simp only [bind, Option.bind_eq_some_iff, Prod.exists] at h
    obtain ⟨n, r', hn, b, r'', hb, he⟩ := h
    cases he
    rw [Varint.read_append hn]
    simp only [bind, Option.bind, takeBytes_append_of_some hb]
    rfl
  · cases h
    rfl
  · cases h
    rfl
  · obtain ⟨p, hp, he⟩ := Option.map_eq_some_iff.1 h
    cases he
    rw [takeBytes_append_of_some hp]
    rfl
  · cases h

theorem token?_append {bs r : List UInt8} {t : Token} (h : token? bs = some (t, r)) (s : List UInt8) :
    token? (bs ++ s) = some (t, r ++ s) := by
  simp only [token?, bind, Option.bind_eq_some_iff, Prod.exists] at h
  obtain ⟨tag, rest, htag, hof⟩ := h
  rw [token?, Varint.readFrom_append htag]
  simp only [bind, Option.bind]
  split at hof
  · cases hof
  · next hnumber => rw [if_neg hnumber, tokenOf_append hof]

theorem tokens?_append {a : List UInt8} {ts : List Token} (h : tokens? a = some ts) (r : List UInt8) :
    tokens? (a ++ r) = (tokens? r).map (ts ++ ·) := by
  fun_induction tokens? a generalizing ts with
  | case1 =>
    cases h
    simp
  | case2 b bs t rest htoken ih =>
    obtain ⟨us, hus, rfl⟩ := Option.map_eq_some_iff.1 h
    rw [tokens?_cons (token?_append htoken r), ih hus]
    cases tokens? r <;> rfl
  | case3 => cases h

theorem IsField.token? {x : List UInt8} {f : Field} (hx : IsField x f) (r : List UInt8) :
    token? (x ++ r) = some (.field f, r) := token?_append hx r

theorem IsField.tokens? {a x : List UInt8} {ts : List Token} {f : Field} (ha : tokens? a = some ts) (hx : IsField x f)
    (b : List UInt8) : Wire.tokens? (a ++ x ++ b) = (Wire.tokens? b).map fun us => ts ++ .field f :: us := by
  rw [List.append_assoc, tokens?_append ha, tokens?_cons (hx.token? b)]
  cases Wire.tokens? b <;> rfl

theorem isField_bytesField {number : Nat} {bs : List UInt8} (h : bs.length < 0x10000000000000000)
    (hn : IsNumber number := by decide) : IsField (bytesField number bs) ⟨number, .bytes bs⟩ := by
  have ht := token?_bytesField hn h []
  rwa [List.append_nil] at ht

theorem isField_varintField {number n : Nat} (h : n < 0x10000000000000000) (hn : IsNumber number := by decide) :
    IsField (varintField number n) ⟨number, .varint n⟩ := by
  have ht := token?_varintField hn h []
  rwa [List.append_nil] at ht

@[simp] theorem isSome_tokens?_nil : (tokens? []).isSome := by simp [tokens?]

/-- Tokens at the front open and close groups and give fields, or spoil the message, whatever follows them. -/
theorem outside_append (levels : Nat) (groups : List Nat) (ts : List Token) :
    (∀ us, outside levels groups (ts ++ us) = none) ∨
    ∃ groups' fs, ∀ us, outside levels groups (ts ++ us) = (outside levels groups' us).map (fs ++ ·) := by
  induction ts generalizing groups with
  | nil => exact .inr ⟨groups, [], fun us => by simp⟩
  | cons t ts ih =>
    cases t with
    | field f =>
      simp only [List.cons_append, outside]
      split
      · rcases ih groups with hnone | ⟨groups', fs, h⟩
        · exact .inl fun us => by rw [hnone]; rfl
        · refine .inr ⟨groups', f :: fs, fun us => ?_⟩
          rw [h]
          cases outside levels groups' us <;> rfl
      · exact ih groups
    | opening number =>
      simp only [List.cons_append, outside]
      split
      · exact ih (number :: groups)
      · exact .inl fun us => rfl
    | closing number =>
      cases groups with
      | nil => exact .inl fun us => rfl
      | cons g groups =>
        simp only [List.cons_append, outside]
        split
        · exact ih groups
        · exact .inl fun us => rfl

def IsPart (x : List UInt8) : Option Field → Prop
  | some f => IsField x f
  | none => x = []

theorem IsField.part {x : List UInt8} {f : Field} (hx : IsField x f) : IsPart x (some f) := hx

theorem isPart_nil : IsPart [] none := rfl

def takePart {α : Type} (step : α → Field → Option α) (v : α) (p : Option Field) : Option α := p.elim (some v) (step v)

section
variable {α : Type} {levels : Nat} {step : α → Field → Option α} {a b x₀ x x' : List UInt8} {p₀ p p' : Option Field}

theorem IsPart.foldFields (hx : IsPart x p) (v : α) (r : List UInt8) :
    foldFields levels step v (x ++ r) = (takePart step v p).bind fun w => foldFields levels step w r := by
  cases p with
  | some f => exact foldFields_cons (IsField.token? hx r) v
  | none =>
    cases hx
    rfl

/-- The front of a message spoils it, or is read first, or leaves a group open, in which what follows does not
count. -/
theorem foldFields_cases (levels : Nat) (step : α → Field → Option α) (ha : (tokens? a).isSome) :
    (∀ v r, foldFields levels step v (a ++ r) = none) ∨
    (∃ fs : List Field, ∀ v r, foldFields levels step v (a ++ r) =
      (fs.foldlM step v).bind fun w => foldFields levels step w r) ∨
    ∀ v x p b, IsPart x p → foldFields levels step v (a ++ x ++ b) = foldFields levels step v (a ++ b) := by
  obtain ⟨ts, hts⟩ := Option.isSome_iff_exists.1 ha
  have hfields (r : List UInt8) :
      fields? levels (a ++ r) = (tokens? r).bind fun us => outside levels [] (ts ++ us) := by
    rw [fields?, tokens?_append hts]
    cases tokens? r <;> rfl
  rcases outside_append levels [] ts with hnone | ⟨groups, fs, h⟩
  · refine .inl fun v r => ?_
    rw [foldFields, hfields]
    cases tokens? r with
    | none => rfl
    | some us => simp [hnone]
  · cases groups with
    | nil =>
      refine .inr (.inl ⟨fs, fun v r => ?_⟩)
      have hr : fields? levels (a ++ r) = (fields? levels r).map (fs ++ ·) := by
        rw [hfields, fields?]
        cases tokens? r with
        | none => rfl
        | some us => exact h us
      rw [foldFields, hr]
      simp only [foldFields]
      cases fields? levels r with
      | none => cases fs.foldlM step v <;> rfl
      | some gs => simp [List.foldlM_append]
    | cons g groups =>
      refine .inr (.inr fun v x p b hx => ?_)
      have hx' : fields? levels (a ++ x ++ b) = fields? levels (a ++ b) := by
        cases p with
        | none =>
          cases hx
          rw [List.append_nil]
        | some f =>
          rw [List.append_assoc, hfields, hfields, tokens?_cons (IsField.token? hx b)]
          cases tokens? b with
          | none => rfl
          | some us => simp [h, outside]
      rw [foldFields, foldFields, hx']

/-- If a message can be read, and another gives some value, then a third gives the same: they differ in one part, and
there this is so. -/
theorem foldFields_splice (ha : (tokens? a).isSome) (hx₀ : IsPart x₀ p₀) (hx : IsPart x p) (hx' : IsPart x' p')
    (hstep : ∀ v u₀ u, takePart step v p₀ = some u₀ → takePart step v p = some u → takePart step v p' = some u)
    {v w₀ w : α} (h₀ : foldFields levels step v (a ++ x₀ ++ b) = some w₀)
    (h : foldFields levels step v (a ++ x ++ b) = some w) : foldFields levels step v (a ++ x' ++ b) = some w := by
  rcases foldFields_cases levels step ha with hnone | ⟨fs, hfs⟩ | hgroup
  · rw [List.append_assoc, hnone] at h
    cases h
  · rw [List.append_assoc, hfs, Option.bind_eq_some_iff] at h₀ h ⊢
    obtain ⟨t, ht, h₀⟩ := h₀
    obtain ⟨t', ht', h⟩ := h
    obtain rfl : t' = t := Option.some.inj (ht'.symm.trans ht)
    rw [hx₀.foldFields, Option.bind_eq_some_iff] at h₀
    rw [hx.foldFields, Option.bind_eq_some_iff] at h
    obtain ⟨u₀, hu₀, -⟩ := h₀
    obtain ⟨u, hu, hb⟩ := h
    refine ⟨t', ht, ?_⟩
    rw [hx'.foldFields, hstep t' u₀ u hu₀ hu]
    exact hb
  · rw [hgroup _ _ _ _ hx] at h
    rw [hgroup _ _ _ _ hx', h]

/-- A field that is passed over may be put in. -/
theorem foldFields_insert {f : Field} (ha : (tokens? a).isSome) (hx : IsField x f) (hf : ∀ v, step v f = some v)
    {v w : α} (h : foldFields levels step v (a ++ b) = some w) :
    foldFields levels step v (a ++ x ++ b) = some w := by
  have hnil : foldFields levels step v (a ++ [] ++ b) = some w := by rwa [List.append_nil]
  exact foldFields_splice ha isPart_nil isPart_nil hx.part (fun v _ _ _ hu => (hf v).trans hu) hnil hnil

end

section
variable {a b x x' : List UInt8} {f f' : Field} {p : Token → Bool}

theorem any_all_tokens (ha : (tokens? a).isSome) (hx : IsField x f) (hx' : IsField x' f')
    (hp : p (.field f) = p (.field f')) :
    (tokens? (a ++ x' ++ b)).any (·.all p) = (tokens? (a ++ x ++ b)).any (·.all p) := by
  obtain ⟨ts, hts⟩ := Option.isSome_iff_exists.1 ha
  rw [IsField.tokens? hts hx, IsField.tokens? hts hx']
  cases tokens? b with
  | none => rfl
  | some us => simp [hp]

theorem any_all_tokens_eq_false (ha : (tokens? a).isSome) (hx : IsField x f) (hp : p (.field f) = false) :
    (tokens? (a ++ x ++ b)).any (·.all p) = false := by
  obtain ⟨ts, hts⟩ := Option.isSome_iff_exists.1 ha
  rw [IsField.tokens? hts hx]
  cases tokens? b with
  | none => rfl
  | some us => simp [hp]

end

end FeatureGraph.Wire
