import Mathlib
import FeatureGraph.Proofs.Text.Utf8
import FeatureGraph.Wire.Scalar

/-! # Written fields read back

A message is folded field by field: bytes at its front take the value read so far to another, or make the
message unreadable, whatever follows them. -/
namespace FeatureGraph.Wire

/-! ## Numbers -/

namespace Varint

theorem readAll_cons {bs r : List UInt8} {n : Nat} (h : read bs = some (n, r)) :
    readAll bs = (readAll r).map (n :: ·) := by
  cases bs with
  | nil => simp [read, readFrom] at h
  | cons b bs =>
    rw [readAll]
    split
    · next m s hs =>
      rw [h] at hs
      cases hs
      rfl
    · next hs =>
      rw [h] at hs
      cases hs

theorem readAll_flatMap_encode {ns : List Nat} (h : ∀ n ∈ ns, n < 0x10000000000000000) :
    readAll (ns.flatMap encode) = some ns := by
  induction ns with
  | nil => simp [readAll]
  | cons n ns ih =>
    rw [List.flatMap_cons, readAll_cons (read_encode (h n (by simp)) _), ih fun m hm => h m (by simp [hm])]
    rfl

end Varint

theorem length_toLittle (width n : Nat) : (toLittle width n).length = width := by
  induction width generalizing n with
  | zero => rfl
  | succ width ih => simp [toLittle, ih]

theorem ofLittle_toLittle {width n : Nat} (h : n < 256 ^ width) : ofLittle (toLittle width n) = n := by
  induction width generalizing n with
  | zero =>
    simp only [Nat.pow_zero] at h
    simp only [toLittle, ofLittle]
    omega
  | succ width ih =>
    have hb : (UInt8.ofNat (n % 256)).toNat = n % 256 := by simp
    have hd : n / 256 < 256 ^ width := by
      rw [Nat.pow_succ] at h
      omega
    simp only [toLittle, ofLittle, hb, ih hd]
    omega

theorem takeBytes_append (bs r : List UInt8) : takeBytes bs.length (bs ++ r) = some (bs, r) := by
  simp [takeBytes]

theorem length_le_bytesField (number : Nat) (bs : List UInt8) : bs.length ≤ (bytesField number bs).length := by
  rw [bytesField, List.length_append]
  omega

theorem length_le_flatMap {α : Type} {f : α → List UInt8} {a : α} {as : List α} (h : a ∈ as) :
    (f a).length ≤ (as.flatMap f).length :=
  (List.sublist_flatten_of_mem (List.mem_map_of_mem h)).length_le

/-! ## Tokens -/

def IsNumber (number : Nat) : Prop := 0 < number ∧ number < 0x20000000

instance (number : Nat) : Decidable (IsNumber number) := inferInstanceAs (Decidable (_ ∧ _))

theorem token?_tag {number form : Nat} (hn : IsNumber number) (hf : form < 8) (r : List UInt8) :
    token? (tag number form ++ r) = tokenOf number form r := by
  obtain ⟨hpos, hlt⟩ := hn
  have hd : (number * 8 + form) / 8 = number := by omega
  have hm : (number * 8 + form) % 8 = form := by omega
  have hfive : number * 8 + form < Nat.pow 128 5 := Nat.lt_of_lt_of_le (show _ < 0x100000000 by omega) (by decide)
  rw [token?, tag, Varint.readFrom_encode _ _ _ hfive (by decide)]
  simp only [bind, Option.bind, hd, hm]
  rw [if_neg (by omega)]

theorem token?_varintField {number n : Nat} (hn : IsNumber number) (h : n < 0x10000000000000000) (r : List UInt8) :
    token? (varintField number n ++ r) = some (.field ⟨number, .varint n⟩, r) := by
  rw [varintField, List.append_assoc, token?_tag hn (by omega), tokenOf, Varint.read_encode h]
  rfl

theorem token?_bytesField {number : Nat} {bs : List UInt8} (hn : IsNumber number)
    (h : bs.length < 0x10000000000000000) (r : List UInt8) :
    token? (bytesField number bs ++ r) = some (.field ⟨number, .bytes bs⟩, r) := by
  rw [bytesField, List.append_assoc, List.append_assoc, token?_tag hn (by omega), tokenOf, Varint.read_encode h]
  simp only [bind, Option.bind, takeBytes_append]
  rfl

theorem token?_fixed64Field {number n : Nat} (hn : IsNumber number) (h : n < 0x10000000000000000) (r : List UInt8) :
    token? (fixed64Field number n ++ r) = some (.field ⟨number, .fixed64 n⟩, r) := by
  have hb := takeBytes_append (toLittle 8 n) r
  rw [length_toLittle] at hb
  rw [fixed64Field, List.append_assoc, token?_tag hn (by omega), tokenOf, hb, Option.map_some, ofLittle_toLittle h]

theorem token?_fixed32Field {number n : Nat} (hn : IsNumber number) (h : n < 0x100000000) (r : List UInt8) :
    token? (fixed32Field number n ++ r) = some (.field ⟨number, .fixed32 n⟩, r) := by
  have hb := takeBytes_append (toLittle 4 n) r
  rw [length_toLittle] at hb
  rw [fixed32Field, List.append_assoc, token?_tag hn (by omega), tokenOf, hb, Option.map_some, ofLittle_toLittle h]

theorem tokens?_cons {bs r : List UInt8} {t : Token} (h : token? bs = some (t, r)) :
    tokens? bs = (tokens? r).map (t :: ·) := by
  cases bs with
  | nil => simp [token?, Varint.readFrom] at h
  | cons b bs =>
    rw [tokens?]
    split
    · next u s hs =>
      rw [h] at hs
      cases hs
      rfl
    · next hs =>
      rw [h] at hs
      cases hs

/-! ## Folding -/

variable {α : Type} {levels : Nat} {step : α → Field → Option α}

@[simp] theorem foldFields_nil (a : α) : foldFields levels step a [] = some a := by
  simp [foldFields, fields?, tokens?, outside]

/-- The field at the front of a message is folded first. -/
theorem foldFields_cons {bs r : List UInt8} {f : Field} (h : token? bs = some (.field f, r)) (a : α) :
    foldFields levels step a bs = (step a f).bind fun b => foldFields levels step b r := by
  have hfields : fields? levels bs = (fields? levels r).map (f :: ·) := by
    simp only [fields?, tokens?_cons h, bind]
    cases tokens? r with
    | none => rfl
    | some ts => simp [outside]
  simp only [foldFields, hfields, bind]
  cases fields? levels r with
  | none => cases step a f <;> rfl
  | some fs => rfl

/-- An entry that is made of a name and a value is not set aside. -/
theorem foldEntry_bytesFields {name value : List UInt8} (hname : name.length < 0x10000000000000000)
    (hvalue : value.length < 0x10000000000000000) (a : α) :
    foldEntry levels step a (bytesField 1 name ++ bytesField 2 value) =
      (foldFields levels step a (bytesField 1 name ++ bytesField 2 value)).map some := by
  have hsecond := tokens?_cons (token?_bytesField (by decide : IsNumber 2) hvalue [])
  have htokens : tokens? (bytesField 1 name ++ bytesField 2 value) =
      some [.field ⟨1, .bytes name⟩, .field ⟨2, .bytes value⟩] := by
    rw [List.append_nil] at hsecond
    rw [tokens?_cons (token?_bytesField (by decide) hname _), hsecond]
    simp [tokens?]
  rw [foldEntry, htokens]
  rfl

theorem foldFields_of_foldEntry {o : Option α} {a b : α} {bs : List UInt8} (h : foldEntry levels step a bs = some o)
    (hb : b ∈ o) : foldFields levels step a bs = some b := by
  obtain ⟨c, hc, rfl⟩ := Option.map_eq_some_iff.1 h
  split at hb
  · rw [hc, Option.mem_some.1 hb]
  · cases hb

/-- Bytes at the front of a message take a value to another if a condition holds, and else nothing can be
read from the message. -/
structure Reads (levels : Nat) (step : α → Field → Option α) (P : Prop) (a : α) (bs : List UInt8) (b : α) :
    Prop where
  reads : P → ∀ r, foldFields levels step a (bs ++ r) = foldFields levels step b r
  refuses : ¬P → ∀ r, foldFields levels step a (bs ++ r) = none

namespace Reads

variable {P Q : Prop} {a b c : α} {bs cs : List UInt8}

theorem nil : Reads levels step True a [] a := ⟨fun _ _ => rfl, fun h => (h trivial).elim⟩

theorem congr (h : Reads levels step P a bs b) (hP : P ↔ Q) : Reads levels step Q a bs b := by
  rwa [propext hP] at h

theorem trans (h : Reads levels step P a bs b) (h' : Reads levels step Q b cs c) :
    Reads levels step (P ∧ Q) a (bs ++ cs) c where
  reads hPQ r := by rw [List.append_assoc, h.reads hPQ.1, h'.reads hPQ.2]
  refuses hPQ r := by
    rw [List.append_assoc]
    by_cases hP : P
    · rw [h.reads hP, h'.refuses fun hQ => hPQ ⟨hP, hQ⟩]
    · exact h.refuses hP _

/-- The value of a whole message. -/
theorem fold_eq [Decidable P] (h : Reads levels step P a bs b) :
    foldFields levels step a bs = if P then some b else none := by
  have hr := h.reads
  have hn := h.refuses
  split
  · next hP => simpa using hr hP []
  · next hP => simpa using hn hP []

theorem field {f : Field} (ht : ∀ r, token? (bs ++ r) = some (.field f, r)) (hs : P → step a f = some b)
    (hn : ¬P → step a f = none) : Reads levels step P a bs b where
  reads hP r := by rw [foldFields_cons (ht r), hs hP]; rfl
  refuses hP r := by rw [foldFields_cons (ht r), hn hP]; rfl

variable {number n : Nat} {ns : List Nat} {s : String}

/-- A field that holds a message of its own can be read when that message can. -/
theorem message [Decidable P] (hl : bs.length < 0x10000000000000000)
    (hs : step a ⟨number, .bytes bs⟩ = if P then some b else none) (hn : IsNumber number := by decide) :
    Reads levels step P a (bytesField number bs) b :=
  field (token?_bytesField hn hl) (fun hP => by rw [hs, if_pos hP]) fun hP => by rw [hs, if_neg hP]

theorem bytes (hl : bs.length < 0x10000000000000000) (hs : step a ⟨number, .bytes bs⟩ = some b)
    (hn : IsNumber number := by decide) : Reads levels step True a (bytesField number bs) b :=
  message hl (by rw [hs, if_pos trivial]) hn

theorem varint (h : n < 0x10000000000000000) (hs : step a ⟨number, .varint n⟩ = some b)
    (hn : IsNumber number := by decide) : Reads levels step True a (varintField number n) b :=
  field (token?_varintField hn h) (fun _ => hs) fun h => (h trivial).elim

theorem fixed64 (h : n < 0x10000000000000000) (hs : step a ⟨number, .fixed64 n⟩ = some b)
    (hn : IsNumber number := by decide) : Reads levels step True a (fixed64Field number n) b :=
  field (token?_fixed64Field hn h) (fun _ => hs) fun h => (h trivial).elim

theorem fixed32 (h : n < 0x100000000) (hs : step a ⟨number, .fixed32 n⟩ = some b)
    (hn : IsNumber number := by decide) : Reads levels step True a (fixed32Field number n) b :=
  field (token?_fixed32Field hn h) (fun _ => hs) fun h => (h trivial).elim

theorem nonzero (h : n < 0x10000000000000000) (hs : step a ⟨number, .varint n⟩ = some b) (h0 : n = 0 → a = b)
    (hn : IsNumber number := by decide) : Reads levels step True a (nonzeroField number n) b := by
  unfold nonzeroField
  split
  · next hz => exact h0 hz ▸ nil
  · exact varint h hs hn

theorem text (hl : (textField number s).length < 0x10000000000000000)
    (hs : step a ⟨number, .bytes (Text.Utf8.encode s)⟩ = some b) (h0 : s = "" → a = b)
    (hn : IsNumber number := by decide) : Reads levels step True a (textField number s) b := by
  unfold textField at hl ⊢
  split
  · next he => exact h0 (String.isEmpty_iff.1 he) ▸ nil
  · next he =>
    rw [if_neg he, bytesField, List.length_append] at hl
    exact bytes (by omega) hs hn

theorem double {bits : UInt64} (hs : step a ⟨number, .fixed64 bits.toNat⟩ = some b) (h0 : bits = 0 → a = b)
    (hn : IsNumber number := by decide) : Reads levels step True a (doubleField number bits) b := by
  unfold doubleField
  split
  · next hz => exact h0 hz ▸ nil
  · exact fixed64 bits.toNat_lt hs hn

theorem packed (hl : (packedField number ns).length < 0x10000000000000000)
    (hs : step a ⟨number, .bytes (ns.flatMap Varint.encode)⟩ = some b) (h0 : ns = [] → a = b)
    (hn : IsNumber number := by decide) : Reads levels step True a (packedField number ns) b := by
  unfold packedField at hl ⊢
  split
  · next he => exact h0 (List.isEmpty_iff.1 he) ▸ nil
  · next he =>
    rw [if_neg he, bytesField, List.length_append] at hl
    exact bytes (by omega) hs hn

/-- A repeated field is read entry by entry; `acc` is the value after some of the entries. -/
theorem all {β : Type} {encode : β → List UInt8} {Q : β → Prop} {vs : List β} (acc : List β → α)
    (h : ∀ done v todo, vs = done ++ v :: todo →
      Reads levels step (Q v) (acc done) (encode v) (acc (done ++ [v]))) :
    Reads levels step (∀ v ∈ vs, Q v) (acc []) (vs.flatMap encode) (acc vs) := by
  suffices ∀ todo done, vs = done ++ todo →
      Reads levels step (∀ v ∈ todo, Q v) (acc done) (todo.flatMap encode) (acc vs) from this vs [] rfl
  intro todo
  induction todo with
  | nil =>
    intro done hvs
    rw [List.append_nil] at hvs
    exact hvs ▸ nil.congr (by simp)
  | cons v todo ih =>
    intro done hvs
    have htail := ih (done ++ [v]) (by simp [hvs])
    exact ((h done v todo hvs).trans htail).congr (by simp)

end Reads

end FeatureGraph.Wire
