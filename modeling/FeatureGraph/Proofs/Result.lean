import Mathlib.Data.List.Forall2

/-! # Results

What a result that is there was put together from, what it has for certain, and when there is none. -/
namespace FeatureGraph

/-! ## Successful steps -/

section
variable {ε α β : Type}

theorem exists_of_bind_eq_ok {x : Except ε α} {f : α → Except ε β} {b : β} (h : x >>= f = .ok b) :
    ∃ a, x = .ok a ∧ f a = .ok b := by
  cases x with
  | error e => cases h
  | ok a => exact ⟨a, rfl, h⟩

theorem exists_of_map_eq_ok {x : Except ε α} {f : α → β} {b : β} (h : f <$> x = .ok b) :
    ∃ a, x = .ok a ∧ f a = b := by
  cases x with
  | error e => cases h
  | ok a => exact ⟨a, rfl, Except.ok.inj h⟩

theorem mapError_eq_ok_iff {δ : Type} {x : Except ε α} {g : ε → δ} {a : α} : x.mapError g = .ok a ↔ x = .ok a := by
  cases x <;> simp [Except.mapError]

theorem exists_of_any_toOption {x : Except ε α} {p : α → Bool} (h : x.toOption.any p) : ∃ a, x = .ok a ∧ p a := by
  cases x with
  | error e => cases h
  | ok a => exact ⟨a, rfl, h⟩

theorem exists_mapM_eq_ok {f : α → Except ε β} {as : List α} (h : ∀ a ∈ as, ∃ b, f a = .ok b) :
    ∃ bs, as.mapM f = .ok bs := by
  induction as with
  | nil => exact ⟨[], rfl⟩
  | cons a as ih =>
    obtain ⟨b, hb⟩ := h a (by simp)
    obtain ⟨bs, hbs⟩ := ih fun a' ha => h a' (by simp [ha])
    exact ⟨b :: bs, by simp only [List.mapM_cons, hb, hbs]; rfl⟩

theorem forall₂_of_mapM_eq_ok {f : α → Except ε β} {as : List α} {bs : List β} (h : as.mapM f = .ok bs) :
    List.Forall₂ (fun a b => f a = .ok b) as bs := by
  induction as generalizing bs with
  | nil =>
    cases h
    exact .nil
  | cons a as ih =>
    rw [List.mapM_cons] at h
    obtain ⟨b, ha, hrest⟩ := exists_of_bind_eq_ok h
    obtain ⟨cs, has, hbs⟩ := exists_of_bind_eq_ok hrest
    cases hbs
    exact .cons ha (ih has)

theorem length_of_mapM_eq_ok {f : α → Except ε β} {as : List α} {bs : List β} (h : as.mapM f = .ok bs) :
    bs.length = as.length := (forall₂_of_mapM_eq_ok h).length_eq.symm

end

/-! ## Properties of results -/

/-- A result, if there is one, has a property. -/
def Delivers {ε α : Type} (Q : α → Prop) (x : Except ε α) : Prop := ∀ a, x = .ok a → Q a

namespace Delivers

variable {ε α β : Type} {Q : α → Prop} {R : β → Prop} {x : Except ε α}

theorem ok {a : α} (h : Q a) : Delivers Q (.ok a : Except ε α) := by
  rintro b ⟨⟩
  exact h

theorem error (e : ε) : Delivers Q (.error e : Except ε α) := by
  rintro b ⟨⟩

theorem bind {f : α → Except ε β} (hx : Delivers Q x) (hf : ∀ a, Q a → Delivers R (f a)) : Delivers R (x >>= f) := by
  intro b hb
  cases x with
  | error e => cases hb
  | ok a => exact hf a (hx a rfl) b hb

/-- A first step of which nothing need be known. -/
theorem bind_true {f : α → Except ε β} (hf : ∀ a, Delivers R (f a)) : Delivers R (x >>= f) :=
  bind (Q := fun _ => True) (fun _ _ => trivial) fun a _ => hf a

theorem mapM {f : α → Except ε β} {as : List α} (hf : ∀ a ∈ as, Delivers R (f a)) :
    Delivers (fun bs => ∀ b ∈ bs, R b) (as.mapM f) := by
  induction as with
  | nil => exact ok (by simp)
  | cons a as ih =>
    obtain ⟨ha, has⟩ := List.forall_mem_cons.1 hf
    rw [List.mapM_cons]
    exact ha.bind fun b hb => (ih has).bind fun bs hbs => ok (List.forall_mem_cons.2 ⟨hb, hbs⟩)

theorem mapError {δ : Type} {g : ε → δ} (hx : Delivers Q x) : Delivers Q (x.mapError g) := by
  cases x with
  | error e => exact error _
  | ok a => exact ok (hx a rfl)

end Delivers

/-! ## Properties of errors -/

/-- A result, if it is an error, is one with a property. -/
def FailsWith {ε α : Type} (E : ε → Prop) (x : Except ε α) : Prop := ∀ e, x = .error e → E e

namespace FailsWith

variable {ε α β : Type} {E : ε → Prop} {x : Except ε α}

theorem ok (a : α) : FailsWith E (.ok a) := by
  rintro e ⟨⟩

theorem trivial : FailsWith (fun _ => True) x := fun _ _ => True.intro

theorem error {e : ε} (h : E e) : FailsWith E (.error e : Except ε α) := by
  rintro e' ⟨⟩
  exact h

theorem bind {f : α → Except ε β} (hx : FailsWith E x) (hf : ∀ a, x = .ok a → FailsWith E (f a)) :
    FailsWith E (x >>= f) := by
  intro e he
  cases x with
  | error e' =>
    cases he
    exact hx e rfl
  | ok a => exact hf a rfl e he

theorem map {f : α → β} (hx : FailsWith E x) : FailsWith E (x.map f) := by
  cases x with
  | error e => exact error (hx e rfl)
  | ok a => exact ok (f a)

theorem mapError {δ : Type} {D : δ → Prop} {y : Except δ α} {g : δ → ε} (hy : FailsWith D y) (hg : ∀ d, D d → E (g d)) :
    FailsWith E (y.mapError g) := by
  cases y with
  | error d => exact error (hg d (hy d rfl))
  | ok a => exact ok a

theorem mapM {f : α → Except ε β} {as : List α} (hf : ∀ a ∈ as, FailsWith E (f a)) : FailsWith E (as.mapM f) := by
  induction as with
  | nil => exact ok []
  | cons a as ih =>
    obtain ⟨ha, has⟩ := List.forall_mem_cons.1 hf
    rw [List.mapM_cons]
    exact ha.bind fun b _ => (ih has).bind fun bs _ => ok (b :: bs)

end FailsWith

/-! ## Single errors -/

/-- There is a result unless a condition holds, and then there is one error. -/
inductive FaultsWhen {ε α : Type} (P : Prop) (e : ε) : Except ε α → Prop where
  | ok (a : α) (h : ¬P) : FaultsWhen P e (.ok a)
  | error (h : P) : FaultsWhen P e (.error e)

namespace FaultsWhen

variable {ε α β : Type} {P Q : Prop} {e : ε} {x : Except ε α}

theorem congr (hx : FaultsWhen P e x) (h : P ↔ Q) : FaultsWhen Q e x := propext h ▸ hx

theorem map (hx : FaultsWhen P e x) (f : α → β) : FaultsWhen P e (do return f (← x) : Except ε β) := by
  cases hx with
  | ok a h => exact .ok (f a) h
  | error h => exact .error h

/-- One of some results is missing if there is one that is. -/
theorem mapM {f : α → Except ε β} {P : α → Prop} {as : List α} (hf : ∀ a ∈ as, FaultsWhen (P a) e (f a)) :
    FaultsWhen (∃ a ∈ as, P a) e (as.mapM f) := by
  induction as with
  | nil => exact .ok [] (by simp)
  | cons a as ih =>
    obtain ⟨ha, has⟩ := List.forall_mem_cons.1 hf
    rw [List.mapM_cons]
    generalize f a = y at ha
    cases ha with
    | error h => exact .error ⟨a, List.mem_cons_self, h⟩
    | ok b h =>
      refine ((ih has).map _).congr ?_
      simp only [List.exists_mem_cons_iff, h, false_or]

theorem eq_error_iff (hx : FaultsWhen P e x) (e' : ε) : x = .error e' ↔ e' = e ∧ P := by
  cases hx with
  | ok a h => exact ⟨nofun, fun h' => absurd h'.2 h⟩
  | error h =>
    constructor
    · rintro ⟨⟩
      exact ⟨rfl, h⟩
    · rintro ⟨rfl, -⟩
      rfl

end FaultsWhen

end FeatureGraph
