import FeatureGraph.Service.World

/-! # Running a session step by step

What an operation sends stays sent, whatever becomes of it. So its result and the requests it sends are judged
together, in every world alike. -/
namespace FeatureGraph.Session

variable {α β : Type} {x : Session α} {w w' : World}

theorem run_bind_of_ok {a : α} (h : x.run.run w = (.ok a, w')) (f : α → Session β) :
    (x >>= f).run.run w = (f a).run.run w' := by
  rw [ExceptT.run_bind, StateT.run_bind, h]
  rfl

theorem run_bind_of_error {e : Fault} (h : x.run.run w = (.error e, w')) (f : α → Session β) :
    (x >>= f).run.run w = (.error e, w') := by
  rw [ExceptT.run_bind, StateT.run_bind, h]
  rfl

theorem run_tryCatch (x : Session α) (handle : Fault → Session α) (w : World) :
    (tryCatch x handle).run.run w =
      match x.run.run w with
      | (.ok a, w') => (.ok a, w')
      | (.error e, w') => (handle e).run.run w' := by
  rw [ExceptT.run_tryCatch, StateT.run_bind]
  rcases x.run.run w with ⟨_ | _, w'⟩ <;> rfl

theorem run_get (w : World) : (get : Session World).run.run w = (.ok w, w) := rfl

theorem run_send (remote : Remote) (r : Request) (w : World) :
    (send remote r).run.run w = (settled (r.answer (remote w.sent r)), { w with sent := w.sent ++ [r] }) := rfl

/-- The result of an operation as a value of its own. -/
theorem run_lift (x : Session α) (w : World) :
    (ExceptT.lift x.run : Session (Except Fault α)).run.run w = (.ok (x.run.run w).1, (x.run.run w).2) := rfl

theorem run_bind_ofFault (x : Session α) (f : α → Except Fault β) (w : World) :
    ((x >>= fun a => ofFault (f a)).run.run w).1 = (x.run.run w).1 >>= f := by
  rw [ExceptT.run_bind, StateT.run_bind]
  rcases x.run.run w with ⟨_ | _, w'⟩ <;> rfl

/-! ## Results with the requests sent for them -/

/-- In every world, the result of an operation and the requests that it sends have a property. -/
def Ensures (P : Except Fault α → List Request → Prop) (x : Session α) : Prop :=
  ∀ w, ∃ more, (x.run.run w).2.sent = w.sent ++ more ∧ P (x.run.run w).1 more

namespace Ensures

variable {P : Except Fault α → List Request → Prop} {Q : Except Fault β → List Request → Prop}

theorem mono {R : Except Fault α → List Request → Prop} (hx : Ensures P x) (h : ∀ r sent, P r sent → R r sent) :
    Ensures R x := by
  intro w
  obtain ⟨more, hsent, hP⟩ := hx w
  exact ⟨more, hsent, h _ _ hP⟩

/-- An operation that sends nothing. -/
theorem quiet (hsent : ∀ w, (x.run.run w).2.sent = w.sent) (hP : ∀ w, P (x.run.run w).1 []) : Ensures P x :=
  fun w => ⟨[], by rw [hsent, List.append_nil], hP w⟩

theorem ofFault {r : Except Fault α} (hr : P r []) : Ensures P (ofFault r) := quiet (fun _ => rfl) fun _ => hr

theorem ofFailure {r : Except Failure α} (hr : P (r.mapError .failure) []) : Ensures P (ofFailure r) :=
  quiet (fun _ => rfl) fun _ => hr

theorem ofDefect {r : Except Defect α} (hr : P (r.mapError .defect) []) : Ensures P (ofDefect r) :=
  quiet (fun _ => rfl) fun _ => hr

theorem pure {a : α} (h : P (.ok a) []) : Ensures P (pure a : Session α) := quiet (fun _ => rfl) fun _ => h

theorem throw {e : Fault} (h : P (.error e) []) : Ensures P (throw e : Session α) := quiet (fun _ => rfl) fun _ => h

theorem bind {f : α → Session β} (hx : Ensures P x) (herror : ∀ e sent, P (.error e) sent → Q (.error e) sent)
    (hok : ∀ a sent, P (.ok a) sent → Ensures (fun r more => Q r (sent ++ more)) (f a)) : Ensures Q (x >>= f) := by
  intro w
  obtain ⟨sent, hsent, hP⟩ := hx w
  cases hrun : x.run.run w with
  | mk r w' =>
    rw [hrun] at hsent hP
    cases r with
    | error e =>
      rw [run_bind_of_error hrun]
      exact ⟨sent, hsent, herror e sent hP⟩
    | ok a =>
      obtain ⟨more, hmore, hQ⟩ := hok a sent hP w'
      rw [run_bind_of_ok hrun]
      exact ⟨sent ++ more, by rw [hmore, hsent, List.append_assoc], hQ⟩

/-- Observing how an operation ends sends nothing. -/
theorem observed (hx : Ensures P x) (operation : String) (layer : Option Nat) :
    Ensures P (observed operation layer x) := by
  intro w
  obtain ⟨more, hsent, hP⟩ := hx w
  have hrun : ((Session.observed operation layer x).run.run w).1 = (x.run.run w).1 ∧
      ((Session.observed operation layer x).run.run w).2.sent = (x.run.run w).2.sent := by
    cases hrun : x.run.run w with
    | mk r w' =>
      have hcatch (handle : Fault → Session α) := run_tryCatch x handle w
      simp only [hrun] at hcatch
      cases r with
      | ok a =>
        rw [Session.observed, run_bind_of_ok (hcatch _)]
        exact ⟨rfl, rfl⟩
      | error e =>
        cases e with
        | failure f =>
          rw [Session.observed, run_bind_of_error (hcatch _)]
          exact ⟨rfl, rfl⟩
        | defect d =>
          rw [Session.observed, run_bind_of_error (hcatch _)]
          exact ⟨rfl, rfl⟩
  exact ⟨more, by rw [hrun.2, hsent], by rw [hrun.1]; exact hP⟩

end Ensures

end FeatureGraph.Session
