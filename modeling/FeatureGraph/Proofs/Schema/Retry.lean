import FeatureGraph.Proofs.Schema.SingleFlight
import Mathlib.Data.List.Induction

/-! # After a failure

The next caller after a failure starts a new fetch, if a caller was there to see the failure. A fetch that is answered
when all its callers have been cancelled stays shared: the next caller gets its failure, and the one after that starts
a new fetch. -/
namespace FeatureGraph.SchemaCache

variable {c : SchemaCache} {name other : String} {fetch : Nat} {e : Event}

/-- The last fetch was answered when no caller waited for it any more, and no caller has come since. -/
def Abandoned (events : List Event) : Prop :=
  ∃ before answer after fetch, events = before ++ .finish answer :: after ∧ (run {} before).IsRunning fetch ∧
    (∀ name, (run {} before).callers.lookup name ≠ some (.waiting fetch)) ∧
    ∀ name, ((run {} events).callers.lookup name).isSome → ((run {} before).callers.lookup name).isSome

/-- A fetch that is done is shared still, and no caller waits for it. -/
structure Unattended (c : SchemaCache) (fetch : Nat) : Prop where
  shared_eq : c.shared = some fetch
  isSome_result? : (c.result? fetch).isSome
  not_waiting : ∀ name, c.callers.lookup name ≠ some (.waiting fetch)

theorem run_append (c : SchemaCache) (events later : List Event) : c.run (events ++ later) = (c.run events).run later :=
  List.foldl_append

/-! ## Callers stay known -/

theorem isSome_lookup_setCaller {state : Caller} (h : (c.callers.lookup other).isSome) :
    ((c.setCaller name state).callers.lookup other).isSome := by
  rw [lookup_setCaller]
  split
  · rfl
  · exact h

theorem isSome_lookup_await (h : (c.callers.lookup other).isSome) :
    ((c.await name fetch).callers.lookup other).isSome :=
  isSome_lookup_setCaller (by rwa [callers_leave])

theorem isSome_lookup_step (h : (c.callers.lookup other).isSome) (e : Event) :
    ((c.step e).callers.lookup other).isSome := by
  cases e with
  | call name =>
    rcases call_cases c name with ⟨-, hcall⟩ | ⟨-, s, -, hcall⟩ | ⟨-, -, fetch, -, hcall⟩ | ⟨-, -, -, hcall⟩ <;>
      rw [step, hcall]
    · exact h
    · exact isSome_lookup_setCaller h
    · exact isSome_lookup_await h
    · exact isSome_lookup_await h
  | finish answer =>
    rcases finish_cases c answer with ⟨-, hfinish⟩ | ⟨fetch, snapshot, -, -, hfinish⟩ <;> rw [step, hfinish] <;> exact h
  | resume name =>
    rcases resume_cases c name with hresume | ⟨fetch, -, hresume⟩ <;> rw [step, hresume]
    · exact h
    · exact isSome_lookup_await h
  | cancel name =>
    rcases cancel_cases c name with hcancel | ⟨fetch, -, hcancel⟩ <;> rw [step, hcancel]
    · exact h
    · exact isSome_lookup_setCaller (by rwa [callers_leave])

theorem isSome_lookup_run (h : (c.callers.lookup other).isSome) (events : List Event) :
    ((c.run events).callers.lookup other).isSome := by
  induction events generalizing c with
  | nil => exact h
  | cons e events ih => exact ih (isSome_lookup_step h e)

/-- A call makes its caller known. -/
theorem isSome_lookup_call (c : SchemaCache) (name : String) : ((c.call name).callers.lookup name).isSome := by
  rcases call_cases c name with ⟨hknown, hcall⟩ | ⟨-, s, -, hcall⟩ | ⟨-, -, fetch, -, hcall⟩ | ⟨-, -, -, hcall⟩ <;>
    simp_all

/-! ## Unattended fetches -/

theorem waiting_of_outcome {fetch' : Nat} (h : c.outcome fetch = .waiting fetch') : fetch = fetch' := by
  unfold outcome at h
  split at h <;> cases h
  rfl

namespace Unattended

/-- Whoever waits for another fetch may leave it. -/
theorem leave_setCaller {left : Nat} {state : Caller} (h : c.Unattended fetch) (hleft : left ≠ fetch)
    (hstate : state ≠ .waiting fetch) : ((c.leave left).setCaller name state).Unattended fetch where
  shared_eq := by
    rw [shared_setCaller, shared_leave, if_neg]
    · exact h.shared_eq
    · rintro ⟨hshared, -⟩
      exact hleft (Option.some.inj (hshared.symm.trans h.shared_eq))
  isSome_result? := by
    rw [result?, fetches_setCaller, fetches_leave]
    exact h.isSome_result?
  not_waiting := by
    intro other hwaiting
    rw [lookup_setCaller, callers_leave] at hwaiting
    split at hwaiting
    · exact hstate (Option.some.inj hwaiting)
    · exact h.not_waiting other hwaiting

/-- Whoever left did not wait for the fetch: leaving one that is done makes room. -/
theorem of_leave_setCaller {left : Nat} {state : Caller} (hleft : c.callers.lookup name = some (.waiting left))
    (h : ((c.leave left).setCaller name state).Unattended fetch) : c.Unattended fetch := by
  have hshared := h.shared_eq
  rw [shared_setCaller, shared_leave] at hshared
  have hdone := h.isSome_result?
  rw [result?, fetches_setCaller, fetches_leave] at hdone
  split at hshared
  · cases hshared
  · next hkept =>
    refine ⟨hshared, hdone, fun other hwaiting => ?_⟩
    by_cases hname : other = name
    · rw [hname, hleft] at hwaiting
      cases hwaiting
      exact hkept ⟨hshared, hdone⟩
    · apply h.not_waiting other
      rw [lookup_setCaller, if_neg hname, callers_leave]
      exact hwaiting

/-- Without new callers an unattended fetch stays so. -/
theorem step (h : c.Unattended fetch) (hc : Consistent c)
    (hknown : ∀ name, ((c.step e).callers.lookup name).isSome → (c.callers.lookup name).isSome) :
    (c.step e).Unattended fetch := by
  cases e with
  | call name =>
    have hname := hknown name (isSome_lookup_call c name)
    simpa [SchemaCache.step, call, hname] using h
  | finish answer =>
    rcases finish_cases c answer with ⟨-, hfinish⟩ | ⟨running, -, hrunning, -⟩
    · rwa [SchemaCache.step, hfinish]
    · -- the shared fetch is done, so none runs
      have hdone := h.isSome_result?
      obtain rfl := Option.some.inj ((hc.shared_of_running running hrunning).symm.trans h.shared_eq)
      rw [hrunning.result?_eq_none] at hdone
      cases hdone
  | resume name =>
    rcases resume_cases c name with hresume | ⟨left, hleft, hresume⟩ <;> rw [SchemaCache.step, hresume]
    · exact h
    · have hne : left ≠ fetch := fun heq => h.not_waiting name (heq ▸ hleft)
      exact h.leave_setCaller hne fun hstate => hne (waiting_of_outcome hstate)
  | cancel name =>
    rcases cancel_cases c name with hcancel | ⟨left, hleft, hcancel⟩ <;> rw [SchemaCache.step, hcancel]
    · exact h
    · have hne : left ≠ fetch := fun heq => h.not_waiting name (heq ▸ hleft)
      exact h.leave_setCaller hne (by simp)

theorem run (h : c.Unattended fetch) (hc : Consistent c) {events : List Event}
    (hknown : ∀ name, ((c.run events).callers.lookup name).isSome → (c.callers.lookup name).isSome) :
    (c.run events).Unattended fetch := by
  induction events generalizing c with
  | nil => exact h
  | cons e events ih =>
    have hstep : ∀ name, ((c.step e).callers.lookup name).isSome → (c.callers.lookup name).isSome :=
      fun name hname => hknown name (isSome_lookup_run hname events)
    exact ih (h.step hc hstep) (hc.step e) fun name hname => isSome_lookup_step (hknown name hname) e

/-- A fetch becomes unattended by its answer, when no caller waits for it, and is so before a step that adds no caller
otherwise. -/
theorem of_step (hc : Consistent c) (hsnapshot : (c.step e).snapshot = none) (h : (c.step e).Unattended fetch) :
    (c.Unattended fetch ∧ ∀ name, ((c.step e).callers.lookup name).isSome → (c.callers.lookup name).isSome) ∨
    ∃ answer, e = .finish answer ∧ c.IsRunning fetch ∧
      (∀ name, c.callers.lookup name ≠ some (.waiting fetch)) ∧ (c.step e).callers = c.callers := by
  cases e with
  | call name =>
    rw [SchemaCache.step] at hsnapshot h ⊢
    rcases call_cases c name with ⟨-, hcall⟩ | ⟨-, s, hs, hcall⟩ | ⟨-, -, shared, hshared, hcall⟩ |
        ⟨-, -, -, hcall⟩ <;> rw [hcall] at hsnapshot h ⊢
    · exact .inl ⟨h, fun _ => id⟩
    · rw [snapshot_setCaller, hs] at hsnapshot
      cases hsnapshot
    · -- the new caller would have left it
      have hkept := h.shared_eq
      rw [shared_await, shared_leave] at hkept
      split at hkept
      · cases hkept
      · next hrunning =>
        obtain rfl := Option.some.inj (hshared.symm.trans hkept)
        have hdone := h.isSome_result?
        rw [result?, fetches_await] at hdone
        exact absurd ⟨hshared, hdone⟩ hrunning
    · -- the new fetch is the shared one and is not done
      have hkept := h.shared_eq
      have hdone := h.isSome_result?
      rw [shared_await, shared_leave] at hkept
      split at hkept
      · cases hkept
      · cases hkept
        simp [result?, start] at hdone
  | finish answer =>
    rw [SchemaCache.step] at h ⊢
    rcases finish_cases c answer with ⟨-, hfinish⟩ | ⟨running, snapshot, hrunning, -, hfinish⟩ <;> rw [hfinish] at h ⊢
    · exact .inl ⟨h, fun _ => id⟩
    · obtain rfl := Option.some.inj ((hc.shared_of_running running hrunning).symm.trans h.shared_eq)
      exact .inr ⟨answer, rfl, hrunning, h.not_waiting, rfl⟩
  | resume name =>
    rw [SchemaCache.step] at h ⊢
    rcases resume_cases c name with hresume | ⟨left, hleft, hresume⟩ <;> rw [hresume] at h ⊢
    · exact .inl ⟨h, fun _ => id⟩
    · refine .inl ⟨.of_leave_setCaller hleft h, fun other hother => ?_⟩
      rw [lookup_await] at hother
      split at hother
      · next hname => simp [hname, hleft]
      · exact hother
  | cancel name =>
    rw [SchemaCache.step] at h ⊢
    rcases cancel_cases c name with hcancel | ⟨left, hleft, hcancel⟩ <;> rw [hcancel] at h ⊢
    · exact .inl ⟨h, fun _ => id⟩
    · refine .inl ⟨.of_leave_setCaller hleft h, fun other hother => ?_⟩
      rw [lookup_setCaller, callers_leave] at hother
      split at hother
      · next hname => simp [hname, hleft]
      · exact hother

end Unattended

/-! ## Histories -/

theorem consistent_run (events : List Event) : Consistent (run {} events) :=
  (Reachable.initial.run events).consistent

theorem unattended_of_abandoned {events : List Event} (h : Abandoned events) :
    ∃ fetch, (run {} events).Unattended fetch := by
  obtain ⟨before, answer, after, fetch, rfl, hrunning, hwaiting, hknown⟩ := h
  have hc := consistent_run before
  refine ⟨fetch, ?_⟩
  rw [run_append] at hknown ⊢
  have hanswered : ((run {} before).step (.finish answer)).Unattended fetch ∧
      ((run {} before).step (.finish answer)).callers = (run {} before).callers := by
    rw [step]
    rcases finish_cases (run {} before) answer with ⟨hnone, -⟩ | ⟨running, snapshot, hfetch, -, hfinish⟩
    · exact absurd hrunning (hnone fetch)
    · obtain rfl := Option.some.inj
        ((hc.shared_of_running running hfetch).symm.trans (hc.shared_of_running fetch hrunning))
      have hlt := (List.getElem?_eq_some_iff.1 hfetch).1
      rw [hfinish]
      exact ⟨⟨hc.shared_of_running running hfetch, by simp [result?, hlt], hwaiting⟩, rfl⟩
  refine hanswered.1.run (hc.step _) fun name hname => ?_
  rw [hanswered.2]
  exact hknown name hname

theorem abandoned_of_unattended {events : List Event} (hsnapshot : (run {} events).snapshot = none)
    (h : (run {} events).Unattended fetch) : Abandoned events := by
  induction events using List.reverseRecOn with
  | nil => cases h.shared_eq
  | append_singleton events e ih =>
    have hc := consistent_run events
    have hrun : run {} (events ++ [e]) = (run {} events).step e := run_append {} events [e]
    rw [hrun] at hsnapshot h
    rcases Unattended.of_step hc hsnapshot h with ⟨hbefore, hknown⟩ | ⟨answer, rfl, hrunning, hwaiting, hcallers⟩
    · have hnone : (run {} events).snapshot = none := by
        rw [Option.eq_none_iff_forall_ne_some]
        intro s hs
        rw [(hc.step_of_snapshot hs e).1] at hsnapshot
        cases hsnapshot
      obtain ⟨before, answer, after, first, rfl, hrunning, hwaiting, hearlier⟩ := ih hnone hbefore
      refine ⟨before, answer, after ++ [e], first, by simp, hrunning, hwaiting, fun name hname => ?_⟩
      rw [hrun] at hname
      exact hearlier name (hknown name hname)
    · refine ⟨events, answer, [], fetch, rfl, hrunning, hwaiting, fun name hname => ?_⟩
      rw [hrun, hcallers] at hname
      exact hname

/-! ## The next caller -/

theorem call_of_empty (hnew : c.callers.lookup name = none) (hsnapshot : c.snapshot = none) (hshared : c.shared = none) :
    (c.call name).fetches = c.fetches ++ [none] ∧
      (c.call name).callers.lookup name = some (.waiting c.fetches.length) := by
  have hcall : c.call name = c.start.await name c.fetches.length := by simp [call, hnew, hsnapshot, hshared]
  rw [hcall]
  exact ⟨by simp [start], by simp [outcome, result?, start]⟩

theorem call_of_failed {e : Fault} (hnew : c.callers.lookup name = none) (hsnapshot : c.snapshot = none)
    (hshared : c.shared = some fetch) (hfailed : c.result? fetch = some (.error e)) :
    (c.call name).fetches = c.fetches ∧ (c.call name).callers.lookup name = some (.raised e) ∧
      (c.call name).snapshot = none ∧ (c.call name).shared = none := by
  have hcall : c.call name = c.await name fetch := by simp [call, hnew, hsnapshot, hshared]
  rw [hcall]
  exact ⟨fetches_await, by simp [outcome, hfailed], by rwa [snapshot_await], by simp [shared_leave, hshared, hfailed]⟩

/-- The last fetch has failed, no caller waits and no schema is there. Then a new caller starts a new fetch and waits
for it, unless the failed fetch was abandoned: in that case the caller gets the old failure without a new fetch, and
only the one after it starts one. -/
theorem call_after_failure (events : List Event) {name : String} {e : Fault}
    (hsnapshot : (run {} events).snapshot = none)
    (hfailed : (run {} events).fetches.getLast? = some (some (.error e)))
    (hfinished : ∀ other fetch, (run {} events).callers.lookup other ≠ some (.waiting fetch))
    (hnew : (run {} events).callers.lookup name = none) :
    let c := run {} events
    (¬Abandoned events → (c.call name).fetches = c.fetches ++ [none] ∧
      (c.call name).callers.lookup name = some (.waiting c.fetches.length)) ∧
    (Abandoned events → (c.call name).fetches = c.fetches ∧ (c.call name).callers.lookup name = some (.raised e) ∧
      ∀ other, (c.call name).callers.lookup other = none →
        ((c.call name).call other).fetches = c.fetches ++ [none] ∧
        ((c.call name).call other).callers.lookup other = some (.waiting c.fetches.length)) := by
  intro c
  -- a shared fetch is the last one
  have hlast : ∀ fetch, c.shared = some fetch → c.result? fetch = some (.error e) := by
    intro fetch hshared
    have hlength := (consistent_run events).shared_last fetch hshared
    rw [List.getLast?_eq_getElem?, ← hlength, Nat.add_sub_cancel] at hfailed
    rw [result?, hfailed]
    rfl
  constructor
  · intro habandoned
    have hshared : c.shared = none := by
      rw [Option.eq_none_iff_forall_ne_some]
      intro fetch hshared
      apply habandoned
      have hdone : (c.result? fetch).isSome := by rw [hlast fetch hshared]; rfl
      exact abandoned_of_unattended hsnapshot ⟨hshared, hdone, fun other => hfinished other fetch⟩
    exact call_of_empty hnew hsnapshot hshared
  · intro habandoned
    obtain ⟨fetch, hunattended⟩ := unattended_of_abandoned habandoned
    obtain ⟨hfetches, hraised, hsnapshot', hshared'⟩ :=
      call_of_failed hnew hsnapshot hunattended.shared_eq (hlast fetch hunattended.shared_eq)
    refine ⟨hfetches, hraised, fun other hother => ?_⟩
    rw [← hfetches]
    exact call_of_empty hother hsnapshot' hshared'

/-- The caller of a fetch is cancelled before the fetch fails: the next caller gets that failure and no fetch runs. -/
theorem call_after_failure_cancelled :
    let f := Failure.of .schemaFetch "down"
    let events := [.call "a", .cancel "a", .finish (.error f)]
    Abandoned events ∧ (run {} events).snapshot = none ∧
      ((run {} events).call "b").callers.lookup "b" = some (.raised f) ∧
      ((run {} events).call "b").running = 0 := by
  intro f events
  have hcallers : ∀ other fetch, List.lookup other [("a", Caller.cancelled)] ≠ some (.waiting fetch) := by
    intro other fetch hwaiting
    rw [List.lookup_cons] at hwaiting
    split at hwaiting <;> cases hwaiting
  have habandoned : Abandoned events :=
    ⟨[.call "a", .cancel "a"], .error f, [], 0, rfl, rfl, fun other => hcallers other 0, fun _ => id⟩
  have hnew : (run {} events).callers.lookup "b" = none := rfl
  obtain ⟨hfetches, hraised, -⟩ := (call_after_failure events rfl rfl hcallers hnew).2 habandoned
  exact ⟨habandoned, rfl, hraised, by rw [running, hfetches]; rfl⟩

end FeatureGraph.SchemaCache
