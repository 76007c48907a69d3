import FeatureGraph.Schema.Cache
import Mathlib.Data.List.Basic

/-! # One fetch at a time

Whatever callers do and however fetches end, at most one fetch runs, and it is the shared one. The first schema
that arrives ends it: it stays, no fetch follows, and it is what every caller that returns has got. -/
namespace FeatureGraph.SchemaCache

variable {c : SchemaCache} {name other : String} {fetch : Nat} {state : Caller} {s : Schema}

inductive Reachable : SchemaCache → Prop where
  | initial : Reachable {}
  | step {c : SchemaCache} (e : Event) : Reachable c → Reachable (c.step e)

theorem Reachable.run (h : Reachable c) (events : List Event) : Reachable (c.run events) := by
  induction events generalizing c with
  | nil => exact h
  | cons e events ih => exact ih (h.step e)

def IsRunning (c : SchemaCache) (fetch : Nat) : Prop := c.fetches[fetch]? = some none

/-! ## What each action does -/

@[simp] theorem snapshot_setCaller : (c.setCaller name state).snapshot = c.snapshot := rfl

@[simp] theorem shared_setCaller : (c.setCaller name state).shared = c.shared := rfl

@[simp] theorem fetches_setCaller : (c.setCaller name state).fetches = c.fetches := rfl

@[simp] theorem lookup_setCaller : (c.setCaller name state).callers.lookup other =
    if other = name then some state else c.callers.lookup other :=
  Assoc.lookup_put name other state c.callers

@[simp] theorem snapshot_leave : (c.leave fetch).snapshot = c.snapshot := by
  unfold leave
  split <;> rfl

@[simp] theorem fetches_leave : (c.leave fetch).fetches = c.fetches := by
  unfold leave
  split <;> rfl

@[simp] theorem callers_leave : (c.leave fetch).callers = c.callers := by
  unfold leave
  split <;> rfl

theorem shared_leave : (c.leave fetch).shared =
    if c.shared = some fetch ∧ (c.result? fetch).isSome then none else c.shared := by
  unfold leave
  split <;> rfl

@[simp] theorem snapshot_await : (c.await name fetch).snapshot = c.snapshot := by simp [await]

@[simp] theorem fetches_await : (c.await name fetch).fetches = c.fetches := by simp [await]

@[simp] theorem shared_await : (c.await name fetch).shared = (c.leave fetch).shared := by simp [await]

@[simp] theorem lookup_await : (c.await name fetch).callers.lookup other =
    if other = name then some (c.outcome fetch) else c.callers.lookup other := by simp [await]

theorem outcome_eq_returned : c.outcome fetch = .returned s ↔ c.result? fetch = some (.ok s) := by
  unfold outcome
  split <;> simp_all

theorem IsRunning.result?_eq_none (h : c.IsRunning fetch) : c.result? fetch = none := by
  rw [result?, h]
  rfl

/-- A caller is either known, or gets the schema, or awaits the shared fetch, or starts one. -/
theorem call_cases (c : SchemaCache) (name : String) :
    ((c.callers.lookup name).isSome ∧ c.call name = c) ∨
    (c.callers.lookup name = none ∧ ∃ s, c.snapshot = some s ∧ c.call name = c.setCaller name (.returned s)) ∨
    (c.callers.lookup name = none ∧ c.snapshot = none ∧
      ∃ fetch, c.shared = some fetch ∧ c.call name = c.await name fetch) ∨
    (c.callers.lookup name = none ∧ c.snapshot = none ∧ c.shared = none ∧
      c.call name = c.start.await name c.fetches.length) := by
  cases hknown : c.callers.lookup name with
  | some state => exact .inl ⟨rfl, by simp [call, hknown]⟩
  | none =>
    cases hsnapshot : c.snapshot with
    | some s => exact .inr (.inl ⟨rfl, s, rfl, by simp [call, hknown, hsnapshot]⟩)
    | none =>
      cases hshared : c.shared with
      | some fetch => exact .inr (.inr (.inl ⟨rfl, rfl, fetch, rfl, by simp [call, hknown, hsnapshot, hshared]⟩))
      | none => exact .inr (.inr (.inr ⟨rfl, rfl, rfl, by simp [call, hknown, hsnapshot, hshared]⟩))

/-- Either no fetch runs, or one that runs gets its result. -/
theorem finish_cases (c : SchemaCache) (answer : Except Fault DataModel) :
    ((∀ fetch, ¬c.IsRunning fetch) ∧ c.finish answer = c) ∨
    ∃ fetch snapshot, c.IsRunning fetch ∧ (c.snapshot = none → snapshot = (Schema.load answer).toOption) ∧
      c.finish answer =
        { c with fetches := c.fetches.set fetch (some (Schema.load answer)), snapshot := snapshot } := by
  cases hfind : c.fetches.findIdx? (·.isNone) with
  | none =>
    refine .inl ⟨fun fetch hrunning => ?_, by simp [finish, hfind]⟩
    have hdone := List.findIdx?_eq_none_iff.1 hfind none (List.mem_of_getElem? hrunning)
    cases hdone
  | some fetch =>
    obtain ⟨hlt, hnone, -⟩ := List.findIdx?_eq_some_iff_getElem.1 hfind
    have hrunning : c.IsRunning fetch := by
      rw [IsRunning, List.getElem?_eq_getElem hlt, Option.isNone_iff_eq_none.1 hnone]
    refine .inr ⟨fetch, (c.finish answer).snapshot, hrunning, ?_, by simp only [finish, hfind]⟩
    intro hsnapshot
    simp only [finish, hfind]
    cases Schema.load answer with
    | ok s => rfl
    | error e => cases e with
      | failure f => rfl
      | defect d => exact hsnapshot

theorem resume_cases (c : SchemaCache) (name : String) :
    c.resume name = c ∨
    ∃ fetch, c.callers.lookup name = some (.waiting fetch) ∧ c.resume name = c.await name fetch := by
  unfold resume
  split
  · next fetch hwaiting => exact .inr ⟨fetch, hwaiting, rfl⟩
  · exact .inl rfl

theorem cancel_cases (c : SchemaCache) (name : String) :
    c.cancel name = c ∨
    ∃ fetch, c.callers.lookup name = some (.waiting fetch) ∧
      c.cancel name = (c.leave fetch).setCaller name .cancelled := by
  unfold cancel
  split
  · next fetch hwaiting => exact .inr ⟨fetch, hwaiting, rfl⟩
  · exact .inl rfl

theorem length_fetches_finish (c : SchemaCache) (answer : Except Fault DataModel) :
    (c.finish answer).fetches.length = c.fetches.length := by
  rcases finish_cases c answer with ⟨-, hfinish⟩ | ⟨fetch, snapshot, -, -, hfinish⟩ <;> simp [hfinish]

/-! ## The state of a cache holds together -/

structure Consistent (c : SchemaCache) : Prop where
  shared_last : ∀ fetch, c.shared = some fetch → fetch + 1 = c.fetches.length
  shared_of_running : ∀ fetch, c.IsRunning fetch → c.shared = some fetch
  snapshot_of_running : ∀ fetch, c.IsRunning fetch → c.snapshot = none
  snapshot_of_ok : ∀ fetch s, c.result? fetch = some (.ok s) → c.snapshot = some s
  snapshot_of_returned : ∀ name s, c.callers.lookup name = some (.returned s) → c.snapshot = some s

namespace Consistent

theorem initial : Consistent {} := by
  constructor <;> intros <;> simp_all [IsRunning, result?]

theorem setCaller (h : Consistent c) (hstate : ∀ s, state = .returned s → c.snapshot = some s) :
    Consistent (c.setCaller name state) where
  shared_last := h.shared_last
  shared_of_running := h.shared_of_running
  snapshot_of_running := h.snapshot_of_running
  snapshot_of_ok := h.snapshot_of_ok
  snapshot_of_returned := by
    intro other s hreturned
    rw [lookup_setCaller] at hreturned
    split at hreturned
    · exact hstate s (Option.some.inj hreturned)
    · exact h.snapshot_of_returned other s hreturned

/-- The place of a fetch is cleared only when the fetch is done. -/
theorem leave (h : Consistent c) : Consistent (c.leave fetch) where
  shared_last := by
    intro shared hshared
    rw [shared_leave] at hshared
    rw [fetches_leave]
    split at hshared
    · cases hshared
    · exact h.shared_last shared hshared
  shared_of_running := by
    intro running hrunning
    rw [IsRunning, fetches_leave] at hrunning
    have hshared := h.shared_of_running running hrunning
    rw [shared_leave, if_neg]
    · exact hshared
    · rintro ⟨hfetch, hdone⟩
      obtain rfl := Option.some.inj (hshared.symm.trans hfetch)
      rw [IsRunning.result?_eq_none hrunning] at hdone
      cases hdone
  snapshot_of_running := by
    intro running hrunning
    rw [IsRunning, fetches_leave] at hrunning
    rw [snapshot_leave]
    exact h.snapshot_of_running running hrunning
  snapshot_of_ok := by
    intro done s hok
    rw [result?, fetches_leave] at hok
    rw [snapshot_leave]
    exact h.snapshot_of_ok done s hok
  snapshot_of_returned := by
    intro name s hreturned
    rw [callers_leave] at hreturned
    rw [snapshot_leave]
    exact h.snapshot_of_returned name s hreturned

theorem await (h : Consistent c) : Consistent (c.await name fetch) := by
  refine h.leave.setCaller fun s hs => ?_
  rw [snapshot_leave]
  exact h.snapshot_of_ok fetch s (outcome_eq_returned.1 hs)

theorem start (h : Consistent c) (hsnapshot : c.snapshot = none) (hshared : c.shared = none) : Consistent c.start := by
  -- whatever ran before would be shared
  have hrunning : ∀ fetch, c.start.IsRunning fetch → fetch = c.fetches.length := by
    intro fetch hfetch
    rcases Nat.lt_or_ge fetch c.fetches.length with hlt | hge
    · rw [IsRunning, SchemaCache.start, List.getElem?_append_left hlt] at hfetch
      rw [h.shared_of_running fetch hfetch] at hshared
      cases hshared
    · have hlt := (List.getElem?_eq_some_iff.1 hfetch).1
      simp only [SchemaCache.start, List.length_append, List.length_singleton] at hlt
      omega
  constructor
  · intro fetch hfetch
    cases hfetch
    simp [SchemaCache.start]
  · intro fetch hfetch
    rw [hrunning fetch hfetch]
    rfl
  · intro fetch _
    exact hsnapshot
  · intro fetch s hok
    rcases Nat.lt_or_ge fetch c.fetches.length with hlt | hge
    · rw [result?, SchemaCache.start, List.getElem?_append_left hlt] at hok
      exact h.snapshot_of_ok fetch s hok
    · rw [result?, SchemaCache.start, List.getElem?_append_right hge] at hok
      cases hindex : fetch - c.fetches.length <;> simp [hindex] at hok
  · exact h.snapshot_of_returned

theorem call (h : Consistent c) (name : String) : Consistent (c.call name) := by
  rcases call_cases c name with ⟨-, hcall⟩ | ⟨-, s, hsnapshot, hcall⟩ | ⟨-, -, fetch, -, hcall⟩ |
      ⟨-, hsnapshot, hshared, hcall⟩ <;> rw [hcall]
  · exact h
  · refine h.setCaller fun s' hs' => ?_
    cases hs'
    exact hsnapshot
  · exact h.await
  · exact (h.start hsnapshot hshared).await

theorem finish (h : Consistent c) (answer : Except Fault DataModel) : Consistent (c.finish answer) := by
  rcases finish_cases c answer with ⟨-, hfinish⟩ | ⟨fetch, snapshot, hfetch, hload, hfinish⟩
  · rwa [hfinish]
  -- no other fetch runs, and nobody has a schema yet
  have hsnapshot := h.snapshot_of_running fetch hfetch
  have hlt := (List.getElem?_eq_some_iff.1 hfetch).1
  have hdone : ∀ other, ¬(c.finish answer).IsRunning other := by
    intro other hother
    rw [IsRunning, hfinish, List.getElem?_set] at hother
    split at hother
    · cases hother
    · next hne =>
      have hshared := (h.shared_of_running fetch hfetch).symm.trans (h.shared_of_running other hother)
      exact hne (Option.some.inj hshared)
  constructor
  · intro shared hshared
    rw [hfinish] at hshared
    rw [length_fetches_finish]
    exact h.shared_last shared hshared
  · exact fun other hother => absurd hother (hdone other)
  · exact fun other hother => absurd hother (hdone other)
  · intro other s hok
    rw [result?, hfinish, List.getElem?_set] at hok
    rw [hfinish]
    split at hok
    · rw [hload hsnapshot]
      rw [Option.join_some] at hok
      rw [Option.some.inj hok]
      rfl
    · rw [h.snapshot_of_ok other s hok] at hsnapshot
      cases hsnapshot
  · intro name s hreturned
    rw [hfinish] at hreturned
    rw [h.snapshot_of_returned name s hreturned] at hsnapshot
    cases hsnapshot

theorem resume (h : Consistent c) (name : String) : Consistent (c.resume name) := by
  rcases resume_cases c name with hresume | ⟨fetch, -, hresume⟩ <;> rw [hresume]
  · exact h
  · exact h.await

theorem cancel (h : Consistent c) (name : String) : Consistent (c.cancel name) := by
  rcases cancel_cases c name with hcancel | ⟨fetch, -, hcancel⟩ <;> rw [hcancel]
  · exact h
  · refine h.leave.setCaller fun s hs => ?_
    cases hs

theorem step (h : Consistent c) (e : Event) : Consistent (c.step e) := by
  cases e with
  | call name => exact h.call name
  | finish answer => exact h.finish answer
  | resume name => exact h.resume name
  | cancel name => exact h.cancel name

end Consistent

theorem Reachable.consistent (h : Reachable c) : Consistent c := by
  induction h with
  | initial => exact .initial
  | step e _ ih => exact ih.step e

/-! ## What fetches there are -/

theorem fetches_resume : (c.resume name).fetches = c.fetches := by
  rcases resume_cases c name with hresume | ⟨fetch, -, hresume⟩ <;> simp [hresume]

theorem fetches_cancel : (c.cancel name).fetches = c.fetches := by
  rcases cancel_cases c name with hcancel | ⟨fetch, -, hcancel⟩ <;> simp [hcancel]

theorem snapshot_resume : (c.resume name).snapshot = c.snapshot := by
  rcases resume_cases c name with hresume | ⟨fetch, -, hresume⟩ <;> simp [hresume]

theorem snapshot_cancel : (c.cancel name).snapshot = c.snapshot := by
  rcases cancel_cases c name with hcancel | ⟨fetch, -, hcancel⟩ <;> simp [hcancel]

/-- Only a new caller that finds no schema and no shared fetch starts a fetch. -/
theorem length_fetches_step (c : SchemaCache) (e : Event) :
    c.fetches.length < (c.step e).fetches.length ↔
      ∃ name, e = .call name ∧ c.callers.lookup name = none ∧ c.snapshot = none ∧ c.shared = none := by
  cases e with
  | call name =>
    simp only [step, Event.call.injEq, exists_eq_left']
    rcases call_cases c name with ⟨hknown, hcall⟩ | ⟨-, s, hsnapshot, hcall⟩ | ⟨-, -, fetch, hshared, hcall⟩ |
        ⟨hnew, hsnapshot, hshared, hcall⟩
    · simp [hcall, Option.isSome_iff_ne_none.1 hknown]
    · simp [hcall, hsnapshot]
    · simp [hcall, hshared]
    · simp [hcall, start, hnew, hsnapshot, hshared]
  | finish answer => simp [step, length_fetches_finish]
  | resume name => simp [step, fetches_resume]
  | cancel name => simp [step, fetches_cancel]

namespace Consistent

theorem step_of_snapshot (h : Consistent c) (hs : c.snapshot = some s) (e : Event) :
    (c.step e).snapshot = some s ∧ (c.step e).fetches = c.fetches := by
  cases e with
  | call name =>
    rcases call_cases c name with ⟨-, hcall⟩ | ⟨-, s', -, hcall⟩ | ⟨-, hnone, -⟩ | ⟨-, hnone, -⟩
    · rw [SchemaCache.step, hcall]
      exact ⟨hs, rfl⟩
    · rw [SchemaCache.step, hcall]
      exact ⟨hs, rfl⟩
    · rw [hs] at hnone
      cases hnone
    · rw [hs] at hnone
      cases hnone
  | finish answer =>
    rcases finish_cases c answer with ⟨-, hfinish⟩ | ⟨fetch, -, hfetch, -⟩
    · rw [SchemaCache.step, hfinish]
      exact ⟨hs, rfl⟩
    · rw [h.snapshot_of_running fetch hfetch] at hs
      cases hs
  | resume name => exact ⟨snapshot_resume.trans hs, fetches_resume⟩
  | cancel name => exact ⟨snapshot_cancel.trans hs, fetches_cancel⟩

theorem run_of_snapshot (h : Consistent c) (hs : c.snapshot = some s) (events : List Event) :
    (c.run events).snapshot = some s ∧ (c.run events).fetches = c.fetches := by
  induction events generalizing c with
  | nil => exact ⟨hs, rfl⟩
  | cons e events ih =>
    obtain ⟨hstep, hfetches⟩ := h.step_of_snapshot hs e
    obtain ⟨hrun, hrest⟩ := ih (h.step e) hstep
    exact ⟨hrun, hrest.trans hfetches⟩

theorem running_le_one (h : Consistent c) : c.running ≤ 1 := by
  have hunique : ∀ i j : Nat, c.fetches[i]? = some none → c.fetches[j]? = some none → i = j := by
    intro i j hi hj
    exact Option.some.inj ((h.shared_of_running i hi).symm.trans (h.shared_of_running j hj))
  unfold running
  generalize c.fetches = fetches at hunique
  induction fetches with
  | nil => simp
  | cons result fetches ih =>
    cases result with
    | none =>
      -- the first one runs, so no later one does
      have hlater : fetches.countP (·.isNone) = 0 := by
        rw [List.countP_eq_zero]
        intro later hmem hnone
        rw [Option.isNone_iff_eq_none.1 hnone] at hmem
        obtain ⟨j, hj⟩ := List.mem_iff_getElem?.1 hmem
        cases hunique 0 (j + 1) rfl hj
      simp [hlater]
    | some result =>
      rw [List.countP_cons_of_neg (by simp)]
      apply ih
      intro i j hi hj
      exact Nat.succ.inj (hunique (i + 1) (j + 1) hi hj)

end Consistent

/-- In every state that events lead to, at most one fetch runs, and a fetch is started by a new caller that finds no
schema and no shared fetch, and by nothing else. A schema that is there stays whatever happens, and no fetch is
started or answered any more. A caller that returned has got that schema. -/
theorem single_flight (h : Reachable c) :
    c.running ≤ 1 ∧
    (∀ e, c.fetches.length < (c.step e).fetches.length ↔
      ∃ name, e = .call name ∧ c.callers.lookup name = none ∧ c.snapshot = none ∧ c.shared = none) ∧
    (∀ s, c.snapshot = some s → ∀ events, (c.run events).snapshot = some s ∧ (c.run events).fetches = c.fetches) ∧
    ∀ name s, c.callers.lookup name = some (.returned s) → c.snapshot = some s :=
  ⟨h.consistent.running_le_one, length_fetches_step c, fun _ hs => h.consistent.run_of_snapshot hs,
    h.consistent.snapshot_of_returned⟩

/-- One of two callers that share a fetch is cancelled, the other returns; a third one gets the same schema. -/
theorem single_flight_shared :
    let c := run {} [.call "a", .call "b", .cancel "a", .finish (.ok {}), .resume "b"]
    let later := [Event.call "c", .finish (.ok {}), .resume "c"]
    c.Reachable ∧ c.callers.lookup "b" = some (.returned (Schema.ofModel {})) ∧
      c.snapshot = some (Schema.ofModel {}) ∧ (c.run later).running ≤ 1 ∧ (c.run later).fetches = c.fetches := by
  intro c later
  have hreachable : c.Reachable := Reachable.initial.run _
  have hreturned : c.callers.lookup "b" = some (.returned (Schema.ofModel {})) := rfl
  obtain ⟨-, -, hkept, hgot⟩ := single_flight hreachable
  have hsnapshot := hgot "b" _ hreturned
  exact ⟨hreachable, hreturned, hsnapshot, (single_flight (hreachable.run later)).1, (hkept _ hsnapshot later).2⟩

end FeatureGraph.SchemaCache
