import FeatureGraph.Proofs.Response.Frames
import FeatureGraph.Proofs.Wire.Identifier

/-! # How decoding fails

Whatever the bytes are, a response decodes or is refused as undecodable, with one exception: an identifier
that has not 16 bytes is a defect, unless the response ends before its frame. -/
namespace FeatureGraph.QueryResponse

open Wire

/-! ## The frames of any bytes -/

/-- The messages that can be read one after the other from a position on. -/
def messagesFrom (buffer : List UInt8) (pos : Nat) : List (List UInt8) :=
  if pos < buffer.length then
    match _h : readFrame buffer pos with
    | .error _ => []
    | .ok (message, next) => message :: messagesFrom buffer next
  else []
termination_by buffer.length - pos
decreasing_by
  have := readFrame_next _h
  omega

def rowMessages (buffer : List UInt8) : List (List UInt8) :=
  match readHeader buffer with
  | .error _ => messagesFrom buffer 0
  | .ok (h, next) => if h.error.isSome then [] else messagesFrom buffer next

/-- The identifiers in the rows of a message; none where it is no frame or holds an error. -/
def rowIdentifiers? (message : List UInt8) : Option (List (List UInt8)) := do
  let r ← RowFrame.read? message
  if r.error.isSome then none else some r.identifiers

/-- A frame holds an identifier that has not 16 bytes, and every frame before it has rows whose identifiers all
have. -/
def ReachesMissized (ms : List (List UInt8)) : Prop :=
  ∃ before m after, ms = before ++ m :: after ∧
    (∀ m' ∈ before, ∃ ids, rowIdentifiers? m' = some ids ∧ ∀ bs ∈ ids, bs.length = 16) ∧
    ∃ ids, rowIdentifiers? m = some ids ∧ ∃ bs ∈ ids, bs.length ≠ 16

variable {m : List UInt8} {ms : List (List UInt8)} {ids : List (List UInt8)}

theorem not_reachesMissized_nil : ¬ReachesMissized [] := by
  rintro ⟨before, m, after, h, -⟩
  cases before <;> cases h

theorem reachesMissized_of_missized (hids : rowIdentifiers? m = some ids) (h : ∃ bs ∈ ids, bs.length ≠ 16) :
    ReachesMissized (m :: ms) := ⟨[], m, ms, rfl, by simp, ids, hids, h⟩

theorem reachesMissized_cons (hids : rowIdentifiers? m = some ids) (h : ∀ bs ∈ ids, bs.length = 16) :
    ReachesMissized (m :: ms) ↔ ReachesMissized ms := by
  constructor
  · rintro ⟨before, m', after, hsplit, hbefore, hm⟩
    cases before with
    | nil =>
      obtain ⟨rfl, rfl⟩ := List.cons.inj hsplit
      obtain ⟨ids', hids', bs, hbs, hlength⟩ := hm
      rw [hids] at hids'
      cases hids'
      exact (hlength (h bs hbs)).elim
    | cons m'' before =>
      obtain ⟨rfl, rfl⟩ := List.cons.inj hsplit
      exact ⟨before, m', after, rfl, fun m₁ hm₁ => hbefore m₁ (List.mem_cons_of_mem _ hm₁), hm⟩
  · rintro ⟨before, m', after, rfl, hbefore, hm⟩
    exact ⟨m :: before, m', after, rfl, List.forall_mem_cons.2 ⟨⟨ids, hids, h⟩, hbefore⟩, hm⟩

theorem not_reachesMissized_of_none (hids : rowIdentifiers? m = none) : ¬ReachesMissized (m :: ms) := by
  rintro ⟨before, m', after, hsplit, hbefore, ids, hm, -⟩
  cases before with
  | nil =>
    obtain ⟨rfl, -⟩ := List.cons.inj hsplit
    rw [hids] at hm
    cases hm
  | cons m'' before =>
    obtain ⟨rfl, -⟩ := List.cons.inj hsplit
    obtain ⟨ids', hids', -⟩ := hbefore m (by simp)
    rw [hids] at hids'
    cases hids'

/-! ## Steps and runs -/

/-- A result that comes, is refused as undecodable, or is a defect of an identifier in some frames. -/
inductive Settled {α : Type} (ms : List (List UInt8)) : Except Fault α → Prop where
  | ok (a : α) (h : ¬ReachesMissized ms) : Settled ms (.ok a)
  | refused (f : Failure) (hf : f.kind = .decode) (h : ¬ReachesMissized ms) : Settled ms (.error (.failure f))
  | missized (h : ReachesMissized ms) : Settled ms (.error (.defect .identifierLength))

namespace Settled

variable {α β : Type}

theorem map {x : Except Fault α} (hx : Settled ms x) (f : α → β) : Settled ms (x.map f) := by
  cases hx with
  | ok a h => exact .ok (f a) h
  | refused g hg h => exact .refused g hg h
  | missized h => exact .missized h

/-- Messages after one with rows decide what those before them left open. -/
theorem cons {x : Except Fault α} (hids : rowIdentifiers? m = some ids) (h : ∀ bs ∈ ids, bs.length = 16)
    (hx : Settled ms x) : Settled (m :: ms) x := by
  have hiff : ReachesMissized (m :: ms) ↔ ReachesMissized ms := reachesMissized_cons hids h
  cases hx with
  | ok a h => exact .ok a (hiff.not.2 h)
  | refused f hf h => exact .refused f hf (hiff.not.2 h)
  | missized h => exact .missized (hiff.2 h)

end Settled

/-- One message, and the messages after it. -/
theorem absorb_settled (rows : List (List Value)) {next : List (List Value) → Progress}
    (hnext : ∀ rows, Settled ms (next rows)) : Settled (m :: ms) (Progress.andThen (absorb rows m) next) := by
  cases hr : RowFrame.read? m with
  | none =>
    rw [absorb_of_none hr]
    exact .refused (malformed "query frame") rfl (not_reachesMissized_of_none (by simp [rowIdentifiers?, hr]))
  | some r =>
    cases he : r.error with
    | some e =>
      rw [absorb_of_error hr he]
      exact .ok _ (not_reachesMissized_of_none (by simp [rowIdentifiers?, hr, he]))
    | none =>
      have hids : rowIdentifiers? m = some r.identifiers := by simp [rowIdentifiers?, hr, he]
      rw [absorb_of_rows hr he]
      have hvalues := r.mapM_valueAll_hingesOn
      rw [appended]
      generalize r.rows.mapM Any.valueAll = x at hvalues
      cases hvalues with
      | error h => exact .missized (reachesMissized_of_missized hids h)
      | ok more h => exact (hnext (rows ++ more)).cons hids h

variable {buffer : List UInt8} {pos next : Nat} {f : Failure}

theorem readFrame_kind (h : readFrame buffer pos = .error f) : f.kind = .decode := by
  rw [readFrame] at h
  split at h
  · cases h
    rfl
  · dsimp only at h
    split at h
    · cases h
    · cases h
      rfl

theorem readRows_of_error (hpos : pos < buffer.length) (h : readFrame buffer pos = .error f)
    (rows : List (List Value)) : readRows buffer pos rows = .error (.failure f) := by
  rw [readRows, if_pos hpos]
  split
  · next f' hf =>
    rw [h] at hf
    cases hf
    rfl
  · next message next hf =>
    rw [h] at hf
    cases hf

theorem readRows_of_ok (hpos : pos < buffer.length) (h : readFrame buffer pos = .ok (m, next))
    (rows : List (List Value)) : readRows buffer pos rows = Progress.andThen (absorb rows m) (readRows buffer next) := by
  rw [readRows, if_pos hpos]
  split
  · next f hf =>
    rw [h] at hf
    cases hf
  · next message next' hf =>
    rw [h] at hf
    obtain ⟨rfl, rfl⟩ := Prod.mk.inj (Except.ok.inj hf)
    rfl

theorem messagesFrom_of_ok (hpos : pos < buffer.length) (h : readFrame buffer pos = .ok (m, next)) :
    messagesFrom buffer pos = m :: messagesFrom buffer next := by
  rw [messagesFrom, if_pos hpos]
  split
  · next f hf =>
    rw [h] at hf
    cases hf
  · next message next' hf =>
    rw [h] at hf
    obtain ⟨rfl, rfl⟩ := Prod.mk.inj (Except.ok.inj hf)
    rfl

theorem messagesFrom_of_error (h : readFrame buffer pos = .error f) : messagesFrom buffer pos = [] := by
  rw [messagesFrom]
  split
  · split
    · rfl
    · next message next hf =>
      rw [h] at hf
      cases hf
  · rfl

/-- The frames from any position on. -/
theorem readRows_settled (buffer : List UInt8) (pos : Nat) (rows : List (List Value)) :
    Settled (messagesFrom buffer pos) (readRows buffer pos rows) := by
  -- each frame leaves fewer bytes to read
  induction hn : buffer.length - pos using Nat.strongRecOn generalizing pos rows with
  | ind n ih =>
    by_cases hpos : pos < buffer.length
    · cases hread : readFrame buffer pos with
      | error f =>
        rw [readRows_of_error hpos hread, messagesFrom_of_error hread]
        exact .refused f (readFrame_kind hread) not_reachesMissized_nil
      | ok p =>
        obtain ⟨message, next⟩ := p
        have hnext := readFrame_next hread
        rw [readRows_of_ok hpos hread, messagesFrom_of_ok hpos hread]
        exact absorb_settled rows fun rows => ih (buffer.length - next) (by omega) next rows rfl
    · rw [readRows, if_neg hpos, messagesFrom, if_neg hpos]
      exact .ok _ not_reachesMissized_nil

theorem decode_settled (buffer : List UInt8) : Settled (rowMessages buffer) (decode buffer) := by
  cases hheader : readHeader buffer with
  | error f =>
    rw [decode_of_noHeader hheader, rowMessages, hheader]
    exact (readRows_settled buffer 0 []).map _
  | ok p =>
    obtain ⟨⟨transform, keys, exceededLimit, error⟩, next⟩ := p
    rw [decode, rowMessages, hheader]
    cases error with
    | some e => exact .ok _ not_reachesMissized_nil
    | none => exact (readRows_settled buffer next []).map _

/-- Every response decodes or is refused as undecodable, unless an identifier in one of its frames has not 16
bytes and nothing before that frame ends the response. -/
theorem decode_fails_as (buffer : List UInt8) :
    ((∃ r, decode buffer = .ok r) ∨ (∃ f, decode buffer = .error (.failure f) ∧ f.kind = .decode) ∨
      decode buffer = .error (.defect .identifierLength)) ∧
    (decode buffer = .error (.defect .identifierLength) ↔ ReachesMissized (rowMessages buffer)) := by
  have h := decode_settled buffer
  generalize decode buffer = x at h
  cases h with
  | ok r h => exact ⟨.inl ⟨r, rfl⟩, nofun, fun hreach => (h hreach).elim⟩
  | refused f hf h => exact ⟨.inr (.inl ⟨f, rfl, hf⟩), nofun, fun hreach => (h hreach).elim⟩
  | missized h => exact ⟨.inr (.inr rfl), fun _ => h, fun _ => rfl⟩

/-- An identifier of one byte, in a row of a response whose frames are all well formed. -/
theorem decode_short_identifier :
    decode (stream [Header.encode {}, RowFrame.encode { rows := [[.primitive (.uuid [1])]] }]) =
      .error (.defect .identifierLength) := by
  have hmessages : rowMessages (stream [Header.encode {}, RowFrame.encode { rows := [[.primitive (.uuid [1])]] }]) =
      [RowFrame.encode { rows := [[.primitive (.uuid [1])]] }] := by decide +kernel
  have hids : rowIdentifiers? (RowFrame.encode { rows := [[.primitive (.uuid [1])]] }) = some [[1]] := by
    decide +kernel
  refine (decode_fails_as _).2.2 ?_
  rw [hmessages]
  exact reachesMissized_of_missized hids ⟨[1], by simp, by decide⟩

end FeatureGraph.QueryResponse
