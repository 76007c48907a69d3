import FeatureGraph.Fault
import FeatureGraph.Wire.Varint

/-! # Messages one after the other, each with its length in front

The length counts modulo `2 ^ 32`. -/
namespace FeatureGraph.Wire

def frame (message : List UInt8) : List UInt8 := Varint.encode message.length ++ message

/-- The message that starts at a position, and the position after it. -/
def readFrame (buffer : List UInt8) (pos : Nat) : Except Failure (List UInt8 × Nat) :=
  match Varint.read (buffer.drop pos) with
  | none => .error (.of .decode "invalid length prefix" [("offset", .int pos)])
  | some (n, rest) =>
    let size := n % 0x100000000
    if size ≤ rest.length then .ok (rest.take size, buffer.length - (rest.length - size))
    else
      .error (.of .decode "truncated message"
        [("offset", .int pos), ("size", .int size), ("available", .int rest.length)])

/-- Reading goes forward and stays inside. -/
theorem readFrame_next {buffer message : List UInt8} {pos next : Nat}
    (h : readFrame buffer pos = .ok (message, next)) : pos < next ∧ next ≤ buffer.length := by
  simp only [readFrame] at h
  split at h
  · simp at h
  · next n rest hr =>
    have := Varint.read_length hr
    simp only [List.length_drop] at this
    split at h
    · simp only [Except.ok.injEq, Prod.mk.injEq] at h
      omega
    · simp at h

def malformed (what : String) : Failure := .of .decode ("could not decode " ++ what)

def decoded {α : Type} (what : String) (message : Option α) : Except Failure α :=
  message.elim (.error (malformed what)) .ok

end FeatureGraph.Wire
