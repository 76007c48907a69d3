import FeatureGraph.Fault
import FeatureGraph.Text.Replace

/-! # Global ids in text: 32 hexadecimal digits, in many notations -/
namespace FeatureGraph.Guid

/-- The digits of a global id, without blanks around it, braces, marks and hyphens. -/
def digits (s : String) : List Char :=
  let braces := ['\x7b', '\x7d']
  let cs := Text.trimSet braces (Text.trim s.toList)
  let cs := Text.removeFrom "uuid:".toList 0 (Text.removeFrom "urn:".toList 0 cs)
  (Text.trimSet braces cs).filter (· != '-')

def bigEndian : Nat → Nat → List UInt8
  | 0, _ => []
  | width + 1, n => bigEndian width (n / 256) ++ [.ofNat (n % 256)]

def ofText (s : String) : Except Defect (List UInt8) :=
  let cs := digits s
  if cs.length ≠ 32 then .error .identifierText
  else
    match Number.hexInteger? cs with
    | some n => .ok (bigEndian 16 n.toNat)
    | none => .error .identifierText

end FeatureGraph.Guid
