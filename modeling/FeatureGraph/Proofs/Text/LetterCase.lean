import FeatureGraph.Text.LetterCase
import Mathlib.Data.List.Basic

/-! # The upper case of plain letters -/
namespace FeatureGraph.Text

/-- Of the letters that the tables of upper case hold, only those of the first run are among the first 128 code
points. -/
theorem upperChar_of_ascii {c : Char} (hc : c.toNat < 0x80) : upperChar c = [c.toUpper] := by
  have hexpansions : upperExpansions.lookup c.toNat = none := by
    have hkeys : ∀ p ∈ upperExpansions, 0x80 ≤ p.1 := by decide +kernel
    refine List.lookup_eq_none_iff.2 fun p hp => bne_iff_ne.2 ?_
    have := hkeys p hp
    omega
  have hothers : upperRuns.tail.findSome? (·.image? c.toNat) = none := by
    have hfirsts : ∀ r ∈ upperRuns.tail, 0x80 ≤ r.first := by decide +kernel
    refine List.findSome?_eq_none_iff.2 fun r hr => ?_
    have := hfirsts r hr
    rw [CaseRun.image?, if_neg]
    simp only [Bool.and_eq_true, decide_eq_true_eq]
    omega
  have hruns : upperRuns.findSome? (·.image? c.toNat) = CaseRun.image? ⟨0x61, 0x7A, 1, -32⟩ c.toNat := by
    rw [show upperRuns = ⟨0x61, 0x7A, 1, -32⟩ :: upperRuns.tail from rfl, List.findSome?_cons, hothers]
    cases CaseRun.image? ⟨0x61, 0x7A, 1, -32⟩ c.toNat <;> rfl
  have hletters : ∀ n ∈ List.range 0x80, ((CaseRun.image? ⟨0x61, 0x7A, 1, -32⟩ n).map Char.ofNat).getD (Char.ofNat n) =
      (Char.ofNat n).toUpper := by decide +kernel
  have hletter := hletters c.toNat (List.mem_range.2 hc)
  rw [Char.ofNat_toNat] at hletter
  rw [upperChar, hexpansions, hruns]
  exact congrArg ([·]) hletter

theorem upper_ofList {cs : List Char} (hcs : ∀ c ∈ cs, c.toNat < 0x80) :
    upper (String.ofList cs) = String.ofList (cs.map Char.toUpper) := by
  rw [upper, String.toList_ofList, List.map_eq_flatMap, List.flatMap_congr fun c hc => upperChar_of_ascii (hcs c hc)]

theorem map_toUpper_eq_self {cs : List Char} (hcs : ∀ c ∈ cs, c.toUpper = c) : cs.map Char.toUpper = cs :=
  (List.map_congr_left hcs).trans (List.map_id cs)

/-- A text in capital letters is its own upper case. -/
theorem upper_eq_self {s : String} (hs : ∀ c ∈ s.toList, c.toNat < 0x80 ∧ c.toUpper = c) : upper s = s := by
  have hupper := upper_ofList fun c hc => (hs c hc).1
  rwa [map_toUpper_eq_self fun c hc => (hs c hc).2, String.ofList_toList] at hupper

end FeatureGraph.Text
