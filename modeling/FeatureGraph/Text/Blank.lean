/-! # Blank characters: the white space of every script, and the text between it -/
namespace FeatureGraph.Text

/-- Unicode white space, with the four information separators U+001C to U+001F. -/
def isBlank (c : Char) : Bool :=
  let n := c.toNat
  (0x9 ≤ n && n ≤ 0xD) || (0x1C ≤ n && n ≤ 0x20) || n == 0x85 || n == 0xA0 || n == 0x1680 ||
  (0x2000 ≤ n && n ≤ 0x200A) || n == 0x2028 || n == 0x2029 || n == 0x202F || n == 0x205F ||
  n == 0x3000

def trim (cs : List Char) : List Char :=
  ((cs.dropWhile isBlank).reverse.dropWhile isBlank).reverse

/-- The white space that may pad a number: the information separators may not. -/
def isPadding (c : Char) : Bool := isBlank c && !(0x1C ≤ c.toNat && c.toNat ≤ 0x1F)

/-- Drops the padding of a number at both ends. -/
def trimPadding (cs : List Char) : List Char :=
  ((cs.dropWhile isPadding).reverse.dropWhile isPadding).reverse

def compact (cs : List Char) : List Char := cs.filter (fun c => !isBlank c)

def trimSet (set : List Char) (cs : List Char) : List Char :=
  ((cs.dropWhile set.contains).reverse.dropWhile set.contains).reverse

def trimEnd (set : List Char) (cs : List Char) : List Char :=
  (cs.reverse.dropWhile set.contains).reverse

@[simp] theorem compact_nil : compact [] = [] := rfl

/-- Only characters that are to be dropped are. -/
theorem exists_eq_append_dropWhile (p : Char → Bool) (cs : List Char) :
    ∃ lead trail, cs = lead ++ ((cs.dropWhile p).reverse.dropWhile p).reverse ++ trail ∧ (∀ c ∈ lead, p c) ∧
      ∀ c ∈ trail, p c := by
  have hlead (ds : List Char) : ∀ c ∈ ds.takeWhile p, p c := fun c hc =>
    List.all_eq_true.1 List.all_takeWhile c hc
  let rest := cs.dropWhile p
  refine ⟨cs.takeWhile p, (rest.reverse.takeWhile p).reverse, ?_, hlead cs, fun c hc =>
    hlead rest.reverse c (List.mem_reverse.1 hc)⟩
  rw [List.append_assoc, ← List.reverse_append, List.takeWhile_append_dropWhile, List.reverse_reverse,
    List.takeWhile_append_dropWhile]

theorem exists_eq_append_trim (cs : List Char) :
    ∃ lead trail, cs = lead ++ trim cs ++ trail ∧ (∀ c ∈ lead, isBlank c) ∧ ∀ c ∈ trail, isBlank c :=
  exists_eq_append_dropWhile isBlank cs

/-- Between characters that are dropped at both ends stays a text that has none of them. -/
theorem dropWhile_both {p : Char → Bool} {lead cs trail : List Char} (hlead : ∀ c ∈ lead, p c)
    (htrail : ∀ c ∈ trail, p c) (hcs : ∀ c ∈ cs, p c = false) :
    (((lead ++ cs ++ trail).dropWhile p).reverse.dropWhile p).reverse = cs := by
  have htrail' : ∀ c ∈ trail.reverse, p c := fun c hc => htrail c (List.mem_reverse.1 hc)
  rw [List.append_assoc, List.dropWhile_append_of_pos hlead]
  cases cs with
  | nil =>
    have hnone : trail.dropWhile p = [] := by
      rw [← List.append_nil trail, List.dropWhile_append_of_pos htrail, List.dropWhile_nil]
    rw [List.nil_append, hnone]
    rfl
  | cons c cs =>
    have hfirst : ((c :: cs) ++ trail).dropWhile p = (c :: cs) ++ trail := by
      rw [List.cons_append, List.dropWhile_cons_of_neg (by simp [hcs])]
    have hlast : (c :: cs).reverse.dropWhile p = (c :: cs).reverse := by
      cases h : (c :: cs).reverse with
      | nil => rfl
      | cons d ds =>
        have hd : d ∈ c :: cs := List.mem_reverse.1 (h ▸ List.mem_cons_self)
        rw [List.dropWhile_cons_of_neg (by simp [hcs d hd])]
    rw [hfirst, List.reverse_append, List.dropWhile_append_of_pos htrail', hlast, List.reverse_reverse]

theorem trim_padded {lead cs trail : List Char} (hlead : ∀ c ∈ lead, isBlank c) (htrail : ∀ c ∈ trail, isBlank c)
    (hcs : ∀ c ∈ cs, isBlank c = false) : trim (lead ++ cs ++ trail) = cs :=
  dropWhile_both hlead htrail hcs

theorem trimPadding_eq_self {cs : List Char} (hcs : ∀ c ∈ cs, isBlank c = false) : trimPadding cs = cs := by
  have hpadding : ∀ c ∈ cs, isPadding c = false := fun c hc => by simp [isPadding, hcs c hc]
  have hnil : ∀ c ∈ ([] : List Char), isPadding c := fun c hc => nomatch hc
  simpa [trimPadding] using dropWhile_both hnil hnil hpadding

end FeatureGraph.Text
