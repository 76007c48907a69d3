/-! # The exact value of a floating-point number -/
namespace FeatureGraph.Number

/-- A double taken apart: a finite one is `mantissa * 2 ^ exponent` with its sign. -/
inductive Parts where
  | nan
  | infinite (negative : Bool)
  | finite (negative : Bool) (mantissa : Nat) (exponent : Int)
  deriving DecidableEq, Repr

/-- Reads the fields of the binary64 format: a sign, eleven bits of the exponent, 52 of the fraction. -/
def partsOfBits (bits : UInt64) : Parts :=
  let n := bits.toNat
  let negative := n / 0x8000000000000000 == 1
  let biased : Nat := n / 0x10000000000000 % 2048
  let fraction : Nat := n % 0x10000000000000
  if biased = 2047 then (if fraction = 0 then .infinite negative else .nan)
  else if biased = 0 then .finite negative fraction (-1074)
  else .finite negative (0x10000000000000 + fraction) ((biased : Int) - 1075)

def parts (x : Float) : Parts := partsOfBits x.toBits

/-- `mantissa * 2 ^ exponent * 10 ^ places` as a quotient of two whole numbers. -/
def scaled (mantissa : Nat) (exponent : Int) (places : Nat) : Nat × Nat :=
  if 0 ≤ exponent then (mantissa * Nat.pow 2 exponent.toNat * Nat.pow 10 places, 1)
  else (mantissa * Nat.pow 10 places, Nat.pow 2 (-exponent).toNat)

/-- A quotient rounded to the nearest whole number, a half to the even neighbour. -/
def roundHalfEven (num den : Nat) : Nat :=
  let q := num / den
  let r := num % den
  if 2 * r < den then q
  else if den < 2 * r then q + 1
  else if q % 2 = 0 then q else q + 1

theorem roundHalfEven_within (num : Nat) {den : Nat} (hd : 0 < den) :
    2 * num ≤ 2 * (roundHalfEven num den * den) + den ∧
      2 * (roundHalfEven num den * den) ≤ 2 * num + den := by
  have h : num / den * den + num % den = num := by
    rw [Nat.mul_comm]; exact Nat.div_add_mod num den
  have hr := Nat.mod_lt num hd
  have e : (num / den + 1) * den = num / den * den + den := Nat.succ_mul ..
  unfold roundHalfEven
  dsimp only
  split
  · omega
  · split
    · rw [e]; omega
    · split
      · omega
      · rw [e]; omega

def withSign (negative : Bool) (n : Nat) : Int := if negative then -(n : Int) else n

/-- The nearest whole number, a half to the even neighbour; none for NaN and the infinities. -/
def roundToInt? (x : Float) : Option Int :=
  match parts x with
  | .finite negative m e => let (n, d) := scaled m e 0; some (withSign negative (roundHalfEven n d))
  | _ => none

/-- The whole part; none for NaN and the infinities. -/
def truncate? (x : Float) : Option Int :=
  match parts x with
  | .finite negative m e => let (n, d) := scaled m e 0; some (withSign negative (n / d))
  | _ => none

/-- The greatest whole number not above a double; none for NaN and the infinities. -/
def floor? (x : Float) : Option Int :=
  match parts x with
  | .finite negative m e => let (n, d) := scaled m e 0; some (Int.fdiv (withSign negative n) d)
  | _ => none

def equalsInt (x : Float) (n : Int) : Bool :=
  match parts x with
  | .finite negative m e => let (num, d) := scaled m e 0; num % d == 0 && withSign negative (num / d) == n
  | _ => false

/-- The double nearest to a whole number; none when it lies beyond the finite doubles. -/
def ofInt? (n : Int) : Option Float :=
  let x := Float.ofInt n
  if x.isInf then none else some x

instance natCastFloat : NatCast Float := ⟨Float.ofNat⟩

end FeatureGraph.Number
