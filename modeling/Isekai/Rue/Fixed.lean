import Mathlib.Algebra.BigOperators.Field
import Mathlib.Data.Rat.Floor
import Mathlib.Tactic.FieldSimp
import Mathlib.Tactic.Positivity

/-!
# Fixed-point numbers

The conversions of `rue/fixed.h`. A double is a rational number: the 32-bit values that the
transport converts, and sums of a few of them, are exact in a double.
-/

namespace Isekai.Rue

variable {width : Nat}

def fixedToFloat (num : BitVec width) (frac : Nat) : ℚ := num.toNat / 2 ^ frac

/-- `std::round`: halves are rounded away from zero. -/
def roundHalfAway (x : ℚ) : ℤ := if 0 ≤ x then ⌊x + 1 / 2⌋ else -⌊-x + 1 / 2⌋

def floatToFixed (num : ℚ) (frac : Nat) : BitVec width :=
  BitVec.ofInt width (roundHalfAway (num * 2 ^ frac))

def fixedToUint (num : BitVec width) (frac : Nat) : BitVec width := num >>> frac

lemma roundHalfAway_natCast (n : Nat) : roundHalfAway n = n := by
  unfold roundHalfAway
  rw [if_pos (Nat.cast_nonneg n), Int.floor_eq_iff]
  constructor
  · push_cast
    linarith
  · push_cast
    linarith

lemma floatToFixed_natCast_div (n frac : Nat) :
    floatToFixed ((n : ℚ) / 2 ^ frac) frac = BitVec.ofNat width n := by
  have hscale : (n : ℚ) / 2 ^ frac * 2 ^ frac = n := by field_simp
  rw [floatToFixed, hscale, roundHalfAway_natCast, BitVec.ofInt_natCast]

lemma floatToFixed_sum {ι : Type} (s : Finset ι) (f : ι → BitVec width) (frac : Nat) :
    floatToFixed (∑ i ∈ s, fixedToFloat (f i) frac) frac =
      BitVec.ofNat width (∑ i ∈ s, (f i).toNat) := by
  rw [← floatToFixed_natCast_div _ frac, Nat.cast_sum, Finset.sum_div]
  rfl

end Isekai.Rue
