import Mathlib.Data.BitVec
import Mathlib.Data.List.Basic

/-!
# Fixed-width bitmaps

Bit sets of a fixed width, as sliding windows use them: reading and writing one bit, shifting
the bits below a new base out, and the length of the run of ones that starts at bit zero.
-/

namespace Isekai.Lib.Bitmap

variable {n : Nat} (b : BitVec n)

def get (i : Nat) : Bool := b.getLsbD i

def set (i : Nat) (v : Bool) : BitVec n :=
  if v then b ||| BitVec.twoPow n i else b &&& ~~~BitVec.twoPow n i

def rightShift (k : Nat) : BitVec n := b >>> k

def count : Nat := (List.range n).countP (get b)

/-- End of the run of ones that starts at bit `i`, among the next `k` bits. -/
def runEnd (b : BitVec n) (i : Nat) : Nat → Nat
  | 0 => i
  | k + 1 => if get b i then runEnd b (i + 1) k else i

@[simp] lemma get_zero (i : Nat) : get (0#n) i = false := by simp [get]

lemma get_set {i : Nat} (hi : i < n) (v : Bool) (j : Nat) :
    get (set b i v) j = if j = i then v else get b j := by
  unfold get set
  by_cases hj : j < n
  · cases v <;> by_cases hji : j = i
    · simp [hji]
    · simp [hji, Ne.symm hji]
      intro h
      exact BitVec.lt_of_getLsbD h
    · simp [hji, hi]
    · simp [hji, Ne.symm hji]
  · have hji : j ≠ i := by omega
    have hge : n ≤ j := Nat.not_lt.mp hj
    rw [BitVec.getLsbD_of_ge _ j hge, BitVec.getLsbD_of_ge b j hge]
    simp [hji]

@[simp] lemma get_rightShift (k i : Nat) :
    get (rightShift b k) i = get b (k + i) := by simp [get, rightShift]

lemma runEnd_le (i k : Nat) : runEnd b i k ≤ i + k := by
  induction k generalizing i with
  | zero => simp [runEnd]
  | succ k ih =>
    have := ih (i + 1)
    simp only [runEnd]
    split <;> omega

lemma get_of_lt_runEnd {i k j : Nat} (hij : i ≤ j) (hj : j < runEnd b i k) : get b j = true := by
  induction k generalizing i with
  | zero => exact absurd hj (by simp [runEnd]; omega)
  | succ k ih =>
    simp only [runEnd] at hj
    split at hj
    · rename_i hi
      rcases Nat.eq_or_lt_of_le hij with rfl | hlt
      · exact hi
      · exact ih hlt hj
    · omega

lemma get_runEnd (i k : Nat) (h : runEnd b i k < i + k) : get b (runEnd b i k) = false := by
  induction k generalizing i with
  | zero => exact absurd h (by simp [runEnd])
  | succ k ih =>
    simp only [runEnd] at h ⊢
    split
    · rename_i hi
      rw [if_pos hi] at h
      exact ih (i + 1) (by omega)
    · rename_i hi
      simpa using hi

lemma runEnd_eq_zero {b : BitVec n} (h : get b 0 = false) (k : Nat) : runEnd b 0 k = 0 := by
  cases k with
  | zero => rfl
  | succ k => rw [runEnd, h, if_neg Bool.false_ne_true]

end Isekai.Lib.Bitmap
