import Mathlib.Data.BitVec
import Mathlib.Tactic.Linarith

/-!
# Serial numbers

Fixed-width sequence numbers that wrap around, compared by the sign of their distance.
`dist` is the forward distance between two of them and `shift` the number at a given position of
the sequence that begins at `start`; a position is a natural number and never wraps.
-/

namespace Isekai.Lib.Serial

variable {w : Nat} (base p start a b : BitVec w)

def lt : Bool := decide ((a - b).toInt < 0)

def dist : Nat := (p - base).toNat

def shift (n : Nat) : BitVec w := start + BitVec.ofNat w n

lemma dist_lt : dist base p < 2 ^ w := (p - base).isLt

@[simp] lemma dist_self (base : BitVec w) : dist base base = 0 := by simp [dist]

@[simp] lemma shift_zero : shift start 0 = start := by simp [shift]

lemma shift_add (m n : Nat) : shift (shift start m) n = shift start (m + n) := by
  simp [shift, BitVec.ofNat_add, BitVec.add_assoc]

@[simp] lemma shift_dist : shift base (dist base p) = p := by
  rw [shift, dist, BitVec.ofNat_toNat, BitVec.setWidth_eq, BitVec.add_comm, BitVec.sub_add_cancel]

lemma dist_shift (base : BitVec w) {n : Nat} (hn : n < 2 ^ w) : dist base (shift base n) = n := by
  simp [shift, dist, BitVec.add_comm base, Nat.mod_eq_of_lt hn]

lemma dist_shift_shift {m n : Nat} (hmn : m ≤ n) (hn : n - m < 2 ^ w) :
    dist (shift start m) (shift start n) = n - m := by
  have h := dist_shift (shift start m) hn
  rwa [shift_add, Nat.add_sub_cancel' hmn] at h

lemma shift_injOn (base : BitVec w) {m n : Nat} (hm : m < 2 ^ w) (hn : n < 2 ^ w)
    (h : shift base m = shift base n) : m = n := by
  rw [← dist_shift base hm, h, dist_shift base hn]

lemma dist_inj {base p q : BitVec w} (h : dist base p = dist base q) : p = q := by
  rw [← shift_dist base p, h, shift_dist]

lemma dist_eq_zero {base p : BitVec w} : dist base p = 0 ↔ p = base := by
  constructor
  · intro h
    exact dist_inj (h.trans (dist_self base).symm)
  · rintro rfl
    exact dist_self p

lemma dist_shift_base {d : Nat} (hd : d ≤ dist base p) :
    dist (shift base d) p = dist base p - d := by
  have hlt := dist_lt base p
  have h := dist_shift_shift base hd (by omega)
  rwa [shift_dist] at h

private lemma ofNat_two_pow : BitVec.ofNat w (2 ^ w) = 0#w := by
  apply BitVec.eq_of_toNat_eq
  rw [BitVec.toNat_ofNat, Nat.mod_self, BitVec.toNat_zero]

lemma dist_shift_base_of_lt {d : Nat} (hp : dist base p < d) (hd : d < 2 ^ w) :
    dist (shift base d) p = 2 ^ w - d + dist base p := by
  have hwrap : shift base (dist base p + 2 ^ w) = p := by
    rw [shift, BitVec.ofNat_add, ofNat_two_pow, BitVec.add_zero]
    exact shift_dist base p
  have h := dist_shift (shift base d) (n := 2 ^ w - d + dist base p) (by omega)
  rwa [shift_add, show d + (2 ^ w - d + dist base p) = dist base p + 2 ^ w by omega, hwrap] at h

lemma dist_succ {base p : BitVec w} (h : dist base p + 1 < 2 ^ w) :
    dist base (p + 1) = dist base p + 1 := by
  have hp : shift base (dist base p + 1) = p + 1 := by
    rw [← shift_add, shift_dist]
    rfl
  rw [← hp, dist_shift base h]

lemma dist_add_dist (base p q : BitVec w) (h : dist base p ≤ dist base q) :
    dist p q = dist base q - dist base p := by
  have := dist_shift_base base q h
  rwa [shift_dist] at this

lemma toNat_sub_eq :
    (a - b).toNat = if b.toNat ≤ a.toNat then a.toNat - b.toNat else 2 ^ w + a.toNat - b.toNat := by
  split
  · rename_i h
    exact BitVec.toNat_sub_of_le h
  · rename_i h
    rw [BitVec.toNat_sub, show 2 ^ w - b.toNat + a.toNat = 2 ^ w + a.toNat - b.toNat by omega,
      Nat.mod_eq_of_lt (by omega)]

lemma lt_iff : lt a b = true ↔ 2 ^ w ≤ 2 * dist b a := by
  simp only [lt, decide_eq_true_eq, dist, BitVec.toInt_neg_iff]

lemma lt_eq_false_iff : lt a b = false ↔ 2 * dist b a < 2 ^ w := by
  rw [← Bool.not_eq_true, lt_iff, Nat.not_le]

@[simp] lemma lt_self (a : BitVec w) : lt a a = false := by
  rw [lt_eq_false_iff, dist_self]
  exact Nat.two_pow_pos w

/-- Two numbers within half of the space from a base compare as their distances from it. -/
lemma lt_iff_dist (base : BitVec w) {p q : BitVec w} (hp : 2 * dist base p < 2 ^ w)
    (hq : 2 * dist base q < 2 ^ w) : lt p q = true ↔ dist base p < dist base q := by
  rw [lt_iff]
  rcases Nat.le_total (dist base q) (dist base p) with h | h
  · rw [dist_add_dist base q p h]
    omega
  · rcases Nat.eq_or_lt_of_le h with he | hlt
    · rw [dist_inj he, dist_self]
      omega
    · have hd : dist p q = dist base q - dist base p := dist_add_dist base p q h
      have hsum : dist q p = 2 ^ w - dist p q := by
        have hne : dist p q ≠ 0 := by omega
        simp only [dist] at hne ⊢
        rw [toNat_sub_eq] at hne ⊢
        rw [toNat_sub_eq] at *
        split_ifs at * <;> omega
      omega

end Isekai.Lib.Serial
