import Isekai.Falcon.Edits

/-!
# The limit that an EACK sets for early retransmissions

Which indices lie up to the limit that `EarlyRetransmissionOooCount`,
`EarlyRetransmissionOooDistance` and the out-of-window notification leave.
-/

namespace Isekai.Falcon

open Lib

namespace Endpoint

variable {n : Nat} {b : BitVec n} {i : Nat}

def onesAbove (b : BitVec n) (size i : Nat) : Nat :=
  (List.range size).countP fun j => decide (i < j) && Bitmap.get b j

def HasOneFrom (b : BitVec n) (size i d : Nat) : Prop :=
  ∃ h < size, Bitmap.get b h = true ∧ i + d ≤ h

instance (b : BitVec n) (size i d : Nat) : Decidable (HasOneFrom b size i d) :=
  inferInstanceAs (Decidable (∃ h < size, _))

lemma onesAbove_succ (b : BitVec n) (size i : Nat) :
    onesAbove b (size + 1) i =
      onesAbove b size i + if i < size then (Bitmap.get b size).toNat else 0 := by
  unfold onesAbove
  rw [List.range_succ, List.countP_append, List.countP_singleton]
  cases Bitmap.get b size <;> by_cases h : i < size <;> simp [h]

lemma onesAbove_eq_zero {size : Nat} (hi : size ≤ i + 1) : onesAbove b size i = 0 := by
  unfold onesAbove
  rw [List.countP_eq_zero]
  intro j hj
  have : j < size := List.mem_range.mp hj
  simp only [Bool.and_eq_true, decide_eq_true_eq, not_and]
  omega

lemma le_oooCountLimit_iff (b : BitVec n) (threshold limit count i : Nat) :
    (i : Int) ≤ oooCountLimit b threshold limit count ↔
      i < limit ∧ threshold ≤ count + onesAbove b limit i := by
  induction limit generalizing count with
  | zero =>
    simp only [oooCountLimit]
    omega
  | succ limit ih =>
    rw [oooCountLimit, onesAbove_succ]
    by_cases hcount : count < threshold
    · rw [if_pos hcount, ih]
      by_cases hi : i < limit
      · rw [if_pos hi]
        omega
      · rw [if_neg hi, onesAbove_eq_zero (by omega)]
        omega
    · rw [if_neg hcount]
      omega

lemma highestSet_cases (b : BitVec n) (limit : Nat) :
    (highestSet b limit = -1 ∧ ∀ j < limit, Bitmap.get b j = false) ∨
      ∃ h < limit, highestSet b limit = h ∧ Bitmap.get b h = true ∧
        ∀ j < limit, h < j → Bitmap.get b j = false := by
  induction limit with
  | zero => exact .inl ⟨rfl, by simp⟩
  | succ limit ih =>
    rw [highestSet]
    by_cases hbit : Bitmap.get b limit = true
    · rw [if_pos hbit]
      exact .inr ⟨limit, by omega, rfl, hbit, fun j hj hlt => by omega⟩
    · rw [if_neg hbit]
      have hclear : Bitmap.get b limit = false := by simpa using hbit
      rcases ih with ⟨hhighest, hnone⟩ | ⟨h, hlt, hhighest, hset, habove⟩
      · refine .inl ⟨hhighest, fun j hj => ?_⟩
        rcases Nat.lt_succ_iff_lt_or_eq.mp hj with hj | rfl
        · exact hnone j hj
        · exact hclear
      · refine .inr ⟨h, by omega, hhighest, hset, fun j hj hhj => ?_⟩
        rcases Nat.lt_succ_iff_lt_or_eq.mp hj with hj | rfl
        · exact habove j hj hhj
        · exact hclear

lemma le_highestSet_iff (b : BitVec n) (size i d : Nat) :
    ((i + d : Nat) : Int) ≤ highestSet b size ↔ HasOneFrom b size i d := by
  rcases highestSet_cases b size with ⟨hhighest, hnone⟩ | ⟨h, hlt, hhighest, hset, habove⟩
  · rw [hhighest]
    constructor
    · intro hle
      omega
    · rintro ⟨j, hj, hbit, -⟩
      rw [hnone j hj] at hbit
      cases hbit
  · rw [hhighest, Int.ofNat_le]
    constructor
    · exact fun hle => ⟨h, hlt, hset, hle⟩
    · rintro ⟨j, hj, hbit, hle⟩
      by_contra hgt
      rw [habove j hj (by omega)] at hbit
      cases hbit

lemma highestSet_bounds (b : BitVec n) (size : Nat) :
    -1 ≤ highestSet b size ∧ highestSet b size < size := by
  rcases highestSet_cases b size with ⟨hhighest, -⟩ | ⟨h, hlt, hhighest, -, -⟩ <;> omega

/-- The distance threshold is so large that the subtraction of `EarlyRetransmissionOooDistance`
leaves the range of a 32-bit integer. -/
def DistanceWraps (b : BitVec n) (size : Nat) (threshold : BitVec 32) : Prop :=
  2 ^ 31 + highestSet b size < threshold.toNat

instance (b : BitVec n) (size : Nat) (threshold : BitVec 32) :
    Decidable (DistanceWraps b size threshold) :=
  inferInstanceAs (Decidable (_ < _))

lemma oooDistanceLimit_eq (b : BitVec n) {size : Nat} (hsize : size ≤ 2 ^ 30)
    (threshold : BitVec 32) :
    oooDistanceLimit b size threshold =
      if DistanceWraps b size threshold then highestSet b size - threshold.toNat + 2 ^ 32
      else highestSet b size - threshold.toNat := by
  obtain ⟨hlow, hhigh⟩ := highestSet_bounds b size
  rw [oooDistanceLimit, BitVec.toInt_sub, BitVec.toInt_ofInt, BitVec.toInt_eq_toNat_bmod,
    Int.bmod_sub_bmod, Int.sub_bmod_bmod, Int.bmod_def]
  by_cases hwraps : DistanceWraps b size threshold
  · rw [if_pos hwraps]
    unfold DistanceWraps at hwraps
    split <;> omega
  · rw [if_neg hwraps]
    unfold DistanceWraps at hwraps
    split <;> omega

def WithinWrappedDistance (b : BitVec n) (size : Nat) (threshold : BitVec 32) (i : Nat) : Prop :=
  DistanceWraps b size threshold ∧ (i + threshold.toNat : Int) ≤ highestSet b size + 2 ^ 32

lemma le_oooDistanceLimit_iff (b : BitVec n) {size : Nat} (hsize : size ≤ 2 ^ 30)
    (threshold : BitVec 32) (i : Nat) :
    (i : Int) ≤ oooDistanceLimit b size threshold ↔
      HasOneFrom b size i threshold.toNat ∨ WithinWrappedDistance b size threshold i := by
  rw [oooDistanceLimit_eq b hsize, ← le_highestSet_iff]
  unfold WithinWrappedDistance
  split
  · rename_i hwraps
    unfold DistanceWraps at *
    omega
  · rename_i hwraps
    unfold DistanceWraps at *
    omega

lemma rxWindowSize_le (w : WindowType) : rxWindowSize w ≤ 2 ^ 30 := by
  cases w <;> decide

/-- The evidence that an EACK gives for the loss of the packet at an index: enough received packets
after it, or a received packet far enough after it. -/
def LossEvidence (c : Config) (p : AckPacket) (w : WindowType) (i : Nat) : Prop :=
  (c.enableOooCount = true ∧
    c.oooCountThreshold ≤ onesAbove (receivedBitmapOf p w) (rxWindowSize w) i) ∨
  (c.enableOooDistance = true ∧
    HasOneFrom (receivedBitmapOf p w) (rxWindowSize w) i c.oooDistanceThreshold.toNat)

instance (c : Config) (p : AckPacket) (w : WindowType) (i : Nat) :
    Decidable (LossEvidence c p w i) :=
  inferInstanceAs (Decidable (_ ∨ _))

lemma le_retxLimit_iff {e : Endpoint} {p : AckPacket} {w : WindowType}
    (hthreshold : 1 ≤ e.config.oooCountThreshold)
    (hown : ¬(e.config.enableEackOwn = true ∧ p.own w = true)) (i : Nat) :
    (i : Int) ≤ e.retxLimit p w ↔ LossEvidence e.config p w i ∨
      (e.config.enableOooDistance = true ∧
        WithinWrappedDistance (receivedBitmapOf p w) (rxWindowSize w)
          e.config.oooDistanceThreshold i) := by
  have hcount := le_oooCountLimit_iff (receivedBitmapOf p w) e.config.oooCountThreshold
    (rxWindowSize w) 0 i
  have hdistance := le_oooDistanceLimit_iff (receivedBitmapOf p w) (rxWindowSize_le w)
    e.config.oooDistanceThreshold i
  rw [Nat.zero_add, and_iff_right_of_imp fun hle => ?_] at hcount
  swap
  · by_contra hi
    rw [onesAbove_eq_zero (by omega)] at hle
    omega
  unfold retxLimit LossEvidence
  rw [if_neg hown]
  have hnegative : ¬(i : Int) ≤ -1 := by omega
  cases e.config.enableOooCount <;> cases e.config.enableOooDistance <;>
    simp only [if_true, Bool.false_eq_true, if_false, le_max_iff, hcount, hdistance, hnegative,
      true_and, false_and, or_false, false_or, or_assoc]

end Endpoint

end Isekai.Falcon
