import Isekai.Falcon.AckCoalescing
import Mathlib.Data.Finset.Card
import Mathlib.Order.Bounds.Basic

/-!
# Holes of a bitmap

`FirstHoleIndex` only looks at as many bits as are set.
-/

namespace Isekai.Falcon

open Lib

variable {n : Nat} (b : BitVec n)

/-- A clear bit below one that is set. -/
def IsHole (i : Nat) : Prop := Bitmap.get b i = false ∧ ∃ j, i < j ∧ Bitmap.get b j = true

def setBits : Finset Nat := (Finset.range n).filter fun i => Bitmap.get b i = true

variable {b} {i k : Nat}

lemma mem_setBits : i ∈ setBits b ↔ Bitmap.get b i = true := by
  rw [setBits, Finset.mem_filter, Finset.mem_range]
  exact ⟨And.right, fun h => ⟨BitVec.lt_of_getLsbD h, h⟩⟩

lemma card_setBits : (setBits b).card = Bitmap.count b := by
  rw [Bitmap.count, List.countP_eq_length_filter, setBits, Finset.card_def, Finset.filter_val]
  simp [Multiset.range]

lemma get_iff_of_prefix (h : ∀ i < Bitmap.count b, Bitmap.get b i = true) (i : Nat) :
    Bitmap.get b i = true ↔ i < Bitmap.count b := by
  have hsubset : Finset.range (Bitmap.count b) ⊆ setBits b := fun i hi =>
    mem_setBits.mpr (h i (Finset.mem_range.mp hi))
  have heq := Finset.eq_of_subset_of_card_le hsubset (by rw [card_setBits, Finset.card_range])
  rw [← mem_setBits, ← heq, Finset.mem_range]

lemma isHole_of_lt_count (hi : i < Bitmap.count b) (hclear : Bitmap.get b i = false) :
    IsHole b i := by
  refine ⟨hclear, ?_⟩
  by_contra! hnone
  have hsubset : setBits b ⊆ Finset.range i := by
    intro j hj
    have hj := mem_setBits.mp hj
    rw [Finset.mem_range]
    by_contra hle
    rcases Nat.eq_or_lt_of_le (Nat.not_lt.mp hle) with rfl | hlt
    · exact Bool.false_ne_true (hclear.symm.trans hj)
    · exact hnone j hlt hj
  have hcard := Finset.card_le_card hsubset
  rw [card_setBits, Finset.card_range] at hcard
  omega

lemma firstHoleIndex_eq_some_iff :
    firstHoleIndex b = some i ↔ (∀ j < i, Bitmap.get b j = true) ∧ IsHole b i := by
  have hle := Bitmap.runEnd_le b 0 (Bitmap.count b)
  have hrun : ∀ j < Bitmap.runEnd b 0 (Bitmap.count b), Bitmap.get b j = true := fun j hj =>
    Bitmap.get_of_lt_runEnd b (Nat.zero_le j) hj
  rw [Nat.zero_add] at hle
  unfold firstHoleIndex
  dsimp only
  split
  · rename_i hcount
    rw [hcount] at hrun
    have hiff := get_iff_of_prefix hrun
    refine iff_of_false nofun ?_
    rintro ⟨-, hclear, j, hlt, hset⟩
    have hj := (hiff j).mp hset
    exact Bool.false_ne_true (hclear.symm.trans (hrun i (hlt.trans hj)))
  · rename_i hcount
    have hlt : Bitmap.runEnd b 0 (Bitmap.count b) < Bitmap.count b := Nat.lt_of_le_of_ne hle hcount
    have hclear := Bitmap.get_runEnd b 0 (Bitmap.count b) (by omega)
    refine ⟨fun heq => ?_, fun ⟨hbelow, hhole⟩ => congrArg some ?_⟩
    · cases heq
      exact ⟨hrun, isHole_of_lt_count hlt hclear⟩
    · rcases Nat.lt_trichotomy (Bitmap.runEnd b 0 (Bitmap.count b)) i with hi | hi | hi
      · exact absurd (hclear.symm.trans (hbelow _ hi)) Bool.false_ne_true
      · exact hi
      · exact absurd (hhole.1.symm.trans (hrun i hi)) Bool.false_ne_true

lemma isLeast_isHole_iff :
    IsLeast {i | IsHole b i} i ↔ (∀ j < i, Bitmap.get b j = true) ∧ IsHole b i := by
  refine ⟨fun ⟨hhole, hleast⟩ => ⟨fun j hj => ?_, hhole⟩, fun ⟨hbelow, hhole⟩ =>
    ⟨hhole, fun j hj => ?_⟩⟩
  · obtain ⟨-, k, hk, hset⟩ := hhole
    by_contra hclear
    exact absurd (hleast ⟨Bool.eq_false_of_not_eq_true hclear, k, hj.trans hk, hset⟩)
      (Nat.not_le.mpr hj)
  · by_contra hlt
    exact Bool.false_ne_true (hj.1.symm.trans (hbelow j (Nat.not_le.mp hlt)))

lemma firstHoleIndex_rightShift_eq_some_iff (hk : ∀ i < k, Bitmap.get b i = true) :
    firstHoleIndex (Bitmap.rightShift b k) = some i ↔ firstHoleIndex b = some (k + i) := by
  rw [firstHoleIndex_eq_some_iff, firstHoleIndex_eq_some_iff]
  simp only [IsHole, Bitmap.get_rightShift]
  refine and_congr ⟨fun h j hj => ?_, fun h j hj => h (k + j) (by omega)⟩
    (and_congr_right' ⟨fun ⟨j, hj, hset⟩ => ⟨k + j, by omega, hset⟩, fun ⟨j, hj, hset⟩ => ?_⟩)
  · rcases Nat.lt_or_ge j k with hlt | hge
    · exact hk j hlt
    · simpa [Nat.add_sub_cancel' hge] using h (j - k) (by omega)
  · exact ⟨j - k, by omega, by rwa [Nat.add_sub_cancel' (by omega)]⟩

/-- `FirstHoleIndex` is the least hole, and there is none exactly if the set bits are a prefix. A
right shift moves every bit down, and the first hole with them if only leading ones are shifted
out. -/
theorem first_hole_index (b : BitVec n) :
    (∀ i, firstHoleIndex b = some i ↔ IsLeast {i | IsHole b i} i) ∧
    (firstHoleIndex b = none ↔ ∃ k, ∀ i, Bitmap.get b i = true ↔ i < k) ∧
    (∀ k i, Bitmap.get (Bitmap.rightShift b k) i = if i + k < n then Bitmap.get b (i + k)
      else false) ∧
    ∀ k, (∀ i < k, Bitmap.get b i = true) →
      firstHoleIndex (Bitmap.rightShift b k) = (firstHoleIndex b).map (· - k) := by
  refine ⟨fun i => firstHoleIndex_eq_some_iff.trans isLeast_isHole_iff.symm,
    ⟨fun hnone => ⟨Bitmap.count b, get_iff_of_prefix fun i hi => ?_⟩, fun ⟨k, hk⟩ => ?_⟩,
    fun k i => ?_, fun k hk => Option.ext fun i => ?_⟩
  · induction i using Nat.strongRecOn with
    | ind i ih =>
      by_contra hclear
      have hsome := firstHoleIndex_eq_some_iff.mpr
        ⟨fun j hj => ih j hj (hj.trans hi), isHole_of_lt_count hi
          (Bool.eq_false_of_not_eq_true hclear)⟩
      exact nomatch hnone.symm.trans hsome
  · refine Option.eq_none_iff_forall_ne_some.mpr fun i hfirst => ?_
    obtain ⟨-, hclear, j, hlt, hset⟩ := firstHoleIndex_eq_some_iff.mp hfirst
    exact Bool.false_ne_true (hclear.symm.trans ((hk i).mpr (hlt.trans ((hk j).mp hset))))
  · rw [Bitmap.get_rightShift, Nat.add_comm]
    split
    · rfl
    · exact BitVec.getLsbD_of_ge _ _ (by omega)
  · rw [firstHoleIndex_rightShift_eq_some_iff hk, Option.map_eq_some_iff]
    refine ⟨fun h => ⟨k + i, h, Nat.add_sub_cancel_left ..⟩, ?_⟩
    rintro ⟨j, hj, rfl⟩
    have hclear := (firstHoleIndex_eq_some_iff.mp hj).2.1
    have hle : k ≤ j := by
      by_contra hlt
      exact Bool.false_ne_true (hclear.symm.trans (hk j (Nat.not_le.mp hlt)))
    rwa [Nat.add_sub_cancel' hle]

end Isekai.Falcon
