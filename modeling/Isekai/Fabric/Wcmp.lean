import Mathlib.Algebra.Order.BigOperators.Group.List
import Mathlib.Algebra.Order.Group.Nat
import Mathlib.Data.BitVec
import Mathlib.Order.Interval.Finset.Nat

/-!
# Weighted cost multipathing

`SelectWcmpOutputPort` of `port_selection.cc`, with the 32-bit words of the source. The loop returns
the index of the option; `none` is the fatal exit.
-/

namespace Isekai.Fabric

structure OutputInfo where
  weight : BitVec 32
  portIndex : BitVec 32

def weightSum (outputOptions : List OutputInfo) : BitVec 32 :=
  outputOptions.foldl (fun weightSum option => weightSum + option.weight) 0

def wcmpLoop : List OutputInfo → BitVec 32 → Option Nat
  | [], _ => none
  | option :: rest, modHashValue =>
    if modHashValue < option.weight then some 0
    else (wcmpLoop rest (modHashValue - option.weight)).map (· + 1)

def selectWcmpOutputPort (hashValue : BitVec 32) (outputOptions : List OutputInfo) :
    Option (BitVec 32) := do
  let i ← wcmpLoop outputOptions (hashValue % weightSum outputOptions)
  (outputOptions[i]?).map (·.portIndex)

def weightBefore (outputOptions : List OutputInfo) (i : Nat) : Nat :=
  ((outputOptions.take i).map (·.weight.toNat)).sum

def totalWeight (outputOptions : List OutputInfo) : Nat :=
  weightBefore outputOptions outputOptions.length

variable {option : OutputInfo} {options : List OutputInfo} {modHashValue : BitVec 32} {i : Nat}

lemma weightBefore_cons (i : Nat) : weightBefore (option :: options) (i + 1) =
    option.weight.toNat + weightBefore options i := by
  simp [weightBefore]

lemma weightBefore_succ (hi : i < options.length) : weightBefore options (i + 1) =
    weightBefore options i + options[i].weight.toNat := by
  rw [weightBefore, List.take_add_one, List.getElem?_eq_getElem hi, List.map_append,
    List.sum_append]
  rfl

lemma totalWeight_cons : totalWeight (option :: options) =
    option.weight.toNat + totalWeight options := weightBefore_cons _

lemma weightBefore_le (options : List OutputInfo) (i : Nat) :
    weightBefore options i ≤ totalWeight options := by
  rw [totalWeight, weightBefore, weightBefore, List.take_length]
  exact ((List.take_sublist ..).map _).sum_le_sum fun _ _ => Nat.zero_le _

lemma toNat_weightSum : (weightSum options).toNat = totalWeight options % 2 ^ 32 := by
  have hfold : ∀ (l : List OutputInfo) (sum : BitVec 32),
      (l.foldl (fun weightSum option => weightSum + option.weight) sum).toNat =
        (sum.toNat + (l.map (·.weight.toNat)).sum) % 2 ^ 32 := by
    intro l
    induction l with
    | nil => exact fun sum => (Nat.mod_eq_of_lt sum.isLt).symm
    | cons option rest ih =>
      intro sum
      rw [List.foldl_cons, ih, BitVec.toNat_add, Nat.mod_add_mod, List.map_cons, List.sum_cons,
        Nat.add_assoc]
  rw [weightSum, hfold, totalWeight, weightBefore, List.take_length]
  exact congrArg (· % 2 ^ 32) (Nat.zero_add _)

lemma exists_wcmpLoop (h : modHashValue.toNat < totalWeight options) :
    ∃ i, wcmpLoop options modHashValue = some i := by
  induction options generalizing modHashValue with
  | nil => exact absurd h (Nat.not_lt_zero _)
  | cons option rest ih =>
    rw [wcmpLoop]
    split
    · exact ⟨0, rfl⟩
    · rename_i hge
      rw [BitVec.lt_def, Nat.not_lt] at hge
      rw [totalWeight_cons] at h
      have hlt : (modHashValue - option.weight).toNat < totalWeight rest := by
        rw [BitVec.toNat_sub_of_le hge]
        omega
      obtain ⟨i, hi⟩ := ih hlt
      exact ⟨i + 1, by rw [hi]; rfl⟩

lemma wcmpLoop_eq_some_iff : wcmpLoop options modHashValue = some i ↔
    i < options.length ∧ weightBefore options i ≤ modHashValue.toNat ∧
      modHashValue.toNat < weightBefore options (i + 1) := by
  induction options generalizing modHashValue i with
  | nil => simp [wcmpLoop]
  | cons option rest ih =>
    rw [wcmpLoop, weightBefore_cons]
    split
    · rename_i hlt
      rw [BitVec.lt_def] at hlt
      cases i with
      | zero => simp [weightBefore, hlt]
      | succ i =>
        rw [weightBefore_cons]
        exact iff_of_false nofun fun h => by omega
    · rename_i hge
      rw [BitVec.lt_def, Nat.not_lt] at hge
      cases i with
      | zero =>
        refine iff_of_false (by simp) fun h => ?_
        have hzero : weightBefore rest 0 = 0 := rfl
        omega
      | succ i =>
        rw [Option.map_eq_some_iff, weightBefore_cons, List.length_cons]
        simp only [Nat.succ.injEq, exists_eq_right, ih, BitVec.toNat_sub_of_le hge]
        omega

/-- The option is chosen whose interval of weights has the residue, so that each option is chosen
for as many residues as its weight says. -/
theorem wcmp_proportional (hne : options ≠ [])
    (hweight : ∀ option ∈ options, 0 < option.weight.toNat)
    (hsum : totalWeight options < 2 ^ 32) :
    (∀ hashValue : BitVec 32, ∃ (i : Nat) (hi : i < options.length),
      selectWcmpOutputPort hashValue options = some options[i].portIndex ∧
      weightBefore options i ≤ hashValue.toNat % totalWeight options ∧
      hashValue.toNat % totalWeight options < weightBefore options (i + 1)) ∧
    ∀ (i : Nat) (hi : i < options.length),
      ((Finset.range (totalWeight options)).filter fun residue =>
      wcmpLoop options (.ofNat 32 residue) = some i).card = options[i].weight.toNat := by
  have hpos : 0 < totalWeight options := by
    obtain ⟨option, rest, rfl⟩ := List.exists_cons_of_ne_nil hne
    have := hweight option (List.mem_cons_self ..)
    rw [totalWeight_cons]
    omega
  refine ⟨fun hashValue => ?_, fun i hi => ?_⟩
  · have hmod : (hashValue % weightSum options).toNat = hashValue.toNat % totalWeight options := by
      rw [BitVec.toNat_umod, toNat_weightSum, Nat.mod_eq_of_lt hsum]
    obtain ⟨i, hloop⟩ := exists_wcmpLoop (hmod.trans_lt (Nat.mod_lt _ hpos))
    obtain ⟨hi, hle, hlt⟩ := wcmpLoop_eq_some_iff.mp hloop
    rw [hmod] at hle hlt
    refine ⟨i, hi, ?_, hle, hlt⟩
    simp [selectWcmpOutputPort, hloop, hi]
  · have hfilter : ((Finset.range (totalWeight options)).filter
        fun residue => wcmpLoop options (.ofNat 32 residue) = some i) =
        Finset.Ico (weightBefore options i) (weightBefore options (i + 1)) := by
      ext residue
      have hle := weightBefore_le options (i + 1)
      rw [Finset.mem_filter, Finset.mem_range, Finset.mem_Ico, wcmpLoop_eq_some_iff,
        BitVec.toNat_ofNat]
      refine ⟨fun ⟨hlt, _, h⟩ => ?_, fun h => ?_⟩
      · rwa [Nat.mod_eq_of_lt (hlt.trans hsum)] at h
      · have hlt := h.2.trans_le hle
        rw [Nat.mod_eq_of_lt (hlt.trans hsum)]
        exact ⟨hlt, hi, h⟩
    rw [hfilter, Nat.card_Ico, weightBefore_succ hi, Nat.add_sub_cancel_left]

theorem wcmp_proportional_four :
    selectWcmpOutputPort 4 [⟨2, 1⟩, ⟨1, 2⟩, ⟨4, 3⟩, ⟨3, 4⟩] = some 3 ∧
    ((Finset.range 10).filter fun residue =>
      wcmpLoop [⟨2, 1⟩, ⟨1, 2⟩, ⟨4, 3⟩, ⟨3, 4⟩] (.ofNat 32 residue) = some 2).card = 4 :=
  ⟨by decide,
    (@wcmp_proportional [⟨2, 1⟩, ⟨1, 2⟩, ⟨4, 3⟩, ⟨3, 4⟩] nofun (by decide) (by decide)).2 2
    (by decide)⟩

end Isekai.Fabric
