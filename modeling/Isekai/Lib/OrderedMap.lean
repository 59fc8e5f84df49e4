import Mathlib.Data.List.Basic
import Mathlib.Data.List.Nodup
import Mathlib.Data.List.Perm.Basic
import Mathlib.Order.Lattice

/-!
# Ordered maps kept as lists

A map ordered by its keys, as a list of pairs. `insert` overwrites the value of a key that is
present; the first pair of a map that was only built by `insert` and `erase` has its least key.
-/

namespace Isekai.Lib.OrderedMap

variable {κ α : Type*} [LinearOrder κ] {l : List (κ × α)} {k : κ}

def lookup (k : κ) : List (κ × α) → Option α
  | [] => none
  | (k', v) :: l => if k = k' then some v else lookup k l

def insert (k : κ) (v : α) : List (κ × α) → List (κ × α)
  | [] => [(k, v)]
  | (k', v') :: l =>
    if k < k' then (k, v) :: (k', v') :: l
    else if k = k' then (k, v) :: l
    else (k', v') :: insert k v l

def erase (k : κ) (l : List (κ × α)) : List (κ × α) := l.filter (fun p => p.1 ≠ k)

def keys (l : List (κ × α)) : List κ := l.map Prod.fst

lemma mem_of_lookup {v : α} (h : lookup k l = some v) : (k, v) ∈ l := by
  induction l with
  | nil => cases h
  | cons p l ih =>
    obtain ⟨k', v'⟩ := p
    simp only [lookup] at h
    split at h
    · rename_i hk
      simp only [Option.some.injEq] at h
      simp [hk, h]
    · exact List.mem_cons_of_mem _ (ih h)

lemma lookup_eq_none_iff : lookup k l = none ↔ k ∉ keys l := by
  induction l with
  | nil => simp [lookup, keys]
  | cons p l ih =>
    simp only [lookup, keys, List.map_cons, List.mem_cons, not_or]
    split
    · rename_i hk
      simp [hk]
    · rename_i hk
      rw [ih]
      simp [hk, keys]

lemma lookup_insert (k k' : κ) (v : α) (l : List (κ × α)) :
    lookup k' (insert k v l) = if k' = k then some v else lookup k' l := by
  induction l with
  | nil => simp [insert, lookup]
  | cons p l ih =>
    obtain ⟨a, b⟩ := p
    simp only [insert]
    split
    · simp [lookup]
    · split
      · rename_i hka
        by_cases h : k' = k
        · simp [lookup, h]
        · simp [lookup, h, ← hka]
      · rename_i hka
        by_cases h : k' = a
        · have : k' ≠ k := fun hk => hka (hk.symm.trans h)
          subst h
          simp [lookup, this]
        · simp [lookup, h, ih]

lemma lookup_erase (k k' : κ) (l : List (κ × α)) :
    lookup k' (erase k l) = if k' = k then none else lookup k' l := by
  induction l with
  | nil => simp [lookup, erase]
  | cons p l ih =>
    obtain ⟨a, b⟩ := p
    simp only [erase] at ih ⊢
    by_cases ha : a = k
    · subst ha
      simp only [ne_eq, not_true_eq_false, decide_false, Bool.false_eq_true, not_false_eq_true,
        List.filter_cons_of_neg]
      rw [ih]
      by_cases hk : k' = a
      · simp [hk]
      · simp [lookup, hk]
    · simp only [ne_eq, ha, not_false_eq_true, decide_true, List.filter_cons_of_pos, lookup]
      by_cases hk : k' = a
      · simp [hk, ha]
      · simp only [hk, if_false]
        exact ih

lemma mem_insert {v : α} {p : κ × α} (h : p ∈ insert k v l) : p = (k, v) ∨ p ∈ l := by
  induction l with
  | nil => exact .inl (List.mem_singleton.mp h)
  | cons q l ih =>
    unfold insert at h
    split at h
    · exact List.mem_cons.mp h
    split at h
    · obtain rfl | h := List.mem_cons.mp h
      · exact .inl rfl
      · exact .inr (List.mem_cons_of_mem _ h)
    · obtain rfl | h := List.mem_cons.mp h
      · exact .inr List.mem_cons_self
      · exact (ih h).imp id (List.mem_cons_of_mem _)

lemma insert_perm (v : α) (hk : k ∉ keys l) : (insert k v l).Perm ((k, v) :: l) := by
  induction l with
  | nil => exact List.Perm.refl _
  | cons p l ih =>
    obtain ⟨a, b⟩ := p
    simp only [keys, List.map_cons, List.mem_cons, not_or] at hk
    simp only [insert, hk.1, if_false]
    split
    · exact List.Perm.refl _
    · exact ((ih hk.2).cons (a, b)).trans (List.Perm.swap _ _ l)

/-- The keys of the map ascend, as `insert` and `erase` keep them. -/
def Sorted (l : List (κ × α)) : Prop := (keys l).Pairwise (· < ·)

lemma mem_keys_iff : k ∈ keys l ↔ (lookup k l).isSome := by
  rw [Option.isSome_iff_ne_none, ne_eq, lookup_eq_none_iff, not_not]

lemma mem_keys_insert {k k' : κ} {v : α} : k' ∈ keys (insert k v l) ↔ k' = k ∨ k' ∈ keys l := by
  rw [mem_keys_iff, lookup_insert, mem_keys_iff]
  by_cases h : k' = k <;> simp [h]

lemma Sorted.insert (h : Sorted l) (k : κ) (v : α) : Sorted (insert k v l) := by
  induction l with
  | nil => exact List.pairwise_singleton _ _
  | cons p l ih =>
    obtain ⟨k', v'⟩ := p
    obtain ⟨hhead, htail⟩ := List.pairwise_cons.mp h
    simp only [OrderedMap.insert]
    split
    · rename_i hlt
      refine List.pairwise_cons.mpr ⟨fun a ha => ?_, h⟩
      rcases List.mem_cons.mp ha with rfl | ha
      · exact hlt
      · exact lt_trans hlt (hhead a ha)
    · split
      · rename_i heq
        exact List.pairwise_cons.mpr ⟨fun a ha => heq ▸ hhead a ha, htail⟩
      · rename_i hlt hne
        refine List.pairwise_cons.mpr ⟨fun a ha => ?_, ih htail⟩
        rcases mem_keys_insert.mp ha with rfl | ha
        · exact lt_of_le_of_ne (not_lt.mp hlt) (Ne.symm hne)
        · exact hhead a ha

lemma Sorted.erase (h : Sorted l) (k : κ) : Sorted (erase k l) :=
  List.Pairwise.sublist (List.Sublist.map _ List.filter_sublist) h

/-- In an ascending list, the search for an element that is there stops at the least element that
is not below it. -/
lemma mem_dropWhile_ne {l : List κ} (h : l.Pairwise (· < ·)) {k a : κ} (hk : k ∈ l) :
    a ∈ l.dropWhile (fun x => decide (x ≠ k)) ↔ a ∈ l ∧ k ≤ a := by
  induction l with
  | nil => simp at hk
  | cons b l ih =>
    obtain ⟨hb, hl⟩ := List.pairwise_cons.mp h
    by_cases hbk : b = k
    · subst hbk
      rw [List.dropWhile_cons_of_neg (by simp)]
      refine ⟨fun ha => ⟨ha, ?_⟩, fun ha => ha.1⟩
      rcases List.mem_cons.mp ha with rfl | ha
      · exact le_rfl
      · exact le_of_lt (hb a ha)
    · have hkl : k ∈ l := (List.mem_cons.mp hk).resolve_left (Ne.symm hbk)
      rw [List.dropWhile_cons_of_pos (by simpa using hbk), ih hl hkl]
      refine ⟨fun ha => ⟨List.mem_cons_of_mem _ ha.1, ha.2⟩, fun ha => ⟨?_, ha.2⟩⟩
      rcases List.mem_cons.mp ha.1 with rfl | hmem
      · exact absurd (hb k hkl) (not_lt.mpr ha.2)
      · exact hmem

end Isekai.Lib.OrderedMap
