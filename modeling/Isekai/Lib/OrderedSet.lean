import Mathlib.Data.List.Basic
import Mathlib.Data.List.Nodup
import Mathlib.Data.List.Perm.Basic

/-!
# Ordered sets kept as lists

A set ordered by a comparator, as a balanced-tree container offers it: two elements that the
comparator does not separate count as the same element. The comparator of a container may fail
to be an order on all values of its type, so the lemmas only use that equivalent elements are
the ones with one key.
-/

namespace Isekai.Lib.OrderedSet

variable {α κ : Type*} (lt : α → α → Bool)

def equiv (x y : α) : Bool := !lt x y && !lt y x

def contains (x : α) (l : List α) : Bool := l.any (equiv lt x)

def insert (x : α) : List α → List α
  | [] => [x]
  | y :: l => if lt x y then x :: y :: l else if lt y x then y :: insert x l else y :: l

def erase (x : α) (l : List α) : List α := l.eraseP (equiv lt x)

variable {lt} {l : List α} {x : α}

lemma erase_eq_erase [DecidableEq α] (h : ∀ y ∈ l, equiv lt x y = true ↔ y = x) :
    erase lt x l = l.erase x := by
  induction l with
  | nil => rfl
  | cons y l ih =>
    have hy := h y (by simp)
    have ih' := ih fun z hz => h z (by simp [hz])
    by_cases heq : y = x
    · subst heq
      rw [List.erase_cons_head, erase, List.eraseP_cons_of_pos (hy.mpr rfl)]
    · rw [List.erase_cons_tail (by simpa using heq), erase,
        List.eraseP_cons_of_neg (fun hxy => heq (hy.mp hxy)), ← ih', erase]

section Key

variable {key : α → κ} (hkey : ∀ x y, equiv lt x y = true ↔ key x = key y)

include hkey

lemma contains_iff : contains lt x l = true ↔ key x ∈ l.map key := by
  simp only [contains, List.any_eq_true, List.mem_map, hkey]
  exact exists_congr fun y => and_congr_right fun _ => eq_comm

lemma contains_eq_false_iff : contains lt x l = false ↔ key x ∉ l.map key := by
  rw [← Bool.not_eq_true, contains_iff hkey]

lemma insert_perm (hx : key x ∉ l.map key) : (insert lt x l).Perm (x :: l) := by
  induction l with
  | nil => exact List.Perm.refl _
  | cons y l ih =>
    rw [List.map_cons, List.mem_cons, not_or] at hx
    have hne : equiv lt x y = false := by
      rw [← Bool.not_eq_true, hkey]
      exact hx.1
    simp only [insert]
    split
    · exact List.Perm.refl _
    · rename_i hxy
      have hyx : lt y x = true := by simpa [equiv, hxy] using hne
      rw [if_pos hyx]
      exact ((ih hx.2).cons y).trans (List.Perm.swap x y l)

lemma erase_perm [DecidableEq α] (hx : x ∈ l) (hl : (l.map key).Nodup) :
    (x :: erase lt x l).Perm l := by
  have herase : erase lt x l = l.erase x := erase_eq_erase fun y hy => by
    rw [hkey]
    exact ⟨fun h => (List.inj_on_of_nodup_map hl hx hy h).symm, fun h => h ▸ rfl⟩
  rw [herase]
  exact (List.perm_cons_erase hx).symm

end Key

end Isekai.Lib.OrderedSet
