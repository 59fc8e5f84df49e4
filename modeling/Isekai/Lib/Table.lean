import Mathlib.Logic.Function.Basic

/-!
# Tables

Functions of two indices, changed at one entry.
-/

namespace Isekai.Lib

variable {ι κ α : Type} [DecidableEq ι] [DecidableEq κ]

def setAt (f : ι → κ → α) (i : ι) (k : κ) (x : α) : ι → κ → α :=
  Function.update f i (Function.update (f i) k x)

lemma setAt_apply (f : ι → κ → α) (i i' : ι) (k k' : κ) (x : α) :
    setAt f i k x i' k' = if i' = i ∧ k' = k then x else f i' k' := by
  by_cases hi : i' = i
  · subst hi
    by_cases hk : k' = k
    · subst hk
      simp [setAt]
    · simp [setAt, hk]
  · simp [setAt, hi]

@[simp] lemma setAt_self (f : ι → κ → α) (i : ι) (k : κ) (x : α) : setAt f i k x i k = x := by
  rw [setAt_apply, if_pos ⟨rfl, rfl⟩]

lemma setAt_of_ne {f : ι → κ → α} {i i' : ι} {k k' : κ} {x : α} (h : ¬ (i' = i ∧ k' = k)) :
    setAt f i k x i' k' = f i' k' := by
  rw [setAt_apply, if_neg h]

end Isekai.Lib
