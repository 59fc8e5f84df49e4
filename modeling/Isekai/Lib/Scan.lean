import Mathlib.Data.List.Basic
import Mathlib.Data.List.Pairwise

/-!
# Scans that may stop early

A scan walks over a list in order and decides for every element whether to take it, to skip it or
to stop. `select` is the list of the elements taken.
-/

namespace Isekai.Lib.Scan

variable {α : Type*}

inductive Verdict where
  | stop | skip | take
  deriving DecidableEq, Repr

def select (verdict : α → Verdict) : List α → List α
  | [] => []
  | x :: l =>
    match verdict x with
    | .stop => []
    | .skip => select verdict l
    | .take => x :: select verdict l

lemma select_sublist (verdict : α → Verdict) (l : List α) : (select verdict l).Sublist l := by
  induction l with
  | nil => exact List.Sublist.slnil
  | cons x l ih =>
    rw [select]
    split
    · exact List.nil_sublist _
    · exact ih.cons x
    · exact ih.cons_cons x

/-- In a list ordered by `r`, an element is selected if its verdict is to take it and the scan does
not stop at an element before it. -/
lemma mem_select_iff {verdict : α → Verdict} {r : α → α → Prop} [Std.Asymm r] {l : List α}
    (hl : l.Pairwise r) {x : α} :
    x ∈ select verdict l ↔
      x ∈ l ∧ verdict x = .take ∧ ∀ y ∈ l, r y x → verdict y ≠ .stop := by
  induction l with
  | nil => simp [select]
  | cons a l ih =>
    rw [List.pairwise_cons] at hl
    have hself : ¬r a a := fun h => Std.Asymm.asymm a a h h
    have hhead : (∀ y ∈ a :: l, r y a → verdict y ≠ .stop) := by
      intro y hy hya
      rcases List.mem_cons.mp hy with rfl | hy
      · exact absurd hya hself
      · exact absurd hya (Std.Asymm.asymm a y (hl.1 y hy))
    have htail (hx : x ∈ l) : (∀ y ∈ a :: l, r y x → verdict y ≠ .stop) ↔
        verdict a ≠ .stop ∧ ∀ y ∈ l, r y x → verdict y ≠ .stop := by
      rw [List.forall_mem_cons]
      exact and_congr_left fun _ => ⟨fun h => h (hl.1 x hx), fun h _ => h⟩
    rw [select]
    split
    · rename_i hstop
      simp only [List.not_mem_nil, false_iff, not_and]
      intro hx htake
      rcases List.mem_cons.mp hx with rfl | hx
      · simp [hstop] at htake
      · rw [htail hx]
        exact fun h => h.1 hstop
    · rename_i hskip
      rw [ih hl.2]
      constructor
      · rintro ⟨hx, htake, hbefore⟩
        exact ⟨List.mem_cons_of_mem a hx, htake, (htail hx).mpr ⟨by simp [hskip], hbefore⟩⟩
      · rintro ⟨hx, htake, hbefore⟩
        rcases List.mem_cons.mp hx with rfl | hx
        · simp [hskip] at htake
        · exact ⟨hx, htake, ((htail hx).mp hbefore).2⟩
    · rename_i htake
      rw [List.mem_cons, ih hl.2]
      constructor
      · rintro (rfl | ⟨hx, hx', hbefore⟩)
        · exact ⟨List.mem_cons_self, htake, hhead⟩
        · exact ⟨List.mem_cons_of_mem a hx, hx', (htail hx).mpr ⟨by simp [htake], hbefore⟩⟩
      · rintro ⟨hx, hx', hbefore⟩
        rcases List.mem_cons.mp hx with rfl | hx
        · exact .inl rfl
        · exact .inr ⟨hx, hx', ((htail hx).mp hbefore).2⟩

end Isekai.Lib.Scan
