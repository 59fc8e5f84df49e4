import Mathlib.Data.List.Basic

/-!
# Postconditions of computations that may abort

`Ensures E Q x` says what the computation `x` may do: return a value that meets `Q`, or abort
with an error that meets `E`. The rules below follow the shape of monadic code.
-/

namespace Isekai.Lib

variable {ε α β σ : Type} {ι : Type*} {E E' : ε → Prop} {Q Q' : α → Prop} {x : Except ε α}
  {f : β → Except ε α}

lemma exists_of_bind_eq_ok {x : Except ε β} {a : α} (h : x >>= f = .ok a) :
    ∃ b, x = .ok b ∧ f b = .ok a := by
  cases x with
  | ok b => exact ⟨b, rfl, h⟩
  | error e => cases h

lemma exists_ok_of_any {P : α → Prop} [DecidablePred P]
    (h : x.toOption.any (fun a => decide (P a)) = true) : ∃ a, x = .ok a ∧ P a := by
  cases x with
  | ok a => exact ⟨a, rfl, of_decide_eq_true h⟩
  | error e => cases h

def Ensures (E : ε → Prop) (Q : α → Prop) : Except ε α → Prop
  | .ok a => Q a
  | .error e => E e

namespace Ensures

@[simp] lemma ok_iff {a : α} : Ensures E Q (.ok a) ↔ Q a := Iff.rfl

@[simp] lemma pure_iff {a : α} : Ensures E Q (pure a) ↔ Q a := Iff.rfl

@[simp] lemma throw_iff {e : ε} : Ensures E Q (throw e) ↔ E e := Iff.rfl

lemma fail {e : ε} (h : E e) : Ensures E Q (.error e) := h

lemma ok_bind {b : β} : ((Except.ok b : Except ε β) >>= f) = f b := rfl

lemma bind {x : Except ε β} {P : β → Prop} (hx : Ensures E P x)
    (hf : ∀ b, P b → Ensures E Q (f b)) :
    Ensures E Q (x >>= f) := by
  cases x with
  | ok b => exact hf b hx
  | error e => exact hx

lemma discard_bind {x : Except ε β} {y : Unit → Except ε α} {P : β → Prop} (hx : Ensures E P x)
    (hy : ∀ b, P b → Ensures E Q (y ())) : Ensures E Q (discard x >>= y) := by
  cases x with
  | ok b => exact hy b hx
  | error e => exact hx

lemma mono (h : Ensures E Q x) (hE : ∀ e, E e → E' e) (hQ : ∀ a, Q a → Q' a) : Ensures E' Q' x := by
  cases x with
  | ok a => exact hQ a h
  | error e => exact hE e h

lemma imp (h : Ensures E Q x) (hQ : ∀ a, Q a → Q' a) : Ensures E Q' x :=
  h.mono (fun _ he => he) hQ

lemma and (h : Ensures E Q x) (h' : Ensures E' Q' x) : Ensures E (fun a => Q a ∧ Q' a) x := by
  cases x with
  | ok a => exact ⟨h, h'⟩
  | error e => exact h

lemma ite {c : Prop} [Decidable c] {x y : Except ε α} (hx : c → Ensures E Q x)
    (hy : ¬c → Ensures E Q y) : Ensures E Q (if c then x else y) := by
  split
  · exact hx ‹_›
  · exact hy ‹_›

lemma of_ok {a : α} (h : Ensures E Q x) (hx : x = .ok a) : Q a := by
  subst hx
  exact h

lemma of_error {e : ε} (h : Ensures E Q x) (hx : x = .error e) : E e := by
  subst hx
  exact h

lemma of_forall (hQ : ∀ a, x = .ok a → Q a) (hE : ∀ e, x = .error e → E e) : Ensures E Q x := by
  cases x with
  | ok a => exact hQ a rfl
  | error e => exact hE e rfl

lemma mapError {ε' : Type} {F : ε' → Prop} {f : ε → ε'} (h : Ensures (fun e => F (f e)) Q x) :
    Ensures F Q (x.mapError f) := by
  cases x with
  | ok a => exact h
  | error e => exact h

/-- The loop rule: an invariant indexed by the elements already visited. -/
lemma foldlM {I : List ι → σ → Prop} {f : σ → ι → Except ε σ} (l : List ι) {s : σ}
    (step : ∀ done i rest s, l = done ++ i :: rest → I done s → Ensures E (I (done ++ [i])) (f s i))
    (init : I [] s) : Ensures E (I l) (l.foldlM f s) := by
  suffices h : ∀ done rest s, l = done ++ rest → I done s → Ensures E (I l) (rest.foldlM f s) from
    h [] l s rfl init
  intro done rest
  induction rest generalizing done with
  | nil =>
    intro s hl hs
    simpa [hl] using hs
  | cons i rest ih =>
    intro s hl hs
    refine (step done i rest s hl hs).bind fun s' hs' => ?_
    exact ih (done ++ [i]) s' (by simp [hl]) hs'

/-- The loop rule for a counter that runs from `0` below `n`. -/
lemma foldlM_range {I : Nat → σ → Prop} {f : σ → Nat → Except ε σ} (n : Nat) {s : σ}
    (step : ∀ k s, k < n → I k s → Ensures E (I (k + 1)) (f s k))
    (init : I 0 s) : Ensures E (I n) ((List.range n).foldlM f s) := by
  have h := foldlM (E := E) (I := fun done s => I done.length s) (f := f) (s := s) (List.range n)
    (fun done i rest s hl hs => by
      have hlen : done.length + (rest.length + 1) = n := by
        simpa using (congrArg List.length hl).symm
      have hi : i = done.length := by
        have hget := congrArg (fun l => l[done.length]?) hl
        simpa [List.getElem?_append_right, List.getElem?_range (show done.length < n by omega),
          eq_comm] using hget
      subst hi
      simpa using step done.length s (by omega) hs) init
  simpa using h

end Ensures

/-! ## Two computations side by side -/

/-- Where `x` returns, `y` returns too, and the values are related. -/
def Follows {δ : Type} (E : ε → Prop) (R : α → β → Prop) (x : Except ε α) (y : Except δ β) : Prop :=
  Ensures E (fun a => ∃ b, y = .ok b ∧ R a b) x

namespace Follows

variable {δ τ : Type} {R : α → β → Prop} {y : Except δ β}

lemma bind {α' β' : Type} {R' : α' → β' → Prop} {f : α → Except ε α'} {g : β → Except δ β'}
    (h : Follows E R x y) (hf : ∀ a b, R a b → Follows E R' (f a) (g b)) :
    Follows E R' (x >>= f) (y >>= g) := by
  refine Ensures.bind h ?_
  rintro a ⟨b, rfl, hab⟩
  exact hf a b hab

lemma foldlM {S : σ → τ → Prop} {f : σ → ι → Except ε σ} {g : τ → ι → Except δ τ}
    (step : ∀ i s t, S s t → Follows E S (f s i) (g t i)) (l : List ι) {s : σ} {t : τ}
    (h : S s t) : Follows E S (l.foldlM f s) (l.foldlM g t) := by
  induction l generalizing s t with
  | nil => exact ⟨t, rfl, h⟩
  | cons i l ih => exact (step i s t h).bind fun _ _ h' => ih h'

end Follows

end Isekai.Lib
