import Isekai.Lib.Outcome

/-!
# Transition systems whose steps may abort

A system has initial states, labels that its environment may choose in a state, and a step function
that may abort. `Reachable C` restricts the runs to those whose steps all meet the condition `C`.
-/

namespace Isekai.Lib

/-- A system whose steps may fail. -/
structure TransitionSystem (σ Λ ε : Type) where
  init : σ → Prop
  allowed : σ → Λ → Prop
  next : σ → Λ → Except ε σ

namespace TransitionSystem

variable {σ Λ ε : Type} (T : TransitionSystem σ Λ ε)

inductive Reachable (C : σ → Λ → Prop) : σ → Prop where
  | init {s : σ} : T.init s → Reachable C s
  | step {s s' : σ} {l : Λ} : Reachable C s → T.allowed s l → C s l → T.next s l = .ok s' →
      Reachable C s'

variable {T} {C : σ → Λ → Prop}

/-- An invariant that holds initially and that every allowed step keeps holds in every reachable
state. -/
theorem Reachable.invariant {I : σ → Prop} {E : ε → Prop} (init : ∀ s, T.init s → I s)
    (step : ∀ s l, I s → T.allowed s l → C s l → Ensures E I (T.next s l))
    {s : σ} (h : T.Reachable C s) : I s := by
  induction h with
  | init hs => exact init _ hs
  | step _ hallowed hC hnext ih => exact (step _ _ ih hallowed hC).of_ok hnext

/-- The same for an invariant that relies on others, of which nothing is asked when a step
aborts. -/
theorem Reachable.invariant_of_ok {I : σ → Prop} (init : ∀ s, T.init s → I s)
    (step : ∀ s l s', T.Reachable C s → I s → T.allowed s l → C s l → T.next s l = .ok s' → I s')
    {s : σ} (h : T.Reachable C s) : I s := by
  induction h with
  | init hs => exact init _ hs
  | step hs hallowed hC hnext ih => exact step _ _ _ hs ih hallowed hC hnext

theorem Reachable.mono {C' : σ → Λ → Prop} (hC : ∀ s l, C s l → C' s l) {s : σ}
    (h : T.Reachable C s) : T.Reachable C' s := by
  induction h with
  | init hs => exact .init hs
  | step _ hallowed hCs hnext ih => exact .step ih hallowed (hC _ _ hCs) hnext

def aborts [DecidableEq ε] (T : TransitionSystem σ Λ ε) (s : σ) (l : Λ) (e : ε) : Bool :=
  match T.next s l with
  | .ok _ => false
  | .error e' => e' = e

lemma next_of_aborts [DecidableEq ε] {s : σ} {l : Λ} {e : ε} (h : T.aborts s l e = true) :
    T.next s l = .error e := by
  unfold aborts at h
  split at h
  · cases h
  · rw [‹T.next s l = _›, of_decide_eq_true h]

/-- The state after a list of labels, if every step is allowed, meets the condition and returns. -/
def run (T : TransitionSystem σ Λ ε) (C : σ → Λ → Prop) [∀ s l, Decidable (T.allowed s l)]
    [∀ s l, Decidable (C s l)] : σ → List Λ → Option σ
  | s, [] => some s
  | s, l :: ls =>
    if T.allowed s l ∧ C s l then
      match T.next s l with
      | .ok s' => run T C s' ls
      | .error _ => none
    else none

variable [∀ s l, Decidable (T.allowed s l)] [∀ s l, Decidable (C s l)]

theorem Reachable.of_run {s s' : σ} (ls : List Λ) (hs : T.Reachable C s)
    (h : T.run C s ls = some s') : T.Reachable C s' := by
  induction ls generalizing s with
  | nil =>
    cases h
    exact hs
  | cons l ls ih =>
    simp only [run] at h
    split at h
    · rename_i hl
      split at h
      · exact ih (.step hs hl.1 hl.2 ‹_›) h
      · cases h
    · cases h

/-- A run whose last state passes a test. -/
theorem Reachable.exists_of_run {s : σ} {P : σ → Prop} [DecidablePred P] (ls : List Λ)
    (hs : T.init s) (h : (T.run C s ls).any (fun s' => decide (P s')) = true) :
    ∃ s', T.Reachable C s' ∧ P s' := by
  obtain ⟨s', hrun, hP⟩ := (Option.any_eq_true_iff_get _ _).mp h |> fun ⟨h₁, h₂⟩ =>
    (⟨_, Option.some_get h₁ |>.symm, h₂⟩ : ∃ s', T.run C s ls = some s' ∧ decide (P s') = true)
  exact ⟨s', .of_run ls (.init hs) hrun, of_decide_eq_true hP⟩

end TransitionSystem

end Isekai.Lib
