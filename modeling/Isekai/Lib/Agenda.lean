import Mathlib.Data.List.Perm.Basic

/-!
# Scheduled events

The events of a simulation with the times for which they are scheduled. Time never passes an event
that is pending; events of the same time happen in any order.
-/

namespace Isekai.Lib

/-- The time and the events to come. -/
structure Agenda (α : Type) where
  now : Nat := 0
  pending : List (Nat × α) := []

namespace Agenda

variable {α β : Type} (a : Agenda α)

def schedule (delay : Nat) (event : α) : Agenda α :=
  { a with pending := a.pending ++ [(a.now + delay, event)] }

def Reaches (time : Nat) : Prop := a.now ≤ time ∧ ∀ p ∈ a.pending, time ≤ p.1

instance (time : Nat) : Decidable (a.Reaches time) := inferInstanceAs (Decidable (_ ∧ _))

def advance (time : Nat) : Agenda α := { a with now := time }

def IsNext (index : Nat) : Prop := ∃ p ∈ a.pending[index]?, a.Reaches p.1

instance (index : Nat) : Decidable (a.IsNext index) :=
  inferInstanceAs (Decidable (∃ p ∈ a.pending[index]?, a.Reaches p.1))

def fire (time index : Nat) : Agenda α := { now := time, pending := a.pending.eraseIdx index }

def select (f : α → Option β) : List (Nat × β) :=
  a.pending.filterMap fun p => (f p.2).map fun b => (p.1, b)

def count (P : α → Bool) : Nat := a.pending.countP fun p => P p.2

def dueBy (time : Nat) : Nat := a.pending.countP (·.1 ≤ time)

variable {a} {f : α → Option β} {P : α → Bool} {time index : Nat} {p : Nat × α}

lemma select_schedule (delay : Nat) (event : α) :
    (a.schedule delay event).select f =
      a.select f ++ ((f event).map fun b => (a.now + delay, b)).toList := by
  unfold select schedule
  cases hf : f event with
  | none => simp [hf]
  | some b => simp [hf]

lemma select_schedule_of_none {event : α} (h : f event = none) (delay : Nat) :
    (a.schedule delay event).select f = a.select f := by
  rw [select_schedule, h]
  exact List.append_nil _

lemma select_fire_perm (h : a.pending[index]? = some p) :
    (((f p.2).map fun b => (p.1, b)).toList ++ (a.fire p.1 index).select f).Perm (a.select f) := by
  obtain ⟨hlt, rfl⟩ := List.getElem?_eq_some_iff.mp h
  have hperm := (List.getElem_cons_eraseIdx_perm hlt).filterMap
    fun p : Nat × α => (f p.2).map fun b => (p.1, b)
  cases hf : f a.pending[index].2 with
  | none => simpa [select, fire, hf] using hperm
  | some b => simpa [select, fire, hf] using hperm

lemma select_fire_of_none (h : a.pending[index]? = some p) (hp : f p.2 = none) (time : Nat) :
    (a.fire time index).select f = a.select f := by
  obtain ⟨now, pending⟩ := a
  unfold select fire
  induction pending generalizing index with
  | nil => rfl
  | cons first rest ih =>
    cases index with
    | zero =>
      cases h
      rw [List.eraseIdx_cons_zero, List.filterMap_cons_none]
      rw [hp]
      rfl
    | succ index =>
      rw [List.eraseIdx_cons_succ, List.filterMap_cons, List.filterMap_cons, ih h]

@[simp] lemma count_schedule (delay : Nat) (event : α) :
    (a.schedule delay event).count P = a.count P + if P event then 1 else 0 := by
  simp [count, schedule, List.countP_append, List.countP_singleton]

lemma count_fire (h : a.pending[index]? = some p) (time : Nat) :
    (a.fire time index).count P + (if P p.2 then 1 else 0) = a.count P := by
  obtain ⟨hlt, rfl⟩ := List.getElem?_eq_some_iff.mp h
  unfold count fire
  rw [← List.Perm.countP_eq _ (List.getElem_cons_eraseIdx_perm hlt), List.countP_cons]

lemma mem_select_of_pending {b : β} (h : a.pending[index]? = some p) (hb : f p.2 = some b) :
    (p.1, b) ∈ a.select f :=
  List.mem_filterMap.mpr ⟨p, List.mem_of_getElem? h, by rw [hb]; rfl⟩

lemma pending_perm_fire (h : a.pending[index]? = some p) :
    (p :: (a.fire p.1 index).pending).Perm a.pending := by
  obtain ⟨hlt, rfl⟩ := List.getElem?_eq_some_iff.mp h
  exact List.getElem_cons_eraseIdx_perm hlt

lemma dueBy_fire (h : a.pending[index]? = some p) :
    a.dueBy time = (a.fire p.1 index).dueBy time + if p.1 ≤ time then 1 else 0 := by
  rw [dueBy, ← (pending_perm_fire h).countP_eq, List.countP_cons]
  simp [dueBy]

lemma dueBy_schedule (delay : Nat) (event : α) : (a.schedule delay event).dueBy time =
    a.dueBy time + if a.now + delay ≤ time then 1 else 0 := by
  simp [dueBy, schedule, List.countP_singleton]

lemma forall_mem_schedule {delay : Nat} {event : α} {Q : Nat × α → Prop} :
    (∀ q ∈ (a.schedule delay event).pending, Q q) ↔
      (∀ q ∈ a.pending, Q q) ∧ Q (a.now + delay, event) := by
  simp [schedule, or_imp, forall_and]

lemma Reaches.fire (h : a.Reaches time) : ∀ q ∈ (a.fire time index).pending, time ≤ q.1 :=
  fun q hq => h.2 q (List.mem_of_mem_eraseIdx hq)

end Agenda

end Isekai.Lib
