import Isekai.Fabric.IngressAccounting

/-!
# Admission to the ingress pool

Any sequence of `ReceivedData`, of ingress releases and of the calls that switch PFC off again.
-/

namespace Isekai.Fabric

open Lib

inductive IngressLabel (n q : Nat) where
  | receivedData (port : Fin n) (packetSize : Nat) (priority : Fin q)
  | ingressAccountingRelease (packet : Packet n q)
  | disablePfcSending (port : Fin n) (priority : Fin q)

variable {n q : Nat}

def MmuConfig.ingressSystem (c : MmuConfig n q) :
    TransitionSystem (Mmu n q) (IngressLabel n q) MmuFatal where
  init m := m = c.initial
  allowed _ _ := True
  next m
    | .receivedData port packetSize priority =>
      (m.receivedData c port packetSize priority).map Prod.fst
    | .ingressAccountingRelease packet => (m.ingressAccountingRelease packet).map Prod.fst
    | .disablePfcSending port priority => .ok (m.disablePfcSending c port priority).1

instance (c : MmuConfig n q) (m : Mmu n q) (l : IngressLabel n q) :
    Decidable (c.ingressSystem.allowed m l) := inferInstanceAs (Decidable True)

namespace Mmu

def WithinLimits (c : MmuConfig n q) (m : Mmu n q) : Prop :=
  ∀ port priority, (m.queue port priority).minimalGuaranteeOccupancy ≤
      (c.cosConfig port priority).ingressMinimalGuarantee ∧
    (m.queue port priority).pfcHeadroomOccupancy ≤ (c.cosConfig port priority).pfcHeadroom

variable {c : MmuConfig n q} {m m' : Mmu n q} {port : Fin n} {priority : Fin q}

lemma WithinLimits.setQueue (h : m.WithinLimits c) {counters : QueueCounters}
    (hqueue : m'.queue = (m.setQueue port priority counters).queue)
    (hguarantee : counters.minimalGuaranteeOccupancy ≤
      (c.cosConfig port priority).ingressMinimalGuarantee)
    (hheadroom : counters.pfcHeadroomOccupancy ≤ (c.cosConfig port priority).pfcHeadroom) :
    m'.WithinLimits c := by
  intro port' priority'
  rw [hqueue, queue_setQueue]
  split
  · rename_i heq
    obtain ⟨rfl, rfl⟩ := heq
    exact ⟨hguarantee, hheadroom⟩
  · exact h port' priority'

/-- A call returns. It refuses the packet only if PFC is triggered and the headroom has no room. -/
lemma WithinLimits.receivedData (h : m.WithinLimits c) (port : Fin n) (packetSize : Nat)
    (priority : Fin q) : ∃ m' memoryOccupancy triggers,
      m.receivedData c port packetSize priority = .ok (m', memoryOccupancy, triggers) ∧
      m'.WithinLimits c ∧ (memoryOccupancy.drop = true →
        (m'.queue port priority).pfcSendingTriggered = true ∧
        (c.cosConfig port priority).pfcHeadroom <
          (m.queue port priority).pfcHeadroomOccupancy + packetSize) := by
  obtain ⟨hguarantee, hheadroom⟩ := h port priority
  have hkept {P : Prop} : false = true → P := (Bool.noConfusion ·)
  unfold Mmu.receivedData
  split
  · exact ⟨_, _, _, rfl, h, hkept⟩
  · dsimp only
    split
    · rename_i huntriggered
      -- an untriggered queue has passed the test of the pool
      have hpool : packetSize ≤ m.ingressPoolFreeCells := by
        simp only [triggersPfc, Bool.not_eq_true', Bool.or_eq_false_iff, Bool.and_eq_false_iff,
          decide_eq_false_iff_not, Nat.not_lt] at huntriggered
        obtain ⟨hold, hold' | ⟨-, hpool⟩⟩ := huntriggered
        · simp [hold] at hold'
        · exact hpool
      split
      · rw [if_neg (Nat.not_lt.mpr hpool)]
        exact ⟨_, _, _, rfl, h.setQueue rfl hguarantee hheadroom, hkept⟩
      · split
        · rename_i hroom
          exact ⟨_, _, _, rfl, h.setQueue rfl hroom hheadroom, hkept⟩
        · rw [if_neg (by omega)]
          exact ⟨_, _, _, rfl, h.setQueue rfl (Nat.le_refl _) hheadroom, hkept⟩
    · rename_i htriggered
      split
      · rename_i hfull
        refine ⟨_, _, _, rfl, h.setQueue rfl hguarantee hheadroom, fun _ => ⟨?_, hfull⟩⟩
        rw [queue_setQueue, if_pos ⟨rfl, rfl⟩]
        simpa only [Bool.not_eq_true', Bool.not_eq_false] using htriggered
      · rename_i hroom
        exact ⟨_, _, _, rfl, h.setQueue rfl hguarantee (Nat.le_of_not_lt hroom), hkept⟩

lemma WithinLimits.ingressAccountingRelease (h : m.WithinLimits c) (packet : Packet n q) :
    Ensures (fun _ => True) (fun r => r.1.WithinLimits c) (m.ingressAccountingRelease packet) := by
  unfold Mmu.ingressAccountingRelease
  split
  · trivial
  · rename_i tag _
    obtain ⟨hguarantee, hheadroom⟩ := h tag.portId tag.priority
    refine .ite (fun _ => trivial) fun _ => .ite (fun _ => trivial) fun _ =>
      .ite (fun _ => trivial) fun _ => .ite (fun _ => trivial) fun _ => ?_
    exact h.setQueue rfl (Nat.le_trans (Nat.sub_le ..) hguarantee)
      (Nat.le_trans (Nat.sub_le ..) hheadroom)

lemma withinLimits_of_reachable (hm : c.ingressSystem.Reachable (fun _ _ => True) m) :
    m.WithinLimits c := by
  refine hm.invariant (E := fun _ => True) ?_ fun m l h _ _ => ?_
  · rintro m rfl port priority
    exact ⟨Nat.zero_le _, Nat.zero_le _⟩
  · cases l with
    | receivedData port packetSize priority =>
      obtain ⟨m', memoryOccupancy, triggers, hreceived, hm', -⟩ :=
        h.receivedData port packetSize priority
      simp only [MmuConfig.ingressSystem, hreceived]
      exact hm'
    | ingressAccountingRelease packet =>
      have hrelease := h.ingressAccountingRelease packet
      simp only [MmuConfig.ingressSystem]
      cases hresult : m.ingressAccountingRelease packet with
      | error e => trivial
      | ok r =>
        rw [hresult] at hrelease
        exact hrelease
    | disablePfcSending port priority =>
      simp only [MmuConfig.ingressSystem, disablePfcSending]
      split
      · exact h.setQueue rfl (h port priority).1 (h port priority).2
      · exact h

/-- The occupancies of the guarantees and of the headrooms are within their limits, and
`ReceivedData` never aborts. It refuses a packet only if PFC is triggered for its queue and the
headroom cannot hold it. -/
theorem ingress_admission (hm : c.ingressSystem.Reachable (fun _ _ => True) m) :
    m.WithinLimits c ∧ ∀ port packetSize priority, ∃ m' memoryOccupancy triggers,
      m.receivedData c port packetSize priority = .ok (m', memoryOccupancy, triggers) ∧
      (memoryOccupancy.drop = true → (m'.queue port priority).pfcSendingTriggered = true ∧
        (c.cosConfig port priority).pfcHeadroom <
          (m.queue port priority).pfcHeadroomOccupancy + packetSize) := by
  have h := withinLimits_of_reachable hm
  refine ⟨h, fun port packetSize priority => ?_⟩
  obtain ⟨m', memoryOccupancy, triggers, hreceived, -, hdrop⟩ :=
    h.receivedData port packetSize priority
  exact ⟨m', memoryOccupancy, triggers, hreceived, hdrop⟩

theorem ingress_admission_split : ∃ m, fiveCellsConfig.ingressSystem.Reachable (fun _ _ => True) m ∧
    (m.queue 0 0).minimalGuaranteeOccupancy = 5 ∧ m.WithinLimits fiveCellsConfig := by
  obtain ⟨m, hm, hguarantee⟩ := TransitionSystem.Reachable.exists_of_run
    (T := fiveCellsConfig.ingressSystem) (C := fun _ _ => True)
    (P := fun m => (m.queue 0 0).minimalGuaranteeOccupancy = 5)
    [.receivedData 0 3 0, .receivedData 0 4 0] rfl (by decide +kernel)
  exact ⟨m, hm, hguarantee, (ingress_admission hm).1⟩

end Mmu

end Isekai.Fabric
