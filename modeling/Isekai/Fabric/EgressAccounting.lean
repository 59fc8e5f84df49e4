import Isekai.Fabric.IngressAccounting
import Mathlib.Algebra.BigOperators.Group.Finset.Piecewise
import Mathlib.Algebra.Order.BigOperators.Group.Finset

/-!
# Egress accounting

The free cells, the occupancies of the ports and those of the queues count the same packets, which
were enqueued and are not dequeued yet.
-/

namespace Isekai.Fabric

open Lib

structure EgressCells (n q : Nat) where
  free : Nat
  port : Fin n → Nat
  queue : Fin n → Fin q → Nat

namespace EgressCells

variable {n q : Nat} {v v' : EgressCells n q} {port : Fin n} {priority : Fin q} {cells pool : Nat}

/-- A queue takes `cells` cells of the egress pool. -/
structure Occupies (v v' : EgressCells n q) (port : Fin n) (priority : Fin q) (cells : Nat) :
    Prop where
  free : v'.free + cells = v.free
  ports : ∀ port', v'.port port' = v.port port' + if port' = port then cells else 0
  queues : ∀ port' priority', v'.queue port' priority' =
    v.queue port' priority' + if port' = port ∧ priority' = priority then cells else 0

/-- The counters agree with each other and with the cells of the queued packets. -/
structure Accounts (v : EgressCells n q) (pool : Nat) (queued : Fin n → Fin q → Nat) : Prop where
  pool : v.free + ∑ port, v.port port = pool
  port : ∀ port, v.port port = ∑ priority, v.queue port priority
  queue : v.queue = queued

lemma Occupies.accounts_iff (h : v.Occupies v' port priority cells)
    {queued queued' : Fin n → Fin q → Nat}
    (hqueued : ∀ port' priority', queued' port' priority' =
      queued port' priority' + if port' = port ∧ priority' = priority then cells else 0) :
    v.Accounts pool queued ↔ v'.Accounts pool queued' := by
  have hports : ∑ port', v'.port port' = ∑ port', v.port port' + cells := by
    simp [h.ports, Finset.sum_add_distrib]
  have hqueues : ∀ port', ∑ priority', v'.queue port' priority' =
      ∑ priority', v.queue port' priority' + if port' = port then cells else 0 := by
    intro port'
    by_cases heq : port' = port <;> simp [h.queues, Finset.sum_add_distrib, heq]
  have hfree := h.free
  constructor
  · rintro ⟨hpool, hport, hqueue⟩
    refine ⟨by omega, fun port' => ?_, ?_⟩
    · rw [h.ports, hqueues, hport]
    · funext port' priority'
      rw [h.queues, hqueued, hqueue]
  · rintro ⟨hpool, hport, hqueue⟩
    refine ⟨by omega, fun port' => ?_, ?_⟩
    · have hport' := hport port'
      rw [h.ports, hqueues] at hport'
      exact Nat.add_right_cancel hport'
    · funext port' priority'
      have hqueue' := congrFun (congrFun hqueue port') priority'
      rw [h.queues, hqueued] at hqueue'
      exact Nat.add_right_cancel hqueue'

end EgressCells

def MmuFatal.ofEgressRelease : MmuFatal → Bool
  | .wrongPortEgressCounting | .wrongQueueEgressCounting => true
  | _ => false

namespace Mmu

variable {n q : Nat} {m m' : Mmu n q} {c : MmuConfig n q} {port : Fin n} {priority : Fin q}
  {cells : Nat}

def egress (m : Mmu n q) : EgressCells n q where
  free := m.egressPoolFreeCells
  port := m.portEgressOccupancy
  queue port priority := (m.queue port priority).egressOccupancy

lemma egress_setQueue {counters : QueueCounters} (ingressPoolFreeCells : Nat)
    (hcounters : counters.egressOccupancy = (m.queue port priority).egressOccupancy) :
    ({ m.setQueue port priority counters with ingressPoolFreeCells } : Mmu n q).egress =
      m.egress := by
  have hqueue : ∀ port' priority', ((m.setQueue port priority counters).queue port'
      priority').egressOccupancy = (m.queue port' priority').egressOccupancy := by
    intro port' priority'
    rw [queue_setQueue]
    split
    · rename_i heq
      rw [heq.1, heq.2, hcounters]
    · rfl
  simp only [egress, hqueue]
  rfl

lemma receivedData_egress (m : Mmu n q) (packetSize : Nat) :
    Ensures (fun e => e.ofEgressRelease = false) (fun r => r.1.egress = m.egress)
      (m.receivedData c port packetSize priority) := by
  refine .ite (fun _ => rfl) fun _ => .ite (fun _ => .ite (fun _ => .ite (fun _ => rfl) fun _ => ?_)
    fun _ => .ite (fun _ => ?_) fun _ => .ite (fun _ => rfl) fun _ => ?_) fun _ =>
    .ite (fun _ => ?_) fun _ => ?_
  all_goals exact egress_setQueue _ rfl

lemma requestEnqueue_egress (m : Mmu n q) (wred : Bool) (packet : Packet n q) :
    Ensures (fun e => e.ofEgressRelease = false)
      (fun r => (r.2.2 = true → getPacketOccupancy r.2.1 = getPacketOccupancy packet ∧
          m.egress.Occupies r.1.egress port priority (getPacketOccupancy packet)) ∧
        (r.2.2 = false → r.1 = m ∧ r.2.1 = packet))
      (m.requestEnqueue c port priority wred packet) := by
  refine .ite (fun _ => ?_) fun hfree => .ite (fun _ => ?_) fun _ => .ite (fun _ => ?_) fun _ => ?_
  · exact .ite (fun _ => rfl) fun _ => ⟨nofun, fun _ => ⟨rfl, rfl⟩⟩
  · exact .ite (fun _ => rfl) fun _ => ⟨nofun, fun _ => ⟨rfl, rfl⟩⟩
  · exact .ite (fun _ => rfl) fun _ => ⟨nofun, fun _ => ⟨rfl, rfl⟩⟩
  · refine ⟨fun _ => ⟨?_, Nat.sub_add_cancel (Nat.not_lt.mp hfree), fun port' => ?_,
      fun port' priority' => ?_⟩, nofun⟩
    · exact (marked_spec rfl).2
    · by_cases h : port' = port
      · subst h
        simp [egress]
      · simp [egress, h]
    · simp only [egress, queue_setQueue]
      split
      · rename_i h
        rw [h.1, h.2]
      · rfl

lemma egressAccountingRelease_egress (hport : cells ≤ m.egress.port port)
    (hqueue : cells ≤ m.egress.queue port priority) :
    Ensures (fun e => e.ofEgressRelease = false)
      (fun m' => m'.egress.Occupies m.egress port priority cells)
      (m.egressAccountingRelease port priority cells) := by
  refine .ite (fun h => absurd hport (Nat.not_le.mpr h)) fun _ =>
    .ite (fun h => absurd hqueue (Nat.not_le.mpr h)) fun _ => ?_
  refine ⟨rfl, fun port' => ?_, fun port' priority' => ?_⟩
  · by_cases h : port' = port
    · subst h
      simp only [egress, Function.update_self, if_true]
      exact (Nat.sub_add_cancel hport).symm
    · simp [egress, h]
  · simp only [egress, queue_setQueue]
    split
    · rename_i h
      rw [h.1, h.2]
      exact (Nat.sub_add_cancel hqueue).symm
    · rfl

lemma ingressAccountingRelease_egress (m : Mmu n q) (packet : Packet n q) :
    Ensures (fun e => e.ofEgressRelease = false) (fun r => r.1.egress = m.egress)
      (m.ingressAccountingRelease packet) := by
  unfold ingressAccountingRelease
  split
  · rfl
  · refine .ite (fun _ => rfl) fun _ => .ite (fun _ => rfl) fun _ => .ite (fun _ => rfl) fun _ =>
      .ite (fun _ => rfl) fun _ => ?_
    exact egress_setQueue _ rfl

lemma disablePfcSending_egress (m : Mmu n q) (port : Fin n) (priority : Fin q) :
    (m.disablePfcSending c port priority).1.egress = m.egress := by
  unfold disablePfcSending
  dsimp only
  split
  · exact egress_setQueue m.ingressPoolFreeCells rfl
  · rfl

lemma dequeuedPacket_egress (wred : Bool) {packet : Packet n q}
    (hport : getPacketOccupancy packet ≤ m.egress.port port)
    (hqueue : getPacketOccupancy packet ≤ m.egress.queue port priority) :
    Ensures (fun e => e.ofEgressRelease = false)
      (fun r => r.1.egress.Occupies m.egress port priority (getPacketOccupancy packet))
      (m.dequeuedPacket c port priority wred packet) := by
  unfold dequeuedPacket
  generalize hmarked : (if (c.cosConfig port priority).ecnMarkingStage = .dequeueMark then
    performEcnMarking c port priority wred packet else packet) = marked
  simp only [(marked_spec hmarked).2]
  refine .ite (fun _ => ?_) fun _ => ?_
  · split
    · rfl
    · rename_i tag _
      refine (m.ingressAccountingRelease_egress marked).bind ?_
      rintro ⟨m₁, packet'⟩ hm₁
      have hm₂ := (disablePfcSending_egress (c := c) m₁ tag.portId tag.priority).trans hm₁
      rw [← hm₂] at hport hqueue ⊢
      exact (egressAccountingRelease_egress hport hqueue).bind fun m₃ hm₃ => hm₃
  · exact (egressAccountingRelease_egress hport hqueue).bind fun m₃ hm₃ => hm₃

end Mmu

def SharedBuffer.queued {n q : Nat} (s : SharedBuffer n q) (port : Fin n)
    (priority : Fin q) : Nat :=
  (s.inside.map fun p => if p.2 = some (port, priority) then getPacketOccupancy p.1 else 0).sum

namespace SharedBuffer

variable {n q : Nat} {c : MmuConfig n q} {s : SharedBuffer n q}

lemma queued_eraseIdx (s : SharedBuffer n q) (mmu : Mmu n q) {index : Nat}
    {p : Packet n q × Option (Fin n × Fin q)} (hget : s.inside[index]? = some p) (port : Fin n)
    (priority : Fin q) : s.queued port priority =
      queued { mmu, inside := s.inside.eraseIdx index } port priority +
        if p.2 = some (port, priority) then getPacketOccupancy p.1 else 0 := by
  obtain ⟨hlt, rfl⟩ := List.getElem?_eq_some_iff.mp hget
  rw [queued, ← ((List.getElem_cons_eraseIdx_perm hlt).map _).sum_eq, List.map_cons, List.sum_cons,
    Nat.add_comm]
  rfl

def EgressAccounted (c : MmuConfig n q) (s : SharedBuffer n q) : Prop :=
  s.mmu.egress.Accounts c.egressServicePoolSize s.queued

lemma EgressAccounted.receive (h : s.EgressAccounted c) (port : Fin n) (packet : Packet n q)
    (priority : Fin q) : Ensures (fun e => e.ofEgressRelease = false) (EgressAccounted c)
      (s.next c (.receive port packet priority)) := by
  refine (s.mmu.receivedData_egress _).bind ?_
  rintro ⟨mmu, memoryOccupancy, _⟩ (hmmu : mmu.egress = s.mmu.egress)
  have hqueued : ∀ packet', queued { mmu, inside := s.inside ++ [(packet', none)] } = s.queued := by
    intro packet'
    funext port' priority'
    simp [queued]
  refine .ite (fun _ => ?_) fun _ => ?_
  · show EgressCells.Accounts mmu.egress _ s.queued
    rw [hmmu]
    exact h
  · show EgressCells.Accounts mmu.egress _ (queued _)
    rw [hmmu, hqueued]
    exact h

lemma EgressAccounted.enqueue (h : s.EgressAccounted c) (index : Nat) (port : Fin n)
    (priority : Fin q) (wred : Bool) : Ensures (fun e => e.ofEgressRelease = false)
    (EgressAccounted c)
      (s.next c (.enqueue index port priority wred)) := by
  simp only [next]
  split
  · rename_i packet hget
    refine (s.mmu.requestEnqueue_egress wred packet).bind ?_
    rintro ⟨mmu, packet', enqueued⟩ ⟨hyes, hno⟩
    have herase := s.queued_eraseIdx mmu hget
    refine .ite (fun htrue => ?_) fun hfalse => ?_
    · obtain ⟨hsize, hoccupies⟩ := hyes htrue
      refine (hoccupies.accounts_iff fun port' priority' => ?_).mp h
      obtain ⟨hlt, -⟩ := List.getElem?_eq_some_iff.mp hget
      rw [herase, queued, ((List.set_perm_cons_eraseIdx hlt _).map _).sum_eq, List.map_cons,
        List.sum_cons, Nat.add_comm]
      simp [queued, hsize, eq_comm]
    · obtain ⟨rfl, -⟩ := hno (Bool.eq_false_iff.mpr hfalse)
      have hqueued : queued { s with inside := s.inside.eraseIdx index } = s.queued := by
        funext port' priority'
        rw [herase]
        rfl
      show EgressCells.Accounts s.mmu.egress _ (queued _)
      rw [hqueued]
      exact h
  · exact h

lemma EgressAccounted.dequeue (h : s.EgressAccounted c) (index : Nat) (wred : Bool) :
    Ensures (fun e => e.ofEgressRelease = false) (EgressAccounted c)
      (s.next c (.dequeue index wred)) := by
  simp only [next]
  split
  · rename_i packet port priority hget
    have hqueue : getPacketOccupancy packet ≤ s.mmu.egress.queue port priority := by
      rw [h.queue, s.queued_eraseIdx s.mmu hget, if_pos rfl]
      exact Nat.le_add_left ..
    have hport : getPacketOccupancy packet ≤ s.mmu.egress.port port := by
      rw [h.port]
      exact hqueue.trans (Finset.single_le_sum (fun _ _ => Nat.zero_le _)
        (Finset.mem_univ priority))
    refine (Mmu.dequeuedPacket_egress wred hport hqueue).bind ?_
    rintro ⟨mmu, packet', xon⟩ hoccupies
    refine (hoccupies.accounts_iff fun port' priority' => ?_).mpr h
    rw [s.queued_eraseIdx mmu hget]
    simp [eq_comm]
  · exact h

/-- In every run the free cells and the occupancies of the ports make up the pool, those of the
queues make up that of their port, and a queue occupies the cells of its packets. A refused packet
changes nothing, and no `CHECK` of these counters fails. -/
theorem egress_accounting (hs : c.system.Reachable (fun _ _ => True) s) :
    s.mmu.egressPoolFreeCells + ∑ port, s.mmu.portEgressOccupancy port = c.egressServicePoolSize ∧
      (∀ port, s.mmu.portEgressOccupancy port =
        ∑ priority, (s.mmu.queue port priority).egressOccupancy) ∧
      (∀ port priority, (s.mmu.queue port priority).egressOccupancy = s.queued port priority) ∧
      (∀ port priority wred packet r, s.mmu.requestEnqueue c port priority wred packet = .ok r →
        r.2.2 = false → r.1 = s.mmu ∧ r.2.1 = packet) ∧
      ∀ l e, c.system.next s l = .error e → e.ofEgressRelease = false := by
  have hnext : ∀ (s : SharedBuffer n q) l, s.EgressAccounted c →
      Ensures (fun e => e.ofEgressRelease = false) (EgressAccounted c) (s.next c l) := by
    intro s l h
    cases l with
    | receive port packet priority => exact h.receive port packet priority
    | enqueue index port priority wred => exact h.enqueue index port priority wred
    | dequeue index wred => exact h.dequeue index wred
  have h : s.EgressAccounted c := by
    refine hs.invariant (E := fun e => e.ofEgressRelease = false) ?_ fun s l h _ _ => hnext s l h
    rintro s rfl
    exact ⟨by simp [Mmu.egress, MmuConfig.initial], by simp [Mmu.egress, MmuConfig.initial], rfl⟩
  refine ⟨h.pool, h.port, fun port priority => congrFun (congrFun h.queue port) priority, ?_, ?_⟩
  · intro port priority wred packet r hr
    exact ((s.mmu.requestEnqueue_egress wred packet).of_ok hr).2
  · intro l e he
    exact (hnext s l h).of_error he

end SharedBuffer

def tenCellsConfig : MmuConfig 1 1 :=
  { fiveCellsConfig with supportPfc := false, egressServicePoolSize := 10 }

def refusedRun : List (BufferLabel 1 1) :=
  [.receive 0 { id := 1, bitLength := 8000 } 0, .receive 0 { id := 2, bitLength := 8000 } 0,
    .enqueue 0 0 0 false, .enqueue 1 0 0 false]

theorem egress_accounting_refused : ∃ s, tenCellsConfig.system.Reachable (fun _ _ => True) s ∧
    s.inside.length = 1 ∧ s.mmu.egressPoolFreeCells + s.mmu.portEgressOccupancy 0 = 10 ∧
      s.queued 0 0 = 4 := by
  obtain ⟨s, hs, hlength, hqueue⟩ := TransitionSystem.Reachable.exists_of_run
    (T := tenCellsConfig.system) (C := fun _ _ => True)
    (P := fun s => s.inside.length = 1 ∧ (s.mmu.queue 0 0).egressOccupancy = 4)
    (s := { mmu := tenCellsConfig.initial }) refusedRun rfl (by decide +kernel)
  obtain ⟨hpool, -, hqueued, -⟩ := SharedBuffer.egress_accounting hs
  exact ⟨s, hs, hlength, hpool, (hqueued 0 0).symm.trans hqueue⟩

end Isekai.Fabric
