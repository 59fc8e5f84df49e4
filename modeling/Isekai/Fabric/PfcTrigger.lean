import Isekai.Fabric.IngressAccounting

/-!
# The PFC trigger of a queue

PFC that is triggered for an ingress queue is switched off only when a packet of this queue is
dequeued. Packets that the routing pipeline deletes are never dequeued.
-/

namespace Isekai.Fabric

open Lib TransitionSystem

def Packet.cameFrom {n q : Nat} (packet : Packet n q) (port : Fin n) (priority : Fin q) : Bool :=
  packet.ingressTag.any fun tag => tag.portId = port ∧ tag.priority = priority

def SharedBuffer.holds {n q : Nat} (s : SharedBuffer n q) (port : Fin n)
    (priority : Fin q) : Bool :=
  s.inside.any fun p => p.1.cameFrom port priority

/-- The steps of the unit, and the exit of `RoutePacket`: a packet at the TTL limit or without a
route is deleted, and the unit is not told. -/
inductive SwitchLabel (n q : Nat) where
  | unit (l : BufferLabel n q)
  | deletePacket (index : Nat)

def SharedBuffer.withoutPacket {n q : Nat} (s : SharedBuffer n q) (index : Nat) :
    SharedBuffer n q :=
  { s with inside := s.inside.eraseIdx index }

def MmuConfig.switch {n q : Nat} (c : MmuConfig n q) :
    TransitionSystem (SharedBuffer n q) (SwitchLabel n q) MmuFatal where
  init s := s = { mmu := c.initial }
  allowed s
    | .unit l => s.allowed l
    | .deletePacket index => (s.inside[index]?.any fun p => p.2.isNone) = true
  next s
    | .unit l => s.next c l
    | .deletePacket index => .ok (s.withoutPacket index)

instance {n q : Nat} (c : MmuConfig n q) (s : SharedBuffer n q) :
    (l : SwitchLabel n q) → Decidable (c.switch.allowed s l)
  | .unit l => inferInstanceAs (Decidable (s.allowed l))
  | .deletePacket index =>
    inferInstanceAs (Decidable ((s.inside[index]?.any fun p => p.2.isNone) = true))

namespace Mmu

variable {n q : Nat} {m m' : Mmu n q} {c : MmuConfig n q} {port : Fin n} {priority : Fin q}

/-- What a packet does to the PFC state at its arrival. -/
structure Admission (c : MmuConfig n q) (m m' : Mmu n q) (port : Fin n) (packetSize : Nat)
    (priority : Fin q) (drop : Bool) : Prop where
  other : ∀ port' priority', ¬ (port' = port ∧ priority' = priority) →
    m'.queue port' priority' = m.queue port' priority'
  triggered : (m'.queue port priority).pfcSendingTriggered =
    ((m.queue port priority).pfcSendingTriggered || m.triggersPfc c port packetSize priority)
  full : drop = true → (c.cosConfig port priority).pfcHeadroom <
    (m.queue port priority).pfcHeadroomOccupancy + packetSize

lemma Admission.of_setQueue {packetSize : Nat} {drop : Bool} {counters : QueueCounters}
    (hqueue : m'.queue = (m.setQueue port priority counters).queue)
    (htriggered : counters.pfcSendingTriggered =
      ((m.queue port priority).pfcSendingTriggered || m.triggersPfc c port packetSize priority))
    (hfull : drop = true → (c.cosConfig port priority).pfcHeadroom <
      (m.queue port priority).pfcHeadroomOccupancy + packetSize) :
    m.Admission c m' port packetSize priority drop where
  other := by
    intro port' priority' hne
    rw [hqueue, queue_setQueue, if_neg hne]
  triggered := by rw [hqueue, queue_setQueue, if_pos ⟨rfl, rfl⟩, htriggered]
  full := hfull

lemma receivedData_admission (hpfc : c.supportPfc = true) {packetSize : Nat}
    {memoryOccupancy : IngressMemoryOccupancy} {triggers : Bool}
    (h : m.receivedData c port packetSize priority = .ok (m', memoryOccupancy, triggers)) :
    m.Admission c m' port packetSize priority memoryOccupancy.drop := by
  unfold receivedData at h
  rw [hpfc] at h
  simp only [Bool.not_true, Bool.false_eq_true, if_false] at h
  split at h
  · split at h
    · split at h
      · cases h
      · cases h
        exact Admission.of_setQueue rfl rfl nofun
    · split at h
      · cases h
        exact Admission.of_setQueue rfl rfl nofun
      · split at h
        · cases h
        · cases h
          exact Admission.of_setQueue rfl rfl nofun
  · split at h
    · rename_i hfull
      cases h
      exact Admission.of_setQueue rfl rfl fun _ => hfull
    · cases h
      exact Admission.of_setQueue rfl rfl nofun

/-- What a packet does to the PFC state when it leaves. -/
structure Departure (c : MmuConfig n q) (m m' : Mmu n q) (packet : Packet n q)
    (tag : IngressPacketTag n q) : Prop where
  other : ∀ port priority, ¬ (port = tag.portId ∧ priority = tag.priority) →
    (m'.queue port priority).ingressOccupancy = (m.queue port priority).ingressOccupancy ∧
    (m'.queue port priority).pfcSendingTriggered = (m.queue port priority).pfcSendingTriggered
  occupancy : (m.queue tag.portId tag.priority).ingressOccupancy =
    (m'.queue tag.portId tag.priority).ingressOccupancy + getPacketOccupancy packet
  triggered : (m'.queue tag.portId tag.priority).pfcSendingTriggered = true →
    (m.queue tag.portId tag.priority).pfcSendingTriggered = true ∧
      ¬ c.round (m'.queue tag.portId tag.priority).ingressOccupancy <
        c.pfcTriggerLimit (m.ingressPoolFreeCells + tag.sharedPoolOccupancy) tag.portId tag.priority

lemma ingressAccountingRelease_queue {packet packet' : Packet n q} {tag : IngressPacketTag n q}
    (htag : packet.ingressTag = some tag)
    (h : m.ingressAccountingRelease packet = .ok (m', packet')) :
    (∀ port priority, (m.queue port priority).ingressOccupancy =
      (m'.queue port priority).ingressOccupancy +
        if port = tag.portId ∧ priority = tag.priority then getPacketOccupancy packet else 0) ∧
    (∀ port priority, (m'.queue port priority).pfcSendingTriggered =
      (m.queue port priority).pfcSendingTriggered) ∧
    m'.ingressPoolFreeCells = m.ingressPoolFreeCells + tag.sharedPoolOccupancy := by
  simp only [ingressAccountingRelease, htag] at h
  split at h
  · cases h
  split at h
  · cases h
  split at h
  · cases h
  split at h
  · cases h
  · rename_i hoccupancy
    cases h
    refine ⟨fun port priority => ?_, fun port priority => ?_, rfl⟩
    · simp only [queue_setQueue]
      split
      · rename_i heq
        obtain ⟨rfl, rfl⟩ := heq
        exact (Nat.sub_add_cancel (Nat.not_lt.mp hoccupancy)).symm
      · rfl
    · simp only [queue_setQueue]
      split
      · rename_i heq
        obtain ⟨rfl, rfl⟩ := heq
        rfl
      · rfl

lemma egressAccountingRelease_queue {packetOccupancy : Nat}
    (h : m.egressAccountingRelease port priority packetOccupancy = .ok m') (port' : Fin n)
    (priority' : Fin q) :
    (m'.queue port' priority').ingressOccupancy = (m.queue port' priority').ingressOccupancy ∧
    (m'.queue port' priority').pfcSendingTriggered =
      (m.queue port' priority').pfcSendingTriggered := by
  unfold egressAccountingRelease at h
  dsimp only at h
  split at h
  · cases h
  · split at h
    · cases h
    · cases h
      simp only [queue_setQueue]
      split
      · rename_i heq
        obtain ⟨rfl, rfl⟩ := heq
        exact ⟨rfl, rfl⟩
      · exact ⟨rfl, rfl⟩

lemma disablePfcSending_queue (m : Mmu n q) (c : MmuConfig n q) (port : Fin n) (priority : Fin q)
    (port' : Fin n) (priority' : Fin q) :
    ((m.disablePfcSending c port priority).1.queue port' priority').ingressOccupancy =
      (m.queue port' priority').ingressOccupancy ∧
    (¬ (port' = port ∧ priority' = priority) →
      ((m.disablePfcSending c port priority).1.queue port' priority').pfcSendingTriggered =
        (m.queue port' priority').pfcSendingTriggered) := by
  unfold disablePfcSending
  dsimp only
  split
  · simp only [queue_setQueue]
    split
    · rename_i heq
      obtain ⟨rfl, rfl⟩ := heq
      exact ⟨rfl, fun hne => absurd ⟨rfl, rfl⟩ hne⟩
    · exact ⟨rfl, fun _ => rfl⟩
  · exact ⟨rfl, fun _ => rfl⟩

lemma disablePfcSending_triggered (m : Mmu n q) (c : MmuConfig n q) (port : Fin n)
    (priority : Fin q)
    (h : ((m.disablePfcSending c port priority).1.queue port priority).pfcSendingTriggered = true) :
    (m.queue port priority).pfcSendingTriggered = true ∧
      ¬ c.round (m.queue port priority).ingressOccupancy <
        c.pfcTriggerLimit m.ingressPoolFreeCells port priority := by
  unfold disablePfcSending at h
  dsimp only at h
  split at h
  · rw [queue_setQueue, if_pos ⟨rfl, rfl⟩] at h
    cases h
  · rename_i hstays
    exact ⟨h, fun hbelow => hstays ⟨h, hbelow⟩⟩

lemma dequeuedPacket_departure (hpfc : c.supportPfc = true) {wred : Bool}
    {packet packet' : Packet n q} {xon : Option (Fin n × Fin q)} {tag : IngressPacketTag n q}
    (htag : packet.ingressTag = some tag)
    (h : m.dequeuedPacket c port priority wred packet = .ok (m', packet', xon)) :
    m.Departure c m' packet tag := by
  unfold dequeuedPacket at h
  generalize hmarked : (if (c.cosConfig port priority).ecnMarkingStage = .dequeueMark then
    performEcnMarking c port priority wred packet else packet) = marked at h
  obtain ⟨htag', hoccupancy⟩ := marked_spec hmarked
  rw [htag] at htag'
  simp only [hpfc, if_true, htag'] at h
  obtain ⟨⟨m₁, packet₁⟩, hrelease, h⟩ := exists_of_bind_eq_ok h
  obtain ⟨m₂, hegress, h⟩ := exists_of_bind_eq_ok h
  cases h
  obtain ⟨hingress, htriggered, hpool⟩ := ingressAccountingRelease_queue htag' hrelease
  have hdisable := disablePfcSending_queue m₁ c tag.portId tag.priority
  have hegress := egressAccountingRelease_queue hegress
  refine ⟨fun port' priority' hne => ⟨?_, ?_⟩, ?_, fun htrue => ?_⟩
  · rw [(hegress port' priority').1, (hdisable port' priority').1, hingress, if_neg hne,
      Nat.add_zero]
  · rw [(hegress port' priority').2, (hdisable port' priority').2 hne, htriggered]
  · rw [hingress, if_pos ⟨rfl, rfl⟩, (hegress _ _).1, (hdisable _ _).1, hoccupancy]
  · rw [(hegress _ _).2] at htrue
    obtain ⟨hon, hlimit⟩ := disablePfcSending_triggered m₁ c tag.portId tag.priority htrue
    rw [htriggered] at hon
    rw [hpool] at hlimit
    rw [(hegress _ _).1, (hdisable _ _).1]
    exact ⟨hon, hlimit⟩

end Mmu

namespace SharedBuffer

variable {n q : Nat} {c : MmuConfig n q} {s s' : SharedBuffer n q}
  {priority : Fin q} {port : Fin n} {packet : Packet n q}

/-- The packet that triggers PFC for a queue without packets fits its headroom. The last packet of a
queue for which PFC is triggered is dequeued, and what the counter of the queue holds without it is
then below the limit of the queue. -/
def clearsPfc (c : MmuConfig n q) (s : SharedBuffer n q) : SwitchLabel n q → Prop
  | .unit (.receive port packet priority) =>
    s.mmu.triggersPfc c port (getPacketOccupancy packet) priority = true →
    s.holds port priority = false →
    (s.mmu.queue port priority).pfcHeadroomOccupancy + getPacketOccupancy packet ≤
      (c.cosConfig port priority).pfcHeadroom
  | .unit (.enqueue ..) => True
  | .unit (.dequeue index _) => ∀ p ∈ s.inside[index]?, ∀ tag ∈ p.1.ingressTag,
    (s.mmu.queue tag.portId tag.priority).pfcSendingTriggered = true →
    (s.withoutPacket index).holds tag.portId tag.priority = false →
    c.round ((s.mmu.queue tag.portId tag.priority).ingressOccupancy -
        getPacketOccupancy p.1 : Nat) <
      c.pfcTriggerLimit (s.mmu.ingressPoolFreeCells + tag.sharedPoolOccupancy)
        tag.portId tag.priority
  | .deletePacket index => ∀ p ∈ s.inside[index]?, ∀ tag ∈ p.1.ingressTag,
    (s.mmu.queue tag.portId tag.priority).pfcSendingTriggered = true →
    (s.withoutPacket index).holds tag.portId tag.priority = true

instance (c : MmuConfig n q) (s : SharedBuffer n q) :
    (l : SwitchLabel n q) → Decidable (clearsPfc c s l)
  | .unit (.enqueue ..) => instDecidableTrue
  | .unit (.receive port packet priority) => by
    unfold clearsPfc
    infer_instance
  | .unit (.dequeue index _) => by
    unfold clearsPfc
    infer_instance
  | .deletePacket index => by
    unfold clearsPfc
    infer_instance

/-- A queue for which PFC is triggered holds a packet. -/
structure Clearable (s : SharedBuffer n q) : Prop where
  tagged : ∀ p ∈ s.inside, p.1.ingressTag.isSome
  triggered : ∀ port priority, (s.mmu.queue port priority).pfcSendingTriggered = true →
    s.holds port priority = true

lemma cameFrom_of_ingressTag {tag : IngressPacketTag n q} (htag : packet.ingressTag = some tag)
    (port : Fin n) (priority : Fin q) :
    packet.cameFrom port priority = decide (port = tag.portId ∧ priority = tag.priority) := by
  rw [Packet.cameFrom, htag]
  simp [eq_comm]

lemma holds_eq_true_iff :
    s.holds port priority = true ↔ ∃ p ∈ s.inside, p.1.cameFrom port priority = true :=
  List.any_eq_true

/-- A packet that leaves is the last of no queue but its own. -/
lemma holds_withoutPacket {index : Nat} {p : Packet n q × Option (Fin n × Fin q)}
    (hget : s.inside[index]? = some p) {tag : IngressPacketTag n q}
    (htag : p.1.ingressTag = some tag)
    (hne : ¬(port = tag.portId ∧ priority = tag.priority)) (h : s.holds port priority = true) :
    (s.withoutPacket index).holds port priority = true := by
  obtain ⟨p', hp', hfrom⟩ := holds_eq_true_iff.mp h
  obtain ⟨hlt, hindex⟩ := List.getElem?_eq_some_iff.mp hget
  rw [← (List.getElem_cons_eraseIdx_perm hlt).mem_iff, hindex, List.mem_cons] at hp'
  rcases hp' with rfl | hp'
  · rw [cameFrom_of_ingressTag htag] at hfrom
    exact absurd (of_decide_eq_true hfrom) hne
  · exact holds_eq_true_iff.mpr ⟨p', hp', hfrom⟩

lemma Clearable.receive (hpfc : c.supportPfc = true) (h : s.Clearable)
    (hclears : clearsPfc c s (.unit (.receive port packet priority)))
    (hnext : s.next c (.receive port packet priority) = .ok s') : s'.Clearable := by
  obtain ⟨⟨mmu, memoryOccupancy, triggers⟩, hreceived, hnext⟩ := exists_of_bind_eq_ok hnext
  have hadmission := Mmu.receivedData_admission hpfc hreceived
  simp only at hnext
  split at hnext
  · -- the packet is dropped: if it has triggered PFC, another one of its queue is inside
    rename_i hdrop
    cases hnext
    refine ⟨h.tagged, fun port' priority' htriggered => ?_⟩
    by_cases heq : port' = port ∧ priority' = priority
    · obtain ⟨rfl, rfl⟩ := heq
      rw [hadmission.triggered, Bool.or_eq_true] at htriggered
      rcases htriggered with hbefore | htriggers
      · exact h.triggered port' priority' hbefore
      · by_contra hempty
        have hfits := hclears htriggers (Bool.not_eq_true _ ▸ hempty)
        exact Nat.not_lt.mpr hfits (hadmission.full hdrop)
    · rw [hadmission.other port' priority' heq] at htriggered
      exact h.triggered port' priority' htriggered
  · cases hnext
    have htag : (addIngressTag packet port priority memoryOccupancy).ingressTag =
      some (memoryOccupancy.tag port priority) := rfl
    refine ⟨fun p hp => ?_, fun port' priority' htriggered => ?_⟩
    · rcases List.mem_append.mp hp with hp | hp
      · exact h.tagged p hp
      · rw [List.mem_singleton.mp hp, htag]
        rfl
    · rw [holds_eq_true_iff]
      by_cases heq : port' = port ∧ priority' = priority
      · refine ⟨_, List.mem_append_right _ (List.mem_singleton_self _), ?_⟩
        rw [cameFrom_of_ingressTag htag]
        exact decide_eq_true heq
      · rw [hadmission.other port' priority' heq] at htriggered
        obtain ⟨p, hp, hfrom⟩ := holds_eq_true_iff.mp (h.triggered port' priority' htriggered)
        exact ⟨p, List.mem_append_left _ hp, hfrom⟩

lemma requestEnqueue_triggered {m m' : Mmu n q} {wred : Bool} {packet packet' : Packet n q}
    {enqueued : Bool}
    (h : m.requestEnqueue c port priority wred packet = .ok (m', packet', enqueued)) (port' : Fin n)
    (priority' : Fin q) : (m'.queue port' priority').pfcSendingTriggered =
      (m.queue port' priority').pfcSendingTriggered := by
  unfold Mmu.requestEnqueue at h
  dsimp only at h
  split at h
  · split at h <;> cases h
    rfl
  split at h
  · split at h <;> cases h
    rfl
  split at h
  · split at h <;> cases h
    rfl
  · cases h
    simp only [Mmu.queue_setQueue]
    split
    · rename_i heq
      obtain ⟨rfl, rfl⟩ := heq
      rfl
    · rfl

lemma Clearable.enqueue (hpfc : c.supportPfc = true) (h : s.Clearable) {index : Nat} {wred : Bool}
    (hnext : s.next c (.enqueue index port priority wred) = .ok s') :
    s'.Clearable := by
  simp only [next] at hnext
  split at hnext
  · rename_i packet hget
    obtain ⟨⟨mmu, packet', enqueued⟩, hrequest, hnext⟩ := exists_of_bind_eq_ok hnext
    obtain ⟨-, htag, -, henqueued⟩ :=
      (Mmu.requestEnqueue_ensures hpfc wred packet).of_ok hrequest
    rw [henqueued, if_pos rfl] at hnext
    cases hnext
    have hfrom : ∀ port priority, packet'.cameFrom port priority =
      packet.cameFrom port priority := by
      intro port priority
      rw [Packet.cameFrom, Packet.cameFrom, htag]
    refine ⟨fun p hp => ?_, fun port' priority' htriggered => ?_⟩
    · rcases List.mem_or_eq_of_mem_set hp with hp | rfl
      · exact h.tagged p hp
      · rw [htag]
        exact h.tagged _ (List.mem_of_getElem? hget)
    · rw [requestEnqueue_triggered hrequest] at htriggered
      obtain ⟨p, hp, hp'⟩ := holds_eq_true_iff.mp (h.triggered port' priority' htriggered)
      obtain ⟨i, hi⟩ := List.mem_iff_getElem?.mp hp
      obtain ⟨hlt, -⟩ := List.getElem?_eq_some_iff.mp hget
      rw [holds_eq_true_iff]
      by_cases heq : index = i
      · subst heq
        cases hget.symm.trans hi
        exact ⟨_, List.mem_set hlt _, (hfrom port' priority').trans hp'⟩
      · refine ⟨p, List.mem_iff_getElem?.mpr ⟨i, ?_⟩, hp'⟩
        exact (List.getElem?_set_ne heq).trans hi
  · cases hnext
    exact h

lemma Clearable.dequeue (hpfc : c.supportPfc = true) (h : s.Clearable) {index : Nat} {wred : Bool}
    (hclears : clearsPfc c s (.unit (.dequeue index wred)))
    (hnext : s.next c (.dequeue index wred) = .ok s') : s'.Clearable := by
  simp only [next] at hnext
  split at hnext
  · rename_i packet port priority hget
    obtain ⟨⟨mmu, packet', xon⟩, hdequeued, hnext⟩ := exists_of_bind_eq_ok hnext
    cases hnext
    obtain ⟨tag, htag⟩ := Option.isSome_iff_exists.mp (h.tagged _ (List.mem_of_getElem? hget))
    have hdeparture := Mmu.dequeuedPacket_departure hpfc htag hdequeued
    refine ⟨fun p hp => h.tagged p (List.mem_of_mem_eraseIdx hp),
      fun port' priority' htriggered => ?_⟩
    by_cases heq : port' = tag.portId ∧ priority' = tag.priority
    · -- if no packet of the queue were left, its occupancy would be below the limit
      obtain ⟨rfl, rfl⟩ := heq
      obtain ⟨hon, hlimit⟩ := hdeparture.triggered htriggered
      by_contra hempty
      have hbelow := hclears _ hget tag htag hon (Bool.not_eq_true _ ▸ hempty)
      rw [hdeparture.occupancy, Nat.add_sub_cancel] at hbelow
      exact hlimit hbelow
    · rw [(hdeparture.other port' priority' heq).2] at htriggered
      exact holds_withoutPacket hget htag heq (h.triggered port' priority' htriggered)
  · cases hnext
    exact h

lemma Clearable.withoutPacket (h : s.Clearable) {index : Nat}
    (hclears : clearsPfc c s (.deletePacket index)) : (s.withoutPacket index).Clearable := by
  refine ⟨fun p hp => h.tagged p (List.mem_of_mem_eraseIdx hp), fun port priority htriggered => ?_⟩
  have hbefore := h.triggered port priority htriggered
  cases hget : s.inside[index]? with
  | none =>
    have hsame : s.withoutPacket index = s := by
      unfold SharedBuffer.withoutPacket
      rw [List.eraseIdx_of_length_le (List.getElem?_eq_none_iff.mp hget)]
    rw [hsame]
    exact hbefore
  | some p =>
    obtain ⟨tag, htag⟩ := Option.isSome_iff_exists.mp (h.tagged _ (List.mem_of_getElem? hget))
    by_cases heq : port = tag.portId ∧ priority = tag.priority
    · obtain ⟨rfl, rfl⟩ := heq
      exact hclears p hget tag htag htriggered
    · exact holds_withoutPacket hget htag heq hbefore

lemma Clearable.next (hpfc : c.supportPfc = true) (h : s.Clearable) {l : SwitchLabel n q}
    (hclears : clearsPfc c s l) (hnext : c.switch.next s l = .ok s') :
    s'.Clearable := by
  match l with
  | .unit (.receive port packet priority) => exact h.receive hpfc hclears hnext
  | .unit (.enqueue index port priority wred) => exact h.enqueue hpfc hnext
  | .unit (.dequeue index wred) => exact h.dequeue hpfc hclears hnext
  | .deletePacket index =>
    cases hnext
    exact h.withoutPacket hclears

lemma initial_clearable : Clearable { mmu := c.initial } where
  tagged := nofun
  triggered := nofun

lemma Clearable.of_reachable (hpfc : c.supportPfc = true)
    (hs : c.switch.Reachable (clearsPfc c) s) : s.Clearable := by
  refine hs.invariant_of_ok (I := Clearable) ?_ ?_
  · intro s hinit
    rw [hinit]
    exact initial_clearable
  · intro s l s' _ h _ hclears hnext
    exact h.next hpfc hclears hnext

lemma dequeue_of_cleared (hpfc : c.supportPfc = true) (h : s.Clearable) {l : SwitchLabel n q}
    (hnext : c.switch.next s l = .ok s')
    (hbefore : (s.mmu.queue port priority).pfcSendingTriggered = true)
    (hafter : (s'.mmu.queue port priority).pfcSendingTriggered = false) :
    ∃ index wred p, l = .unit (.dequeue index wred) ∧ s.inside[index]? = some p ∧
      p.1.cameFrom port priority = true := by
  match l with
  | .deletePacket index =>
    cases hnext
    cases hbefore.symm.trans hafter
  | .unit (.receive port' packet priority') =>
    exfalso
    obtain ⟨⟨mmu, memoryOccupancy, triggers⟩, hreceived, hnext⟩ := exists_of_bind_eq_ok hnext
    have hadmission := Mmu.receivedData_admission hpfc hreceived
    have hmmu : s'.mmu = mmu := by
      simp only at hnext
      split at hnext <;> cases hnext <;> rfl
    rw [hmmu] at hafter
    by_cases heq : port = port' ∧ priority = priority'
    · obtain ⟨rfl, rfl⟩ := heq
      rw [hadmission.triggered, hbefore] at hafter
      cases hafter
    · rw [hadmission.other port priority heq, hbefore] at hafter
      cases hafter
  | .unit (.enqueue index port' priority' wred) =>
    exfalso
    simp only [MmuConfig.switch, SharedBuffer.next] at hnext
    split at hnext
    · obtain ⟨⟨mmu, packet', enqueued⟩, hrequest, hnext⟩ := exists_of_bind_eq_ok hnext
      have hmmu : s'.mmu = mmu := by
        simp only at hnext
        split at hnext <;> cases hnext <;> rfl
      rw [hmmu, requestEnqueue_triggered hrequest, hbefore] at hafter
      cases hafter
    · cases hnext
      rw [hbefore] at hafter
      cases hafter
  | .unit (.dequeue index wred) =>
    simp only [MmuConfig.switch, SharedBuffer.next] at hnext
    split at hnext
    · rename_i packet port' priority' hget
      obtain ⟨⟨mmu, packet', xon⟩, hdequeued, hnext⟩ := exists_of_bind_eq_ok hnext
      cases hnext
      obtain ⟨tag, htag⟩ := Option.isSome_iff_exists.mp (h.tagged _ (List.mem_of_getElem? hget))
      refine ⟨index, wred, _, rfl, hget, ?_⟩
      rw [cameFrom_of_ingressTag htag]
      by_contra hne
      have hother := (Mmu.dequeuedPacket_departure hpfc htag hdequeued).other port priority
        fun heq => hne (decide_eq_true heq)
      rw [hother.2, hbefore] at hafter
      cases hafter
    · cases hnext
      rw [hbefore] at hafter
      cases hafter

end SharedBuffer

section Theorem

variable {n q : Nat} {c : MmuConfig n q} {s : SharedBuffer n q}

/-- PFC is triggered only for queues that have a packet inside, and a step that switches it off
dequeues such a packet. -/
theorem triggered_pfc_has_packet (hpfc : c.supportPfc = true)
    (hs : c.switch.Reachable (SharedBuffer.clearsPfc c) s) {port : Fin n} {priority : Fin q}
    (htriggered : (s.mmu.queue port priority).pfcSendingTriggered = true) :
    (∃ p ∈ s.inside, p.1.cameFrom port priority = true) ∧
    ∀ l s', c.switch.next s l = .ok s' →
      (s'.mmu.queue port priority).pfcSendingTriggered = false →
      ∃ index wred p, l = .unit (.dequeue index wred) ∧ s.inside[index]? = some p ∧
        p.1.cameFrom port priority = true := by
  have h := SharedBuffer.Clearable.of_reachable hpfc hs
  refine ⟨SharedBuffer.holds_eq_true_iff.mp (h.triggered port priority htriggered), ?_⟩
  intro l s' hnext hafter
  exact SharedBuffer.dequeue_of_cleared hpfc h hnext htriggered hafter

end Theorem

def fourCellsConfig : MmuConfig 2 1 where
  supportPfc := true
  pfcXon := true
  ingressServicePoolSize := 4
  egressServicePoolSize := 100
  portEgressAlpha _ := 1
  cosConfig _ _ := { ingressAlpha := 1, egressAlpha := 1, pfcHeadroom := 10 }
  round := id

/-- The second port fills the pool. The packet of the first port that triggers PFC goes to the
headroom, and leaves while the pool is full. -/
def fullPoolRun : List (SwitchLabel 2 1) :=
  [.unit (.receive 1 { id := 0, bitLength := 8192 } 0),
    .unit (.receive 0 { id := 1, bitLength := 2048 } 0), .unit (.enqueue 1 1 0 false),
    .unit (.dequeue 1 false), .unit (.enqueue 0 1 0 false), .unit (.dequeue 0 false)]

/-- The switch is empty and PFC stays triggered. -/
theorem triggered_pfc_without_packets :
    ∃ s, fourCellsConfig.switch.Reachable (fun _ _ => True) s ∧
      (s.mmu.queue 0 0).pfcSendingTriggered = true ∧ s.inside = [] := by
  exact Reachable.exists_of_run
    (T := fourCellsConfig.switch) (C := fun _ _ => True)
    (P := fun s => (s.mmu.queue 0 0).pfcSendingTriggered = true ∧ s.inside = [])
    (s := { mmu := fourCellsConfig.initial }) fullPoolRun rfl (by decide +kernel)

/-- A second packet of the first port is deleted while PFC is triggered for its queue. -/
def triggeredRun : List (SwitchLabel 2 1) :=
  [.unit (.receive 1 { id := 0, bitLength := 8192 } 0),
    .unit (.receive 0 { id := 1, bitLength := 2048 } 0),
    .unit (.receive 0 { id := 2, bitLength := 2048, hopLimit := 0 } 0), .deletePacket 2,
    .unit (.enqueue 0 1 0 false), .unit (.dequeue 0 false)]

theorem triggered_pfc_has_packet_triggered : ∃ s,
    fourCellsConfig.switch.Reachable (SharedBuffer.clearsPfc fourCellsConfig) s ∧
      (s.mmu.queue 0 0).pfcSendingTriggered = true ∧
      ∃ p ∈ s.inside, p.1.cameFrom 0 0 = true := by
  obtain ⟨s, hs, htriggered⟩ := Reachable.exists_of_run
    (T := fourCellsConfig.switch) (C := SharedBuffer.clearsPfc fourCellsConfig)
    (P := fun s => (s.mmu.queue 0 0).pfcSendingTriggered = true)
    (s := { mmu := fourCellsConfig.initial }) triggeredRun rfl (by decide +kernel)
  exact ⟨s, hs, htriggered, (triggered_pfc_has_packet rfl hs htriggered).1⟩

end Isekai.Fabric
