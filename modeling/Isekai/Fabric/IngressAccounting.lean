import Isekai.Fabric.MemoryManagementUnit
import Mathlib.Data.List.Perm.Basic
import Mathlib.Algebra.Order.BigOperators.Group.List
import Mathlib.Algebra.Order.Group.Nat

/-!
# Ingress accounting

The ingress counters of the unit are the sums of the parts in the tags of the packets inside, as
long as no packet is split between the minimal guarantee and the shared pool.
-/

namespace Isekai.Fabric

open Lib TransitionSystem

/-- The ingress counters of a queue, with the parts of a packet that they count. -/
inductive IngressCounter where
  | minimalGuarantee | headroom | total
  deriving DecidableEq

namespace IngressCounter

def read : IngressCounter → QueueCounters → Nat
  | .minimalGuarantee, counters => counters.minimalGuaranteeOccupancy
  | .headroom, counters => counters.pfcHeadroomOccupancy
  | .total, counters => counters.ingressOccupancy

def part {n q : Nat} : IngressCounter → IngressPacketTag n q → Nat
  | .minimalGuarantee, tag => tag.minimalGuaranteeOccupancy
  | .headroom, tag => tag.headroomOccupancy
  | .total, tag =>
    tag.minimalGuaranteeOccupancy + tag.sharedPoolOccupancy + tag.headroomOccupancy

def partAt {n q : Nat} (counter : IngressCounter) (port : Fin n) (priority : Fin q)
    (tag : IngressPacketTag n q) : Nat :=
  if port = tag.portId ∧ priority = tag.priority then counter.part tag else 0

end IngressCounter

def Mmu.splits {n q : Nat} (m : Mmu n q) (c : MmuConfig n q) (port : Fin n) (packetSize : Nat)
    (priority : Fin q) : Prop :=
  let counters := m.queue port priority
  let guarantee := (c.cosConfig port priority).ingressMinimalGuarantee
  counters.pfcSendingTriggered = false ∧ m.triggersPfc c port packetSize priority = false ∧
    counters.ingressOccupancy < guarantee ∧
    guarantee < counters.minimalGuaranteeOccupancy + packetSize

instance {n q : Nat} (m : Mmu n q) (c : MmuConfig n q) (port : Fin n) (packetSize : Nat)
    (priority : Fin q) : Decidable (m.splits c port packetSize priority) := by
  unfold Mmu.splits
  infer_instance

def IngressMemoryOccupancy.tag {n q : Nat} (memoryOccupancy : IngressMemoryOccupancy)
    (portId : Fin n) (priority : Fin q) : IngressPacketTag n q where
  portId := portId
  priority := priority
  minimalGuaranteeOccupancy := memoryOccupancy.minimalGuaranteeOccupancy
  sharedPoolOccupancy := memoryOccupancy.sharedPoolOccupancy
  headroomOccupancy := memoryOccupancy.headroomOccupancy

def MmuFatal.ofIngressRelease : MmuFatal → Bool
  | .noIngressTag | .wrongPacketOccupancy | .wrongMinimalGuaranteeCounting
  | .wrongHeadroomCounting | .wrongIngressCounting => true
  | _ => false

lemma IngressCounter.partAt_tag_empty {n q : Nat} (counter : IngressCounter) (port port' : Fin n)
    (priority priority' : Fin q) :
    counter.partAt port' priority' (IngressMemoryOccupancy.tag {} port priority) = 0 := by
  unfold partAt
  split
  · cases counter <;> rfl
  · rfl

namespace Mmu

variable {n q : Nat} {m m' : Mmu n q} {c : MmuConfig n q} {port : Fin n} {priority : Fin q}
  {tag : IngressPacketTag n q} {counters : QueueCounters}

/-- The packet with this tag is in the counters of `m'`, and the others are those of `m`. -/
structure Counts (m m' : Mmu n q) (tag : IngressPacketTag n q) : Prop where
  pool : m'.ingressPoolFreeCells + tag.sharedPoolOccupancy = m.ingressPoolFreeCells
  counter : ∀ (counter : IngressCounter) port priority, counter.read (m'.queue port priority) =
    counter.read (m.queue port priority) + counter.partAt port priority tag

structure SameIngress (m m' : Mmu n q) : Prop where
  pool : m'.ingressPoolFreeCells = m.ingressPoolFreeCells
  counter : ∀ (counter : IngressCounter) port priority,
    counter.read (m'.queue port priority) = counter.read (m.queue port priority)

lemma queue_setQueue (m : Mmu n q) (port : Fin n) (priority : Fin q) (counters : QueueCounters)
    (port' : Fin n) (priority' : Fin q) :
    (m.setQueue port priority counters).queue port' priority' =
      if port' = port ∧ priority' = priority then counters else m.queue port' priority' :=
  setAt_apply ..

lemma counter_setQueue (hqueue : m'.queue = (m.setQueue tag.portId tag.priority counters).queue)
    {R : Nat → Nat → Nat → Prop} (hrefl : ∀ a, R a a 0)
    (hcounters : ∀ counter : IngressCounter, R (counter.read counters)
      (counter.read (m.queue tag.portId tag.priority)) (counter.part tag))
    (counter : IngressCounter) (port : Fin n) (priority : Fin q) :
    R (counter.read (m'.queue port priority)) (counter.read (m.queue port priority))
      (counter.partAt port priority tag) := by
  rw [hqueue, queue_setQueue, IngressCounter.partAt]
  by_cases h : port = tag.portId ∧ priority = tag.priority
  · obtain ⟨rfl, rfl⟩ := h
    rw [if_pos ⟨rfl, rfl⟩, if_pos ⟨rfl, rfl⟩]
    exact hcounters counter
  · rw [if_neg h, if_neg h]
    exact hrefl _

lemma Counts.of_setQueue (hqueue : m'.queue = (m.setQueue tag.portId tag.priority counters).queue)
    (hpool : m'.ingressPoolFreeCells + tag.sharedPoolOccupancy = m.ingressPoolFreeCells)
    (hcounters : ∀ counter : IngressCounter, counter.read counters =
      counter.read (m.queue tag.portId tag.priority) + counter.part tag) : m.Counts m' tag :=
  ⟨hpool, counter_setQueue hqueue (R := fun a b c => a = b + c) (fun _ => rfl) hcounters⟩

lemma SameIngress.of_setQueue (hqueue : m'.queue = (m.setQueue port priority counters).queue)
    (hpool : m'.ingressPoolFreeCells = m.ingressPoolFreeCells)
    (hcounters : ∀ counter : IngressCounter,
      counter.read counters = counter.read (m.queue port priority)) : m.SameIngress m' where
  pool := hpool
  counter := by
    intro counter port' priority'
    rw [hqueue, queue_setQueue]
    by_cases h : port' = port ∧ priority' = priority
    · obtain ⟨rfl, rfl⟩ := h
      rw [if_pos ⟨rfl, rfl⟩]
      exact hcounters counter
    · rw [if_neg h]

/-- What `ReceivedData` does to the ingress counters. -/
structure Received (m m' : Mmu n q) (port : Fin n) (packetSize : Nat) (priority : Fin q)
    (memoryOccupancy : IngressMemoryOccupancy) : Prop where
  counts : m.Counts m' (memoryOccupancy.tag port priority)
  size : memoryOccupancy.drop = false → memoryOccupancy.minimalGuaranteeOccupancy +
    memoryOccupancy.sharedPoolOccupancy + memoryOccupancy.headroomOccupancy = packetSize
  drop : memoryOccupancy.drop = true → memoryOccupancy = {}

lemma receivedData_of_not_splits (hpfc : c.supportPfc = true) {packetSize : Nat}
    (hsplits : ¬ m.splits c port packetSize priority) :
    ∃ m' memoryOccupancy triggers,
      m.receivedData c port packetSize priority = .ok (m', memoryOccupancy, triggers) ∧
      m.Received m' port packetSize priority memoryOccupancy := by
  unfold receivedData
  rw [hpfc]
  simp only [Bool.not_true, Bool.false_eq_true, if_false]
  split
  · rename_i hnotTriggered
    simp only [Bool.not_eq_true', Bool.or_eq_false_iff] at hnotTriggered
    obtain ⟨htriggered, htriggers⟩ := hnotTriggered
    have hfits : packetSize ≤ m.ingressPoolFreeCells := by
      simp only [triggersPfc, htriggered, Bool.not_false, Bool.true_and, Bool.or_eq_false_iff,
        decide_eq_false_iff_not] at htriggers
      omega
    split
    · rw [if_neg (by omega)]
      refine ⟨_, _, _, rfl, ⟨Counts.of_setQueue rfl ?_ ?_, ?_, nofun⟩⟩
      · exact Nat.sub_add_cancel hfits
      · intro counter
        cases counter <;> simp [IngressCounter.read, IngressCounter.part,
          IngressMemoryOccupancy.tag]
      · simp
    · rename_i hbelow
      rw [if_pos]
      · refine ⟨_, _, _, rfl, ⟨Counts.of_setQueue rfl rfl ?_, ?_, nofun⟩⟩
        · intro counter
          cases counter <;> simp [IngressCounter.read, IngressCounter.part,
            IngressMemoryOccupancy.tag]
        · simp
      · by_contra hsplit
        exact hsplits ⟨htriggered, htriggers, by omega, by omega⟩
  · split
    · refine ⟨_, _, _, rfl, ⟨Counts.of_setQueue rfl rfl ?_, nofun, fun _ => rfl⟩⟩
      intro counter
      cases counter <;> rfl
    · refine ⟨_, _, _, rfl, ⟨Counts.of_setQueue rfl rfl ?_, ?_, nofun⟩⟩
      · intro counter
        cases counter <;> simp [IngressCounter.read, IngressCounter.part,
          IngressMemoryOccupancy.tag]
      · simp

lemma marked_spec {stage : Prop} [Decidable stage] {wred : Bool} {packet marked : Packet n q}
    (hmarked : (if stage then performEcnMarking c port priority wred packet else packet) = marked) :
    marked.ingressTag = packet.ingressTag ∧ getPacketOccupancy marked =
      getPacketOccupancy packet := by
  subst hmarked
  unfold performEcnMarking
  split
  · split <;> exact ⟨rfl, rfl⟩
  · exact ⟨rfl, rfl⟩

lemma requestEnqueue_ensures (hpfc : c.supportPfc = true) (wred : Bool) (packet : Packet n q) :
    Ensures (fun e => e.ofIngressRelease = false)
      (fun r => m.SameIngress r.1 ∧ r.2.1.ingressTag = packet.ingressTag ∧
        getPacketOccupancy r.2.1 = getPacketOccupancy packet ∧ r.2.2 = true)
      (m.requestEnqueue c port priority wred packet) := by
  unfold requestEnqueue
  simp only [hpfc, if_true]
  refine .ite (fun _ => rfl) fun _ => .ite (fun _ => rfl) fun _ => .ite (fun _ => rfl) fun _ => ?_
  refine ⟨SameIngress.of_setQueue rfl rfl ?_, (marked_spec rfl).1, (marked_spec rfl).2, rfl⟩
  intro counter
  cases counter <;> rfl

lemma ingressAccountingRelease_of_counted {packet : Packet n q}
    (htag : packet.ingressTag = some tag)
    (hsize : getPacketOccupancy packet = IngressCounter.total.part tag)
    (hcounted : ∀ counter : IngressCounter,
      counter.part tag ≤ counter.read (m.queue tag.portId tag.priority)) :
    ∃ m', m.ingressAccountingRelease packet = .ok (m', { packet with ingressTag := none }) ∧
      m'.Counts m tag := by
  have hminimal := hcounted .minimalGuarantee
  have hheadroom := hcounted .headroom
  have htotal := hcounted .total
  rw [← hsize] at htotal
  have hoccupancy : getPacketOccupancy ({ packet with ingressTag := none } : Packet n q) =
      getPacketOccupancy packet := rfl
  apply Exists.intro
  constructor
  · simp only [ingressAccountingRelease, htag, hoccupancy]
    refine (if_neg (not_not.mpr hsize)).trans ?_
    refine (if_neg (Nat.not_lt.mpr hminimal)).trans ?_
    refine (if_neg (Nat.not_lt.mpr hheadroom)).trans ?_
    exact if_neg (Nat.not_lt.mpr htotal)
  · refine ⟨rfl, counter_setQueue rfl (R := fun a b c => b = a + c) (fun _ => rfl)
      fun counter => ?_⟩
    symm
    cases counter with
    | minimalGuarantee => exact Nat.sub_add_cancel hminimal
    | headroom => exact Nat.sub_add_cancel hheadroom
    | total =>
      rw [← hsize]
      exact Nat.sub_add_cancel htotal

lemma disablePfcSending_sameIngress (m : Mmu n q) (c : MmuConfig n q) (port : Fin n)
    (priority : Fin q) : m.SameIngress (m.disablePfcSending c port priority).1 := by
  unfold disablePfcSending
  dsimp only
  split
  · refine SameIngress.of_setQueue rfl rfl fun counter => ?_
    cases counter <;> rfl
  · exact ⟨rfl, fun _ _ _ => rfl⟩

lemma egressAccountingRelease_ensures (packetOccupancy : Nat) :
    Ensures (fun e => e.ofIngressRelease = false) (fun m' => m.SameIngress m')
      (m.egressAccountingRelease port priority packetOccupancy) := by
  refine .ite (fun _ => rfl) fun _ => .ite (fun _ => rfl) fun _ => ?_
  refine SameIngress.of_setQueue rfl rfl fun counter => ?_
  cases counter <;> rfl

lemma SameIngress.trans {m₁ m₂ : Mmu n q} (h : m.SameIngress m₁) (h' : m₁.SameIngress m₂) :
    m.SameIngress m₂ where
  pool := h'.pool.trans h.pool
  counter counter port priority := (h'.counter counter port priority).trans
    (h.counter counter port priority)

lemma Counts.congr {m₁ : Mmu n q} (h : m'.Counts m tag) (hsame : m'.SameIngress m₁) :
    m₁.Counts m tag where
  pool := by rw [hsame.pool, h.pool]
  counter counter port priority := by
    rw [hsame.counter, h.counter]

lemma dequeuedPacket_ensures (hpfc : c.supportPfc = true) (wred : Bool) {packet : Packet n q}
    (htag : packet.ingressTag = some tag)
    (hsize : getPacketOccupancy packet = IngressCounter.total.part tag)
    (hcounted : ∀ counter : IngressCounter,
      counter.part tag ≤ counter.read (m.queue tag.portId tag.priority)) :
    Ensures (fun e => e.ofIngressRelease = false) (fun r => r.1.Counts m tag)
      (m.dequeuedPacket c port priority wred packet) := by
  unfold dequeuedPacket
  generalize hmarked : (if (c.cosConfig port priority).ecnMarkingStage = .dequeueMark then
    performEcnMarking c port priority wred packet else packet) = marked
  obtain ⟨htag', hsize'⟩ := marked_spec hmarked
  rw [htag] at htag'
  rw [hsize] at hsize'
  obtain ⟨m₁, hm₁, hcounts⟩ := ingressAccountingRelease_of_counted htag' hsize' hcounted
  simp only [hpfc, if_true, htag', hm₁, Ensures.ok_bind]
  refine (egressAccountingRelease_ensures _).bind fun m₂ hsame => ?_
  exact hcounts.congr ((disablePfcSending_sameIngress m₁ c tag.portId tag.priority).trans hsame)

end Mmu

def SharedBuffer.sum {n q : Nat} (s : SharedBuffer n q) (part : Packet n q → Nat) : Nat :=
  (s.inside.map fun p => part p.1).sum

def SharedBuffer.total {n q : Nat} (s : SharedBuffer n q)
    (part : IngressPacketTag n q → Nat) : Nat :=
  s.sum fun packet => packet.ingressTag.elim 0 part

/-- The ingress counters are the sums of the parts of the packets inside. -/
structure SharedBuffer.Accounted {n q : Nat} (c : MmuConfig n q) (s : SharedBuffer n q) : Prop where
  tagged : ∀ p ∈ s.inside, ∃ tag, p.1.ingressTag = some tag ∧
    getPacketOccupancy p.1 = IngressCounter.total.part tag
  pool : s.mmu.ingressPoolFreeCells + s.total IngressPacketTag.sharedPoolOccupancy =
    c.ingressServicePoolSize
  counter : ∀ (counter : IngressCounter) port priority,
    counter.read (s.mmu.queue port priority) = s.total (counter.partAt port priority)

namespace SharedBuffer

variable {n q : Nat} {c : MmuConfig n q} {s : SharedBuffer n q}
  {p : Packet n q × Option (Fin n × Fin q)}

lemma sum_append (part : Packet n q → Nat) (mmu : Mmu n q) (packet : Packet n q)
    (egress : Option (Fin n × Fin q)) :
    sum { mmu, inside := s.inside ++ [(packet, egress)] } part = s.sum part + part packet := by
  simp [sum]

lemma sum_eraseIdx (part : Packet n q → Nat) (mmu : Mmu n q) {index : Nat}
    (hget : s.inside[index]? = some p) :
    s.sum part = sum { mmu, inside := s.inside.eraseIdx index } part + part p.1 := by
  obtain ⟨hlt, rfl⟩ := List.getElem?_eq_some_iff.mp hget
  have hperm := (List.getElem_cons_eraseIdx_perm hlt).map
    (fun p : Packet n q × Option (Fin n × Fin q) => part p.1)
  rw [sum, ← hperm.sum_eq, List.map_cons, List.sum_cons, Nat.add_comm]
  rfl

lemma sum_set (part : Packet n q → Nat) (mmu : Mmu n q) {index : Nat}
    {p p' : Packet n q × Option (Fin n × Fin q)} (hget : s.inside[index]? = some p)
    (hpart : part p'.1 = part p.1) :
    sum { mmu, inside := s.inside.set index p' } part = s.sum part := by
  obtain ⟨hlt, rfl⟩ := List.getElem?_eq_some_iff.mp hget
  have hperm := (List.set_perm_cons_eraseIdx hlt p').map
    (fun p : Packet n q × Option (Fin n × Fin q) => part p.1)
  rw [sum_eraseIdx part mmu hget, sum, hperm.sum_eq, List.map_cons, List.sum_cons, hpart,
    Nat.add_comm]
  rfl

lemma le_sum (part : Packet n q → Nat) (hp : p ∈ s.inside) : part p.1 ≤ s.sum part :=
  List.le_sum_of_mem (List.mem_map_of_mem (f := fun p => part p.1) hp)

def keepsWhole (c : MmuConfig n q) (s : SharedBuffer n q) : BufferLabel n q → Prop
  | .receive port packet priority => ¬ s.mmu.splits c port (getPacketOccupancy packet) priority
  | _ => True

instance (c : MmuConfig n q) (s : SharedBuffer n q) :
    (l : BufferLabel n q) → Decidable (keepsWhole c s l)
  | .receive port packet priority =>
    inferInstanceAs (Decidable (¬ s.mmu.splits c port (getPacketOccupancy packet) priority))
  | .enqueue .. => instDecidableTrue
  | .dequeue .. => instDecidableTrue

lemma Accounted.of_total_eq {s' : SharedBuffer n q} (h : s.Accounted c)
    (hsame : s.mmu.SameIngress s'.mmu) (htotal : ∀ part, s'.total part = s.total part)
    (htagged : ∀ p ∈ s'.inside, ∃ tag, p.1.ingressTag = some tag ∧
      getPacketOccupancy p.1 = IngressCounter.total.part tag) : s'.Accounted c where
  tagged := htagged
  pool := by rw [hsame.pool, htotal, h.pool]
  counter counter port priority := by rw [hsame.counter, htotal, h.counter]

lemma Accounted.receive (hpfc : c.supportPfc = true) (h : s.Accounted c) {port : Fin n}
    {packet : Packet n q} {priority : Fin q}
    (hwhole : ¬ s.mmu.splits c port (getPacketOccupancy packet) priority) :
    Ensures (fun e => e.ofIngressRelease = false) (Accounted c)
      (s.next c (.receive port packet priority)) := by
  obtain ⟨m', memoryOccupancy, triggers, hreceived, hcounts, hsize, hdrop⟩ :=
    Mmu.receivedData_of_not_splits hpfc hwhole
  simp only [next, hreceived, Ensures.ok_bind]
  refine .ite (fun hdropped => ?_) fun hadmitted => ?_
  · rw [hdrop hdropped] at hcounts
    refine h.of_total_eq ⟨hcounts.pool, fun counter port' priority' => ?_⟩ (fun _ => rfl) h.tagged
    have hcounter := hcounts.counter counter port' priority'
    rwa [IngressCounter.partAt_tag_empty, Nat.add_zero] at hcounter
  · have htag : (addIngressTag packet port priority memoryOccupancy).ingressTag =
        some (memoryOccupancy.tag port priority) := rfl
    refine ⟨fun p hp => ?_, ?_, fun counter port' priority' => ?_⟩
    · rcases List.mem_append.mp hp with hp | hp
      · exact h.tagged p hp
      · rw [List.mem_singleton.mp hp]
        exact ⟨_, htag, (hsize (Bool.not_eq_true _ ▸ hadmitted)).symm⟩
    · have hpool : m'.ingressPoolFreeCells + memoryOccupancy.sharedPoolOccupancy =
          s.mmu.ingressPoolFreeCells := hcounts.pool
      rw [← h.pool, ← hpool, total, sum_append, htag, Nat.add_assoc, Nat.add_comm _ (s.total _)]
      rfl
    · rw [total, sum_append, htag, hcounts.counter, h.counter]
      rfl

lemma Accounted.enqueue (hpfc : c.supportPfc = true) (h : s.Accounted c) (index : Nat)
    (port : Fin n) (priority : Fin q) (wred : Bool) :
    Ensures (fun e => e.ofIngressRelease = false) (Accounted c)
      (s.next c (.enqueue index port priority wred)) := by
  simp only [next]
  split
  · rename_i packet hget
    refine (Mmu.requestEnqueue_ensures hpfc wred packet).bind ?_
    rintro ⟨mmu, packet', enqueued⟩ ⟨hsame, htag, hoccupancy, henqueued⟩
    rw [henqueued, if_pos rfl]
    refine h.of_total_eq hsame (fun part => sum_set _ mmu hget (by rw [htag])) fun p hp => ?_
    rcases List.mem_or_eq_of_mem_set hp with hp | rfl
    · exact h.tagged p hp
    · obtain ⟨tag, htag', hsize⟩ := h.tagged _ (List.mem_of_getElem? hget)
      exact ⟨tag, htag.trans htag', hoccupancy.trans hsize⟩
  · exact h

lemma Accounted.part_le (h : s.Accounted c) (hp : p ∈ s.inside) {tag : IngressPacketTag n q}
    (htag : p.1.ingressTag = some tag) (counter : IngressCounter) :
    counter.part tag ≤ counter.read (s.mmu.queue tag.portId tag.priority) := by
  have hle := s.le_sum (fun packet =>
    packet.ingressTag.elim 0 (counter.partAt tag.portId tag.priority)) hp
  rw [htag] at hle
  rw [h.counter]
  calc counter.part tag = counter.partAt tag.portId tag.priority tag := (if_pos ⟨rfl, rfl⟩).symm
    _ ≤ s.total (counter.partAt tag.portId tag.priority) := hle

lemma Accounted.dequeue (hpfc : c.supportPfc = true) (h : s.Accounted c) (index : Nat)
    (wred : Bool) :
    Ensures (fun e => e.ofIngressRelease = false) (Accounted c)
      (s.next c (.dequeue index wred)) := by
  simp only [next]
  split
  · rename_i packet port priority hget
    have hmem := List.mem_of_getElem? hget
    obtain ⟨tag, htag, hsize⟩ := h.tagged _ hmem
    refine (Mmu.dequeuedPacket_ensures hpfc wred htag hsize (h.part_le hmem htag)).bind ?_
    rintro ⟨mmu, packet', xon⟩ hcounts
    have htotal : ∀ part, s.total part =
        total { mmu, inside := s.inside.eraseIdx index } part + part tag := by
      intro part
      rw [total, sum_eraseIdx _ mmu hget, htag]
      rfl
    refine ⟨fun p hp => h.tagged p (List.mem_of_mem_eraseIdx hp), ?_,
      fun counter port priority => ?_⟩
    · rw [← h.pool, htotal, ← hcounts.pool, Nat.add_assoc, Nat.add_comm tag.sharedPoolOccupancy]
    · have hcounter := hcounts.counter counter port priority
      rw [h.counter, htotal] at hcounter
      exact (Nat.add_right_cancel hcounter).symm
  · exact h

lemma Accounted.next (hpfc : c.supportPfc = true) (h : s.Accounted c) {l : BufferLabel n q}
    (hwhole : keepsWhole c s l) :
    Ensures (fun e => e.ofIngressRelease = false) (Accounted c) (s.next c l) := by
  cases l with
  | receive port packet priority => exact h.receive hpfc hwhole
  | enqueue index port priority wred => exact h.enqueue hpfc index port priority wred
  | dequeue index wred => exact h.dequeue hpfc index wred

lemma initial_accounted (hpfc : c.supportPfc = true) : Accounted c { mmu := c.initial } where
  tagged := nofun
  pool := by simp [MmuConfig.initial, hpfc, total, sum]
  counter counter port priority := by cases counter <;> rfl

lemma Accounted.of_reachable (hpfc : c.supportPfc = true)
    (hs : c.system.Reachable (keepsWhole c) s) : s.Accounted c :=
  hs.invariant (E := fun e => e.ofIngressRelease = false)
    (fun _ hinit => hinit ▸ initial_accounted hpfc) fun _ _ h _ hwhole => h.next hpfc hwhole

end SharedBuffer

section Theorem

variable {n q : Nat} {c : MmuConfig n q} {s : SharedBuffer n q}

/-- As long as no packet is split, the parts of an admitted packet sum to its size, the ingress
counters are the sums of the parts of the packets inside, and no `CHECK` of a release fails. -/
theorem ingress_accounting (hpfc : c.supportPfc = true)
    (hs : c.system.Reachable (SharedBuffer.keepsWhole c) s) :
    (∀ port packetSize priority m' memoryOccupancy triggers,
      ¬ s.mmu.splits c port packetSize priority →
      s.mmu.receivedData c port packetSize priority = .ok (m', memoryOccupancy, triggers) →
      memoryOccupancy.drop = false → memoryOccupancy.minimalGuaranteeOccupancy +
        memoryOccupancy.sharedPoolOccupancy + memoryOccupancy.headroomOccupancy = packetSize) ∧
    s.mmu.ingressPoolFreeCells + s.total IngressPacketTag.sharedPoolOccupancy =
      c.ingressServicePoolSize ∧
    (∀ port priority,
      (s.mmu.queue port priority).minimalGuaranteeOccupancy =
        s.total (fun tag => if port = tag.portId ∧ priority = tag.priority then
          tag.minimalGuaranteeOccupancy else 0) ∧
      (s.mmu.queue port priority).pfcHeadroomOccupancy =
        s.total (fun tag => if port = tag.portId ∧ priority = tag.priority then
          tag.headroomOccupancy else 0) ∧
      (s.mmu.queue port priority).ingressOccupancy =
        s.total (fun tag => if port = tag.portId ∧ priority = tag.priority then
          tag.minimalGuaranteeOccupancy + tag.sharedPoolOccupancy + tag.headroomOccupancy
          else 0)) ∧
    ∀ l e, c.system.allowed s l → SharedBuffer.keepsWhole c s l → c.system.next s l = .error e →
      e.ofIngressRelease = false := by
  have h := SharedBuffer.Accounted.of_reachable hpfc hs
  refine ⟨?_, h.pool, fun port priority => ⟨h.counter .minimalGuarantee port priority,
    h.counter .headroom port priority, h.counter .total port priority⟩, ?_⟩
  · intro port packetSize priority m' memoryOccupancy triggers hsplits hreceived hdrop
    obtain ⟨m₁, memoryOccupancy₁, triggers₁, hreceived₁, h₁⟩ :=
      Mmu.receivedData_of_not_splits hpfc hsplits
    rw [hreceived₁] at hreceived
    cases hreceived
    exact h₁.size hdrop
  · intro l e _ hwhole herror
    exact (h.next hpfc hwhole).of_error herror

end Theorem

def fiveCellsConfig : MmuConfig 1 1 where
  supportPfc := true
  pfcXon := true
  ingressServicePoolSize := 100
  egressServicePoolSize := 100
  portEgressAlpha _ := 1
  cosConfig _ _ :=
    { ingressAlpha := 1, egressAlpha := 1, ingressMinimalGuarantee := 5, pfcHeadroom := 10 }
  round := id

/-- A packet of three cells and one of four. The second does not fit what is left of the
guarantee. -/
def splitPacketRun : List (BufferLabel 1 1) :=
  [.receive 0 { id := 0, bitLength := 6144 } 0, .receive 0 { id := 1, bitLength := 8192 } 0,
    .enqueue 1 0 0 false]

/-- The tag of a split packet lacks the part in the guarantee, so its release aborts. -/
theorem split_packet_not_accounted : ∃ s, fiveCellsConfig.system.Reachable (fun _ _ => True) s ∧
    (s.mmu.queue 0 0).minimalGuaranteeOccupancy = 5 ∧
    s.total IngressPacketTag.minimalGuaranteeOccupancy = 3 ∧
    (s.inside.map fun p => getPacketOccupancy p.1) = [3, 4] ∧
    (s.inside.map fun p => p.1.ingressTag.elim 0 IngressCounter.total.part) = [3, 2] ∧
    fiveCellsConfig.system.next s (.dequeue 1 false) = .error .wrongPacketOccupancy := by
  obtain ⟨s, hs, hguarantee, htotal, hsizes, hparts, haborts⟩ :=
    Reachable.exists_of_run
      (T := fiveCellsConfig.system) (C := fun _ _ => True)
      (P := fun s => (s.mmu.queue 0 0).minimalGuaranteeOccupancy = 5 ∧
        s.total IngressPacketTag.minimalGuaranteeOccupancy = 3 ∧
        (s.inside.map fun p => getPacketOccupancy p.1) = [3, 4] ∧
        (s.inside.map fun p => p.1.ingressTag.elim 0 IngressCounter.total.part) = [3, 2] ∧
        fiveCellsConfig.system.aborts s (.dequeue 1 false) .wrongPacketOccupancy = true)
      (s := { mmu := fiveCellsConfig.initial }) splitPacketRun rfl (by decide +kernel)
  exact ⟨s, hs, hguarantee, htotal, hsizes, hparts, TransitionSystem.next_of_aborts haborts⟩

def wholePacketsRun : List (BufferLabel 1 1) :=
  [.receive 0 { id := 0, bitLength := 6144 } 0, .receive 0 { id := 1, bitLength := 4096 } 0,
    .receive 0 { id := 2, bitLength := 2048 } 0, .enqueue 0 0 0 false, .dequeue 0 false]

theorem ingress_accounting_wholePackets : ∃ s,
    fiveCellsConfig.system.Reachable (SharedBuffer.keepsWhole fiveCellsConfig) s ∧
      s.total IngressPacketTag.sharedPoolOccupancy = 1 ∧ s.mmu.ingressPoolFreeCells = 99 := by
  obtain ⟨s, hs, htotal⟩ := Reachable.exists_of_run
    (T := fiveCellsConfig.system) (C := SharedBuffer.keepsWhole fiveCellsConfig)
    (P := fun s => s.total IngressPacketTag.sharedPoolOccupancy = 1)
    (s := { mmu := fiveCellsConfig.initial }) wholePacketsRun rfl (by decide +kernel)
  have hpool := (ingress_accounting rfl hs).2.1
  rw [htotal] at hpool
  exact ⟨s, hs, htotal, Nat.add_right_cancel (m := 1) hpool⟩

end Isekai.Fabric
