import Isekai.Fabric.IngressAccounting
import Isekai.Fabric.RouterSteps
import Mathlib.Algebra.BigOperators.Group.Finset.Piecewise
import Mathlib.Data.Fintype.Prod
import Mathlib.Data.List.Perm.Basic
import Mathlib.Algebra.Order.Group.Multiset

/-!
# The release of ingress memory

A packet that was admitted is in the routing pipeline, in a packet queue, or has left the router.
Its ingress memory is released when it is dequeued, so that the ingress counters of the unit are
those of the packets inside.
-/

namespace Isekai.Fabric

open Lib Function TransitionSystem

/-! ## The counters of the unit -/

def IngressPacketTag.cellsAt {n q : Nat} (tag : IngressPacketTag n q) (port : Fin n)
    (priority : Fin q) (cells : Nat) : Nat :=
  if port = tag.portId ∧ priority = tag.priority then cells else 0

namespace Mmu

variable {n q : Nat} {m m' : Mmu n q} {c : MmuConfig n q} {port : Fin n} {priority : Fin q}
  {tag : IngressPacketTag n q} {cells : Nat} {counters : QueueCounters}

/-- Beyond what `m` counts, `m'` counts a packet with this tag and this number of cells. The counter
of the minimal guarantee is not among these: it is more than the sum of the parts once a packet is
split. -/
structure Holds (m m' : Mmu n q) (tag : IngressPacketTag n q) (cells : Nat) : Prop where
  pool : m'.ingressPoolFreeCells + tag.sharedPoolOccupancy = m.ingressPoolFreeCells
  headroom : ∀ port priority, (m'.queue port priority).pfcHeadroomOccupancy =
    (m.queue port priority).pfcHeadroomOccupancy + tag.cellsAt port priority tag.headroomOccupancy
  occupancy : ∀ port priority, (m'.queue port priority).ingressOccupancy =
    (m.queue port priority).ingressOccupancy + tag.cellsAt port priority cells

lemma Holds.of_setQueue (hqueue : m'.queue = (m.setQueue tag.portId tag.priority counters).queue)
    (hpool : m'.ingressPoolFreeCells + tag.sharedPoolOccupancy = m.ingressPoolFreeCells)
    (hheadroom : counters.pfcHeadroomOccupancy =
      (m.queue tag.portId tag.priority).pfcHeadroomOccupancy + tag.headroomOccupancy)
    (hoccupancy : counters.ingressOccupancy =
      (m.queue tag.portId tag.priority).ingressOccupancy + cells) : m.Holds m' tag cells := by
  refine ⟨hpool, fun port priority => ?_, fun port priority => ?_⟩
  all_goals
    rw [hqueue, queue_setQueue, IngressPacketTag.cellsAt]
    by_cases h : port = tag.portId ∧ priority = tag.priority
    · obtain ⟨rfl, rfl⟩ := h
      rw [if_pos ⟨rfl, rfl⟩, if_pos ⟨rfl, rfl⟩]
      first | exact hheadroom | exact hoccupancy
    · rw [if_neg h, if_neg h]
      rfl

lemma Holds.congr {m₁ : Mmu n q} (h : m'.Holds m tag cells) (hsame : m'.SameIngress m₁) :
    m₁.Holds m tag cells where
  pool := by rw [hsame.pool, h.pool]
  headroom port priority := (h.headroom port priority).trans
    (congrArg (· + _) (hsame.counter .headroom port priority).symm)
  occupancy port priority := (h.occupancy port priority).trans
    (congrArg (· + _) (hsame.counter .total port priority).symm)

lemma receivedData_holds (hpfc : c.supportPfc = true) {packetSize : Nat}
    {memoryOccupancy : IngressMemoryOccupancy} {triggers : Bool}
    (h : m.receivedData c port packetSize priority = .ok (m', memoryOccupancy, triggers)) :
    (memoryOccupancy.drop = true → m.SameIngress m') ∧ (memoryOccupancy.drop = false →
      m.Holds m' (memoryOccupancy.tag port priority) packetSize) := by
  unfold receivedData at h
  rw [hpfc] at h
  simp only [Bool.not_true, Bool.false_eq_true, if_false] at h
  split at h
  · split at h
    · split at h
      · cases h
      · rename_i hfits
        cases h
        exact ⟨nofun, fun _ => .of_setQueue rfl (Nat.sub_add_cancel (Nat.not_lt.mp hfits)) rfl rfl⟩
    · split at h
      · cases h
        exact ⟨nofun, fun _ => .of_setQueue rfl rfl rfl rfl⟩
      · split at h
        · cases h
        · rename_i hfits
          cases h
          exact ⟨nofun, fun _ => .of_setQueue rfl
            (Nat.sub_add_cancel (Nat.not_lt.mp hfits)) rfl rfl⟩
  · split at h
    · cases h
      refine ⟨fun _ => .of_setQueue rfl rfl fun counter => ?_, nofun⟩
      cases counter <;> rfl
    · cases h
      exact ⟨nofun, fun _ => .of_setQueue rfl rfl rfl rfl⟩

lemma ingressAccountingRelease_holds {packet packet' : Packet n q}
    (htag : packet.ingressTag = some tag)
    (h : m.ingressAccountingRelease packet = .ok (m', packet')) :
    m'.Holds m tag (getPacketOccupancy packet) := by
  simp only [ingressAccountingRelease, htag] at h
  split at h
  · cases h
  split at h
  · cases h
  split at h
  · cases h
  rename_i hheadroom
  split at h
  · cases h
  rename_i hoccupancy
  cases h
  refine ⟨rfl, fun port priority => ?_, fun port priority => ?_⟩
  all_goals
    simp only [queue_setQueue, IngressPacketTag.cellsAt]
    split
    · rename_i heq
      obtain ⟨rfl, rfl⟩ := heq
      first
        | exact (Nat.sub_add_cancel (Nat.not_lt.mp hheadroom)).symm
        | exact (Nat.sub_add_cancel (Nat.not_lt.mp hoccupancy)).symm
    · rfl

lemma dequeuedPacket_holds (hpfc : c.supportPfc = true) {wred : Bool}
    {packet packet' : Packet n q} {xon : Option (Fin n × Fin q)}
    (h : m.dequeuedPacket c port priority wred packet = .ok (m', packet', xon)) :
    ∃ tag, packet.ingressTag = some tag ∧ m'.Holds m tag (getPacketOccupancy packet) := by
  unfold dequeuedPacket at h
  generalize hmarked : (if (c.cosConfig port priority).ecnMarkingStage = .dequeueMark then
    performEcnMarking c port priority wred packet else packet) = marked at h
  obtain ⟨htag, hcells⟩ := marked_spec hmarked
  simp only [hpfc, if_true] at h
  cases hmarkedTag : marked.ingressTag with
  | none => simp [hmarkedTag] at h
  | some tag =>
    simp only [hmarkedTag] at h
    obtain ⟨⟨m₁, packet₁⟩, hrelease, h⟩ := exists_of_bind_eq_ok h
    obtain ⟨m₂, hegress, h⟩ := exists_of_bind_eq_ok h
    cases h
    refine ⟨tag, htag.symm.trans hmarkedTag, hcells ▸ ?_⟩
    refine (ingressAccountingRelease_holds hmarkedTag hrelease).congr ?_
    exact (disablePfcSending_sameIngress m₁ c tag.portId tag.priority).trans
      ((egressAccountingRelease_ensures _).of_ok hegress)

end Mmu

/-! ## The packets inside -/

/-- What the accounting depends on in a packet. -/
structure HeldPacket (n q : Nat) where
  id : Nat
  tag : Option (IngressPacketTag n q)
  cells : Nat

def Packet.held {n q : Nat} (packet : Packet n q) : HeldPacket n q where
  id := packet.id
  tag := packet.ingressTag
  cells := getPacketOccupancy packet

def heldPackets {n q : Nat} (packets : List (Packet n q)) : Multiset (HeldPacket n q) :=
  (packets.map Packet.held : List (HeldPacket n q))

lemma heldPackets_cons {n q : Nat} (packet : Packet n q) (packets : List (Packet n q)) :
    heldPackets (packet :: packets) = packet.held ::ₘ heldPackets packets := rfl

lemma heldPackets_append_singleton {n q : Nat} (packets : List (Packet n q)) (packet : Packet n q) :
    heldPackets (packets ++ [packet]) = packet.held ::ₘ heldPackets packets := by
  unfold heldPackets
  rw [List.map_append, ← Multiset.coe_add, add_comm]
  rfl

namespace HeldPacket

variable {n q : Nat} (p : HeldPacket n q) (port : Fin n) (priority : Fin q)

def sharedPool : Nat := p.tag.elim 0 IngressPacketTag.sharedPoolOccupancy

def headroomAt : Nat := p.tag.elim 0 fun tag => tag.cellsAt port priority tag.headroomOccupancy

def cellsAt : Nat := p.tag.elim 0 fun tag => tag.cellsAt port priority p.cells

end HeldPacket

def RouterAction.admittedId {n q : Nat} : RouterAction n q → Option Nat
  | .admitted id => some id
  | _ => none

def RouterAction.leftId {n q : Nat} : RouterAction n q → Option Nat
  | .sent _ id => some id
  | .discarded id => some id
  | _ => none

/-- The packets in the routing pipeline and in the packet queues. -/
def Router.inside {n q : Nat} (s : Router n q) : Multiset (HeldPacket n q) :=
  heldPackets (s.routerDelays.map Prod.snd) +
    ∑ i : Fin n × Fin q, heldPackets ((s.ports i.1).packetQueues i.2)

/-- The packets inside, the ids of those that were admitted and of those that have left, and the
unit. -/
structure PacketView (n q : Nat) where
  inside : Multiset (HeldPacket n q)
  admitted : List Nat
  left : List Nat
  mmu : Mmu n q

def Router.packets {n q : Nat} (s : Router n q) : PacketView n q where
  inside := s.inside
  admitted := s.history.filterMap RouterAction.admittedId
  left := s.history.filterMap RouterAction.leftId
  mmu := s.mmu

/-- What a step does to the packets inside: nothing, it admits one, or it releases and sends one. -/
inductive PacketView.Step {n q : Nat} (v v' : PacketView n q) : Prop
  | stay (hinside : v'.inside = v.inside) (hadmitted : v'.admitted = v.admitted)
    (hleft : v'.left = v.left) (hmmu : v.mmu.SameIngress v'.mmu)
  | accept {p : HeldPacket n q} {tag : IngressPacketTag n q} (hnew : p.id ∉ v.admitted)
    (htag : p.tag = some tag) (hinside : v'.inside = p ::ₘ v.inside)
    (hadmitted : v'.admitted = p.id :: v.admitted) (hleft : v'.left = v.left)
    (hmmu : v.mmu.Holds v'.mmu tag p.cells)
  | send {p : HeldPacket n q} {tag : IngressPacketTag n q} (htag : p.tag = some tag)
    (hinside : v.inside = p ::ₘ v'.inside) (hadmitted : v'.admitted = v.admitted)
    (hleft : v'.left = p.id :: v.left) (hmmu : v'.mmu.Holds v.mmu tag p.cells)

lemma PacketView.Step.refl {n q : Nat} (v : PacketView n q) : v.Step v :=
  .stay rfl rfl rfl ⟨rfl, fun _ _ _ => rfl⟩

def Router.routes {n q : Nat} (s : Router n q) : RouterLabel n q → Prop
  | .routerDelay index outputPort _ => outputPort ≠ none ∧
    ∀ p ∈ s.routerDelays[index]?, p.2.hopLimit ≠ 0
  | _ => True

instance {n q : Nat} (s : Router n q) : (l : RouterLabel n q) → Decidable (s.routes l)
  | .receivePacket .. => instDecidableTrue
  | .routerDelay index outputPort _ => inferInstanceAs (Decidable (outputPort ≠ none ∧
    ∀ p ∈ s.routerDelays[index]?, p.2.hopLimit ≠ 0))
  | .outputScheduling .. => instDecidableTrue
  | .setPfcPaused .. => instDecidableTrue
  | .pfcRefreshment .. => instDecidableTrue
  | .pfcPauseSend .. => instDecidableTrue

namespace Router

variable {n q : Nat} {c : RouterConfig n q} {s s' s₁ : Router n q} {port : Fin n} {wred : Bool}
  {priority : Fin q}

lemma Unchanged.inside (h : s.Unchanged s') : s'.inside = s.inside := by
  unfold Router.inside
  rw [h.routerDelays]
  simp only [h.packetQueues]

lemma Unchanged.packets (h : s.Unchanged s') : s'.packets = s.packets := by
  unfold Router.packets
  rw [h.inside, h.history, h.mmu]

lemma packets_setPort {p : Port n q} (h : p.packetQueues = (s.ports port).packetQueues) :
    (s.setPort port p).packets = s.packets :=
  (Unchanged.setPort s h).packets

lemma sum_update_add {ι M : Type} [Fintype ι] [DecidableEq ι] [AddCommMonoid M] (f : ι → M) (i : ι)
    (x : M) : ∑ j, update f i x j + f i = ∑ j, f j + x := by
  rw [Finset.sum_update_of_mem (Finset.mem_univ i), Finset.sdiff_singleton_eq_erase,
    ← Finset.add_sum_erase Finset.univ f (Finset.mem_univ i)]
  ac_rfl

lemma inside_setPacketQueue (s : Router n q) (port : Fin n) (priority : Fin q)
    (queue : List (Packet n q)) :
    (s.setPacketQueue port priority queue).inside + heldPackets
      ((s.ports port).packetQueues priority) =
      s.inside + heldPackets queue := by
  have hupdate : (fun i : Fin n × Fin q =>
      heldPackets (((s.setPacketQueue port priority queue).ports i.1).packetQueues i.2)) =
      update (fun i => heldPackets ((s.ports i.1).packetQueues i.2)) (port, priority)
        (heldPackets queue) := by
    funext ⟨port', priority'⟩
    by_cases hport : port' = port
    · subst hport
      by_cases hpriority : priority' = priority
      · subst hpriority
        simp [setPacketQueue, setPort]
      · rw [update_of_ne fun hpair => hpriority (Prod.mk.inj hpair).2]
        simp [setPacketQueue, setPort, hpriority]
    · rw [update_of_ne fun hpair => hport (Prod.mk.inj hpair).1]
      simp [setPacketQueue, setPort, hport]
  have hsum := sum_update_add (fun i : Fin n × Fin q =>
    heldPackets ((s.ports i.1).packetQueues i.2))
    (port, priority) (heldPackets queue)
  rw [← hupdate] at hsum
  unfold inside
  rw [add_assoc, add_assoc]
  exact congrArg _ hsum

lemma liftMmu_eq_ok {α : Type} {x : Except MmuFatal α} {a : α} :
    liftMmu x = .ok a ↔ x = .ok a := by
  cases x <;> simp [liftMmu, Except.mapError]

lemma requestEnqueue_enqueued {m m' : Mmu n q} {c : MmuConfig n q} (hpfc : c.supportPfc = true)
    {priority : Fin q} {packet packet' : Packet n q} {enqueued : Bool}
    (h : m.requestEnqueue c port priority wred packet = .ok (m', packet', enqueued)) :
    enqueued = true ∧ packet'.held = packet.held ∧ m.SameIngress m' := by
  obtain ⟨hsame, htag, hcells, henqueued⟩ := (Mmu.requestEnqueue_ensures hpfc wred packet).of_ok h
  have hid : packet'.id = packet.id := by
    unfold Mmu.requestEnqueue at h
    simp only [hpfc, if_true] at h
    split at h
    · cases h
    split at h
    · cases h
    split at h
    · cases h
    · cases h
      split
      · unfold Mmu.performEcnMarking
        split <;> rfl
      · rfl
  refine ⟨henqueued, ?_, hsame⟩
  unfold Packet.held
  rw [hid, htag, hcells]

lemma dequeue_step (hpfc : c.supportPfc = true)
    (h : s.dequeue c port priority wred = .ok s') : s.packets.Step s'.packets := by
  unfold dequeue at h
  split at h
  · cases h
    exact .refl _
  · rename_i packet rest hqueue
    obtain ⟨⟨mmu, packet', xon⟩, hdequeued, h⟩ := exists_of_bind_eq_ok h
    obtain ⟨s₁, hs₁, h⟩ := exists_of_bind_eq_ok h
    cases h
    obtain ⟨tag, htag, hholds⟩ := Mmu.dequeuedPacket_holds hpfc (liftMmu_eq_ok.mp hdequeued)
    have hsame := sendXon_unchanged hs₁
    have hinside := s.inside_setPacketQueue port priority rest
    rw [hqueue, heldPackets_cons, ← Multiset.singleton_add, ← add_assoc] at hinside
    refine .send (p := packet.held) htag ?_ ?_ ?_ ?_
    · rw [← Multiset.singleton_add, add_comm]
      refine (add_right_cancel hinside).symm.trans (congrArg (· + _) ?_)
      exact hsame.inside.symm
    · change List.filterMap _ s₁.history = _
      rw [hsame.history]
      rfl
    · change packet.id :: List.filterMap _ s₁.history = _
      rw [hsame.history]
      rfl
    · change s₁.mmu.Holds s.mmu tag (getPacketOccupancy packet)
      rw [hsame.mmu]
      exact hholds

lemma scheduleOutput_step (hpfc : c.supportPfc = true) {transmissionDelay : Nat}
    (h : s.scheduleOutput c port wred transmissionDelay = .ok s') : s.packets.Step s'.packets := by
  unfold scheduleOutput at h
  dsimp only at h
  split at h
  · cases h
  split at h
  · rw [(sendPacket_unchanged h).packets, packets_setPort]
    · exact .refl _
    · rfl
  · split at h
    · obtain ⟨s₁, hs₁, h⟩ := exists_of_bind_eq_ok h
      rw [(sendPacket_unchanged h).packets]
      exact dequeue_step hpfc hs₁
    · cases h
      rw [packets_setPort]
      · exact .refl _
      · rfl

lemma resumeOutput_step (hpfc : c.supportPfc = true) {transmissionDelay : Nat}
    (h : s.resumeOutput c port wred transmissionDelay = .ok s') : s.packets.Step s'.packets := by
  unfold resumeOutput at h
  split at h
  · have hstep := scheduleOutput_step hpfc h
    rw [packets_setPort] at hstep
    · exact hstep
    · rfl
  · cases h
    exact .refl _

lemma receivedPfc_packets {frame : PfcFrame q} (h : s.receivedPfc c port frame = .ok s') :
    s'.packets = s.packets := by
  refine (Ensures.foldlM (E := fun _ => True) (I := fun _ s' => s'.packets = s.packets)
    (List.finRange q) ?_ rfl).of_ok h
  intro _ priority _ s₁ _ hs₁
  refine .ite (fun _ => .ite (fun _ => trivial) fun _ => .ite (fun _ => trivial) fun _ => ?_)
    fun _ => hs₁
  exact hs₁

lemma not_mem_admitted_of_isNew {time byteLength : Nat} {packet : Packet n q}
    (h : s.isNew (.receivePacket time port (.data byteLength packet)) = true) :
    packet.id ∉ s.packets.admitted := by
  intro hmem
  obtain ⟨action, haction, hid⟩ := List.mem_filterMap.mp hmem
  simp only [isNew, Bool.and_eq_true, List.all_eq_true, decide_eq_true_eq] at h
  refine h.2 action haction ?_
  cases action with
  | admitted id =>
    cases hid
    rfl
  | _ => cases hid

variable [NeZero q]

lemma receivePacket_step (hpfc : c.supportPfc = true) {frame : Frame n q} {time : Nat}
    (hnew : s.isNew (.receivePacket time port frame) = true)
    (h : s.receivePacket c port frame = .ok s') : s.packets.Step s'.packets := by
  cases frame with
  | data byteLength packet =>
    simp only [receivePacket] at h
    split at h
    · cases h
      exact .refl _
    · obtain ⟨⟨mmu, memoryOccupancy, triggers⟩, hreceived, h⟩ := exists_of_bind_eq_ok h
      obtain ⟨s₁, hs₁, h⟩ := exists_of_bind_eq_ok h
      have hsame := enablePfcSending_unchanged hs₁
      obtain ⟨hdropped, hadmitted⟩ := Mmu.receivedData_holds hpfc (liftMmu_eq_ok.mp hreceived)
      cases h
      unfold routeOrDrop
      split
      · rename_i hdrop
        rw [hsame.packets]
        exact .stay rfl rfl rfl (hdropped hdrop)
      · rename_i hdrop
        have hid : packet.id ∉ s.packets.admitted := not_mem_admitted_of_isNew hnew
        refine .accept (p := (addIngressTag packet port 0 memoryOccupancy).held) hid rfl ?_ ?_ ?_ ?_
        · have hinside : s₁.inside = s.inside := hsame.inside
          change heldPackets ((s₁.routerDelays ++ [_]).map Prod.snd) + _ = _ ::ₘ s.inside
          rw [← hinside, List.map_append, List.map_singleton, heldPackets_append_singleton,
            Multiset.cons_add]
          rfl
        · change packet.id :: List.filterMap _ s₁.history = _
          rw [hsame.history]
          rfl
        · change List.filterMap _ s₁.history = _
          rw [hsame.history]
          rfl
        · change s.mmu.Holds s₁.mmu _ (getPacketOccupancy packet)
          rw [hsame.mmu]
          exact hadmitted (Bool.not_eq_true _ ▸ hdrop)
  | pfc byteLength frame =>
    simp only [receivePacket] at h
    split at h
    · cases h
      exact .refl _
    · rw [receivedPfc_packets h]
      exact .refl _

lemma enqueuePacket_step (hpfc : c.supportPfc = true) {packet : Packet n q}
    (h : s.enqueuePacket c port wred packet = .ok s') :
    s'.inside = packet.held ::ₘ s.inside ∧ s'.history = s.history ∧
      s.mmu.SameIngress s'.mmu := by
  obtain ⟨⟨mmu, packet', enqueued⟩, hrequest, h⟩ := exists_of_bind_eq_ok h
  obtain ⟨rfl, hheld, hmmu⟩ := requestEnqueue_enqueued hpfc (liftMmu_eq_ok.mp hrequest)
  have hwake : ({ s with mmu }.setPacketQueue port 0
    ((s.ports port).packetQueues 0 ++ [packet'])).wakePort port = .ok s' := h
  have hsame := wakePort_unchanged hwake
  refine ⟨?_, hsame.history, hsame.mmu ▸ hmmu⟩
  have hinside := ({ s with mmu } : Router n q).inside_setPacketQueue port 0
    ((s.ports port).packetQueues 0 ++ [packet'])
  rw [heldPackets_append_singleton, hheld, ← Multiset.singleton_add, ← add_assoc] at hinside
  rw [hsame.inside, add_right_cancel hinside, add_comm, Multiset.singleton_add]
  rfl

lemma routerDelay_step (hpfc : c.supportPfc = true) {index : Nat} {outputPort : Option (Fin n)}
    (hroutes : s.routes (.routerDelay index outputPort wred))
    (h : s.handleMessage c (.routerDelay index outputPort wred) = .ok s') :
    s.packets.Step s'.packets := by
  simp only [handleMessage] at h
  split at h
  · rename_i time packet hget
    have hhop : packet.hopLimit ≠ 0 := hroutes.2 _ hget
    unfold routePacket at h
    rw [if_neg hhop] at h
    cases outputPort with
    | none => exact absurd rfl hroutes.1
    | some port =>
      simp only at h
      split at h
      · cases h
      · obtain ⟨hinside, hhistory, hmmu⟩ := enqueuePacket_step hpfc h
        refine .stay (hinside.trans ?_) (congrArg (List.filterMap _) hhistory)
          (congrArg (List.filterMap _) hhistory) hmmu
        obtain ⟨hlt, hindex⟩ := List.getElem?_eq_some_iff.mp hget
        have hperm := ((List.getElem_cons_eraseIdx_perm hlt).map Prod.snd).map Packet.held
        rw [hindex] at hperm
        change packet.held ::ₘ (heldPackets _ + _) = heldPackets _ + _
        rw [← Multiset.cons_add]
        exact congrArg (· + _) (Multiset.coe_eq_coe.mpr hperm)
  · cases h
    exact .refl _

lemma handleMessage_step (hpfc : c.supportPfc = true) {l : RouterLabel n q}
    (hnew : s.isNew l = true) (hroutes : s.routes l) (h : s.handleMessage c l = .ok s') :
    s.packets.Step s'.packets := by
  cases l with
  | receivePacket time port frame => exact receivePacket_step hpfc hnew h
  | routerDelay index outputPort wred => exact routerDelay_step hpfc hroutes h
  | outputScheduling port wred transmissionDelay =>
    have hstep := scheduleOutput_step hpfc h
    exact hstep
  | setPfcPaused port priority =>
    cases h
    exact .refl _
  | pfcRefreshment port priority wred transmissionDelay =>
    have hstep := resumeOutput_step hpfc h
    exact hstep
  | pfcPauseSend port priority =>
    rw [(sendPfc_unchanged h).packets]
    exact .refl _

/-- A step of the router that discards no packet. -/
theorem next_step (hpfc : c.supportPfc = true) {l : RouterLabel n q} (hnew : s.isNew l = true)
    (hroutes : s.routes l) (h : s.next c l = .ok s') : s.packets.Step s'.packets := by
  unfold next at h
  split at h
  · rename_i time htime
    have hstep := handleMessage_step (s := { s with now := time }) hpfc hnew hroutes h
    exact hstep
  · cases h
    exact .refl _

end Router

/-! ## Whole runs -/

/-- Each admitted packet is inside or has left, and the counters of the unit are those of the
packets inside. -/
structure PacketView.Balanced {n q : Nat} (c : MmuConfig n q) (v : PacketView n q) : Prop where
  nodup : v.admitted.Nodup
  admitted : (v.admitted : Multiset Nat) = v.inside.map HeldPacket.id + v.left
  pool : v.mmu.ingressPoolFreeCells + (v.inside.map HeldPacket.sharedPool).sum =
    c.ingressServicePoolSize
  headroom : ∀ port priority, (v.mmu.queue port priority).pfcHeadroomOccupancy =
    (v.inside.map fun p => p.headroomAt port priority).sum
  occupancy : ∀ port priority, (v.mmu.queue port priority).ingressOccupancy =
    (v.inside.map fun p => p.cellsAt port priority).sum

lemma PacketView.Balanced.step {n q : Nat} {c : MmuConfig n q} {v v' : PacketView n q}
    (h : v.Balanced c) (hstep : v.Step v') : v'.Balanced c := by
  cases hstep with
  | stay hinside hadmitted hleft hmmu =>
    refine ⟨hadmitted ▸ h.nodup, ?_, ?_, fun port priority => ?_, fun port priority => ?_⟩
    · rw [hadmitted, hinside, hleft, h.admitted]
    · rw [hinside, hmmu.pool, h.pool]
    · rw [hinside, ← h.headroom]
      exact hmmu.counter .headroom port priority
    · rw [hinside, ← h.occupancy]
      exact hmmu.counter .total port priority
  | @accept p tag hnew htag hinside hadmitted hleft hmmu =>
    refine ⟨?_, ?_, ?_, fun port priority => ?_, fun port priority => ?_⟩
    · rw [hadmitted]
      exact List.nodup_cons.mpr ⟨hnew, h.nodup⟩
    · rw [hadmitted, hinside, hleft, ← Multiset.cons_coe, h.admitted, Multiset.map_cons,
        Multiset.cons_add]
    · have hpart : p.sharedPool = tag.sharedPoolOccupancy := by
        rw [HeldPacket.sharedPool, htag, Option.elim_some]
      rw [hinside, Multiset.map_cons, Multiset.sum_cons, hpart, ← h.pool, ← hmmu.pool,
        Nat.add_assoc]
    · rw [hmmu.headroom, hinside, Multiset.map_cons, Multiset.sum_cons, h.headroom, Nat.add_comm,
        HeldPacket.headroomAt, htag, Option.elim_some]
    · rw [hmmu.occupancy, hinside, Multiset.map_cons, Multiset.sum_cons, h.occupancy, Nat.add_comm,
        HeldPacket.cellsAt, htag, Option.elim_some]
  | @send p tag htag hinside hadmitted hleft hmmu =>
    refine ⟨hadmitted ▸ h.nodup, ?_, ?_, fun port priority => ?_, fun port priority => ?_⟩
    · rw [hadmitted, h.admitted, hinside, hleft, Multiset.map_cons, ← Multiset.cons_coe,
        Multiset.cons_add, Multiset.add_cons]
    · have hpart : p.sharedPool = tag.sharedPoolOccupancy := by
        rw [HeldPacket.sharedPool, htag, Option.elim_some]
      rw [← h.pool, ← hmmu.pool, hinside, Multiset.map_cons, Multiset.sum_cons, hpart,
        Nat.add_assoc]
    · have hheadroom := h.headroom port priority
      rw [hmmu.headroom, hinside, Multiset.map_cons, Multiset.sum_cons, HeldPacket.headroomAt, htag,
        Option.elim_some, Nat.add_comm] at hheadroom
      exact Nat.add_left_cancel hheadroom
    · have hoccupancy := h.occupancy port priority
      rw [hmmu.occupancy, hinside, Multiset.map_cons, Multiset.sum_cons, HeldPacket.cellsAt, htag,
        Option.elim_some, Nat.add_comm] at hoccupancy
      exact Nat.add_left_cancel hoccupancy

section Theorem

variable {n q : Nat} {c : RouterConfig n q} {s : Router n q}

lemma initial_balanced (hpfc : c.supportPfc = true) :
    c.initial.packets.Balanced c.toMmuConfig := by
  have hinside : c.initial.packets.inside = 0 := by
    simp [RouterConfig.initial, Router.packets, Router.inside, heldPackets]
  refine ⟨List.nodup_nil, ?_, ?_, fun port priority => ?_, fun port priority => ?_⟩
  · rw [hinside]
    rfl
  · rw [hinside]
    simp [RouterConfig.initial, Router.packets, MmuConfig.initial, hpfc]
  · rw [hinside]
    rfl
  · rw [hinside]
    rfl

lemma balanced_of_reachable [NeZero q] (hpfc : c.supportPfc = true)
    (hs : c.system.Reachable Router.routes s) : s.packets.Balanced c.toMmuConfig := by
  refine hs.invariant_of_ok (I := fun s => s.packets.Balanced c.toMmuConfig) ?_ ?_
  · intro s hinit
    rw [hinit]
    exact initial_balanced hpfc
  · intro s l s' _ h hallowed hroutes hnext
    exact h.step (Router.next_step hpfc hallowed.1 hroutes hnext)

lemma mem_admitted_iff {history : List (RouterAction n q)} {id : Nat} :
    id ∈ history.filterMap RouterAction.admittedId ↔ .admitted id ∈ history := by
  rw [List.mem_filterMap]
  constructor
  · rintro ⟨action, hmem, hid⟩
    cases action with
    | admitted id' =>
      cases hid
      exact hmem
    | _ => cases hid
  · exact fun hmem => ⟨_, hmem, rfl⟩

end Theorem

def ttlLimitRun : List (RouterLabel 2 1) :=
  [.receivePacket 5 0 (.data 300 { id := 7, bitLength := 2048, hopLimit := 0 }),
    .routerDelay 0 (some 1) false]

/-- Two packets are admitted, and the first is sent. -/
def forwardRun : List (RouterLabel 2 1) :=
  [.receivePacket 5 0 (.data 300 { id := 7, bitLength := 2048 }),
    .receivePacket 6 0 (.data 300 { id := 8, bitLength := 4096 }), .routerDelay 0 (some 1) false,
    .routerDelay 0 (some 1) false, .outputScheduling 1 false 24]

end Isekai.Fabric
