import Isekai.Falcon.Sender

/-!
# What transmissions and acknowledgements change in a sender

One statement for a transmission and one for the acknowledgement of a packet say all that the later
invariants use.
-/

namespace Isekai.Falcon

open Lib Function

def TransmitterReliabilityWindowMetadata.core (tx : TransmitterReliabilityWindowMetadata) :
    TransmitterReliabilityWindowMetadata :=
  { tx with outstandingRequestsCounter := 0, outstandingRetransmissionRequestsCounter := 0 }

@[simp] lemma TransmitterReliabilityWindowMetadata.core_setCounter
    (tx : TransmitterReliabilityWindowMetadata) (retransmitted : Bool) (counter : BitVec 32) :
    (tx.setCounter retransmitted counter).core = tx.core := by
  cases retransmitted <;> rfl

def SenderAction.isPacket : SenderAction → Bool
  | .transmit _ _ | .ack _ => true
  | _ => false

def SenderAction.isCount : SenderAction → Bool
  | .count .. | .uncount .. => true
  | _ => false

namespace Sender

variable {s s' s'' : Sender} {w : WindowType} {psn : Psn} {work : WorkId} {retransmitted : Bool}

def Recounts (s s' : Sender) : Prop :=
  ∃ tx l, s' = { s with tx := tx, log := l ++ s.log } ∧ (∀ w, (tx w).core = (s.tx w).core) ∧
    ∀ a ∈ l, a.isCount = true

lemma Recounts.refl (s : Sender) : s.Recounts s := ⟨s.tx, [], rfl, fun _ => rfl, nofun⟩

lemma Recounts.trans (h : s.Recounts s') (h' : s'.Recounts s'') : s.Recounts s'' := by
  obtain ⟨tx, l, rfl, hcore, hl⟩ := h
  obtain ⟨tx', l', rfl, hcore', hl'⟩ := h'
  refine ⟨tx', l' ++ l, ?_, fun w => (hcore' w).trans (hcore w), fun a ha => ?_⟩
  · simp only [List.append_assoc]
  · exact (List.mem_append.mp ha).elim (hl' a) (hl a)

lemma recounts_setCounter (s : Sender) (w : WindowType) (retransmitted : Bool) (counter : BitVec 32)
    {a : SenderAction} (ha : a.isCount = true) :
    s.Recounts ((s.setTx w ((s.tx w).setCounter retransmitted counter)).emit a) := by
  refine ⟨_, [a], rfl, fun w' => ?_, by simpa using ha⟩
  change (update s.tx w _ w').core = (s.tx w').core
  rw [update_apply]
  split
  · rename_i heq
    rw [heq, TransmitterReliabilityWindowMetadata.core_setCounter]
  · rfl

lemma incrementRequestCount_recounts (s : Sender) (retransmitted : Bool) (work : WorkId) :
    s.Recounts (s.incrementRequestCount retransmitted work) := by
  unfold incrementRequestCount
  split
  · exact recounts_setCounter s _ _ _ rfl
  · exact .refl s

lemma decrementCounter_recounts (s : Sender) (retransmitted : Bool) (work : WorkId) :
    s.Recounts (s.decrementCounter retransmitted work) :=
  recounts_setCounter s _ _ _ rfl

lemma decrementOutstandingRequestCount_recounts (s : Sender) (work : WorkId) :
    s.Recounts (s.decrementOutstandingRequestCount work) := by
  unfold decrementOutstandingRequestCount
  split_ifs
  · exact .refl s
  · exact s.decrementCounter_recounts _ _
  · exact .refl s

lemma decrementOutstandingRetransmittedRequestCount_recounts (s : Sender) (work : WorkId)
    (isAcked : Bool) :
    s.Recounts (s.decrementOutstandingRetransmittedRequestCount work isAcked) := by
  unfold decrementOutstandingRetransmittedRequestCount
  split_ifs
  · exact .refl s
  · exact s.decrementCounter_recounts _ _
  · exact .refl s

lemma settleRetransmittedRequest_recounts (s : Sender) (work : WorkId) :
    s.Recounts (s.settleRetransmittedRequest work) := by
  unfold settleRetransmittedRequest
  split_ifs
  · exact s.decrementOutstandingRetransmittedRequestCount_recounts _ _
  · exact .refl s

lemma Recounts.setTx (h : s.Recounts s') {f : TransmitterReliabilityWindowMetadata →
    TransmitterReliabilityWindowMetadata} (hf : ∀ tx tx', tx.core = tx'.core →
      (f tx).core = (f tx').core) :
    (s.setTx w (f (s.tx w))).Recounts (s'.setTx w (f (s'.tx w))) := by
  obtain ⟨tx, l, rfl, hcore, hl⟩ := h
  refine ⟨_, l, rfl, fun w' => ?_, hl⟩
  change (update tx w (f (tx w)) w').core = (update s.tx w (f (s.tx w)) w').core
  by_cases hw : w' = w
  · rw [hw, update_self, update_self]
    exact hf _ _ (hcore w)
  · rw [update_of_ne hw, update_of_ne hw]
    exact hcore w'

/-! ## Transmissions -/

def nextPsn (s : Sender) (work : WorkId) : Psn :=
  if (s.packets work).transmitAttempts = 0 then (s.tx (windowOf work.type)).next
  else (s.packets work).psn

def nextLabel (s : Sender) (work : WorkId) (chosen : Nat) : BitVec 20 :=
  s.flowLabels (if 0 < (s.packets work).transmitAttempts then s.flowId (s.packets work).flowLabel
    else chosen)

def nextCount (s : Sender) (work : WorkId) (chosen : Nat) : Nat → BitVec 32 :=
  (s.updateOutstandingCounterAfterNewFlowLabel (s.flowId (s.packets work).flowLabel)
    (s.flowId (s.nextLabel work chosen)) (0 < (s.packets work).transmitAttempts)).outstandingCount

def nextTx (s : Sender) (work : WorkId) : TransmitterReliabilityWindowMetadata :=
  let tx := s.tx (windowOf work.type)
  { tx with
    next := if (s.packets work).transmitAttempts = 0 then tx.next + 1 else tx.next
    outstandingPackets := OrderedSet.insert RetransmissionWorkId.lt
      ⟨work.rsn, s.nextPsn work, work.type⟩ tx.outstandingPackets
    outstandingPacketContexts :=
      update tx.outstandingPacketContexts (s.nextPsn work) (some work) }

def transmitted (s : Sender) (work : WorkId) (chosen : Nat) : Sender :=
  { s with
    tx := update s.tx (windowOf work.type) (s.nextTx work)
    flowIds := setAt s.flowIds (windowOf work.type) (s.nextPsn work)
      (s.flowId (s.nextLabel work chosen))
    packets := update s.packets work
      ⟨s.nextPsn work, (s.packets work).transmitAttempts + 1, s.nextLabel work chosen⟩
    outstandingCount := s.nextCount work chosen }

lemma transmitted_packets (s : Sender) (work : WorkId) (chosen : Nat) (work' : WorkId) :
    (s.transmitted work chosen).packets work' =
      if work' = work then
        ⟨s.nextPsn work, (s.packets work).transmitAttempts + 1, s.nextLabel work chosen⟩
      else s.packets work' :=
  update_apply _ _ _ _

lemma addToOutstandingPackets_numbered (s : Sender) (work : WorkId) (chosen : Nat) :
    ((s.assignPsn work).chooseOutgoingPacketFlowLabel work chosen).addToOutstandingPackets work =
      s.transmitted work chosen := by
  by_cases hfirst : (s.packets work).transmitAttempts = 0
  · simp [assignPsn, hfirst, chooseOutgoingPacketFlowLabel, addToOutstandingPackets, transmitted,
      nextTx, nextPsn, nextLabel, nextCount, setPacket, setTx, retransmissionWorkId, flowId,
      updateOutstandingCounterAfterNewFlowLabel, updateOutstandingCounter]
  · have hpos : 0 < (s.packets work).transmitAttempts := Nat.pos_of_ne_zero hfirst
    simp [assignPsn, hfirst, hpos, chooseOutgoingPacketFlowLabel, addToOutstandingPackets,
      transmitted, nextTx, nextPsn, nextLabel, nextCount, setPacket, setTx, retransmissionWorkId,
      flowId, updateOutstandingCounterAfterNewFlowLabel, updateOutstandingCounter]

lemma transmitPacket_eq (s : Sender) (work : WorkId) (chosen : Nat) :
    s.transmitPacket work chosen =
      (((s.transmitted work chosen).incrementRequestCount
        (0 < (s.packets work).transmitAttempts) work).emit
        (.transmit work (s.flowId (s.nextLabel work chosen)))) := by
  have hstate := s.addToOutstandingPackets_numbered work chosen
  have hpacket : ((s.assignPsn work).chooseOutgoingPacketFlowLabel work chosen).packets work =
      (s.transmitted work chosen).packets work := by
    rw [← hstate]
    rfl
  have hflow :
    ∀ label, ((s.assignPsn work).chooseOutgoingPacketFlowLabel work chosen).flowId label =
      s.flowId label := by
    intro label
    have hnumFlows := congrArg Sender.numFlows hstate
    exact congrArg (label.toNat % ·) hnumFlows
  unfold transmitPacket
  dsimp only
  rw [hstate, hpacket, hflow]
  simp [transmitted]

/-! ## Retransmissions -/

def requeued (s : Sender) (entry : RetransmissionWorkId) : Sender :=
  let w := windowOf entry.type
  (s.setRetransmissionQueue w
    (OrderedSet.insert RetransmissionWorkId.lt entry (s.retransmissionQueues w))).setTx w
    { s.tx w with
      outstandingPackets := OrderedSet.erase RetransmissionWorkId.lt entry
        (s.tx w).outstandingPackets }

lemma initiateRetransmission_recounts {entry : RetransmissionWorkId}
    (hentry : s.retransmissionWorkId ⟨entry.rsn, entry.type⟩ = entry)
    (hqueue : entry.psn ∉ (s.retransmissionQueues (windowOf entry.type)).map (·.psn)) :
    (s.setRetransmissionQueue (windowOf entry.type) (OrderedSet.insert RetransmissionWorkId.lt entry
      (s.retransmissionQueues (windowOf entry.type)))).Recounts
      (s.initiateRetransmission ⟨entry.rsn, entry.type⟩) := by
  have hcontains : OrderedSet.contains RetransmissionWorkId.lt entry
      (s.retransmissionQueues (windowOf entry.type)) = false :=
    (OrderedSet.contains_eq_false_iff RetransmissionWorkId.equiv_lt_iff).mpr hqueue
  unfold initiateRetransmission
  dsimp only
  rw [hentry, hcontains, if_neg Bool.false_ne_true]
  split
  · exact decrementOutstandingRetransmittedRequestCount_recounts _ _ _
  · exact .refl _

lemma retransmitOutstanding_recounts {checked : Bool} {entry : RetransmissionWorkId}
    (hentry : s.retransmissionWorkId ⟨entry.rsn, entry.type⟩ = entry)
    (hqueue : entry.psn ∉ (s.retransmissionQueues (windowOf entry.type)).map (·.psn))
    (hbit : Bitmap.get (s.tx (windowOf entry.type)).window
      (txBitmapIndex (s.tx (windowOf entry.type)) entry.psn) = false) :
    (s.requeued entry).Recounts (s.retransmitOutstanding checked entry) := by
  unfold retransmitOutstanding requeued
  dsimp only
  rw [hbit, Bool.and_false, if_neg Bool.false_ne_true]
  refine (initiateRetransmission_recounts hentry hqueue).setTx (f := fun tx => { tx with
    outstandingPackets := OrderedSet.erase RetransmissionWorkId.lt entry tx.outstandingPackets })
    fun tx tx' heq => ?_
  simp_all [TransmitterReliabilityWindowMetadata.core]

def resent (s : Sender) (entry : RetransmissionWorkId) : Sender :=
  let w := windowOf entry.type
  (s.transmitted ⟨entry.rsn, entry.type⟩ 0).setRetransmissionQueue w
    (OrderedSet.erase RetransmissionWorkId.lt entry (s.retransmissionQueues w))

lemma scheduleRetransmission_eq (s : Sender) (entry : RetransmissionWorkId) :
    s.scheduleRetransmission entry = ((s.resent entry).incrementRequestCount
      (0 < (s.packets ⟨entry.rsn, entry.type⟩).transmitAttempts) ⟨entry.rsn, entry.type⟩).emit
      (.transmit ⟨entry.rsn, entry.type⟩ (s.flowId (s.nextLabel ⟨entry.rsn, entry.type⟩ 0))) := by
  unfold scheduleRetransmission resent
  rw [transmitPacket_eq]
  unfold incrementRequestCount
  split <;> rfl

/-! ## Acknowledgements -/

def removed (s : Sender) (w : WindowType) (psn : Psn) (work : WorkId) : Sender :=
  let entry : RetransmissionWorkId := ⟨work.rsn, psn, work.type⟩
  if OrderedSet.contains RetransmissionWorkId.lt entry (s.tx w).outstandingPackets then
    s.setTx w { s.tx w with
      outstandingPackets := OrderedSet.erase RetransmissionWorkId.lt entry
        (s.tx w).outstandingPackets }
  else s.dequeuePacketFromRetxScheduler work

def forget (s : Sender) (w : WindowType) (psn : Psn) : Sender :=
  s.setTx w { s.tx w with
    outstandingPacketContexts := update (s.tx w).outstandingPacketContexts psn none }

def acked (s : Sender) (w : WindowType) (psn : Psn) (work : WorkId) : Sender :=
  ((s.removed w psn work).updateOutstandingCounter (s.flowIds w psn) (-1)).forget w psn

lemma Recounts.outstandingPackets (h : s.Recounts s') (w : WindowType) :
    (s'.tx w).outstandingPackets = (s.tx w).outstandingPackets := by
  obtain ⟨tx, l, rfl, hcore, -⟩ := h
  have heq := congrArg TransmitterReliabilityWindowMetadata.outstandingPackets (hcore w)
  exact heq

lemma Recounts.removed (h : s.Recounts s') :
    (s.removed w psn work).Recounts (s'.removed w psn work) := by
  unfold Sender.removed
  dsimp only
  rw [h.outstandingPackets w]
  split
  · rw [← h.outstandingPackets w]
    refine h.setTx (f := fun tx => { tx with outstandingPackets := _ }) fun tx tx' heq => ?_
    simp_all [TransmitterReliabilityWindowMetadata.core]
  · obtain ⟨tx, l, rfl, hcore, hl⟩ := h
    exact ⟨tx, l, rfl, hcore, hl⟩

lemma Recounts.forget (h : s.Recounts s') : (s.forget w psn).Recounts (s'.forget w psn) := by
  refine h.setTx (f := fun tx => { tx with
    outstandingPacketContexts := update tx.outstandingPacketContexts psn none })
    fun tx tx' heq => ?_
  simp_all [TransmitterReliabilityWindowMetadata.core]

lemma removeOutstandingPacket_recounts (s : Sender) (w : WindowType) (psn : Psn) (work : WorkId) :
    (s.removed w psn work).Recounts (s.removeOutstandingPacket w psn work) := by
  unfold removed removeOutstandingPacket
  dsimp only
  split
  · split
    · exact decrementOutstandingRetransmittedRequestCount_recounts _ _ _
    · exact .refl _
  · exact .refl _

lemma Recounts.updateOutstandingCounter (h : s.Recounts s') (flow : Nat) (delta : BitVec 32) :
    (s.updateOutstandingCounter flow delta).Recounts (s'.updateOutstandingCounter flow delta) := by
  obtain ⟨tx, l, rfl, hcore, hl⟩ := h
  exact ⟨tx, l, rfl, hcore, hl⟩

lemma Recounts.flowIds (h : s.Recounts s') : s'.flowIds = s.flowIds := by
  obtain ⟨tx, l, rfl, -⟩ := h
  rfl

lemma removed_flowIds (s : Sender) (w : WindowType) (psn : Psn) (work : WorkId) :
    (s.removed w psn work).flowIds = s.flowIds := by
  unfold removed
  dsimp only
  split <;> rfl

lemma enqueueAckToUlp_spec (h : (s.tx w).outstandingPacketContexts psn = some work) :
    ∃ s', (s.acked w psn work).Recounts s' ∧ s.enqueueAckToUlp w psn =
      .ok (s'.emit (.ack work)) := by
  have hbefore :
    s.Recounts ((s.decrementOutstandingRequestCount work).settleRetransmittedRequest work) :=
    (s.decrementOutstandingRequestCount_recounts work).trans
      (settleRetransmittedRequest_recounts _ _)
  have hremoved : (s.removed w psn work).Recounts (((s.decrementOutstandingRequestCount
      work).settleRetransmittedRequest work).removeOutstandingPacket w psn work) :=
    hbefore.removed.trans (removeOutstandingPacket_recounts _ w psn work)
  unfold enqueueAckToUlp
  rw [h]
  dsimp only
  rw [hremoved.flowIds, removed_flowIds]
  exact ⟨_, (hremoved.updateOutstandingCounter _ _).forget, rfl⟩

end Sender

end Isekai.Falcon
