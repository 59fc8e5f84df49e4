import Isekai.Falcon.SenderAcks
import Isekai.Falcon.WindowFrames

/-!
# The sender and the endpoint

`Endpoint` has the functions of `gen1/packet_reliability_manager.cc` with all that they touch,
`Sender` those that move the transmitter windows, with what the multipath generations override.
Where both have a function they agree: an endpoint that has the windows, the packets and the
retransmission queues of a reachable sender has those of a reachable sender again after it has
transmitted, handled an acknowledgement or a timeout. What holds in every run of the sender so holds
of the endpoint.
-/

namespace Isekai.Falcon

open Lib Function

/-- The sender knows the packet as the endpoint does. -/
structure PacketMetadata.SentAs (pm : PacketMetadata) (sent : SentPacket) : Prop where
  attempts : sent.transmitAttempts = pm.transmitAttempts
  psn : ∀ psn, pm.psn = some psn → sent.psn = psn

/-- The endpoint has the windows of the sender, but for the notifications of out-of-window drops,
and knows of each of its packets what the sender knows. -/
structure Endpoint.SendsLike (e : Endpoint) (s : Sender) : Prop where
  tx : ∀ w, ∃ oow, e.tx w = { s.tx w with oowNotificationReceived := oow }
  packets : ∀ {rsn t pm}, e.outgoing rsn t = some pm → pm.SentAs (s.packets ⟨rsn, t⟩)
  queues : e.retransmissionQueues = s.retransmissionQueues
  countsAcks : s.decrementOrcOnPullResponse = false

namespace Endpoint

variable {e e' : Endpoint} {s : Sender} {w : WindowType} {psn : Psn} {work : WorkId} {rsn : Rsn}
  {t : PacketType} {location : TransactionLocation} {tr : TransactionMetadata}
  {pm pm' : PacketMetadata} {x : RetransmissionWorkId}

lemma SendsLike.sameWindow (h : e.SendsLike s) (w : WindowType) : (s.tx w).SameWindow (e.tx w) := by
  obtain ⟨oow, htx⟩ := h.tx w
  rw [htx]
  exact ⟨rfl, rfl, rfl, rfl, rfl⟩

lemma SendsLike.frame (h : e.SendsLike s) (htx : e'.tx = e.tx)
    (hqueues : e'.retransmissionQueues = e.retransmissionQueues)
    (hpackets : KeepsPackets e.transactions e'.transactions) : e'.SendsLike s := by
  refine ⟨fun w => htx ▸ h.tx w, fun hpm' => ?_, hqueues.trans h.queues, h.countsAcks⟩
  obtain ⟨pm, hpm, _, _, rfl⟩ := hpackets.outgoing hpm'
  exact ⟨(h.packets hpm).attempts, (h.packets hpm).psn⟩

lemma SendsLike.emit (h : e.SendsLike s) (a : Action) : (e.emit a).SendsLike s :=
  h.frame rfl rfl (.refl _)

lemma SendsLike.log (h : e.SendsLike s) (a : SenderAction) : e.SendsLike (s.emit a) :=
  ⟨h.tx, h.packets, h.queues, h.countsAcks⟩

lemma SendsLike.gate (h : e.SendsLike s) : Ensures AnyFault (·.SendsLike s) e.gate :=
  e.gate_eq.imp fun _ heq => heq ▸ h

lemma SendsLike.setupRetransmitTimer (h : e.SendsLike s) :
    Ensures AnyFault (·.SendsLike s) e.setupRetransmitTimer := by
  refine (ensures_any _).bind fun request _ => ?_
  refine (ensures_any _).bind fun data _ => ?_
  split
  · exact h
  · exact .ite (fun _ => h) fun _ => h.frame rfl rfl (.refl _)

lemma SendsLike.mapTx (h : e.SendsLike s) (w : WindowType)
    (f : TransmitterReliabilityWindowMetadata → TransmitterReliabilityWindowMetadata)
    (hf : ∀ tx oow, f { tx with oowNotificationReceived := oow } =
      { f tx with oowNotificationReceived := oow }) :
    (e.setTx w (f (e.tx w))).SendsLike (s.setTx w (f (s.tx w))) := by
  refine ⟨fun w' => ?_, h.packets, h.queues, h.countsAcks⟩
  by_cases hw : w' = w
  · subst hw
    obtain ⟨oow, htx⟩ := h.tx w'
    refine ⟨oow, ?_⟩
    simp only [Endpoint.setTx, Sender.setTx, update_self]
    rw [htx, hf]
  · simpa [Endpoint.setTx, Sender.setTx, hw] using h.tx w'

lemma SendsLike.setRetransmissionQueue (h : e.SendsLike s) (w : WindowType)
    (l : List RetransmissionWorkId) :
    (e.setRetransmissionQueue w l).SendsLike (s.setRetransmissionQueue w l) := by
  refine ⟨h.tx, h.packets, ?_, h.countsAcks⟩
  simp [Endpoint.setRetransmissionQueue, Sender.setRetransmissionQueue, h.queues]

/-! ## Counters of requests -/

lemma SendsLike.setCounter (h : e.SendsLike s) (w : WindowType) (retransmitted : Bool)
    (f : BitVec 32 → BitVec 32) :
    (e.setTx w ((e.tx w).setCounter retransmitted (f ((e.tx w).counter retransmitted)))).SendsLike
      (s.setTx w ((s.tx w).setCounter retransmitted (f ((s.tx w).counter retransmitted)))) :=
  h.mapTx w (fun tx => tx.setCounter retransmitted (f (tx.counter retransmitted)))
    (by intros; cases retransmitted <;> rfl)

lemma SendsLike.decrementCounter (h : e.SendsLike s) (retransmitted : Bool) (work : WorkId)
    (a : Action) :
    Ensures AnyFault (·.SendsLike (s.decrementCounter retransmitted work))
      ((e.setTx (completionWindow work.type)
        ((e.tx (completionWindow work.type)).setCounter retransmitted
          ((e.tx (completionWindow work.type)).counter retransmitted - 1))).emit a).gate :=
  SendsLike.gate (((h.setCounter _ retransmitted (· - 1)).emit a).log _)

lemma SendsLike.decrementOutstandingRequestCount (h : e.SendsLike s) (work : WorkId) :
    Ensures AnyFault (·.SendsLike (s.decrementOutstandingRequestCount work))
      (e.decrementOutstandingRequestCount work.type) := by
  unfold Sender.decrementOutstandingRequestCount Endpoint.decrementOutstandingRequestCount
  rw [if_neg (by simp [h.countsAcks])]
  split
  · exact h.decrementCounter false work _
  · exact h

lemma SendsLike.decrementOutstandingRetransmittedRequestCount (h : e.SendsLike s) (work : WorkId)
    (isAcked : Bool) :
    Ensures AnyFault (·.SendsLike (s.decrementOutstandingRetransmittedRequestCount work isAcked))
      (e.decrementOutstandingRetransmittedRequestCount work.type isAcked) := by
  unfold Sender.decrementOutstandingRetransmittedRequestCount
    Endpoint.decrementOutstandingRetransmittedRequestCount
  rw [if_neg (by simp [h.countsAcks])]
  split
  · exact h.decrementCounter true work _
  · exact h

lemma SendsLike.incrementRequestCount (h : e.SendsLike s) (retransmitted : Bool) (work : WorkId) :
    Ensures AnyFault (·.SendsLike (s.incrementRequestCount retransmitted work))
      (if isOutstandingRequestType work.type then
        (e.setTx (windowOf work.type) ((e.tx (windowOf work.type)).setCounter retransmitted
          ((e.tx (windowOf work.type)).counter retransmitted + 1))).gate
      else pure e) := by
  unfold Sender.incrementRequestCount
  split
  · exact SendsLike.gate ((h.setCounter _ retransmitted (· + 1)).log _)
  · exact h

/-! ## Retransmission -/

lemma retransmissionQueueOf_windowOf (h : retransmissionQueueOf t = .ok w) : w = windowOf t := by
  cases t <;> cases h <;> rfl

lemma SendsLike.retransmissionWorkId (h : e.SendsLike s) (hpm : e.outgoing rsn t = some pm)
    (hpsn : pm.psn = some psn) :
    s.retransmissionWorkId ⟨rsn, t⟩ = ⟨rsn, psn, t⟩ := by
  unfold Sender.retransmissionWorkId
  rw [(h.packets hpm).psn psn hpsn]

lemma SendsLike.enqueueRetransmission (h : e.SendsLike s) (rsn : Rsn) (t : PacketType) :
    Ensures AnyFault (fun q => q.1.transactions = e.transactions ∧
      q.2 = !OrderedSet.contains RetransmissionWorkId.lt (s.retransmissionWorkId ⟨rsn, t⟩)
        (s.retransmissionQueues (windowOf t)) ∧
      q.1.SendsLike (if q.2 then s.setRetransmissionQueue (windowOf t)
        (OrderedSet.insert RetransmissionWorkId.lt (s.retransmissionWorkId ⟨rsn, t⟩)
          (s.retransmissionQueues (windowOf t))) else s)) (e.enqueueRetransmission rsn t) := by
  refine (e.getPacketMetadata_outgoing rsn t).bind ?_
  rintro ⟨key, tr, pm⟩ ⟨-, -, -, -, hpm⟩
  refine (ensures_eq _).bind fun w hw => ?_
  obtain rfl := retransmissionQueueOf_windowOf hw
  cases hpsn : pm.psn with
  | none => exact trivial
  | some psn =>
    rw [h.retransmissionWorkId hpm hpsn, ← h.queues]
    apply Ensures.ite
    · exact fun hqueued => ⟨rfl, by simp [hqueued], h⟩
    · intro hnew
      refine (gate_eq _).bind ?_
      rintro _ rfl
      exact ⟨rfl, by simp [hnew], h.setRetransmissionQueue _ _⟩

lemma SendsLike.initiateRetransmission (h : e.SendsLike s) (rsn : Rsn) (t : PacketType) :
    Ensures AnyFault (·.SendsLike (s.initiateRetransmission ⟨rsn, t⟩))
      (e.initiateRetransmission rsn t) := by
  refine (h.enqueueRetransmission rsn t).bind ?_
  rintro ⟨e₁, inserted⟩ ⟨htransactions, hinserted, h₁⟩
  refine (e₁.getPacketMetadata_outgoing rsn t).bind ?_
  rintro ⟨key, tr, pm⟩ ⟨-, -, -, -, hpm⟩
  have hattempts := (h.packets ((outgoing_congr htransactions rsn t).symm.trans hpm)).attempts
  unfold Sender.initiateRetransmission
  dsimp only at hinserted h₁ hattempts ⊢
  cases inserted with
  | false =>
    rw [if_pos (by simpa using hinserted)]
    exact .ite (fun hnew => nomatch hnew.2) fun _ => h₁.emit _
  | true =>
    rw [if_neg (by simpa using hinserted)]
    simp only [and_true, Sender.setRetransmissionQueue, hattempts]
    split
    · exact (h₁.emit _).decrementOutstandingRetransmittedRequestCount ⟨rsn, t⟩ false
    · exact h₁.emit _

/-! ## Acknowledgement -/

lemma SendsLike.dequeueRetransmission (h : e.SendsLike s) (rsn : Rsn) (t : PacketType) :
    Ensures AnyFault (·.SendsLike (s.dequeuePacketFromRetxScheduler ⟨rsn, t⟩))
      (e.dequeueRetransmission rsn t) := by
  refine (e.getPacketMetadata_outgoing rsn t).bind ?_
  rintro ⟨key, tr, pm⟩ ⟨-, -, -, -, hpm⟩
  refine (ensures_eq _).bind fun w hw => ?_
  obtain rfl := retransmissionQueueOf_windowOf hw
  cases hpsn : pm.psn with
  | none => exact trivial
  | some psn =>
    unfold Sender.dequeuePacketFromRetxScheduler
    rw [h.retransmissionWorkId hpm hpsn, ← h.queues]
    have hset := h.setRetransmissionQueue (windowOf t)
      (OrderedSet.erase RetransmissionWorkId.lt ⟨rsn, psn, t⟩ (e.retransmissionQueues (windowOf t)))
    exact SendsLike.gate ⟨hset.tx, hset.packets, hset.queues, hset.countsAcks⟩

lemma SendsLike.removeOutstandingPacket (h : e.SendsLike s) (w : WindowType) (psn : Psn)
    (work : WorkId) :
    Ensures AnyFault (·.SendsLike (s.removeOutstandingPacket w psn work))
      (e.removeOutstandingPacket w ⟨work.rsn, psn, work.type⟩) := by
  unfold Sender.removeOutstandingPacket Endpoint.removeOutstandingPacket
  dsimp only
  rw [← (h.sameWindow w).outstandingPackets]
  split
  · have herased := h.mapTx w (fun tx => { tx with
      outstandingPackets := OrderedSet.erase RetransmissionWorkId.lt ⟨work.rsn, psn, work.type⟩
        tx.outstandingPackets }) fun _ _ => rfl
    rw [← (h.sameWindow w).outstandingPackets] at herased
    refine (getPacketMetadata_outgoing _ work.rsn work.type).bind ?_
    rintro ⟨key, tr, pm⟩ ⟨-, -, -, -, hpm⟩
    have hattempts := (herased.packets hpm).attempts
    dsimp only at hattempts ⊢
    rw [hattempts]
    split
    · exact herased.decrementOutstandingRetransmittedRequestCount work true
    · exact herased
  · exact h.dequeueRetransmission work.rsn work.type

lemma SendsLike.settleRetransmittedRequest (h : e.SendsLike s)
    (htr : work.type = .pushSolicitedData → ∀ request, tr.packets .pushRequest = some request →
      e.outgoing work.rsn .pushRequest = some request) :
    Ensures AnyFault (·.SendsLike (s.settleRetransmittedRequest work))
      (e.settleRetransmittedRequest work.type tr) := by
  unfold Sender.settleRetransmittedRequest
  apply Ensures.ite
  · intro hsolicited
    refine (tr.getPacketMetadata_found .pushRequest).bind fun request hrequest => ?_
    rw [(h.packets (htr hsolicited request hrequest)).attempts]
    apply Ensures.ite
    · intro hagain
      rw [if_pos ⟨hsolicited, hagain⟩]
      exact h.decrementOutstandingRetransmittedRequestCount work true
    · intro honce
      rw [if_neg fun hsettles => honce hsettles.2]
      exact h
  · intro hother
    rw [if_neg fun hsettles => hother hsettles.1]
    exact h

lemma SendsLike.forgetPacket (h : e.SendsLike s)
    (hcontext : (s.tx w).outstandingPacketContexts psn = some work)
    (htr : work.type = .pushSolicitedData → ∀ request, tr.packets .pushRequest = some request →
      e.outgoing work.rsn .pushRequest = some request) :
    Follows AnyFault SendsLike (e.forgetPacket w psn work tr) (s.enqueueAckToUlp w psn) := by
  refine ((e.decrementOutstandingRequestCount_counts work.type).and
    (h.decrementOutstandingRequestCount work)).bind ?_
  rintro e₁ ⟨hcounts, h₁⟩
  refine (h₁.settleRetransmittedRequest fun hsolicited request hrequest => ?_).bind fun e₂ h₂ => ?_
  · rw [outgoing_congr hcounts.transactions]
    exact htr hsolicited request hrequest
  refine (h₂.removeOutstandingPacket w psn work).bind fun e₃ h₃ => ?_
  unfold Sender.enqueueAckToUlp
  rw [hcontext]
  refine ⟨_, rfl, SendsLike.log (SendsLike.mapTx ?_ w (fun tx => { tx with
    outstandingPacketContexts := update tx.outstandingPacketContexts psn none }) fun _ _ => rfl) _⟩
  exact ⟨h₃.tx, h₃.packets, h₃.queues, h₃.countsAcks⟩

lemma SendsLike.releaseResources (h : e.SendsLike s) (key : TransactionKey) (t : PacketType) :
    Ensures AnyFault (·.SendsLike s) (e.releaseResources key t) := by
  refine (e.releaseResources_cases key t).imp ?_
  rintro e' (⟨rfl, -⟩ | ⟨tr, pm, released, returned, -, htr, hpm, -, -, -, rfl⟩)
  · exact h
  · exact h.frame rfl rfl (.update htr (.createPacket hpm ⟨_, false, rfl⟩))

lemma SendsLike.enqueueAckToUlp (h : e.SendsLike s) (w : WindowType) (psn : Psn) :
    Follows AnyFault SendsLike (e.enqueueAckToUlp w psn) (s.enqueueAckToUlp w psn) := by
  unfold Endpoint.enqueueAckToUlp
  split
  swap
  · exact trivial
  rename_i work hcontext
  rw [(h.sameWindow w).outstandingPacketContexts] at hcontext
  refine Ensures.bind (ensures_eq _) fun location hlocation => ?_
  refine Ensures.bind (e.getTransaction_found _) fun tr htr => ?_
  refine Ensures.bind (P := fun tr' => ∃ state, tr' = { tr with state := state }) ?_ ?_
  · exact (ensures_any _).bind fun state _ => ⟨state, rfl⟩
  rintro _ ⟨state, rfl⟩
  have hstate : (e.setTransaction ⟨work.rsn, location⟩ { tr with state := state }).SendsLike s :=
    h.frame rfl rfl (.update htr fun _ pm hpm => ⟨pm, hpm, .refl pm⟩)
  refine Ensures.bind ((hstate.emit (.ackToUlp w psn work)).forgetPacket hcontext ?_) ?_
  · intro hsolicited request hrequest
    rw [hsolicited] at hlocation
    cases hlocation
    exact outgoing_eq_some rfl (update_self _ _ _) hrequest
  rintro e₁ ⟨s', hs', h₁⟩
  apply Ensures.ite
  · intro _
    refine (insertPacket_reorders _ _ _ _).bind ?_
    rintro ⟨e₂, _⟩ ⟨T, Q, I, R, rfl, hT⟩
    exact ⟨s', hs', h₁.frame rfl rfl (.of_unlocks hT)⟩
  · intro _
    refine (h₁.releaseResources _ _).bind fun e₂ h₂ => ?_
    apply Ensures.ite
    · exact fun _ => ⟨s', hs', h₂.frame rfl rfl (.erase _ _)⟩
    · exact fun _ => ⟨s', hs', h₂⟩

/-! ## The windows -/

lemma SendsLike.ackBelowBase {base : Psn} (h : e.SendsLike s ∧ (e.tx w).base = base) (index : Nat) :
    Follows AnyFault (fun e' s' => e'.SendsLike s' ∧ (e'.tx w).base = base) (ackBelowBase w e index)
      (Sender.ackBelowBase w s index) := by
  obtain ⟨h, rfl⟩ := h
  unfold Endpoint.ackBelowBase Sender.ackBelowBase
  rw [(h.sameWindow w).window, (h.sameWindow w).base]
  split
  · exact trivial
  split
  · refine ((enqueueAckToUlp_acknowledges e w _).and (h.enqueueAckToUlp w _)).imp ?_
    rintro e' ⟨hacked, s', hs', h'⟩
    exact ⟨s', hs', h', (hacked.base w).trans (h.sameWindow w).base⟩
  · exact ⟨s, rfl, h, (h.sameWindow w).base⟩

lemma SendsLike.setOowNotificationReceived (h : e.SendsLike s) (w : WindowType) (value : Bool) :
    Ensures AnyFault (·.SendsLike s) (e.setOowNotificationReceived w value) := by
  apply Ensures.ite
  · exact fun _ => h
  · intro _
    refine SendsLike.gate ⟨fun w' => ?_, h.packets, h.queues,
      h.countsAcks⟩
    obtain ⟨oow, htx⟩ := h.tx w'
    by_cases hw : w' = w
    · subst hw
      exact ⟨value, by simp [Endpoint.setTx, htx]⟩
    · exact ⟨oow, by simp [Endpoint.setTx, hw, htx]⟩

lemma SendsLike.updateOowNotification (h : e.SendsLike s) (w : WindowType) (psn : Psn)
    (own : Bool) :
    Ensures AnyFault (·.SendsLike s) (e.updateOowNotification w psn own) :=
  .ite (fun _ => h.setOowNotificationReceived w false) fun _ =>
    .ite (fun _ => h.setOowNotificationReceived w true) fun _ => h

lemma SendsLike.advanceTxWindow (h : e.SendsLike s) (w : WindowType) (psn : Psn) (own : Bool) :
    Follows AnyFault SendsLike (e.advanceTxWindow w psn own) (s.advanceTxWindow w psn) := by
  unfold Endpoint.advanceTxWindow Sender.advanceTxWindow
  dsimp only
  rw [(h.sameWindow w).base]
  split
  swap
  · exact ⟨s, rfl, h⟩
  refine Ensures.bind (h.updateOowNotification w psn own) fun e₁ h₁ => ?_
  refine (Follows.foldlM (fun index _ _ h => SendsLike.ackBelowBase h index) _
    ⟨h₁, (h₁.sameWindow w).base⟩).bind ?_
  rintro e₂ s₂ ⟨h₂, hbase⟩
  have hshift : Serial.shift (s₂.tx w).base (Serial.dist (s.tx w).base psn) = psn := by
    rw [← (h₂.sameWindow w).base, hbase, Serial.shift_dist]
  unfold Sender.shiftWindow
  rw [hshift]
  exact (SendsLike.gate (SendsLike.emit (h₂.mapTx w (fun tx => { tx with
    window := Bitmap.rightShift tx.window (Serial.dist (s.tx w).base psn)
    base := psn }) fun _ _ => rfl) _)).imp fun e' h' => ⟨_, rfl, h'⟩

lemma SendsLike.advanceTxWindows {f : Endpoint → Outcome} {Q : Endpoint → Prop} (h : e.SendsLike s)
    (bpsn : WindowType → Psn) (own : WindowType → Bool)
    (hf : ∀ e' s', s.advanceTxWindows bpsn = .ok s' → e'.SendsLike s' → Ensures AnyFault Q (f e')) :
    Ensures AnyFault Q (do
      let e ← e.advanceTxWindow .request (bpsn .request) (own .request)
      let e ← e.advanceTxWindow .data (bpsn .data) (own .data)
      f e) := by
  refine Ensures.bind (h.advanceTxWindow .request _ _) ?_
  rintro e₁ ⟨s₁, hs₁, h₁⟩
  refine Ensures.bind (h₁.advanceTxWindow .data _ _) ?_
  rintro e₂ ⟨s₂, hs₂, h₂⟩
  refine hf e₂ s₂ ?_ h₂
  unfold Sender.advanceTxWindows
  rw [hs₁]
  exact hs₂

lemma SendsLike.ackFromBitmap (h : e.SendsLike s) (w : WindowType) (bitmap : BitVec rxBitmapWidth)
    (index : Nat) :
    Follows AnyFault SendsLike (ackFromBitmap w bitmap e index)
      (Sender.ackFromBitmap w bitmap s index) := by
  unfold Endpoint.ackFromBitmap Sender.ackFromBitmap
  rw [(h.sameWindow w).window, (h.sameWindow w).base]
  split
  · refine (h.enqueueAckToUlp w _).bind fun e₁ s₁ h₁ => ?_
    exact ⟨_, rfl, h₁.mapTx w (fun tx => { tx with window := Bitmap.set tx.window index true })
      fun _ _ => rfl⟩
  · exact ⟨s, rfl, h⟩

/-! ## Implicit and piggybacked acknowledgements -/

lemma SendsLike.handlePiggybackedACK (h : e.SendsLike s) (bpsn : WindowType → Psn)
    (own : WindowType → Bool) :
    Follows AnyFault SendsLike (e.handlePiggybackedACK bpsn own) (s.handlePiggybackedACK bpsn) := by
  unfold Endpoint.handlePiggybackedACK Sender.handlePiggybackedACK Sender.isStale
  rw [(h.sameWindow .request).base, (h.sameWindow .data).base]
  split
  · exact ⟨s, rfl, h⟩
  · exact h.advanceTxWindows bpsn own fun e' s' hs' h' =>
      h'.setupRetransmitTimer.imp fun _ h'' => ⟨s', hs', h''⟩

lemma SendsLike.advanceOverImplicitAck (h : e.SendsLike s) (w : WindowType) (psn : Psn) :
    Ensures AnyFault (·.SendsLike (if psn = (s.tx w).base then s.shiftWindow w 1 else s))
      (e.advanceOverImplicitAck w psn) := by
  unfold Endpoint.advanceOverImplicitAck
  rw [(h.sameWindow w).base]
  split
  · exact SendsLike.gate (SendsLike.emit (h.mapTx w (fun tx => { tx with
      window := Bitmap.rightShift tx.window 1
      base := (s.tx w).base + 1 }) fun _ _ => rfl) _)
  · exact h

/-- A packet that is received belongs to the transaction of the packet that it acknowledges. -/
lemma outgoing_of_implicitlyAcked {ackedType : PacketType}
    (hacked : implicitlyAcked t = some ackedType)
    (hlocation : getTransactionLocation t true = .ok location)
    (htr : e.transactions ⟨rsn, location⟩ = some tr) (hpm : tr.packets ackedType = some pm) :
    e.outgoing rsn ackedType = some pm := by
  cases t <;> cases hacked <;> cases hlocation <;> exact outgoing_eq_some rfl htr hpm

lemma SendsLike.handleImplicitAck (h : e.SendsLike s) (rsn : Rsn) (t : PacketType) :
    Follows AnyFault SendsLike (e.handleImplicitAck rsn t) (s.handleImplicitAck t rsn) := by
  unfold Endpoint.handleImplicitAck Sender.handleImplicitAck
  cases hacked : implicitlyAcked t with
  | none => exact ⟨s, rfl, h⟩
  | some ackedType =>
    refine Ensures.bind (ensures_eq _) fun location hlocation => ?_
    refine Ensures.bind (e.getTransaction_found _) fun tr htr => ?_
    refine Ensures.bind (tr.getPacketMetadata_found ackedType) fun pm hpm => ?_
    cases hpsn : pm.psn with
    | none => exact trivial
    | some psn =>
      have hpacket :=
        (h.packets (outgoing_of_implicitlyAcked hacked hlocation htr hpm)).psn psn hpsn
      dsimp only [Serial.dist]
      rw [hpacket, (h.sameWindow (windowOf ackedType)).base,
        (h.sameWindow (windowOf ackedType)).window]
      split
      · exact ⟨s, rfl, h⟩
      split
      · exact trivial
      split
      · refine (h.enqueueAckToUlp (windowOf ackedType) psn).bind fun e₁ s₁ h₁ => ?_
        have hbit := h₁.mapTx (windowOf ackedType) (fun tx => { tx with
          window := Bitmap.set tx.window (psn - (s.tx (windowOf ackedType)).base).toNat true })
          fun _ _ => rfl
        refine Ensures.bind (hbit.advanceOverImplicitAck (windowOf ackedType) psn) fun e₂ h₂ => ?_
        exact h₂.setupRetransmitTimer.imp fun _ h₃ => ⟨_, rfl, h₃⟩
      · exact ⟨s, rfl, h⟩

/-- The acknowledgements that a received packet carries. -/
lemma SendsLike.handleIncomingPacket (h : e.SendsLike s) (rsn : Rsn) (t : PacketType)
    (bpsn : WindowType → Psn) (own : WindowType → Bool) :
    Follows AnyFault SendsLike
      (e.handleImplicitAck rsn t >>= fun e => e.handlePiggybackedACK bpsn own)
      (s.handleIncomingPacket t rsn bpsn) := by
  refine (h.handleImplicitAck rsn t).bind fun e₁ s₁ h₁ => ?_
  refine Ensures.imp (h₁.handlePiggybackedACK bpsn own) ?_
  rintro e₂ ⟨s₂, hs₂, h₂⟩
  refine ⟨s₂.emit (.accept ⟨rsn, t⟩), ?_, h₂.log _⟩
  rw [hs₂, Ensures.ok_bind]
  dsimp only
  rw [if_neg (by simp [(h₂.log _).countsAcks])]
  rfl

/-! ## The loops that retransmit -/

lemma SendsLike.setPacketMetadata (h : e.SendsLike s) (pm : PacketMetadata) (sent : SentPacket)
    (hlocation : getTransactionLocation t false = .ok location)
    (htr : e.transactions ⟨rsn, location⟩ = some tr) (hsent : pm.SentAs sent) :
    (e.setPacketMetadata ⟨rsn, location⟩ tr t pm).SendsLike (s.setPacket ⟨rsn, t⟩ sent) := by
  refine ⟨h.tx, fun {rsn' t' pm'} hpm' => ?_, h.queues, h.countsAcks⟩
  have hpackets : (s.setPacket ⟨rsn, t⟩ sent).packets ⟨rsn', t'⟩ =
      if rsn' = rsn ∧ t' = t then sent else s.packets ⟨rsn', t'⟩ := by
    simp [Sender.setPacket, update_apply]
  rw [outgoing_setPacketMetadata hlocation htr] at hpm'
  rw [hpackets]
  split at hpm'
  · rw [if_pos ‹_›, ← Option.some.inj hpm']
    exact hsent
  · rw [if_neg ‹_›]
    exact h.packets hpm'

/-- A packet keeps its number and its attempts until it is sent again. -/
lemma SendsLike.keepPacket (h : e.SendsLike s) (pm' : PacketMetadata)
    (hlocation : getTransactionLocation t false = .ok location)
    (htr : e.transactions ⟨rsn, location⟩ = some tr) (hpm : tr.packets t = some pm)
    (hattempts : pm'.transmitAttempts = pm.transmitAttempts) (hpsn : pm'.psn = pm.psn) :
    (e.setPacketMetadata ⟨rsn, location⟩ tr t pm').SendsLike s := by
  have hsent := h.packets (outgoing_eq_some hlocation htr hpm)
  have hset := h.setPacketMetadata pm' (s.packets ⟨rsn, t⟩) hlocation htr
    ⟨hsent.attempts.trans hattempts.symm, hpsn ▸ hsent.psn⟩
  rwa [Sender.setPacket, update_eq_self] at hset

lemma SendsLike.retransmitOutstanding (h : e.SendsLike s) (checked : Bool)
    (hwindow : windowOf x.type = w)
    (hclear : (checked && Bitmap.get (s.tx w).window (txBitmapIndex (s.tx w) x.psn)) = false) :
    Ensures AnyFault (fun e' => (e'.tx w).outstandingPackets = (e.tx w).outstandingPackets ∧
      (e'.setTx w { e'.tx w with
        outstandingPackets :=
          OrderedSet.erase RetransmissionWorkId.lt x (e'.tx w).outstandingPackets }).SendsLike
        (s.retransmitOutstanding checked x)) (e.initiateRetransmission x.rsn x.type) := by
  refine ((e.initiateRetransmission_counts x.rsn x.type).and
    (h.initiateRetransmission x.rsn x.type)).imp ?_
  rintro e' ⟨⟨pm, -, hcounts⟩, h'⟩
  refine ⟨(hcounts.tx w).outstandingPackets, ?_⟩
  unfold Sender.retransmitOutstanding
  dsimp only
  rw [hwindow, hclear, if_neg Bool.false_ne_true]
  exact h'.mapTx w (fun tx => { tx with
    outstandingPackets := OrderedSet.erase RetransmissionWorkId.lt x tx.outstandingPackets })
    fun _ _ => rfl

/-! ## Transmission -/

lemma SendsLike.numberTransmission (h : e.SendsLike s)
    (hlocation : getTransactionLocation t false = .ok location)
    (htr : e.transactions ⟨rsn, location⟩ = some tr) (hpm : tr.packets t = some pm) :
    Ensures AnyFault (·.SendsLike (s.assignPsn ⟨rsn, t⟩))
      (e.numberTransmission ⟨rsn, location⟩ tr pm t) := by
  have hsent := h.packets (outgoing_eq_some hlocation htr hpm)
  unfold Sender.assignPsn
  dsimp only
  rw [hsent.attempts]
  apply Ensures.ite
  · intro hagain
    rw [if_neg (Nat.one_le_iff_ne_zero.mp hagain)]
    cases hpsn : pm.psn with
    | none => exact trivial
    | some psn =>
      have hset := h.setPacketMetadata { pm with transmitAttempts := pm.transmitAttempts + 1 }
        { s.packets ⟨rsn, t⟩ with transmitAttempts := pm.transmitAttempts + 1 } hlocation htr
        ⟨rfl, hsent.psn⟩
      simp only [hpsn] at hset
      change SendsLike (reportRetransmission _ pm psn) _
      unfold reportRetransmission
      split
      all_goals first | exact hset.emit _ | exact hset
  · intro hfirst
    rw [if_pos (by omega)]
    -- The number is the next one of the window, whatever the sequence number of the solicitation.
    have hset : ∀ ssn, ((e.setPacketMetadata ⟨rsn, location⟩ tr t { pm with
        transmitAttempts := 1
        psn := some (e.tx (windowOf t)).next
        ssn := ssn }).setTx (windowOf t) { e.tx (windowOf t) with
          next := (e.tx (windowOf t)).next + 1 }).SendsLike
        ((s.setPacket ⟨rsn, t⟩ { s.packets ⟨rsn, t⟩ with
          transmitAttempts := 1
          psn := (s.tx (windowOf t)).next }).setTx (windowOf t) { s.tx (windowOf t) with
            next := (s.tx (windowOf t)).next + 1 }) := by
      intro ssn
      refine SendsLike.mapTx (h.setPacketMetadata _ _ hlocation htr ⟨rfl, fun psn hpsn => ?_⟩)
        (windowOf t) (fun tx => { tx with next := tx.next + 1 }) fun _ _ => rfl
      rw [← Option.some.inj hpsn]
      exact (h.sameWindow (windowOf t)).next.symm
    refine (gate_eq _).bind ?_
    rintro _ rfl
    apply Ensures.ite
    · intro _
      refine SendsLike.frame (hset e.currentSolicitationSequenceNumber) rfl rfl ?_
      simp only [Endpoint.setPacketMetadata, setTransaction, Endpoint.setTx, update_idem]
      exact .refl _
    · exact fun _ => hset pm.ssn

lemma SendsLike.chooseOutgoingPacketFlowLabel (h : e.SendsLike s) (work : WorkId) (chosen : Nat) :
    e.SendsLike (s.chooseOutgoingPacketFlowLabel work chosen) := by
  obtain ⟨label, count, heq⟩ : ∃ label count, s.chooseOutgoingPacketFlowLabel work chosen =
      { s.setPacket work
        { s.packets work with flowLabel := label } with outstandingCount := count } := by
    unfold Sender.chooseOutgoingPacketFlowLabel Sender.updateOutstandingCounterAfterNewFlowLabel
    dsimp only
    split <;> exact ⟨_, _, rfl⟩
  rw [heq]
  refine ⟨h.tx, fun {rsn t pm} hpm => ?_, h.queues, h.countsAcks⟩
  have hsent := h.packets hpm
  by_cases hwork : (⟨rsn, t⟩ : WorkId) = work
  · subst hwork
    simpa [Sender.setPacket] using (⟨hsent.attempts, hsent.psn⟩ : pm.SentAs
      { s.packets ⟨rsn, t⟩ with flowLabel := label })
  · simpa [Sender.setPacket, hwork] using hsent

lemma countRetransmission_same (pm : PacketMetadata) :
    (countRetransmission pm).transmitAttempts = pm.transmitAttempts ∧
      (countRetransmission pm).psn = pm.psn := by
  unfold countRetransmission
  split
  · split <;> exact ⟨rfl, rfl⟩
  · exact ⟨rfl, rfl⟩

lemma SendsLike.addToOutstandingPackets (h : e.SendsLike s)
    (hpsn : (s.packets ⟨rsn, t⟩).psn = psn) :
    (e.addToOutstandingPackets rsn psn t).SendsLike (s.addToOutstandingPackets ⟨rsn, t⟩) := by
  have hadded := h.mapTx (windowOf t) (fun tx => { tx with
    outstandingPackets :=
      OrderedSet.insert RetransmissionWorkId.lt ⟨rsn, psn, t⟩ tx.outstandingPackets
    outstandingPacketContexts := update tx.outstandingPacketContexts psn (some ⟨rsn, t⟩) })
    fun _ _ => rfl
  unfold Sender.addToOutstandingPackets Sender.retransmissionWorkId
  dsimp only
  rw [hpsn]
  exact ⟨hadded.tx, hadded.packets, hadded.queues, hadded.countsAcks⟩

lemma SendsLike.setupRetransmission (h : e.SendsLike s)
    (hlocation : getTransactionLocation t false = .ok location)
    (hpsn : (s.packets ⟨rsn, t⟩).psn = psn) :
    Ensures AnyFault (·.SendsLike (s.addToOutstandingPackets ⟨rsn, t⟩))
      (e.setupRetransmission ⟨rsn, location⟩ t psn) := by
  refine (e.getTransaction_found _).bind fun tr htr => ?_
  refine (tr.getPacketMetadata_found t).bind fun pm hpm => ?_
  have hsame := countRetransmission_same { pm with transmissionTime := e.now }
  have hkept := h.keepPacket _ hlocation htr hpm hsame.1 hsame.2
  exact (hkept.addToOutstandingPackets hpsn).setupRetransmitTimer

lemma SendsLike.countTransmission (h : e.SendsLike s) (key : TransactionKey) (work : WorkId)
    (isRetransmission : Bool) :
    Ensures AnyFault (·.SendsLike (s.incrementRequestCount isRetransmission work))
      (e.countTransmission key work.type isRetransmission) := by
  unfold Endpoint.countTransmission
  cases isRetransmission with
  | true => exact h.incrementRequestCount true work
  | false =>
    refine (h.incrementRequestCount false work).bind fun e₁ h₁ => ?_
    refine (e₁.getTransaction_found key).bind fun tr htr => ?_
    refine Ensures.bind (P := fun tr' => ∃ state, tr' = { tr with state := state }) ?_ ?_
    · exact (ensures_any _).bind fun state _ => ⟨state, rfl⟩
    rintro _ ⟨state, rfl⟩
    exact h₁.frame rfl rfl (.update htr fun _ pm hpm => ⟨pm, hpm, .refl pm⟩)

lemma SendsLike.sendPacket (h : e.SendsLike s)
    (hlocation : getTransactionLocation t false = .ok location) (ackReq isRetransmission : Bool) :
    Ensures AnyFault (·.SendsLike ((s.addToOutstandingPackets ⟨rsn, t⟩).incrementRequestCount
      isRetransmission ⟨rsn, t⟩)) (e.sendPacket ⟨rsn, location⟩ t ackReq isRetransmission) := by
  refine (e.getTransaction_found _).bind fun tr htr => ?_
  refine (tr.getPacketMetadata_found t).bind fun pm hpm => ?_
  have hsent := h.packets (outgoing_eq_some hlocation htr hpm)
  cases hpsn : pm.psn with
  | none => exact trivial
  | some psn =>
    refine (h.setupRetransmission hlocation (hsent.psn psn hpsn)).bind fun e₁ h₁ => ?_
    obtain ⟨c, n, hpiggybacked⟩ := e₁.piggybackAck_eq
    have h₂ : (e₁.piggybackAck.createReceivedPacketContext ⟨rsn, location⟩).SendsLike
        (s.addToOutstandingPackets ⟨rsn, t⟩) := by
      rw [hpiggybacked]
      exact h₁.frame rfl rfl (.refl _)
    exact (h₂.countTransmission _ ⟨rsn, t⟩ _).bind fun e₃ h₃ => h₃.emit _

lemma SendsLike.transmitPacket (h : e.SendsLike s) (rsn : Rsn) (t : PacketType) (ackReq : Bool)
    (chosen : Nat) :
    Ensures AnyFault (·.SendsLike (s.transmitPacket ⟨rsn, t⟩ chosen))
      (e.transmitPacket rsn t ackReq) := by
  refine (e.getPacketMetadata_outgoing rsn t).bind ?_
  rintro ⟨⟨rsn', location⟩, tr, pm⟩ ⟨hrsn, hlocation, htr, hpm, hsent⟩
  obtain rfl : rsn' = rsn := hrsn
  have hattempts := (h.packets hsent).attempts
  refine (h.numberTransmission hlocation htr hpm).bind fun e₁ h₁ => ?_
  have hchosen := h₁.chooseOutgoingPacketFlowLabel ⟨rsn', t⟩ chosen
  refine (hchosen.sendPacket hlocation ackReq _).imp fun e₂ h₂ => ?_
  rw [Sender.addToOutstandingPackets_numbered] at h₂
  rw [Sender.transmitPacket_eq, hattempts]
  exact h₂.log _

section Steps

variable {numFlows : Nat} {l : List RetransmissionWorkId}

/-- The sender is reachable, with the counters of the first generation. -/
abbrev Sender.Occurs (numFlows : Nat) : Sender → Prop :=
  (Sender.runs false numFlows).Reachable fun _ _ => True

/-- The endpoint sends like some reachable sender. -/
def SendsLikeReachable (numFlows : Nat) (e : Endpoint) : Prop :=
  ∃ s, Sender.Occurs numFlows s ∧ e.SendsLike s

lemma windowOf_outstanding (hs : Sender.Occurs numFlows s)
    (hx : x ∈ (s.tx w).outstandingPackets) : windowOf x.type = w := by
  have hentries := (Sender.reachable_inv hs).entries
  have hcontext := (hentries.mem_iff w x).mp (List.mem_append_left _ hx)
  exact (hentries.context w x.psn ⟨x.rsn, x.type⟩ hcontext).1

lemma reachable_retransmitOutstanding (hs : Sender.Occurs numFlows s)
    (hx : x ∈ (s.tx w).outstandingPackets) (checked : Bool) :
    Sender.Occurs numFlows (s.retransmitOutstanding checked x) := by
  have hallowed : x ∈ (s.tx (windowOf x.type)).outstandingPackets := by
    rwa [windowOf_outstanding hs hx]
  exact .step (l := .retransmitOutstanding checked x) hs hallowed trivial rfl

lemma SendsLike.timeoutScan (hs : Sender.Occurs numFlows s)
    (h : e.SendsLike s) (hl : (e.tx w).outstandingPackets = l) :
    Ensures AnyFault (SendsLikeReachable numFlows) (e.timeoutScan w l) := by
  -- Each round of the loop that goes on is a step of the sender that removes the head of the set.
  induction l generalizing e s with
  | nil => exact ⟨s, hs, h⟩
  | cons x rest ih =>
    have hx : x ∈ (s.tx w).outstandingPackets := by
      rw [← (h.sameWindow w).outstandingPackets, hl]
      exact List.mem_cons_self
    have hhead : OrderedSet.erase RetransmissionWorkId.lt x (x :: rest) = rest :=
      List.eraseP_cons_of_pos ((RetransmissionWorkId.equiv_lt_iff x x).mpr rfl)
    have hwindow := windowOf_outstanding hs hx
    have hs' := reachable_retransmitOutstanding hs hx true
    obtain ⟨oow, htx⟩ := h.tx w
    have hbit : Bitmap.get (e.tx w).window (txBitmapIndex (e.tx w) x.psn) =
        Bitmap.get (s.tx w).window (txBitmapIndex (s.tx w) x.psn) := by rw [htx]; rfl
    unfold Endpoint.timeoutScan
    dsimp only
    rw [hbit]
    apply Ensures.ite
    · intro hset
      refine ih hs' ?_ (by simp [Endpoint.setTx])
      unfold Sender.retransmitOutstanding
      dsimp only
      rw [hwindow, Bool.true_and, if_pos hset]
      rw [← (h.sameWindow w).outstandingPackets, hl, hhead]
      exact h.mapTx w (fun tx => { tx with outstandingPackets := rest }) fun _ _ => rfl
    intro hclear
    refine (e.getPacketMetadata_outgoing x.rsn x.type).bind ?_
    rintro ⟨⟨_, location⟩, tr, pm⟩ ⟨rfl, hlocation, htr, hpm, -⟩
    refine .ite (fun _ => ⟨s, hs, h⟩) fun _ => .ite (fun _ => trivial) fun _ => ?_
    have hmarked := h.keepPacket (if pm.received then { pm with retransmissionReason := .ulpRto }
      else { pm with
        retransmissionReason := .timeout
        bypassRecencyCheck := true
        bypassScanningExitCriteria := false }) hlocation htr hpm (by split <;> rfl)
          (by split <;> rfl)
    refine (hmarked.retransmitOutstanding true hwindow (by simpa using hclear)).bind ?_
    rintro e₁ ⟨houtstanding, h₁⟩
    have hrest : (e₁.tx w).outstandingPackets = x :: rest := houtstanding.trans hl
    rw [hrest, hhead] at h₁
    exact ih hs' h₁ (by simp [Endpoint.setTx])

lemma SendsLike.eackScan {received : BitVec rxBitmapWidth} {own force : Bool} {limit : Int}
    {instantRtt : Time} (hs : Sender.Occurs numFlows s)
    (h : e.SendsLike s) (hl : ∀ x ∈ l, x ∈ (s.tx w).outstandingPackets)
    (hnodup : (l.map (·.psn)).Nodup) :
    Ensures AnyFault (SendsLikeReachable numFlows)
      (eackScan w received own limit instantRtt e force l) := by
  induction l generalizing e s force with
  | nil => exact ⟨s, hs, h⟩
  | cons x rest ih =>
    have hx := hl x List.mem_cons_self
    have hrest : ∀ y ∈ rest, y ∈ (s.tx w).outstandingPackets := fun y hy =>
      hl y (List.mem_cons_of_mem x hy)
    rw [List.map_cons, List.nodup_cons] at hnodup
    unfold Endpoint.eackScan
    dsimp only
    refine .ite (fun _ => ⟨s, hs, h⟩) fun _ => .ite (fun _ => ih hs h hrest hnodup.2) fun _ => ?_
    refine (e.getPacketMetadata_outgoing x.rsn x.type).bind ?_
    rintro ⟨⟨_, location⟩, tr, pm⟩ ⟨rfl, hlocation, htr, hpm, -⟩
    refine .ite (fun _ => ⟨s, hs, h⟩) fun _ => .ite (fun _ => ?_) fun _ =>
      .ite (fun _ => ih hs h hrest hnodup.2) fun _ => ⟨s, hs, h⟩
    refine .ite (fun _ => trivial) fun _ => ?_
    have hmarked := h.keepPacket { pm with
      retransmissionReason := .earlyOooDis
      bypassRecencyCheck := false
      bypassScanningExitCriteria := !own } hlocation htr hpm rfl rfl
    refine (hmarked.retransmitOutstanding false (windowOf_outstanding hs hx) rfl).bind ?_
    rintro e₁ ⟨houtstanding, h₁⟩
    refine ih (reachable_retransmitOutstanding hs hx false) h₁ (fun y hy => ?_) hnodup.2
    -- The packets that are still to come have other numbers, so they stay in the set.
    have hne : ¬OrderedSet.equiv RetransmissionWorkId.lt x y = true := fun heq =>
      hnodup.1 ((RetransmissionWorkId.equiv_lt_iff x y).mp heq ▸ List.mem_map_of_mem hy)
    rw [← (h₁.sameWindow w).outstandingPackets]
    simp only [Endpoint.setTx, update_self]
    refine (List.mem_eraseP_of_neg hne).mpr ?_
    rw [houtstanding]
    exact (h.sameWindow w).outstandingPackets ▸ hrest y hy

lemma SendsLikeReachable.eackRetransmit (h : SendsLikeReachable numFlows e) (p : AckPacket)
    (limit : Int) (instantRtt : Time) (w : WindowType) :
    Ensures AnyFault (SendsLikeReachable numFlows) (e.eackRetransmit p limit instantRtt w) := by
  obtain ⟨s, hs, h⟩ := h
  have houtstanding := (h.sameWindow w).outstandingPackets
  refine h.eackScan hs (fun x hx => houtstanding ▸ hx) ?_
  rw [houtstanding]
  exact (Sender.reachable_inv hs).entries.nodup_outstanding w

/-! ## Whole handlers -/

/-- Before anything is sent the endpoint sends like the initial sender. -/
theorem sendsLikeReachable_of_fresh (numFlows : Nat) {start : WindowType → Psn}
    (htx : ∀ w, e.tx w = { base := start w, next := start w })
    (hqueues : e.retransmissionQueues = fun _ => [])
    (hpackets : ∀ {rsn t pm}, e.outgoing rsn t = some pm →
      pm.transmitAttempts = 0 ∧ pm.psn = none) : SendsLikeReachable numFlows e := by
  refine ⟨.initial false numFlows start 0 0 fun _ => 0, .init ⟨start, 0, 0, _, rfl⟩,
    fun w => ⟨false, htx w⟩, fun hpm => ⟨(hpackets hpm).1.symm, fun psn hpsn => ?_⟩, hqueues, rfl⟩
  rw [(hpackets hpm).2] at hpsn
  cases hpsn

/-- The outstanding packets have numbers of their own, the window of their type and a context. -/
theorem SendsLikeReachable.outstanding (h : SendsLikeReachable numFlows e) (w : WindowType) :
    ((e.tx w).outstandingPackets.map (·.psn)).Nodup ∧
      ∀ x ∈ (e.tx w).outstandingPackets, windowOf x.type = w ∧
        (e.tx w).outstandingPacketContexts x.psn = some ⟨x.rsn, x.type⟩ := by
  obtain ⟨s, hs, h⟩ := h
  have hentries := (Sender.reachable_inv hs).entries
  rw [(h.sameWindow w).outstandingPackets, (h.sameWindow w).outstandingPacketContexts]
  exact ⟨hentries.nodup_outstanding w, fun x hx => ⟨windowOf_outstanding hs hx,
    (hentries.mem_iff w x).mp (List.mem_append_left _ hx)⟩⟩

lemma SendsLikeReachable.setupRetransmitTimer (h : SendsLikeReachable numFlows e) :
    Ensures AnyFault (SendsLikeReachable numFlows) e.setupRetransmitTimer := by
  obtain ⟨s, hs, h⟩ := h
  exact h.setupRetransmitTimer.imp fun _ h' => ⟨s, hs, h'⟩

theorem SendsLikeReachable.handlePiggybackedACK (h : SendsLikeReachable numFlows e)
    (bpsn : WindowType → Psn) (own : WindowType → Bool) :
    Ensures AnyFault (SendsLikeReachable numFlows) (e.handlePiggybackedACK bpsn own) := by
  obtain ⟨s, hs, h⟩ := h
  refine Ensures.imp (h.handlePiggybackedACK bpsn own) ?_
  rintro e' ⟨s', hs', h'⟩
  exact ⟨s', .step (l := .piggyback bpsn) hs trivial trivial hs', h'⟩

theorem SendsLikeReachable.handleRetransmitTimeout (h : SendsLikeReachable numFlows e) :
    Ensures AnyFault (SendsLikeReachable numFlows) e.handleRetransmitTimeout := by
  refine .ite (fun _ => h) fun _ => ?_
  obtain ⟨s, hs, h⟩ := h
  have hcleared : { e with rtoExpirationBaseTime := 0 }.SendsLike s := h.frame rfl rfl (.refl _)
  refine (hcleared.timeoutScan hs rfl).bind ?_
  rintro e₁ ⟨s₁, hs₁, h₁⟩
  exact (h₁.timeoutScan hs₁ rfl).bind fun e₂ h₂ => h₂.setupRetransmitTimer

/-- The bitmaps of an EACK are read in the step of the sender, the packets that it retransmits are
steps of their own. -/
lemma SendsLike.handleEACK {p : AckPacket} (h : e.SendsLike s)
    (hs : ∀ s₁ s₂, s.ackBitmap p .request = .ok s₁ → s₁.ackBitmap p .data = .ok s₂ →
      Sender.Occurs numFlows s₂) (receivedTimestamp : Time) :
    Ensures AnyFault (fun q => SendsLikeReachable numFlows q.1)
      (e.handleEACK p receivedTimestamp) := by
  refine Ensures.bind (Follows.foldlM (fun index _ _ h => h.ackFromBitmap .request _ index) _ h) ?_
  rintro e₁ ⟨s₁, hs₁, h₁⟩
  refine Ensures.bind (Follows.foldlM (fun index _ _ h => h.ackFromBitmap .data _ index) _ h₁) ?_
  rintro e₂ ⟨s₂, hs₂, h₂⟩
  have hread : SendsLikeReachable numFlows e₂ := ⟨s₂, hs s₁ s₂ hs₁ hs₂, h₂⟩
  apply Ensures.ite
  · intro _
    refine (hread.eackRetransmit p _ _ .request).bind fun e₃ h₃ => ?_
    exact (h₃.eackRetransmit p _ _ .data).bind fun e₄ h₄ => h₄
  · exact fun _ => hread

theorem SendsLikeReachable.handleACK (h : SendsLikeReachable numFlows e) (p : AckPacket)
    (receivedTimestamp : Time) :
    Ensures AnyFault (SendsLikeReachable numFlows) (e.handleACK p receivedTimestamp) := by
  obtain ⟨s, hs, h⟩ := h
  unfold Endpoint.handleACK
  rw [(h.sameWindow .request).base, (h.sameWindow .data).base]
  apply Ensures.ite
  · exact fun _ => ⟨s, hs, h⟩
  intro hfresh
  refine h.advanceTxWindows p.bpsn p.own fun e₁ s₁ hs₁ h₁ => ?_
  have hack : ∀ s', (if p.isEack then do
      let s ← s₁.ackBitmap p .request
      s.ackBitmap p .data else pure s₁) = .ok s' →
      Sender.Occurs numFlows s' := by
    intro s' hs'
    refine .step (l := .ack p) hs trivial trivial ?_
    change s.handleACK p = .ok s'
    unfold Sender.handleACK Sender.isStale
    rw [if_neg hfresh, hs₁]
    exact hs'
  have heack : Ensures AnyFault (fun q => SendsLikeReachable numFlows q.1)
      (e₁.processEACK p receivedTimestamp) := by
    apply Ensures.ite
    · intro heack
      refine h₁.handleEACK (fun s₂ s₃ hs₂ hs₃ => hack s₃ ?_) receivedTimestamp
      rw [if_pos heack, hs₂]
      exact hs₃
    · exact fun hplain => ⟨s₁, hack s₁ (if_neg hplain), h₁⟩
  refine heack.bind ?_
  rintro ⟨e₂, dropDetected⟩ ⟨s₂, hs₂, h₂⟩
  exact SendsLikeReachable.setupRetransmitTimer ⟨s₂, hs₂, h₂.emit _⟩

/-- A packet that the sender may transmit, initially or from its retransmission queue. -/
theorem SendsLike.transmit (hs : Sender.Occurs numFlows s)
    (h : e.SendsLike s) {chosen : Nat} (hallowed : s.Allowed (.transmit ⟨rsn, t⟩ chosen))
    (ackReq : Bool) :
    Ensures AnyFault (SendsLikeReachable numFlows) (e.transmitPacket rsn t ackReq) :=
  (h.transmitPacket rsn t ackReq chosen).imp fun _ h' =>
    ⟨_, .step (l := .transmit ⟨rsn, t⟩ chosen) hs hallowed trivial rfl, h'⟩

theorem SendsLike.receive (hs : Sender.Occurs numFlows s)
    (h : e.SendsLike s) {bpsn : WindowType → Psn} (hallowed : s.Allowed (.receive t rsn bpsn))
    (own : WindowType → Bool) :
    Ensures AnyFault (SendsLikeReachable numFlows)
      (e.handleImplicitAck rsn t >>= fun e => e.handlePiggybackedACK bpsn own) := by
  refine Ensures.imp (h.handleIncomingPacket rsn t bpsn own) ?_
  rintro e' ⟨s', hs', h'⟩
  exact ⟨s', .step (l := .receive t rsn bpsn) hs hallowed trivial hs', h'⟩

end Steps

end Endpoint

end Isekai.Falcon
