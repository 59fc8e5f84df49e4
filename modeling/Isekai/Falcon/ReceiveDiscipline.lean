import Isekai.Falcon.ReceiveArrival

/-!
# The discipline of the receive windows

Every event of an endpoint leaves the receive windows as they are, or records one arrival or one
acknowledgement of the ULP in them.
-/

namespace Isekai.Falcon

open Lib

namespace Endpoint

open ReceiverReliabilityWindowMetadata

variable {e e₁ e₂ : Endpoint} {w : WindowType} {psn : Psn} {rsn : Rsn} {p : TransactionPacket}

/-! ## The other events -/

lemma enqueuePacket_reorders (e : Endpoint) (rsn : Rsn) (t : PacketType) :
    Ensures AnyFault (Reorders e) (e.enqueuePacket rsn t) := by
  refine (e.addPacketToQueue_frame rsn t).bind ?_
  rintro _ ⟨T, Q, rfl, hT⟩
  refine (gate_eq _).imp ?_
  rintro _ rfl
  refine ⟨T, Q, _, _, rfl, ?_⟩
  obtain rfl | ⟨tr, pm, -, htr, hpm, rfl⟩ := hT
  · exact .refl
  · exact .single ⟨_, tr, pm, htr, hpm, rfl⟩

lemma createInitiatorTransaction_keepsHeld (e : Endpoint) (type : TransactionType)
    (requestLength : Nat) (packets : List (PacketType × PacketMetadata)) (first : PacketType) :
    Ensures AnyFault (KeepsHeld e)
      (e.createInitiatorTransaction type requestLength packets first) := by
  refine (ensures_any _).bind fun tr _ => ?_
  have hset : KeepsHeld e (e.setTransaction ⟨e.nextRequestSequenceNumber, .initiator⟩ tr) :=
    .setTransaction nofun
  exact hset.trans (.of_eq rfl rfl rfl)

lemma held_of_ulpRx {state state' : TransactionState}
    (h : nextState state .pullData .ulpRx = .ok state') : state'.held = none := by
  simp only [nextState] at h
  split at h
  · cases h
    rfl
  · cases h

lemma initiateTransaction_keepsHeld (e : Endpoint) (op : RdmaOp) :
    Ensures AnyFault (KeepsHeld e) (e.initiateTransaction op) := by
  have hreserve : Ensures AnyFault (KeepsHeld e) (e.reserveOutgoing op) := by
    refine Ensures.ite (fun _ => .refl e) fun _ => ?_
    exact Ensures.ite (fun _ => takeCredits_keepsHeld _ _ _ _) fun _ => trivial
  refine hreserve.bind fun e₁ h₁ => ?_
  have hcreate : Ensures AnyFault (fun q => KeepsHeld e₁ q.1)
      (e₁.createOrUpdateTransactionFromUlp op) := by
    have hinitiator : ∀ type length packets first (work : WorkId), Ensures AnyFault
        (fun q : Endpoint × WorkId => KeepsHeld e₁ q.1)
        (e₁.createInitiatorTransaction type length packets first >>= fun e => pure (e, work)) :=
      fun _ _ _ _ _ => (createInitiatorTransaction_keepsHeld _ _ _ _ _).bind fun _ h => h
    cases op with
    | read requestLength lengths => exact hinitiator ..
    | readResponse rsn responseLength lengths =>
      refine (e₁.getTransaction_found _).bind fun tr htr => ?_
      refine (updateState_found _ _ _).bind ?_
      rintro _ ⟨state, hstate, rfl⟩
      refine KeepsHeld.setTransaction fun _ t ht => ?_
      rw [held_of_ulpRx hstate] at ht
      cases ht
    | write requestLength lengths =>
      exact Ensures.ite (fun _ => hinitiator ..) fun _ => hinitiator ..
  refine hcreate.bind ?_
  rintro ⟨e₂, work⟩ h₂
  exact (enqueuePacket_reorders e₂ work.rsn work.type).imp fun e₃ h₃ =>
    (h₁.trans h₂).trans h₃.keepsHeld

lemma rnrNackTransaction_keepsHeld (e : Endpoint) (rsn : Rsn) (rnrTimeout : Time) :
    Ensures AnyFault (KeepsHeld e) (e.rnrNackTransaction rsn rnrTimeout) := by
  refine (handleNackFromUlp_keepsHeld e rsn rnrTimeout).bind fun e₁ h₁ => ?_
  refine (e₁.getTransaction_found _).bind fun tr htr => ?_
  refine (updateState_found tr _ _).bind ?_
  rintro _ ⟨state, hstate, rfl⟩
  refine (h₁.trans (.updateState htr fun t ht => held_of_ulp (.inl rfl) hstate ht)).trans ?_
  unfold reorderHandleRnrNackFromUlp
  split <;> exact .of_eq rfl rfl rfl

lemma interHostRx_keepsHeld (e : Endpoint) : Ensures AnyFault (KeepsHeld e) e.interHostRx := by
  unfold interHostRx
  split
  · exact .refl e
  rename_i rsn type rest _
  have hpop : KeepsHeld e { e with interHostQueue := rest } := .of_eq rfl rfl rfl
  refine Ensures.imp (Q := KeepsHeld { e with interHostQueue := rest }) ?_ fun _ => hpop.trans
  generalize ({ e with interHostQueue := rest } : Endpoint) = e₁
  refine Ensures.ite (fun _ => ?_) fun _ => ?_
  · unfold deliverCompletion
    refine Ensures.discard_bind (ensures_any _) fun _ _ => ?_
    refine (ensures_any _).bind fun tr _ => ?_
    have hcomplete : ∀ t, Ensures AnyFault (KeepsHeld e₁) (do
        let tr ← tr.updateState t .ulpCompletionTx
        let e ← (e₁.setTransaction ⟨rsn, .initiator⟩ tr).releaseResources ⟨rsn, .initiator⟩ t
        pure (((e.setReceivedPacketContext ⟨rsn, .initiator⟩ none).eraseTransaction
          ⟨rsn, .initiator⟩).emit (.completion rsn))) := by
      intro t
      refine (ensures_any _).bind fun tr' _ => ?_
      have hset : KeepsHeld e₁ (e₁.setTransaction ⟨rsn, .initiator⟩ tr') := .setTransaction nofun
      refine (releaseResources_keepsHeld _ _ _).bind fun e₂ h₂ => ?_
      have herase : KeepsHeld e₂ ((e₂.setReceivedPacketContext ⟨rsn, .initiator⟩
          none).eraseTransaction ⟨rsn, .initiator⟩) := KeepsHeld.erase _
      exact ((hset.trans h₂).trans herase).trans (.of_eq rfl rfl rfl)
    split
    · exact hcomplete _
    · exact hcomplete _
    · trivial
  · unfold deliverToUlp
    refine (ensures_any _).bind fun location _ => ?_
    refine (e₁.getTransaction_found _).bind fun tr htr => ?_
    refine Ensures.discard_bind (ensures_any _) fun _ _ => ?_
    refine (updateState_found tr _ _).bind ?_
    rintro _ ⟨state, hstate, rfl⟩
    have hset : KeepsHeld e₁ ((e₁.setTransaction ⟨rsn, location⟩ { tr with state := state }).emit
        (.toUlp ⟨rsn, type⟩)) :=
      (KeepsHeld.updateState htr fun t ht => held_of_ulp (.inr rfl) hstate ht).trans
        (.of_eq rfl rfl rfl)
    refine Ensures.ite (fun _ => ?_) fun _ => hset.trans (.of_eq rfl rfl rfl)
    refine (releaseResources_keepsHeld _ _ _).bind fun e₂ h₂ => ?_
    exact (hset.trans h₂).trans (KeepsHeld.erase ⟨rsn, location⟩)

lemma gate_keepsHeld (e : Endpoint) : Ensures AnyFault (KeepsHeld e) e.gate :=
  (gate_path e).imp fun _ h => h.keepsHeld

lemma KeepsHeld.gate (h : KeepsHeld e e₁) : Ensures AnyFault (KeepsHeld e) e₁.gate :=
  (gate_keepsHeld e₁).imp fun _ => h.trans

lemma limitOpRate_keepsHeld (e : Endpoint) : Ensures AnyFault (KeepsHeld e) e.limitOpRate := by
  refine Ensures.bind (P := KeepsHeld e) ?_ fun e₁ h₁ => h₁.trans (.of_eq rfl rfl rfl)
  exact Ensures.ite (fun _ => .refl e) fun _ => KeepsHeld.gate (.of_eq rfl rfl rfl)

lemma transmitPacket_keepsHeld (hinv : ReceiveInv (fun _ => False) e) (rsn : Rsn) (t : PacketType)
    (ackReq : Bool) : Ensures AnyFault (KeepsHeld e) (e.transmitPacket rsn t ackReq) :=
  (transmitPacket_transmits e rsn t ackReq).imp fun _ h => h.keepsHeld hinv

lemma scheduleWork_keepsHeld (hinv : ReceiveInv (fun _ => False) e) (queue : PacketTypeQueue)
    (admitted ackReq : Bool) :
    Ensures AnyFault (KeepsHeld e) (e.scheduleWork queue admitted ackReq) := by
  unfold scheduleWork
  split
  · trivial
  refine Ensures.ite (fun _ => ?_) fun _ => ?_
  · unfold handlePhantomRequest
    refine (e.getPacketMetadata_found _ _).bind ?_
    rintro ⟨key, tr, pm⟩ ⟨-, -, htr, hpm⟩
    refine Ensures.discard_bind (ensures_any _) fun _ _ => ?_
    exact KeepsHeld.gate ((KeepsHeld.createPacket htr hpm).trans (.of_eq rfl rfl rfl))
  · refine (ensures_any _).bind fun canSend _ => Ensures.ite (fun _ => ?_) fun _ => trivial
    refine Ensures.discard_bind (ensures_any _) fun _ _ => ?_
    refine (limitOpRate_keepsHeld e).bind fun e₁ h₁ => ?_
    refine (transmitPacket_keepsHeld (hinv.keepsHeld h₁) _ _ _).bind fun e₂ h₂ => ?_
    exact KeepsHeld.gate ((h₁.trans h₂).trans (.of_eq rfl rfl rfl))

lemma scheduleRetransmission_keepsHeld (hinv : ReceiveInv (fun _ => False) e) (w : WindowType)
    (ackReq : Bool) : Ensures AnyFault (KeepsHeld e) (e.scheduleRetransmission w ackReq) := by
  unfold scheduleRetransmission
  split
  · trivial
  refine (ensures_any _).bind fun canSend _ => Ensures.ite (fun _ => ?_) fun _ => trivial
  refine Ensures.discard_bind (ensures_any _) fun _ _ => ?_
  refine (limitOpRate_keepsHeld e).bind fun e₁ h₁ => ?_
  refine (transmitPacket_keepsHeld (hinv.keepsHeld h₁) _ _ _).bind fun e₂ h₂ => ?_
  exact KeepsHeld.gate ((h₁.trans h₂).trans (.of_eq rfl rfl rfl))

lemma handleNextResponse_keepsHeld (e : Endpoint) (fcwnd ncwnd : BitVec 32)
    (retransmitTimeout : Time) :
    Ensures AnyFault (KeepsHeld e) (e.handleNextResponse fcwnd ncwnd retransmitTimeout) := by
  refine Ensures.bind (P := KeepsHeld e) ?_ fun e₁ h₁ => ?_
  · exact Ensures.ite (fun _ => .refl e) fun _ => KeepsHeld.gate (.of_eq rfl rfl rfl)
  refine Ensures.bind (P := KeepsHeld e) ?_ fun e₂ h₂ => ?_
  · exact Ensures.ite (fun _ => h₁) fun _ => KeepsHeld.gate (h₁.trans (.of_eq rfl rfl rfl))
  have hset : KeepsHeld e { e₂ with congestionControl := { e₂.congestionControl with
      retransmitTimeout := retransmitTimeout } } := h₂.trans (.of_eq rfl rfl rfl)
  refine Ensures.ite (fun _ => ?_) fun _ => hset
  refine (setupRetransmitTimer_path _).imp fun _ h => KeepsHeld.trans ?_ h.keepsHeld
  exact hset.trans (.of_eq rfl rfl rfl)

lemma runCallback_keepsHeld (e : Endpoint) (c : Callback) :
    Ensures AnyFault (KeepsHeld e) (e.runCallback c) := by
  cases c with
  | retransmitTimeout => exact (handleRetransmitTimeout_path e).imp fun _ h => h.keepsHeld
  | ackCoalescingTimeout =>
    change KeepsHeld e e.handleAckCoalescingTimeout
    unfold handleAckCoalescingTimeout
    split
    · exact transmitACK_keepsHeld e
    · exact .refl e
  | rnrTimeout rsn => exact (handleRnrTimeout_reorders e rsn).imp fun _ h => h.keepsHeld
  | clearOpRate => exact KeepsHeld.gate (.of_eq rfl rfl rfl)

/-! ## Runs -/

/-- Why the sequence number at an index of a window becomes acknowledged: a new packet other than
push data arrives with it, or the ULP acknowledges the push data that was received with it. -/
inductive AckCause (e : Endpoint) (w : WindowType) (i : Nat) : Event → Prop where
  | arrival {p : TransactionPacket} {sentTimestamp receivedTimestamp : Time}
      (hwindow : windowOf p.type = w) (hi : i = e.rxIndex w p.psn)
      (hnew : Bitmap.get (e.rx w).receiveWindow i = false) (hpush : isPushData p.type = false) :
      AckCause e w i (.receive (.transaction p) sentTimestamp receivedTimestamp)
  | ulp {rsn : Rsn} {c : ReceivedPacketContext}
      (hcontext : e.receivedPacketContexts ⟨rsn, .target⟩ = some c)
      (hwindow : windowOf c.type = w) (hi : i = e.rxIndex w c.psn)
      (hreceived : Bitmap.get (e.rx w).receiveWindow i = true) (hpush : isPushData c.type = true) :
      AckCause e w i (.ulpAck rsn)

/-- What an event does to a receive window: the bitmaps become `ack` and `receive`, and the base
moves over the leading acknowledged sequence numbers. -/
def MovesWindow (e : Endpoint) (ev : Event) (w : WindowType) (e' : Endpoint) : Prop :=
  ∃ ack receive, Slides (rxWindowSize w) (e.rx w) ack receive (e'.rx w) ∧
    (∀ i, Bitmap.get (e.rx w).ackWindow i = true → Bitmap.get ack i = true) ∧
    (∀ i, Bitmap.get ack i = true → Bitmap.get (e.rx w).ackWindow i = true ∨ e.AckCause w i ev) ∧
    (∀ i, Bitmap.get (e.rx w).receiveWindow i = true → Bitmap.get receive i = true) ∧
    ∀ i, Bitmap.get receive i = true → Bitmap.get (e.rx w).receiveWindow i = true ∨
      ∃ p sentTimestamp receivedTimestamp,
        ev = .receive (.transaction p) sentTimestamp receivedTimestamp ∧
          windowOf p.type = w ∧ i = e.rxIndex w p.psn

lemma MovesWindow.of_sameWindow {ev : Event} (h : (e.rx w).SameWindow (e₁.rx w))
    (hrx : (e.rx w).Disciplined (rxWindowSize w)) : e.MovesWindow ev w e₁ :=
  ⟨_, _, (Records.of_sameWindow h hrx).slides, fun _ h => h, fun _ h => .inl h, fun _ h => h,
    fun _ h => .inl h⟩

lemma KeepsHeld.discipline (h : KeepsHeld e e₁) (hinv : ReceiveInv (fun _ => False) e)
    (ev : Event) : ReceiveInv (fun _ => False) e₁ ∧ ∀ w, e.MovesWindow ev w e₁ :=
  ⟨hinv.keepsHeld h, fun w => .of_sameWindow (h.windows w) (hinv.windows w)⟩

lemma TakesIn.movesWindow (h : TakesIn p e e₁) (hnew : e.IsNew p)
    (hafter : ∀ w, (e₁.rx w).SameWindow (e₂.rx w)) (hinv : ReceiveInv (fun _ => False) e)
    (sentTimestamp receivedTimestamp : Time) (w : WindowType) :
    e.MovesWindow (.receive (.transaction p) sentTimestamp receivedTimestamp) w e₂ := by
  by_cases hw : w = windowOf p.type
  swap
  · exact .of_sameWindow ((h.other w hw).trans (hafter w)) (hinv.windows w)
  subst hw
  have hrecords := h.records.trans_sameWindow (hafter _)
  refine ⟨_, _, hrecords.slides, hrecords.acked, fun i hi => ?_, hrecords.received, fun i hi => ?_⟩
  · rcases (hnew.get_ackAfter i).mp hi with ⟨hpush, rfl⟩ | hacked
    · exact .inr (.arrival rfl rfl hnew.unreceived hpush)
    · exact .inl hacked
  · rcases (hnew.get_receiveAfter i).mp hi with rfl | hreceived
    · exact .inr ⟨p, _, _, rfl, rfl, rfl⟩
    · exact .inl hreceived

lemma AcksHeld.movesWindow {c : ReceivedPacketContext} (h : AcksHeld rsn c e e₁)
    (hinv : ReceiveInv (fun _ => False) e) (w : WindowType) :
    e.MovesWindow (.ulpAck rsn) w e₁ := by
  cases w with
  | request => exact .of_sameWindow h.request (hinv.windows _)
  | data =>
    refine ⟨_, _, h.records.slides, h.records.acked, fun i hi => ?_, h.records.received,
      fun i hi => .inl hi⟩
    have hlt := (hinv.windows .data).lt_of_received _ h.unacked.1
    rw [Bitmap.get_set _ (hlt.trans_le (rxWindowSize_le_width _))] at hi
    split at hi
    · rename_i heq
      subst heq
      exact .inr (.ulp h.context (windowOf_of_isPushData h.push) rfl h.unacked.1 h.push)
    · exact .inl hi

lemma transferRxPacket_discipline (hinv : ReceiveInv (fun _ => False) e) (packet : Packet)
    (sentTimestamp receivedTimestamp : Time) :
    Ensures AnyFault (fun e' => ReceiveInv (fun _ => False) e' ∧
      ∀ w, e.MovesWindow (.receive packet sentTimestamp receivedTimestamp) w e')
      (e.transferRxPacket packet sentTimestamp receivedTimestamp) := by
  cases packet with
  | transaction p =>
    refine Ensures.ite (fun _ => trivial) fun _ => ?_
    refine (handleIncomingPacket_takesIn e p sentTimestamp).bind ?_
    rintro ⟨e₁, status⟩ (⟨hstatus, hkeeps⟩ | ⟨rfl, hnew, htakes⟩)
    · dsimp only at hkeeps hstatus ⊢
      cases status with
      | ok => exact absurd rfl hstatus
      | resourceExhausted =>
        exact (hkeeps.trans (transmitNACK_keepsHeld _ _ _ _ _)).discipline hinv _
      | alreadyExists | outOfRange | notFound => exact hkeeps.discipline hinv _
    · obtain ⟨location, hlocation, harrived⟩ := (htakes hinv).arrived
      refine (deliverToReorderEngine_inv e₁ hlocation harrived).imp ?_
      rintro e₂ ⟨hinv₂, hafter⟩
      exact ⟨hinv₂, fun w => (htakes hinv).movesWindow hnew hafter hinv _ _ w⟩
  | ack p =>
    exact (handleACK_path e p receivedTimestamp).imp fun _ h => h.keepsHeld.discipline hinv _
  | nack p =>
    exact (handleNack_path e p receivedTimestamp).imp fun _ h => h.keepsHeld.discipline hinv _

lemma step_discipline (hinv : ReceiveInv (fun _ => False) e) (ev : Event) :
    Ensures AnyFault (fun e' => ReceiveInv (fun _ => False) e' ∧ ∀ w, e.MovesWindow ev w e')
      (e.step ev) := by
  have hkeeps : ∀ {y : Outcome}, Ensures AnyFault (KeepsHeld e) y → Ensures AnyFault
      (fun e' => ReceiveInv (fun _ => False) e' ∧ ∀ w, e.MovesWindow ev w e') y :=
    fun hy => hy.imp fun _ h => h.discipline hinv ev
  cases ev with
  | ulpOperation op =>
    cases op with
    | readResponse rsn length lengths =>
      refine hkeeps ((initiateTransaction_keepsHeld _ _).imp fun _ h => KeepsHeld.trans ?_ h)
      exact .of_eq rfl rfl rfl
    | read | write => exact hkeeps (initiateTransaction_keepsHeld e _)
  | ulpAck rsn =>
    refine (ackTransaction_acks hinv rsn).imp ?_
    rintro e' ⟨hinv', hkeeps' | ⟨c, hacks⟩⟩
    · exact hkeeps'.discipline hinv _
    · exact ⟨hinv', hacks.movesWindow hinv⟩
  | ulpRnrNack rsn rnrTimeout => exact hkeeps (rnrNackTransaction_keepsHeld e rsn rnrTimeout)
  | interHostRx => exact hkeeps (interHostRx_keepsHeld e)
  | scheduleWork queue admitted ackReq =>
    exact hkeeps (scheduleWork_keepsHeld hinv queue admitted ackReq)
  | scheduleRetransmission w ackReq =>
    exact hkeeps (scheduleRetransmission_keepsHeld hinv w ackReq)
  | receive packet sentTimestamp receivedTimestamp =>
    exact transferRxPacket_discipline hinv packet sentTimestamp receivedTimestamp
  | rueResponse fcwnd ncwnd retransmitTimeout =>
    exact hkeeps (handleNextResponse_keepsHeld e fcwnd ncwnd retransmitTimeout)
  | callback c =>
    refine hkeeps ((runCallback_keepsHeld _ c).imp fun _ h => KeepsHeld.trans ?_ h)
    exact .of_eq rfl rfl rfl
  | advance time => exact hkeeps (KeepsHeld.of_eq rfl rfl rfl)
  | otherConnections credits => exact hkeeps (KeepsHeld.of_eq rfl rfl rfl)

lemma receiveInv_initial (config : Config) (congestionControl : CongestionControlMetadata)
    (tx rx : WindowType → Psn) :
    ReceiveInv (fun _ => False) (initial config congestionControl tx rx) := by
  refine ⟨fun w => ⟨fun i hi => ?_, ?_, fun i hi => ?_⟩, nofun, ?_⟩
  · exact absurd hi (by simp [initial])
  · simp [initial]
  · exact absurd hi (by simp [initial])
  · rintro rsn rsn' t t' c c' - - ⟨tr, htr, -⟩
    cases htr

end Endpoint

/-- The runs of one end of a connection; the network, the ULP and the rest of the host do
anything. -/
def endpointRuns : TransitionSystem Endpoint Event Fatal where
  init e := ∃ config congestionControl tx rx, e = Endpoint.initial config congestionControl tx rx
  allowed _ _ := True
  next := Endpoint.step

namespace Endpoint

open ReceiverReliabilityWindowMetadata

/-- In every run, acknowledged packets are received ones, the first packet of a window is not
acknowledged, every event moves the base of a window over the leading acknowledged packets, push
data is acknowledged by the ULP only, and a call of `HandleIncomingPacket` that returns an error
leaves the windows as they are. -/
theorem receive_window_discipline {e : Endpoint}
    (h : endpointRuns.Reachable (fun _ _ => True) e) :
    (∀ w, (e.rx w).Disciplined (rxWindowSize w)) ∧
      (∀ ev e', e.step ev = .ok e' → ∀ w, e.MovesWindow ev w e') ∧
      ∀ p sentTimestamp e' status, e.handleIncomingPacket p sentTimestamp = .ok (e', status) →
        status ≠ .ok → ∀ w, (e.rx w).SameWindow (e'.rx w) := by
  have hinv : ReceiveInv (fun _ => False) e := by
    refine h.invariant (I := ReceiveInv (fun _ => False)) (E := AnyFault) ?_ fun e ev hinv _ _ =>
      (step_discipline hinv ev).imp fun _ h => h.1
    rintro _ ⟨config, congestionControl, tx, rx, rfl⟩
    exact receiveInv_initial config congestionControl tx rx
  refine ⟨hinv.windows, fun ev e' hstep => ((step_discipline hinv ev).of_ok hstep).2,
    fun p sentTimestamp e' status hincoming hstatus w => ?_⟩
  rcases (handleIncomingPacket_takesIn e p sentTimestamp).of_ok hincoming with hkeeps | haccepted
  · exact hkeeps.2.windows w
  · exact absurd haccepted.1 hstatus

instance (e : Endpoint) (ev : Event) : Decidable (endpointRuns.allowed e ev) :=
  inferInstanceAs (Decidable True)

def secondPushData : TransactionPacket where
  type := .pushUnsolicitedData
  rsn := 1
  psn := 1
  ssn := 0
  ackReq := false
  bpsn _ := 0
  requestLength := 0
  payloadLength := 8

/-- An unordered connection that has received push data out of order; the ULP has acknowledged
it. -/
theorem receive_window_discipline_outOfOrder :
    ∃ e, endpointRuns.Reachable (fun _ _ => True) e ∧
      ((e.rx .data).ackWindow = 2 ∧ (e.rx .data).receiveWindow = 2) ∧
      (∀ w, (e.rx w).Disciplined (rxWindowSize w)) ∧
      (∀ ev e', e.step ev = .ok e' → ∀ w, e.MovesWindow ev w e') ∧
      ∀ p sentTimestamp e' status, e.handleIncomingPacket p sentTimestamp = .ok (e', status) →
        status ≠ .ok → ∀ w, (e.rx w).SameWindow (e'.rx w) := by
  obtain ⟨e, he, hwindow⟩ := TransitionSystem.Reachable.exists_of_run (T := endpointRuns)
    (C := fun _ _ => True)
    (P := fun e => (e.rx .data).ackWindow = 2 ∧ (e.rx .data).receiveWindow = 2)
    (s := initial { ordered := false, resources := { bypassReservation := true } }
      { fabricCongestionWindow := 1024, nicCongestionWindow := 16, retransmitTimeout := 1000 }
      (fun _ => 0) fun _ => 0)
    [.receive (.transaction secondPushData) 0 0, .interHostRx, .ulpAck 1] ⟨_, _, _, _, rfl⟩
    (by decide +kernel)
  exact ⟨e, he, hwindow, receive_window_discipline he⟩

end Endpoint

end Isekai.Falcon
