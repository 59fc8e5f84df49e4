import Isekai.Falcon.Acknowledgement

/-!
# Reception of packets

The receiving half of `gen1/packet_reliability_manager.cc`, and the creation of transactions by
`CreateOrUpdateTransactionFromUlp` and `CreateOrUpdateTransactionFromNetwork` of
`falcon_connection_state.cc`.
-/

namespace Isekai.Falcon

open Lib

inductive RxStatus where
  | ok | alreadyExists | outOfRange | resourceExhausted | notFound
  deriving DecidableEq, Repr

/-- An operation that the ULP hands to Falcon: `kReadRequest`, `kReadResponseOnly`, and
`kWriteOnly` or `kSendOnly`. -/
inductive RdmaOp where
  | read (requestLength : Nat) (lengths : UlpLengths)
  | readResponse (rsn : Rsn) (responseLength : Nat) (lengths : UlpLengths)
  | write (requestLength : Nat) (lengths : UlpLengths)
  deriving DecidableEq, Repr

namespace Endpoint

variable (e : Endpoint)

def updateReceiveAckBitmap (w : WindowType) (psn : Psn) : Endpoint :=
  let rx := e.rx w
  let index := (psn - rx.base).toNat % rxWindowSize w
  let ackWindow := Bitmap.set rx.ackWindow index true
  if psn = rx.base then
    let delta := Bitmap.runEnd ackWindow 0 (rxWindowSize w)
    { e.setRx w { rx with
        ackWindow := Bitmap.rightShift ackWindow delta
        receiveWindow := Bitmap.rightShift rx.receiveWindow delta
        base := rx.base + BitVec.ofNat 32 delta } with
      implicitlyAckedCounter := e.implicitlyAckedCounter + delta }.emit (.rxAdvance w delta)
  else e.setRx w { rx with ackWindow := ackWindow }

def updateReceivedPacketContext (p : TransactionPacket) : Outcome := do
  let location ← getTransactionLocation p.type true
  pure (e.setReceivedPacketContext ⟨p.rsn, location⟩
    (some { psn := p.psn, type := p.type, isAckRequested := p.ackReq }))

def handleDuplicateNackedPacket (p : TransactionPacket) : Outcome :=
  if isPushData p.type then
    match e.transactions ⟨p.rsn, .target⟩ with
    | none => pure e
    | some tr => do
      let pm ← tr.getPacketMetadata p.type
      let nack (e : Endpoint) :=
        e.transmitNACK p.psn (belongsToRequestWindow p.type) pm.nackCode pm.rnrTimeout
      match pm.nackCode with
      | .ulpReceiverNotReady =>
        let (e, inRnr) ← e.retryRnrNackedPacket p.rsn
        pure (if inRnr then nack e else e)
      | .ulpCompletionInError | .ulpNonRecoverableError | .invalidCidError => pure (nack e)
      | .xlrDrop | .notANack | .rxResourceExhaustion | .reserved => pure e
  else pure e

def acceptPacket (p : TransactionPacket) : Outcome := do
  let w := windowOf p.type
  let e ← e.handleImplicitAck p.rsn p.type
  let rx := e.rx w
  let index := (p.psn - rx.base).toNat % rxWindowSize w
  let e := e.setRx w { rx with receiveWindow := Bitmap.set rx.receiveWindow index true }
  let e :=
    if !isPushData p.type then
      (e.updateReceiveAckBitmap w p.psn).generateAckOrUpdateCoalescingState p.ackReq 2
    else e.generateAckOrUpdateCoalescingState false 1
  let e ← e.updateReceivedPacketContext p
  let e ← e.handlePiggybackedACK p.bpsn (fun _ => false)
  pure (e.emit (.accept w p.psn ⟨p.rsn, p.type⟩))

lemma dist_lt_of_inWindow {base psn : Psn} {size : Nat} (hsize : size < 2 ^ 31)
    (hlow : ¬seqLT psn base = true) (hhigh : ¬seqGEQ psn (base + BitVec.ofNat 32 size) = true) :
    Serial.dist base psn < size := by
  rw [seqLT, Serial.lt_iff] at hlow
  by_contra hle
  refine hhigh ?_
  have hdist := Serial.dist_shift_base base psn (Nat.not_lt.mp hle)
  rw [seqGEQ, decide_eq_true_iff, ge_iff_le, BitVec.toInt_eq_toNat_cond]
  change Serial.dist (base + BitVec.ofNat 32 size) psn = _ at hdist
  rw [Serial.dist] at hdist
  omega

/-- A packet arrives: stale, out of the window, a duplicate or new. -/
def handleIncomingPacket (p : TransactionPacket) (sentTimestamp : Time) :
    Except Fatal (Endpoint × RxStatus) := do
  let w := windowOf p.type
  let rx := e.rx w
  let e := e.updateCongestionControlMetadataToReflect sentTimestamp
  if seqLT p.psn rx.base then
    pure (e.generateAckOrUpdateCoalescingState p.ackReq 2, .alreadyExists)
  else if seqGEQ p.psn (rx.base + BitVec.ofNat 32 (rxWindowSize w)) then
    if !e.eackBasedEarlyRetransmissionIsEnabled then
      pure (e.transmitNACK p.psn (belongsToRequestWindow p.type) .reserved 0, .outOfRange)
    else if e.config.enableEackOwn then
      let e := e.setRx w { rx with hasOowDrop := true }
      pure (e.generateAckOrUpdateCoalescingState p.ackReq 2, .outOfRange)
    else pure (e, .outOfRange)
  else
    let index := (p.psn - rx.base).toNat % rxWindowSize w
    if Bitmap.get rx.receiveWindow index then
      let e := e.generateAckOrUpdateCoalescingState p.ackReq 2
      let e ← e.handleDuplicateNackedPacket p
      pure (e, .alreadyExists)
    else
      match e.verifyResourceAvailability p with
      | .ok =>
        let e ← e.acceptPacket p
        pure (e, .ok)
      | .resourceExhausted =>
        let e ← e.handlePiggybackedACK p.bpsn (fun _ => false)
        pure (e, .resourceExhausted)
      | .notFound =>
        let e ← e.handlePiggybackedACK p.bpsn (fun _ => false)
        pure (e, .notFound)

/-- Push data is acknowledged to the peer only when the ULP has done so. -/
def handleAckFromUlp (rsn : Rsn) : Outcome := do
  let key : TransactionKey := ⟨rsn, .target⟩
  let context ← e.getReceivedPacketContext key
  if context.type = .pullRequest then pure e
  else
    let e := (e.setReceivedPacketContext key none).eraseTransaction key
    let e := e.updateReceiveAckBitmap (windowOf context.type) context.psn
    pure (e.generateAckOrUpdateCoalescingState context.isAckRequested 1)

def handleNackFromUlp (rsn : Rsn) (rnrTimeout : Time) : Outcome := do
  let key : TransactionKey := ⟨rsn, .target⟩
  let context ← e.getReceivedPacketContext key
  let tr ← e.getTransaction key
  let pm ← tr.getPacketMetadata context.type
  let e := e.setPacketMetadata key tr context.type
    { pm with nackCode := .ulpReceiverNotReady, rnrTimeout := rnrTimeout }
  if context.type = .pullRequest then pure e
  else
    pure (e.transmitNACK context.psn (belongsToRequestWindow context.type) .ulpReceiverNotReady
      rnrTimeout)

def ulpCredits (op : RdmaOp) : FalconResourceCredits :=
  let c := e.config.resources
  match op with
  | .read requestLength lengths =>
    c.computeOutgoingPullRequestResources lengths +
      c.computeIncomingPullDataResources (.ofNat 32 requestLength)
  | .readResponse _ _ lengths => c.computeOutgoingPullDataResources lengths
  | .write requestLength lengths =>
    if requestLength ≥ e.config.thresholdSolicit then
      c.computeOutgoingPushRequestResources lengths +
        ResourceConfig.computeIncomingPushGrantResources +
        c.computeOutgoingPushSolicitedDataResources lengths
    else
      c.computeOutgoingPushUnsolicitedDataResources lengths +
        ResourceConfig.computeIncomingPushUnsolicitedCompletionResources

def ulpReservations (op : RdmaOp) : TransactionKey × List (PacketType × FalconResourceCredits) :=
  let c := e.config.resources
  let rsn := e.nextRequestSequenceNumber
  match op with
  | .read requestLength lengths =>
    (⟨rsn, .initiator⟩, [(.pullRequest, c.computeOutgoingPullRequestResources lengths),
      (.pullData, c.computeIncomingPullDataResources (.ofNat 32 requestLength))])
  | .readResponse rsn _ lengths =>
    (⟨rsn, .target⟩, [(.pullData, c.computeOutgoingPullDataResources lengths)])
  | .write requestLength _ =>
    -- Solicited data takes over the credits of its push request.
    (⟨rsn, .initiator⟩,
      if requestLength ≥ e.config.thresholdSolicit then
        [(.pushRequest, 0), (.pushSolicitedData, e.ulpCredits op)]
      else [(.pushUnsolicitedData, e.ulpCredits op)])

def reserveOutgoing (op : RdmaOp) : Outcome :=
  if e.config.resources.bypassReservation then pure e
  else if e.ulpCredits op ≤ e.globalCredits then
    let (key, packets) := e.ulpReservations op
    pure (e.takeCredits key (e.ulpCredits op) packets)
  else throw .noResources

def createInitiatorTransaction (type : TransactionType) (requestLength : Nat)
    (packets : List (PacketType × PacketMetadata)) (first : PacketType) : Outcome := do
  let rsn := e.nextRequestSequenceNumber
  let tr : TransactionMetadata :=
    { rsn := rsn, type := type, location := .initiator, requestLength := requestLength }
  let tr := packets.foldl (fun tr p => tr.createPacket p.1 p.2) tr
  let tr ← tr.updateState first .ulpRx
  pure { e.setTransaction ⟨rsn, .initiator⟩ tr with nextRequestSequenceNumber := rsn + 1 }

/-- `CreateOrUpdateTransactionFromUlp`, with the RSN and type of the packet to enqueue. -/
def createOrUpdateTransactionFromUlp (op : RdmaOp) : Except Fatal (Endpoint × WorkId) := do
  let rsn := e.nextRequestSequenceNumber
  match op with
  | .read requestLength lengths =>
    let e ← e.createInitiatorTransaction .pull requestLength
      [(.pullRequest, { payloadLength := lengths.dataLength, lengths := lengths })] .pullRequest
    pure (e, ⟨rsn, .pullRequest⟩)
  | .readResponse rsn responseLength lengths =>
    let key : TransactionKey := ⟨rsn, .target⟩
    let tr ← e.getTransaction key
    let tr ← (tr.createPacket .pullData
      { payloadLength := responseLength, lengths := lengths }).updateState .pullData .ulpRx
    pure (e.setTransaction key tr, ⟨rsn, .pullData⟩)
  | .write requestLength lengths =>
    if requestLength ≥ e.config.thresholdSolicit then
      let e ← e.createInitiatorTransaction .pushSolicited requestLength
        [(.pushSolicitedData,
          { payloadLength := requestLength
            lengths := lengths
            isTransmissionEligible := !e.config.ordered }),
         (.pushRequest, { lengths := lengths })] .pushRequest
      pure (e, ⟨rsn, .pushRequest⟩)
    else
      -- In an ordered connection a phantom request holds the place of the data among the requests.
      let phantom : List (PacketType × PacketMetadata) :=
        if e.config.ordered then [(.invalid, {})] else []
      let e ← e.createInitiatorTransaction .pushUnsolicited requestLength
        (phantom ++ [(.pushUnsolicitedData,
          { payloadLength := requestLength
            lengths := lengths
            isTransmissionEligible := !e.config.ordered })])
        .pushUnsolicitedData
      pure (e, ⟨rsn, .pushUnsolicitedData⟩)

/-- The transaction that an incoming packet belongs to. A request creates it when it is absent. -/
def transactionFromNetwork (p : TransactionPacket) :
    Except Fatal (TransactionKey × TransactionMetadata) := do
  let location ← getTransactionLocation p.type true
  let key : TransactionKey := ⟨p.rsn, location⟩
  match e.transactions key, p.type with
  | some tr, _ => pure (key, tr)
  | none, .pullRequest =>
    pure (key,
      { rsn := p.rsn, type := .pull, location := location, requestLength := p.requestLength })
  | none, .pushRequest =>
    let tr : TransactionMetadata :=
      { rsn := p.rsn, type := .pushSolicited, location := location,
        requestLength := p.requestLength }
    pure (key, tr.createPacket .pushGrant { ssn := p.ssn })
  | none, .pushUnsolicitedData =>
    pure (key, { rsn := p.rsn, type := .pushUnsolicited, location := location })
  | none, _ => throw .transactionNotFound

/-- `CreateOrUpdateTransactionFromNetwork`, and the length check of its caller. -/
def createOrUpdateTransactionFromNetwork (p : TransactionPacket) : Outcome := do
  let (key, tr) ← e.transactionFromNetwork p
  let tr ← (tr.createPacket p.type
    { ssn := p.ssn, payloadLength := p.payloadLength, direction := .incoming }).updateState
    p.type .ntwkRx
  let actualLength :=
    match p.type with
    | .pullData | .pushSolicitedData => p.payloadLength
    | .pushGrant => p.requestLength
    | _ => 0
  if (p.type = .pullData ∨ p.type = .pushGrant ∨ p.type = .pushSolicitedData) ∧
      tr.requestLength % 2 ^ 16 ≠ actualLength % 2 ^ 16 then
    throw .lengthMismatch
  pure (e.setTransaction key tr)

end Endpoint

end Isekai.Falcon
