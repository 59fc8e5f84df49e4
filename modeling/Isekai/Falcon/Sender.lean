import Isekai.Falcon.Acknowledgement
import Isekai.Lib.Table
import Isekai.Lib.TransitionSystem

/-!
# The sending half of a multipath connection

How `gen2/reliability_manager.cc` and `gen3/reliability_manager.cc` transmit, retransmit and
acknowledge the packets of one connection, with the functions of
`gen1/packet_reliability_manager.cc` that they override or call. The environment decides when
packets are sent and what arrives. Of a transaction only the packets that it sends are kept, which
their type and RSN identify.
-/

namespace Isekai.Falcon

open Lib Function

/-- What the sender knows of a packet. -/
structure SentPacket where
  psn : Psn := 0
  transmitAttempts : Nat := 0
  flowLabel : BitVec 20 := 0

/-- `count` and `uncount` are changes of a counter of outstanding (retransmitted) requests on behalf
of a request; `counter` is its value before it is decremented. -/
inductive SenderAction where
  | transmit (work : WorkId) (flow : Nat)
  | ack (work : WorkId)
  | accept (work : WorkId)
  | count (retransmitted : Bool) (work : WorkId)
  | uncount (retransmitted : Bool) (work : WorkId) (counter : BitVec 32)
  deriving DecidableEq

/-- `flowIds` has the flows of the outstanding packet contexts, and `outstandingCount` is
`gen3_outstanding_count`. `decrementOrrcOnPullResponse` belongs to the pull transactions. -/
structure Sender where
  decrementOrcOnPullResponse : Bool := false
  numFlows : Nat := 1
  fabricCongestionWindow : BitVec 32
  nicCongestionWindow : BitVec 32
  tx : WindowType → TransmitterReliabilityWindowMetadata
  flowIds : WindowType → Psn → Nat := fun _ _ => 0
  packets : WorkId → SentPacket := fun _ => {}
  retransmissionQueues : WindowType → List RetransmissionWorkId := fun _ => []
  decrementOrrcOnPullResponse : Rsn → Bool := fun _ => true
  flowLabels : Nat → BitVec 20 := fun _ => 0
  outstandingCount : Nat → BitVec 32 := fun _ => 0
  log : List SenderAction := []

/-- `outstanding_requests_counter`, or `outstanding_retransmission_requests_counter`. -/
def TransmitterReliabilityWindowMetadata.counter (tx : TransmitterReliabilityWindowMetadata)
    (retransmitted : Bool) : BitVec 32 :=
  if retransmitted then tx.outstandingRetransmissionRequestsCounter
    else tx.outstandingRequestsCounter

def TransmitterReliabilityWindowMetadata.setCounter (tx : TransmitterReliabilityWindowMetadata)
    (retransmitted : Bool) (counter : BitVec 32) : TransmitterReliabilityWindowMetadata :=
  if retransmitted then { tx with outstandingRetransmissionRequestsCounter := counter }
  else { tx with outstandingRequestsCounter := counter }

namespace Sender

variable (s : Sender)

def setTx (w : WindowType) (tx : TransmitterReliabilityWindowMetadata) : Sender :=
  { s with tx := update s.tx w tx }

def setRetransmissionQueue (w : WindowType) (l : List RetransmissionWorkId) : Sender :=
  { s with retransmissionQueues := update s.retransmissionQueues w l }

def setPacket (work : WorkId) (pm : SentPacket) : Sender :=
  { s with packets := update s.packets work pm }

def emit (a : SenderAction) : Sender := { s with log := a :: s.log }

def retransmissionWorkId (work : WorkId) : RetransmissionWorkId :=
  ⟨work.rsn, (s.packets work).psn, work.type⟩

/-! ## Flows -/

/-- `GetFlowIdFromFlowLabel`. -/
def flowId (label : BitVec 20) : Nat := label.toNat % s.numFlows

def updateOutstandingCounter (flow : Nat) (delta : BitVec 32) : Sender :=
  { s with
    outstandingCount := update s.outstandingCount flow (s.outstandingCount flow + delta) }

def updateOutstandingCounterAfterNewFlowLabel (oldFlow newFlow : Nat) (isRetx : Bool) : Sender :=
  let s := if isRetx then s.updateOutstandingCounter oldFlow (-1) else s
  s.updateOutstandingCounter newFlow 1

/-- The flow label in `SetOutgoingPacketHeader`. `chosen` is the flow that the path selection policy
picks for an initial transmission. -/
def chooseOutgoingPacketFlowLabel (work : WorkId) (chosen : Nat) : Sender :=
  let pm := s.packets work
  let isRetx := decide (pm.transmitAttempts > 1)
  let label := s.flowLabels (if isRetx then s.flowId pm.flowLabel else chosen)
  (s.setPacket work { pm with flowLabel := label }).updateOutstandingCounterAfterNewFlowLabel
    (s.flowId pm.flowLabel) (s.flowId label) isRetx

/-! ## Transmission -/

/-- Counts a transmission; `AssignPsnAndSsn` for an initial one. -/
def assignPsn (work : WorkId) : Sender :=
  let pm := s.packets work
  let w := windowOf work.type
  if pm.transmitAttempts = 0 then
    (s.setPacket work { pm with transmitAttempts := 1, psn := (s.tx w).next }).setTx w
      { s.tx w with next := (s.tx w).next + 1 }
  else s.setPacket work { pm with transmitAttempts := pm.transmitAttempts + 1 }

def addToOutstandingPackets (work : WorkId) : Sender :=
  let pm := s.packets work
  let w := windowOf work.type
  { s.setTx w { s.tx w with
      outstandingPackets := OrderedSet.insert RetransmissionWorkId.lt (s.retransmissionWorkId work)
        (s.tx w).outstandingPackets
      outstandingPacketContexts :=
        update (s.tx w).outstandingPacketContexts pm.psn (some work) } with
    flowIds := setAt s.flowIds w pm.psn (s.flowId pm.flowLabel) }

def incrementRequestCount (retransmitted : Bool) (work : WorkId) : Sender :=
  if isOutstandingRequestType work.type then
    let w := windowOf work.type
    (s.setTx w ((s.tx w).setCounter retransmitted ((s.tx w).counter retransmitted + 1))).emit
      (.count retransmitted work)
  else s

def transmitPacket (work : WorkId) (chosen : Nat) : Sender :=
  let s := (s.assignPsn work).chooseOutgoingPacketFlowLabel work chosen
  let pm := s.packets work
  ((s.addToOutstandingPackets work).incrementRequestCount (pm.transmitAttempts > 1) work).emit
    (.transmit work (s.flowId pm.flowLabel))

/-! ## Counters of requests -/

def requestOf (work : WorkId) : WorkId :=
  if work.type = .pushSolicitedData then ⟨work.rsn, .pushRequest⟩ else work

def decrementCounter (retransmitted : Bool) (work : WorkId) : Sender :=
  let w := Endpoint.completionWindow work.type
  let counter := (s.tx w).counter retransmitted
  (s.setTx w ((s.tx w).setCounter retransmitted (counter - 1))).emit
    (.uncount retransmitted (requestOf work) counter)

def decrementOutstandingRequestCount (work : WorkId) : Sender :=
  if work.type = .pullRequest ∧ s.decrementOrcOnPullResponse then s
  else if work.type = .pullRequest ∨ work.type = .pushSolicitedData ∨
      work.type = .pushUnsolicitedData then s.decrementCounter false work
  else s

def decrementOutstandingRetransmittedRequestCount (work : WorkId) (isAcked : Bool) : Sender :=
  if s.decrementOrcOnPullResponse ∧ work.type = .pullRequest ∧ isAcked then s
  else if work.type = .pullRequest ∨ work.type = .pushUnsolicitedData ∨
      (work.type = .pushSolicitedData ∧ isAcked) ∨ (work.type = .pushRequest ∧ !isAcked) then
    s.decrementCounter true work
  else s

def initiateRetransmission (work : WorkId) : Sender :=
  let w := windowOf work.type
  let entry := s.retransmissionWorkId work
  if OrderedSet.contains RetransmissionWorkId.lt entry (s.retransmissionQueues w) then s
  else
    let s := s.setRetransmissionQueue w
      (OrderedSet.insert RetransmissionWorkId.lt entry (s.retransmissionQueues w))
    if (s.packets work).transmitAttempts > 1 then
      s.decrementOutstandingRetransmittedRequestCount work false
    else s

/-- One packet of a loop that retransmits outstanding packets. The loop of
`HandleRetransmitTimeout` drops a packet whose window bit is set. -/
def retransmitOutstanding (checked : Bool) (entry : RetransmissionWorkId) : Sender :=
  let w := windowOf entry.type
  let tx := s.tx w
  let s := if checked && Bitmap.get tx.window (txBitmapIndex tx entry.psn) then s
    else s.initiateRetransmission ⟨entry.rsn, entry.type⟩
  s.setTx w { s.tx w with
    outstandingPackets := OrderedSet.erase RetransmissionWorkId.lt entry
      (s.tx w).outstandingPackets }

def scheduleRetransmission (entry : RetransmissionWorkId) : Sender :=
  let w := windowOf entry.type
  let s := s.transmitPacket ⟨entry.rsn, entry.type⟩ 0
  s.setRetransmissionQueue w
    (OrderedSet.erase RetransmissionWorkId.lt entry (s.retransmissionQueues w))

/-! ## Acknowledgement -/

def dequeuePacketFromRetxScheduler (work : WorkId) : Sender :=
  let w := windowOf work.type
  { s.setRetransmissionQueue w (OrderedSet.erase RetransmissionWorkId.lt
    (s.retransmissionWorkId work)
      (s.retransmissionQueues w)) with
    decrementOrrcOnPullResponse :=
      if work.type = .pullRequest then update s.decrementOrrcOnPullResponse work.rsn false
      else s.decrementOrrcOnPullResponse }

def settleRetransmittedRequest (work : WorkId) : Sender :=
  if work.type = .pushSolicitedData ∧ (s.packets ⟨work.rsn, .pushRequest⟩).transmitAttempts > 1 then
    s.decrementOutstandingRetransmittedRequestCount work true
  else s

def removeOutstandingPacket (w : WindowType) (psn : Psn) (work : WorkId) : Sender :=
  let entry : RetransmissionWorkId := ⟨work.rsn, psn, work.type⟩
  if OrderedSet.contains RetransmissionWorkId.lt entry (s.tx w).outstandingPackets then
    let s := s.setTx w { s.tx w with
      outstandingPackets := OrderedSet.erase RetransmissionWorkId.lt entry
        (s.tx w).outstandingPackets }
    if (work.type = .pullRequest ∨ work.type = .pushUnsolicitedData) ∧
        (s.packets work).transmitAttempts > 1 then
      s.decrementOutstandingRetransmittedRequestCount work true
    else s
  else s.dequeuePacketFromRetxScheduler work

def enqueueAckToUlp (w : WindowType) (psn : Psn) : Except Fatal Sender :=
  match (s.tx w).outstandingPacketContexts psn with
  | none => throw .contextNotFound
  | some work =>
    let s := (s.decrementOutstandingRequestCount work).settleRetransmittedRequest work
    let s := s.removeOutstandingPacket w psn work
    let s := s.updateOutstandingCounter (s.flowIds w psn) (-1)
    pure ((s.setTx w { s.tx w with
      outstandingPacketContexts :=
        update (s.tx w).outstandingPacketContexts psn none }).emit (.ack work))

def setBit (w : WindowType) (index : Nat) : Sender :=
  s.setTx w { s.tx w with window := Bitmap.set (s.tx w).window index true }

def shiftWindow (w : WindowType) (delta : Nat) : Sender :=
  s.setTx w { s.tx w with
    window := Bitmap.rightShift (s.tx w).window delta
    base := Serial.shift (s.tx w).base delta }

def ackBelowBase (w : WindowType) (s : Sender) (index : Nat) : Except Fatal Sender :=
  if index ≥ txWindowSize then throw .bitmapIndex
  else if !Bitmap.get (s.tx w).window index then
    s.enqueueAckToUlp w (Serial.shift (s.tx w).base index)
  else pure s

def advanceTxWindow (w : WindowType) (ackBpsn : Psn) : Except Fatal Sender :=
  let base := (s.tx w).base
  if seqGT ackBpsn base then do
    let delta := Serial.dist base ackBpsn
    let s ← (List.range delta).foldlM (ackBelowBase w) s
    pure (s.shiftWindow w delta)
  else pure s

def isStale (bpsn : WindowType → Psn) : Bool :=
  seqLT (bpsn .request) (s.tx .request).base || seqLT (bpsn .data) (s.tx .data).base

def advanceTxWindows (bpsn : WindowType → Psn) : Except Fatal Sender := do
  let s ← s.advanceTxWindow .request (bpsn .request)
  s.advanceTxWindow .data (bpsn .data)

def handlePiggybackedACK (bpsn : WindowType → Psn) : Except Fatal Sender :=
  if s.isStale bpsn then pure s else s.advanceTxWindows bpsn

def ackFromBitmap (w : WindowType) (bitmap : BitVec rxBitmapWidth) (s : Sender) (index : Nat) :
    Except Fatal Sender :=
  if !Bitmap.get (s.tx w).window index && Bitmap.get bitmap index then do
    let s ← s.enqueueAckToUlp w (Serial.shift (s.tx w).base index)
    pure (s.setBit w index)
  else pure s

def ackBitmap (p : AckPacket) (w : WindowType) : Except Fatal Sender :=
  (List.range (rxWindowSize w)).foldlM (ackFromBitmap w (p.ackBitmap w)) s

/-- `HandleACK`. The retransmissions that an EACK triggers are steps of their own. -/
def handleACK (p : AckPacket) : Except Fatal Sender :=
  if s.isStale p.bpsn then pure s
  else do
    let s ← s.advanceTxWindows p.bpsn
    if p.isEack then do
      let s ← s.ackBitmap p .request
      s.ackBitmap p .data
    else pure s

/-- `HandleImplicitAck`. The test whether the packet is acknowledged already compares sequence
numbers as plain integers. -/
def handleImplicitAck (type : PacketType) (rsn : Rsn) : Except Fatal Sender :=
  match Endpoint.implicitlyAcked type with
  | none => pure s
  | some ackedType =>
    let w := windowOf ackedType
    let psn := (s.packets ⟨rsn, ackedType⟩).psn
    let index := Serial.dist (s.tx w).base psn
    if psn.toNat < (s.tx w).base.toNat then pure s
    else if index ≥ txWindowSize then throw .bitmapIndex
    else if !Bitmap.get (s.tx w).window index then do
      let s ← s.enqueueAckToUlp w psn
      let s := s.setBit w index
      pure (if psn = (s.tx w).base then s.shiftWindow w 1 else s)
    else pure s

/-- What pull data does besides the sliding windows: it completes the pull request. -/
def handlePullResponse (rsn : Rsn) : Sender :=
  let work : WorkId := ⟨rsn, .pullRequest⟩
  let s := s.decrementCounter false work
  if (s.packets work).transmitAttempts > 1 ∧ s.decrementOrrcOnPullResponse rsn then
    s.decrementCounter true work
  else s

def handleIncomingPacket (type : PacketType) (rsn : Rsn) (bpsn : WindowType → Psn) :
    Except Fatal Sender := do
  let s ← s.handleImplicitAck type rsn
  let s ← s.handlePiggybackedACK bpsn
  let s := s.emit (.accept ⟨rsn, type⟩)
  pure (if s.decrementOrcOnPullResponse ∧ type = .pullData then s.handlePullResponse rsn else s)

def getOpenFcwnd (w : WindowType) : Except Fatal Nat :=
  let rounded := roundedFcwnd s.fabricCongestionWindow
  if rounded ≤ txWindowSize then
    let psnBound := Serial.shift (s.tx w).base rounded
    if !seqLT (s.tx w).next psnBound then pure 0
    else pure (Serial.dist (s.tx w).next psnBound)
  else throw .cwndExceedsWindow

def meetsInitialTransmissionCCTxGatingCriteria (type : PacketType) : Except Fatal Bool := do
  let openFcwnd ← s.getOpenFcwnd (windowOf type)
  if openFcwnd = 0 then pure false
  else if isOutstandingRequestType type then
    pure (decide ((s.tx (windowOf type)).outstandingRequestsCounter < s.nicCongestionWindow))
  else pure true

/-! ## Runs -/

inductive Label where
  | transmit (work : WorkId) (chosen : Nat)
  | retransmitOutstanding (checked : Bool) (entry : RetransmissionWorkId)
  | scheduleRetransmission (entry : RetransmissionWorkId)
  | ack (p : AckPacket)
  /-- A NACK, or a packet that is not accepted for lack of resources. -/
  | piggyback (bpsn : WindowType → Psn)
  | receive (type : PacketType) (rsn : Rsn) (bpsn : WindowType → Psn)
  /-- The rate update engine changes flow labels and congestion windows. -/
  | rue (flowLabels : Nat → BitVec 20) (fabricCongestionWindow nicCongestionWindow : BitVec 32)

/-- A packet is transmitted initially once and when the congestion windows allow it, solicited data
after its grant. The peer answers what was sent, and each answer is accepted once. -/
def Allowed : Label → Prop
  | .transmit work _ => (s.packets work).transmitAttempts = 0 ∧
      s.meetsInitialTransmissionCCTxGatingCriteria work.type = .ok true ∧
      (work.type = .pushSolicitedData → .accept ⟨work.rsn, .pushGrant⟩ ∈ s.log)
  | .retransmitOutstanding _ entry => entry ∈ (s.tx (windowOf entry.type)).outstandingPackets
  | .scheduleRetransmission entry => entry ∈ s.retransmissionQueues (windowOf entry.type)
  | .receive type rsn _ => .accept ⟨rsn, type⟩ ∉ s.log ∧
      ∀ ackedType ∈ Endpoint.implicitlyAcked type, 0 < (s.packets ⟨rsn, ackedType⟩).transmitAttempts
  | _ => True

instance : ∀ l, Decidable (s.Allowed l)
  | .transmit work _ =>
    haveI : Decidable (s.meetsInitialTransmissionCCTxGatingCriteria work.type = .ok true) :=
      match s.meetsInitialTransmissionCCTxGatingCriteria work.type with
      | .ok true => isTrue rfl
      | .ok false => isFalse nofun
      | .error _ => isFalse nofun
    inferInstanceAs (Decidable (_ ∧ _ ∧ _))
  | .retransmitOutstanding _ entry =>
    inferInstanceAs (Decidable (entry ∈ (s.tx (windowOf entry.type)).outstandingPackets))
  | .scheduleRetransmission entry =>
    inferInstanceAs (Decidable (entry ∈ s.retransmissionQueues (windowOf entry.type)))
  | .receive type rsn _ => inferInstanceAs (Decidable (.accept ⟨rsn, type⟩ ∉ s.log ∧
      ∀ ackedType ∈ Endpoint.implicitlyAcked type,
        0 < (s.packets ⟨rsn, ackedType⟩).transmitAttempts))
  | .ack _ => isTrue trivial
  | .piggyback _ => isTrue trivial
  | .rue .. => isTrue trivial

def next (s : Sender) : Label → Except Fatal Sender
  | .transmit work chosen => pure (s.transmitPacket work chosen)
  | .retransmitOutstanding checked entry => pure (s.retransmitOutstanding checked entry)
  | .scheduleRetransmission entry => pure (s.scheduleRetransmission entry)
  | .ack p => s.handleACK p
  | .piggyback bpsn => s.handlePiggybackedACK bpsn
  | .receive type rsn bpsn => s.handleIncomingPacket type rsn bpsn
  | .rue flowLabels fabricCongestionWindow nicCongestionWindow =>
    pure { s with flowLabels, fabricCongestionWindow, nicCongestionWindow }

def initial (decrementOrcOnPullResponse : Bool) (numFlows : Nat) (psn : WindowType → Psn)
    (fabricCongestionWindow nicCongestionWindow : BitVec 32) (flowLabels : Nat → BitVec 20) :
    Sender where
  decrementOrcOnPullResponse := decrementOrcOnPullResponse
  numFlows := numFlows
  fabricCongestionWindow := fabricCongestionWindow
  nicCongestionWindow := nicCongestionWindow
  tx w := { base := psn w, next := psn w }
  flowLabels := flowLabels

def runs (decrementOrcOnPullResponse : Bool) (numFlows : Nat) :
    TransitionSystem Sender Label Fatal where
  init s := ∃ psn fcwnd ncwnd flowLabels,
    s = initial decrementOrcOnPullResponse numFlows psn fcwnd ncwnd flowLabels
  allowed := Allowed
  next := next

instance (decrementOrcOnPullResponse : Bool) (numFlows : Nat) (s : Sender) (l : Label) :
    Decidable ((runs decrementOrcOnPullResponse numFlows).allowed s l) :=
  inferInstanceAs (Decidable (s.Allowed l))

end Sender

end Isekai.Falcon
