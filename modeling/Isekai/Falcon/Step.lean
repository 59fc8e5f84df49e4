import Isekai.Falcon.Reception

/-!
# The events of an endpoint

`gen1/falcon_model.cc` and the work units of the two schedulers: everything that the simulator's
event queue, the network, the rate update engine and the ULP can make a Falcon endpoint do. The
choice of the next work unit and the answers of the admission control are part of the event, and so
is what the other connections of the host leave of the credits.
-/

namespace Isekai.Falcon

open Lib

inductive Event where
  | ulpOperation (op : RdmaOp)
  | ulpAck (rsn : Rsn)
  | ulpRnrNack (rsn : Rsn) (rnrTimeout : Time)
  | interHostRx
  | scheduleWork (queue : PacketTypeQueue) (admitted ackReq : Bool)
  | scheduleRetransmission (window : WindowType) (ackReq : Bool)
  | receive (packet : Packet) (sentTimestamp receivedTimestamp : Time)
  | rueResponse (fcwnd ncwnd : BitVec 32) (retransmitTimeout : Time)
  | callback (c : Callback)
  | advance (time : Time)
  | otherConnections (globalCredits : FalconResourceCredits)

namespace Endpoint

variable (e : Endpoint)

def initiateTransaction (op : RdmaOp) : Outcome := do
  let e ← e.reserveOutgoing op
  let (e, work) ← e.createOrUpdateTransactionFromUlp op
  e.enqueuePacket work.rsn work.type

/-- What `TransferRxPacket` does with a packet that passed the sliding window. -/
def deliverToReorderEngine (p : TransactionPacket) : Outcome := do
  let e ← e.createOrUpdateTransactionFromNetwork p
  let e ← e.reserveIncoming p
  let (e, inRnr) ← e.insertPacket p.type p.rsn p.ssn
  if inRnr then
    let key : TransactionKey := ⟨p.rsn, .target⟩
    let tr ← e.getTransaction key
    let tr ← tr.updateState p.type .ulpRnrRx
    (e.setTransaction key tr).handleNackFromUlp p.rsn e.reorder.rnrTimeout
  else pure e

def isTransactionType (type : PacketType) : Bool :=
  match type with
  | .pullRequest | .pushRequest | .pushGrant | .pullData | .pushSolicitedData
  | .pushUnsolicitedData => true
  | _ => false

def transferRxPacket (packet : Packet) (sentTimestamp receivedTimestamp : Time) : Outcome := do
  match packet with
  | .transaction p =>
    if !isTransactionType p.type then throw .invalidPacket
    let (e, status) ← e.handleIncomingPacket p sentTimestamp
    match status with
    | .ok => e.deliverToReorderEngine p
    | .resourceExhausted =>
      pure (e.transmitNACK p.psn (belongsToRequestWindow p.type) .rxResourceExhaustion 0)
    | .alreadyExists | .outOfRange | .notFound => pure e
  | .ack p => e.handleACK p receivedTimestamp
  | .nack p => e.handleNack p receivedTimestamp

def ulpPacketType : TransactionType → PacketType
  | .pull => .pullRequest
  | .pushSolicited => .pushSolicitedData
  | .pushUnsolicited => .pushUnsolicitedData

def ackTransaction (rsn : Rsn) : Outcome := do
  let key : TransactionKey := ⟨rsn, .target⟩
  let tr ← e.getTransaction key
  let type := ulpPacketType tr.type
  let tr' ← tr.updateState type .ulpAckRx
  let e := e.setTransaction key tr'
  let e ← e.releaseResources key type
  let e ← e.handleAckFromUlp rsn
  let e := e.reorderHandleAckFromUlp rsn
  pure { e with ulp := {
    given := e.ulp.given.erase rsn
    reads := if tr.type = .pull then e.ulp.reads ++ [rsn] else e.ulp.reads } }

def rnrNackTransaction (rsn : Rsn) (rnrTimeout : Time) : Outcome := do
  let key : TransactionKey := ⟨rsn, .target⟩
  let e ← e.handleNackFromUlp rsn rnrTimeout
  let tr ← e.getTransaction key
  let tr' ← tr.updateState (ulpPacketType tr.type) .ulpRnrRx
  let e := (e.setTransaction key tr').reorderHandleRnrNackFromUlp rsn rnrTimeout
  pure { e with ulp := { e.ulp with given := e.ulp.given.erase rsn } }

/-- The inter-host callback that completes a push transaction at the initiator. -/
def deliverCompletion (rsn : Rsn) : Outcome := do
  let key : TransactionKey := ⟨rsn, .initiator⟩
  discard <| e.getReceivedPacketContext key
  let tr ← e.getTransaction key
  let type ←
    match tr.type with
    | .pushSolicited => pure .pushSolicitedData
    | .pushUnsolicited => pure .pushUnsolicitedData
    | .pull => throw .invalidPacket
  let tr ← tr.updateState type .ulpCompletionTx
  let e := e.setTransaction key tr
  let e ← e.releaseResources key type
  pure (((e.setReceivedPacketContext key none).eraseTransaction key).emit (.completion rsn))

def deliverToUlp (rsn : Rsn) (type : PacketType) : Outcome := do
  let location ← getTransactionLocation type true
  let key : TransactionKey := ⟨rsn, location⟩
  let tr ← e.getTransaction key
  discard <| tr.getPacketMetadata type
  let tr ← tr.updateState type .ulpTx
  let e := (e.setTransaction key tr).emit (.toUlp ⟨rsn, type⟩)
  if type = .pullData then
    let e ← e.releaseResources key .pullData
    pure ((e.setReceivedPacketContext key none).eraseTransaction key)
  else pure { e with ulp := { e.ulp with given := e.ulp.given ++ [rsn] } }

def interHostRx : Outcome :=
  match e.interHostQueue with
  | [] => pure e
  | ⟨rsn, type⟩ :: rest =>
    let e := { e with interHostQueue := rest }
    if type = .ack then e.deliverCompletion rsn else e.deliverToUlp rsn type

def perConnectionInterOpGap : Time := 25 * nanosecond

def setOpRateLimited : Outcome :=
  if e.isOpRateLimited then pure e else gate { e with isOpRateLimited := true }

/-- Marks the connection as limited by its operation rate until the inter-op gap has passed. -/
def limitOpRate : Outcome := do
  let e ← e.setOpRateLimited
  pure (e.scheduleEvent perConnectionInterOpGap .clearOpRate)

def handlePhantomRequest (rsn : Rsn) (queue : PacketTypeQueue) : Outcome := do
  let (key, tr, pm) ← e.getPacketMetadata rsn .pushUnsolicitedData
  discard <| tr.getPacketMetadata .invalid
  let e := e.setPacketMetadata key tr .pushUnsolicitedData
    { pm with isTransmissionEligible := true }
  (e.setQueue queue (e.queues queue).tail).gate

def schedulePacket (queue : PacketTypeQueue) (work : WorkId) (ackReq : Bool) : Outcome := do
  discard <| e.getPacketMetadata work.rsn work.type
  let e ← e.limitOpRate
  let e ← e.transmitPacket work.rsn work.type ackReq
  (e.setQueue queue (e.queues queue).tail).gate

def scheduleWork (queue : PacketTypeQueue) (admitted ackReq : Bool) : Outcome :=
  match e.queues queue with
  | [] => throw .emptyQueue
  | work :: _ =>
    if work.type = .invalid then e.handlePhantomRequest work.rsn queue
    else do
      if ← e.canSend work.rsn work.type admitted then e.schedulePacket queue work ackReq
      else throw .cannotSend

def scheduleRetransmission (w : WindowType) (ackReq : Bool) : Outcome :=
  match e.retransmissionQueues w with
  | [] => throw .emptyQueue
  | work :: _ => do
    if ← e.canRetransmit work.psn work.type then
      discard <| e.getPacketMetadata work.rsn work.type
      let e ← e.limitOpRate
      let e ← e.transmitPacket work.rsn work.type ackReq
      (e.setRetransmissionQueue w
        (OrderedSet.erase RetransmissionWorkId.lt work (e.retransmissionQueues w))).gate
    else throw .cannotSend

def setFabricCongestionWindow (fcwnd : BitVec 32) : Outcome :=
  if e.congestionControl.fabricCongestionWindow = fcwnd then pure e
  else gate { e with congestionControl := { e.congestionControl with
    fabricCongestionWindow := fcwnd } }

def setNicCongestionWindow (ncwnd : BitVec 32) : Outcome :=
  if e.congestionControl.nicCongestionWindow = ncwnd then pure e
  else gate { e with congestionControl := { e.congestionControl with
    nicCongestionWindow := ncwnd } }

def handleNextResponse (fcwnd ncwnd : BitVec 32) (retransmitTimeout : Time) : Outcome := do
  let e ← e.setFabricCongestionWindow fcwnd
  let e ← e.setNicCongestionWindow ncwnd
  let original := e.congestionControl.retransmitTimeout
  let e := { e with congestionControl := { e.congestionControl with
    retransmitTimeout := retransmitTimeout } }
  if retransmitTimeout < original then e.handleRtoReduction else pure e

def runCallback : Callback → Outcome
  | .retransmitTimeout => e.handleRetransmitTimeout
  | .ackCoalescingTimeout => pure e.handleAckCoalescingTimeout
  | .rnrTimeout rsn => e.handleRnrTimeout rsn
  | .clearOpRate => { e with isOpRateLimited := false }.gate

def step : Event → Outcome
  | .ulpOperation op =>
    match op with
    | .readResponse rsn _ _ =>
      { e with ulp := { e.ulp with reads := e.ulp.reads.erase rsn } }.initiateTransaction op
    | .read .. | .write .. => e.initiateTransaction op
  | .ulpAck rsn => e.ackTransaction rsn
  | .ulpRnrNack rsn rnrTimeout => e.rnrNackTransaction rsn rnrTimeout
  | .interHostRx => e.interHostRx
  | .scheduleWork queue admitted ackReq => e.scheduleWork queue admitted ackReq
  | .scheduleRetransmission w ackReq => e.scheduleRetransmission w ackReq
  | .receive packet sentTimestamp receivedTimestamp =>
    e.transferRxPacket packet sentTimestamp receivedTimestamp
  | .rueResponse fcwnd ncwnd retransmitTimeout =>
    e.handleNextResponse fcwnd ncwnd retransmitTimeout
  | .callback c => { e with pending := e.pending.erase (e.now, c) }.runCallback c
  | .advance time => pure { e with now := time }
  | .otherConnections globalCredits => pure { e with globalCredits := globalCredits }

def initial (config : Config) (congestionControl : CongestionControlMetadata)
    (tx rx : WindowType → Psn) : Endpoint :=
  { config := config
    congestionControl := congestionControl
    tx := fun w => { base := tx w, next := tx w }
    rx := fun w => { base := rx w }
    globalCredits := config.resources.resourceCredits }

end Endpoint

end Isekai.Falcon
