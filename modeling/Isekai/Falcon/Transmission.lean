import Isekai.Falcon.Reorder
import Isekai.Falcon.ResourceManager

/-!
# Transmission, acknowledgement and retransmission of packets

The sending half of `gen1/packet_reliability_manager.cc`: assigning sequence numbers, the
retransmission timer, timeouts, and the processing of the acknowledgement of one packet.
-/

namespace Isekai.Falcon

open Lib

def isPushData (type : PacketType) : Bool :=
  type = .pushSolicitedData || type = .pushUnsolicitedData

namespace Endpoint

variable (e : Endpoint)

def getTimeoutOfPacket (pm : PacketMetadata) : Time :=
  if pm.nackCode = .ulpReceiverNotReady then pm.rnrTimeout
  else if pm.received then e.config.ulpRto
  else e.congestionControl.retransmitTimeout

def headDeadline (w : WindowType) : Except Fatal (Option Time) :=
  match (e.tx w).outstandingPackets with
  | [] => pure none
  | work :: _ => do
    let (_, _, pm) ← e.getPacketMetadata work.rsn work.type
    pure (some (pm.transmissionTime + e.getTimeoutOfPacket pm))

def minDeadline : Option Time → Option Time → Option Time
  | none, d => d
  | some t, none => some t
  | some t, some t' => some (if t' < t then t' else t)

def setupRetransmitTimer : Outcome := do
  let request ← e.headDeadline .request
  let data ← e.headDeadline .data
  match minDeadline request data with
  | none => pure e
  | some deadline =>
    let baseTime := ceilNanoseconds deadline
    if baseTime = e.rtoExpirationBaseTime then pure e
    else
      let baseTime := if baseTime < e.now then e.now else baseTime
      pure ({ e with rtoExpirationBaseTime := baseTime }.scheduleEvent (baseTime - e.now)
        .retransmitTimeout)

def handleRtoReduction : Outcome :=
  { e with rtoExpirationBaseTime := 0 }.setupRetransmitTimer

def incrementOutstandingRequestCount (type : PacketType) : Outcome :=
  if isOutstandingRequestType type then
    let w := windowOf type
    (e.setTx w { e.tx w with
      outstandingRequestsCounter := (e.tx w).outstandingRequestsCounter + 1 }).gate
  else pure e

def incrementOutstandingRetransmittedRequestCount (type : PacketType) : Outcome :=
  if isOutstandingRequestType type then
    let w := windowOf type
    (e.setTx w { e.tx w with
      outstandingRetransmissionRequestsCounter :=
        (e.tx w).outstandingRetransmissionRequestsCounter + 1 }).gate
  else pure e

/-- The window whose counters the acknowledgement of a packet of `type` decrements: the ack of
solicited data completes a request of the request window. -/
def completionWindow (type : PacketType) : WindowType :=
  if type = .pushUnsolicitedData then .data else .request

def decrementOutstandingRequestCount (type : PacketType) : Outcome :=
  if type = .pullRequest ∨ type = .pushSolicitedData ∨ type = .pushUnsolicitedData then
    let w := completionWindow type
    let counter := (e.tx w).outstandingRequestsCounter
    ((e.setTx w { e.tx w with outstandingRequestsCounter := counter - 1 }).emit
      (.decrement w false counter)).gate
  else pure e

def decrementOutstandingRetransmittedRequestCount (type : PacketType) (isAcked : Bool) : Outcome :=
  if type = .pullRequest ∨ type = .pushUnsolicitedData ∨ (type = .pushSolicitedData ∧ isAcked) ∨
      (type = .pushRequest ∧ !isAcked) then
    let w := completionWindow type
    let counter := (e.tx w).outstandingRetransmissionRequestsCounter
    ((e.setTx w { e.tx w with outstandingRetransmissionRequestsCounter := counter - 1 }).emit
      (.decrement w true counter)).gate
  else pure e

def initiateRetransmission (rsn : Rsn) (type : PacketType) : Outcome := do
  let (e, inserted) ← e.enqueueRetransmission rsn type
  let (_, _, pm) ← e.getPacketMetadata rsn type
  let e := e.emit (.retransmit ⟨rsn, type⟩ pm.retransmissionReason)
  if pm.transmitAttempts > 1 ∧ inserted then
    e.decrementOutstandingRetransmittedRequestCount type false
  else pure e

/-- The header of an outgoing packet; the lengths follow `SetOutgoingPacketHeader`. -/
def outgoingPacket (rsn : Rsn) (type : PacketType) (tr : TransactionMetadata) (pm : PacketMetadata)
    (psn : Psn) (ackReq : Bool) : TransactionPacket :=
  { type := type
    rsn := rsn
    psn := psn
    ssn := pm.ssn
    ackReq := ackReq
    bpsn := e.rxBpsn
    requestLength :=
      if type = .pullRequest ∨ type = .pushRequest ∨ type = .pushGrant then tr.requestLength else 0
    payloadLength := if type = .pushRequest ∨ type = .pushGrant then 0 else pm.payloadLength }

/-- `CreateOrUpdateReceiverPacketContext` for an outgoing packet: the context is created when it is
absent. -/
def createReceivedPacketContext (key : TransactionKey) : Endpoint :=
  e.setReceivedPacketContext key (some ((e.receivedPacketContexts key).getD {}))

/-- `AssignPsnAndSsn`, together with the first increment of `transmit_attempts`. -/
def assignPsnAndSsn (key : TransactionKey) (tr : TransactionMetadata) (pm : PacketMetadata)
    (type : PacketType) : Outcome := do
  let w := windowOf type
  let psn := (e.tx w).next
  let e := e.setTransaction key (tr.createPacket type
    { pm with transmitAttempts := 1, psn := some psn })
  let e ← (e.setTx w { e.tx w with next := psn + 1 }).gate
  if type = .pushRequest then
    let pm := { pm with
      transmitAttempts := 1
      psn := some psn
      ssn := e.currentSolicitationSequenceNumber }
    pure { e.setTransaction key (tr.createPacket type pm) with
      currentSolicitationSequenceNumber := e.currentSolicitationSequenceNumber + 1 }
  else pure e

def reportRetransmission (pm : PacketMetadata) (psn : Psn) : Endpoint :=
  match pm.retransmissionReason with
  | .timeout => e.emit (.rue (.packetTimeoutRetransmitted psn pm.timeoutRetransmissionAttempts))
  | .earlyOooDis | .earlyRack | .earlyNack | .earlyTlp =>
    e.emit (.rue (.packetEarlyRetransmitted psn pm.timeoutRetransmissionAttempts))
  | .ulpRto => e

def countRetransmission (pm : PacketMetadata) : PacketMetadata :=
  if pm.transmitAttempts > 1 then
    match pm.retransmissionReason with
    | .timeout | .ulpRto =>
      { pm with timeoutRetransmissionAttempts := pm.timeoutRetransmissionAttempts + 1 }
    | .earlyOooDis | .earlyRack | .earlyTlp | .earlyNack =>
      { pm with earlyRetxAttempts := pm.earlyRetxAttempts + 1 }
  else pm

def addToOutstandingPackets (rsn : Rsn) (psn : Psn) (type : PacketType) : Endpoint :=
  let w := windowOf type
  let tx := e.tx w
  e.setTx w { tx with
    outstandingPackets :=
      OrderedSet.insert RetransmissionWorkId.lt ⟨rsn, psn, type⟩ tx.outstandingPackets
    outstandingPacketContexts :=
      Function.update tx.outstandingPacketContexts psn (some ⟨rsn, type⟩) }

def setupRetransmission (key : TransactionKey) (type : PacketType) (psn : Psn) : Outcome := do
  let tr ← e.getTransaction key
  let pm ← tr.getPacketMetadata type
  let pm := countRetransmission { pm with transmissionTime := e.now }
  let e := e.setTransaction key (tr.createPacket type pm)
  (e.addToOutstandingPackets key.rsn psn type).setupRetransmitTimer

/-- The sequence number of a transmission. A retransmission keeps its own and is reported to the
rate update engine. -/
def numberTransmission (key : TransactionKey) (tr : TransactionMetadata) (pm : PacketMetadata)
    (type : PacketType) : Outcome :=
  if pm.transmitAttempts ≥ 1 then do
    let some psn := pm.psn | throw .unassignedPsn
    pure ((e.setTransaction key (tr.createPacket type
      { pm with transmitAttempts := pm.transmitAttempts + 1 })).reportRetransmission pm psn)
  else e.assignPsnAndSsn key tr pm type

def countTransmission (key : TransactionKey) (type : PacketType) (isRetransmission : Bool) :
    Outcome :=
  if isRetransmission then e.incrementOutstandingRetransmittedRequestCount type
  else do
    let e ← e.incrementOutstandingRequestCount type
    let tr ← e.getTransaction key
    let tr ← tr.updateState type .ntwkTx
    pure (e.setTransaction key tr)

def sendPacket (key : TransactionKey) (type : PacketType) (ackReq : Bool)
    (isRetransmission : Bool) :
    Outcome := do
  let tr ← e.getTransaction key
  let pm ← tr.getPacketMetadata type
  let some psn := pm.psn | throw .unassignedPsn
  let packet := e.outgoingPacket key.rsn type tr pm psn ackReq
  let e ← e.setupRetransmission key type psn
  let e := e.piggybackAck.createReceivedPacketContext key
  let e ← e.countTransmission key type isRetransmission
  pure (e.emit (.transmit packet isRetransmission))

/-- `TransmitPacket`. `ackReq` is the choice of the AR bit, which the source draws at random. -/
def transmitPacket (rsn : Rsn) (type : PacketType) (ackReq : Bool) : Outcome := do
  let (key, tr, pm) ← e.getPacketMetadata rsn type
  let e ← e.numberTransmission key tr pm type
  e.sendPacket key type ackReq (pm.transmitAttempts ≥ 1)

/-- Removes a packet that is outstanding or waits for its retransmission. -/
def removeOutstandingPacket (w : WindowType) (work : RetransmissionWorkId) : Outcome := do
  let tx := e.tx w
  if OrderedSet.contains RetransmissionWorkId.lt work tx.outstandingPackets then
    let e := e.setTx w { tx with
      outstandingPackets := OrderedSet.erase RetransmissionWorkId.lt work tx.outstandingPackets }
    let (_, _, pm) ← e.getPacketMetadata work.rsn work.type
    if (work.type = .pullRequest ∨ work.type = .pushUnsolicitedData) ∧ pm.transmitAttempts > 1 then
      e.decrementOutstandingRetransmittedRequestCount work.type true
    else pure e
  else e.dequeueRetransmission work.rsn work.type

def settleRetransmittedRequest (type : PacketType) (tr : TransactionMetadata) : Outcome :=
  if type = .pushSolicitedData then do
    let request ← tr.getPacketMetadata .pushRequest
    if request.transmitAttempts > 1 then
      e.decrementOutstandingRetransmittedRequestCount type true
    else pure e
  else pure e

/-- Settles the counters of a packet and drops its context. -/
def forgetPacket (w : WindowType) (psn : Psn) (work : WorkId) (tr : TransactionMetadata) :
    Outcome := do
  let e ← e.decrementOutstandingRequestCount work.type
  let e ← e.settleRetransmittedRequest work.type tr
  let e ← e.removeOutstandingPacket w ⟨work.rsn, psn, work.type⟩
  let e := { e with congestionControl := { e.congestionControl with
    numAcked := e.congestionControl.numAcked + 1 } }
  pure (e.setTx w { e.tx w with
    outstandingPacketContexts := Function.update (e.tx w).outstandingPacketContexts psn none })

/-- The packet is acknowledged and its transaction goes on. -/
def enqueueAckToUlp (w : WindowType) (psn : Psn) : Outcome := do
  let some work := (e.tx w).outstandingPacketContexts psn | throw .contextNotFound
  let location ← getTransactionLocation work.type false
  let key : TransactionKey := ⟨work.rsn, location⟩
  let tr ← e.getTransaction key
  let tr ← tr.updateState work.type .ntwkAckRx
  let e ← ((e.setTransaction key tr).emit (.ackToUlp w psn work)).forgetPacket w psn work tr
  if isPushData work.type then
    let (e, _) ← e.insertPacket .ack work.rsn 0
    pure e
  else
    let e ← e.releaseResources key work.type
    if work.type = .pullData then
      pure ((e.eraseTransaction key).setReceivedPacketContext key none)
    else pure e

end Endpoint

end Isekai.Falcon
