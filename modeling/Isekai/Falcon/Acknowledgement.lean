import Isekai.Falcon.Transmission

/-!
# Acknowledgements and early retransmission

The handlers of `gen1/packet_reliability_manager.cc` that move a transmitter window.
-/

namespace Isekai.Falcon

open Lib

def txBitmapIndex (tx : TransmitterReliabilityWindowMetadata) (psn : Psn) : Nat :=
  (psn - tx.base).toNat % txWindowSize

namespace Endpoint

variable (e : Endpoint)

def setPacketMetadata (key : TransactionKey) (tr : TransactionMetadata) (type : PacketType)
    (pm : PacketMetadata) : Endpoint :=
  e.setTransaction key (tr.createPacket type pm)

/-- The loop of `HandleRetransmitTimeout` over the outstanding packets of one window. Every round
removes the head of the set or ends the loop. -/
def timeoutScan (e : Endpoint) (w : WindowType) : List RetransmissionWorkId → Outcome
  | [] => pure e
  | work :: rest => do
    let tx := e.tx w
    if Bitmap.get tx.window (txBitmapIndex tx work.psn) then
      (e.setTx w { tx with outstandingPackets := rest }).timeoutScan w rest
    else
      let (key, tr, pm) ← e.getPacketMetadata work.rsn work.type
      if e.now - pm.transmissionTime < e.getTimeoutOfPacket pm then pure e
      else if pm.timeoutRetransmissionAttempts ≥ e.config.maxRetransmitAttempts then
        throw .retransmissionLimit
      else
        let pm :=
          if pm.received then { pm with retransmissionReason := .ulpRto }
          else { pm with
            retransmissionReason := .timeout
            bypassRecencyCheck := true
            bypassScanningExitCriteria := false }
        let e ← (e.setPacketMetadata key tr work.type pm).initiateRetransmission work.rsn work.type
        (e.setTx w { e.tx w with outstandingPackets := rest }).timeoutScan w rest

def handleRetransmitTimeout : Outcome := do
  if e.now ≠ e.rtoExpirationBaseTime then pure e
  else
    let e := { e with rtoExpirationBaseTime := 0 }
    let e ← e.timeoutScan .request (e.tx .request).outstandingPackets
    let e ← e.timeoutScan .data (e.tx .data).outstandingPackets
    e.setupRetransmitTimer

def setOowNotificationReceived (w : WindowType) (value : Bool) : Outcome :=
  if (e.tx w).oowNotificationReceived = value then pure e
  else (e.setTx w { e.tx w with oowNotificationReceived := value }).gate

def ackBelowBase (w : WindowType) (e : Endpoint) (index : Nat) : Outcome :=
  if index ≥ txWindowSize then throw .bitmapIndex
  else if !Bitmap.get (e.tx w).window index then
    e.enqueueAckToUlp w ((e.tx w).base + BitVec.ofNat 32 index)
  else pure e

def updateOowNotification (w : WindowType) (ackBpsn : Psn) (own : Bool) : Outcome :=
  if seqGEQ (ackBpsn + e.config.slack w) (e.tx w).next then e.setOowNotificationReceived w false
  else if own then e.setOowNotificationReceived w true
  else pure e

def advanceTxWindow (w : WindowType) (ackBpsn : Psn) (own : Bool) : Outcome := do
  let tx := e.tx w
  if seqGT ackBpsn tx.base then
    let e ← e.updateOowNotification w ackBpsn own
    let delta := (ackBpsn - tx.base).toNat
    let e ← (List.range delta).foldlM (ackBelowBase w) e
    ((e.setTx w { e.tx w with
      window := Bitmap.rightShift (e.tx w).window delta
      base := ackBpsn }).emit (.txAdvance w delta)).gate
  else pure e

/-- The scan of `EarlyRetransmissionOooCount`: `limit + 1` and the ones counted so far. -/
def oooCountLimit {n : Nat} (b : BitVec n) (threshold : Nat) : Nat → Nat → Int
  | 0, _ => -1
  | limit + 1, count =>
    if count < threshold then oooCountLimit b threshold limit (count + (Bitmap.get b limit).toNat)
    else limit

def highestSet {n : Nat} (b : BitVec n) : Nat → Int
  | 0 => -1
  | limit + 1 => if Bitmap.get b limit then limit else highestSet b limit

/-- The limit of `EarlyRetransmissionOooDistance`, in the source's 32-bit arithmetic. -/
def oooDistanceLimit {n : Nat} (b : BitVec n) (size : Nat) (threshold : BitVec 32) : Int :=
  (BitVec.ofInt 32 (highestSet b size) - threshold).toInt

def receivedBitmapOf (p : AckPacket) : WindowType → BitVec rxBitmapWidth
  | .request => p.ackBitmap .request
  | .data => p.receivedBitmap

def retxLimit (p : AckPacket) (w : WindowType) : Int :=
  let received := receivedBitmapOf p w
  let limit : Int := -1
  let limit :=
    if e.config.enableOooCount then
      max limit (oooCountLimit received e.config.oooCountThreshold (rxWindowSize w) 0)
    else limit
  let limit :=
    if e.config.enableOooDistance then
      max limit (oooDistanceLimit received (rxWindowSize w) e.config.oooDistanceThreshold)
    else limit
  if e.config.enableEackOwn ∧ p.own w then ((e.tx w).next - 1).toInt else limit

def hasHole (p : AckPacket) (w : WindowType) : Bool :=
  (List.range (rxWindowSize w)).any fun i =>
    decide ((i : Int) ≤ e.retxLimit p w) && !Bitmap.get (receivedBitmapOf p w) i

def eackBasedEarlyRetransmissionIsEnabled : Bool :=
  e.config.enableOooDistance || e.config.enableOooCount

def ackFromBitmap (w : WindowType) (bitmap : BitVec rxBitmapWidth) (e : Endpoint) (index : Nat) :
    Outcome :=
  if !Bitmap.get (e.tx w).window index && Bitmap.get bitmap index then do
    let e ← e.enqueueAckToUlp w ((e.tx w).base + BitVec.ofNat 32 index)
    pure (e.setTx w { e.tx w with window := Bitmap.set (e.tx w).window index true })
  else pure e

/-- The retransmission loop of `HandleEACK` over the outstanding packets of one window. `force` is
`force_recency_check_bypass`. -/
def eackScan (w : WindowType) (received : BitVec rxBitmapWidth) (own : Bool) (limit : Int)
    (instantRtt : Time) : Endpoint → Bool → List RetransmissionWorkId → Outcome
  | e, _, [] => pure e
  | e, force, work :: rest => do
    let index := txBitmapIndex (e.tx w) work.psn
    if (index : Int) > limit then pure e
    else if index < rxWindowSize w ∧ Bitmap.get received index then
      eackScan w received own limit instantRtt e force rest
    else
      let (key, tr, pm) ← e.getPacketMetadata work.rsn work.type
      if pm.nackCode = .ulpReceiverNotReady then pure e
      else
        let recencyCheckPass := decide (e.now - pm.transmissionTime ≥ instantRtt)
        let recencyCheckBypass :=
          e.config.enableRecencyCheckBypass && own && pm.bypassRecencyCheck
        let smallerPsnRecencyCheckBypass :=
          e.config.enableSmallerPsnRecencyCheckBypass && own && force
        if recencyCheckPass || recencyCheckBypass || smallerPsnRecencyCheckBypass then
          if pm.earlyRetxAttempts ≥ e.config.earlyRetxThreshold then throw .earlyRetransmissionLimit
          let pm := { pm with
            retransmissionReason := .earlyOooDis
            bypassRecencyCheck := false
            bypassScanningExitCriteria := !own }
          let e := e.setPacketMetadata key tr work.type pm
          let e ← e.initiateRetransmission work.rsn work.type
          let e := e.setTx w { e.tx w with
            outstandingPackets :=
              OrderedSet.erase RetransmissionWorkId.lt work (e.tx w).outstandingPackets }
          eackScan w received own limit instantRtt e (force || own) rest
        else if e.config.enableScanningExitCriteriaBypass && own &&
            pm.bypassScanningExitCriteria then
          eackScan w received own limit instantRtt e force rest
        else pure e

def eackRetransmit (p : AckPacket) (limit : Int) (instantRtt : Time) (w : WindowType) : Outcome :=
  eackScan w (receivedBitmapOf p w) (p.own w) limit instantRtt e false (e.tx w).outstandingPackets

def handleEACK (p : AckPacket) (receivedTimestamp : Time) : Except Fatal (Endpoint × Bool) := do
  let e ← (List.range (rxWindowSize .request)).foldlM
    (ackFromBitmap .request (p.ackBitmap .request)) e
  let e ← (List.range (rxWindowSize .data)).foldlM (ackFromBitmap .data (p.ackBitmap .data)) e
  if e.eackBasedEarlyRetransmissionIsEnabled then
    let dropDetected := e.hasHole p .request || e.hasHole p .data
    let instantRtt := receivedTimestamp - p.timestamp1
    let requestLimit := e.retxLimit p .request
    let dataLimit := e.retxLimit p .data
    let e ← e.eackRetransmit p requestLimit instantRtt .request
    let e ← e.eackRetransmit p dataLimit instantRtt .data
    pure (e, dropDetected)
  else pure (e, false)

def processEACK (p : AckPacket) (receivedTimestamp : Time) : Except Fatal (Endpoint × Bool) :=
  if p.isEack then e.handleEACK p receivedTimestamp else pure (e, false)

/-- An ACK that is behind one of the windows is ignored. -/
def handleACK (p : AckPacket) (receivedTimestamp : Time) : Outcome := do
  if seqLT (p.bpsn .request) (e.tx .request).base || seqLT (p.bpsn .data) (e.tx .data).base then
    pure e
  else
    let e ← e.advanceTxWindow .request (p.bpsn .request) (p.own .request)
    let e ← e.advanceTxWindow .data (p.bpsn .data) (p.own .data)
    let (e, dropDetected) ← e.processEACK p receivedTimestamp
    (e.emit (.rue (.explicitAckReceived p.isEack dropDetected))).setupRetransmitTimer

/-- The packet whose receipt implies that an earlier packet of ours has arrived. -/
def implicitlyAcked : PacketType → Option PacketType
  | .pullData => some .pullRequest
  | .pushSolicitedData => some .pushGrant
  | .pushGrant => some .pushRequest
  | _ => none

def advanceOverImplicitAck (w : WindowType) (psn : Psn) : Outcome :=
  if psn = (e.tx w).base then
    ((e.setTx w { e.tx w with
      window := Bitmap.rightShift (e.tx w).window 1
      base := (e.tx w).base + 1 }).emit (.txAdvance w 1)).gate
  else pure e

/-- `HandleImplicitAck`. The test whether the packet is acknowledged already compares sequence
numbers as plain integers. -/
def handleImplicitAck (rsn : Rsn) (type : PacketType) : Outcome :=
  match implicitlyAcked type with
  | none => pure e
  | some ackedType => do
    let location ← getTransactionLocation type true
    let tr ← e.getTransaction ⟨rsn, location⟩
    let pm ← tr.getPacketMetadata ackedType
    let some txPsn := pm.psn | throw .unassignedPsn
    let w := windowOf ackedType
    let tx := e.tx w
    if txPsn.toNat < tx.base.toNat then pure e
    else
      let index := (txPsn - tx.base).toNat
      if index ≥ txWindowSize then throw .bitmapIndex
      else if !Bitmap.get tx.window index then
        let e ← e.enqueueAckToUlp w txPsn
        let e := e.setTx w { e.tx w with window := Bitmap.set (e.tx w).window index true }
        let e ← e.advanceOverImplicitAck w txPsn
        e.setupRetransmitTimer
      else pure e

/-- `HandlePiggybackedACK`. `own` is set by NACKs only. -/
def handlePiggybackedACK (bpsn : WindowType → Psn) (own : WindowType → Bool) : Outcome := do
  if seqLT (bpsn .request) (e.tx .request).base || seqLT (bpsn .data) (e.tx .data).base then
    pure e
  else
    let e ← e.advanceTxWindow .request (bpsn .request) (own .request)
    let e ← e.advanceTxWindow .data (bpsn .data) (own .data)
    e.setupRetransmitTimer

/-- The loop of `InitiateNackBasedEarlyRetransmission`. The source does not advance its iterator
over a packet whose window bit is set; the fuel is the number of rounds an ending loop can take. -/
def nackScan (w : WindowType) (instantRtt : Time) :
    Nat → Endpoint → List RetransmissionWorkId → Outcome
  | _, e, [] => pure e
  | 0, _, _ :: _ => throw .scanDoesNotTerminate
  | fuel + 1, e, work :: rest => do
    let tx := e.tx w
    let index := txBitmapIndex tx work.psn
    if index ≥ e.config.earlyRetransmitLimit then pure e
    else if Bitmap.get tx.window index then nackScan w instantRtt fuel e (work :: rest)
    else
      let (key, tr, pm) ← e.getPacketMetadata work.rsn work.type
      if pm.transmissionTime + instantRtt ≥ e.now then pure e
      else if pm.earlyRetxAttempts < e.config.earlyRetxThreshold then
        let e ← (e.setPacketMetadata key tr work.type
          { pm with retransmissionReason := .earlyNack }).initiateRetransmission work.rsn work.type
        nackScan w instantRtt fuel
          (e.setTx w { e.tx w with
            outstandingPackets :=
              OrderedSet.erase RetransmissionWorkId.lt work (e.tx w).outstandingPackets }) rest
      else pure e

def initiateNackBasedEarlyRetransmission (p : NackPacket) (receivedTimestamp : Time) : Outcome :=
  let w : WindowType := if p.requestWindow then .request else .data
  let outstanding := (e.tx w).outstandingPackets
  nackScan w (receivedTimestamp - p.timestamp1) outstanding.length e outstanding

/-- `HandleRnrNack`. The test whether the NACKed packet is acknowledged already compares sequence
numbers as plain integers. -/
def handleRnrNack (p : NackPacket) : Outcome :=
  let tx := e.tx (if p.requestWindow then .request else .data)
  match tx.outstandingPacketContexts p.nackPsn with
  | none => if p.nackPsn.toNat < tx.base.toNat then pure e else throw .contextNotFound
  | some work => do
    let (key, tr, pm) ← e.getPacketMetadata work.rsn work.type
    (e.setPacketMetadata key tr work.type
      { pm with nackCode := .ulpReceiverNotReady, rnrTimeout := p.rnrTimeout }).setupRetransmitTimer

def handleNackCode (p : NackPacket) (receivedTimestamp : Time) : Outcome :=
  match p.code with
  | .rxResourceExhaustion => pure e
  | .ulpReceiverNotReady => e.handleRnrNack p
  | .reserved =>
    if !e.eackBasedEarlyRetransmissionIsEnabled then
      e.initiateNackBasedEarlyRetransmission p receivedTimestamp
    else pure e
  | .ulpCompletionInError | .ulpNonRecoverableError | .invalidCidError | .xlrDrop | .notANack =>
    throw .unsupportedNack

def handleNack (p : NackPacket) (receivedTimestamp : Time) : Outcome := do
  let e ← e.handlePiggybackedACK p.bpsn p.own
  let e ← e.handleNackCode p receivedTimestamp
  (e.emit (.rue (.nackReceived p.code))).setupRetransmitTimer

end Endpoint

end Isekai.Falcon
