import Isekai.Falcon.Endpoint

/-!
# The ACK coalescing engine

`gen1/ack_coalescing_engine.cc`. ACKs and NACKs leave through the log; the ACK/NACK scheduler and
the traffic shaper behind it only delay them.
-/

namespace Isekai.Falcon

open Lib

/-- `FirstHoleIndex`: the first clear bit, when it lies below the number of set bits. -/
def firstHoleIndex {n : Nat} (b : BitVec n) : Option Nat :=
  let ones := Bitmap.count b
  let index := Bitmap.runEnd b 0 ones
  if index = ones then none else some index

namespace Endpoint

variable (e : Endpoint)

def hasExperiencedOowDrops : Bool :=
  (e.rx .request).hasOowDrop || (e.rx .data).hasOowDrop

def resetOowDrops : Endpoint :=
  { e with rx := fun w => { e.rx w with hasOowDrop := false } }

def rxBpsn : WindowType → Psn := fun w => (e.rx w).base

/-- The effect of `PiggybackAck` on the coalescing state; the packet carries `rxBpsn`. -/
def piggybackAck : Endpoint :=
  let e :=
    if !e.hasExperiencedOowDrops then
      { e with
        coalescing := { e.coalescing with
          coalescingCounter := e.coalescing.coalescingCounter - e.implicitlyAckedCounter * 2 }
        implicitlyAckedCounter := 0 }
    else e
  if e.coalescing.coalescingCounter = 0 then
    { e with coalescing := { e.coalescing with timerTriggerTime := 0 } }
  else e

lemma piggybackAck_eq : ∃ c n, e.piggybackAck =
    { e with coalescing := c, implicitlyAckedCounter := n } := by
  unfold piggybackAck
  dsimp only
  split
  · split <;> exact ⟨_, _, rfl⟩
  · split <;> exact ⟨_, _, rfl⟩

/-- `CreateExplicitAckOrEack`: the packet, before the OWN flags it carries are reset. -/
def createExplicitAckOrEack : AckPacket :=
  let rxBitmapTriggerEack :=
    if e.config.eackTriggerByHoleInRxBitmap then
      (firstHoleIndex (e.rx .data).receiveWindow).isSome
    else (e.rx .data).receiveWindow != 0
  let isEack := (e.rx .request).ackWindow != 0 || (e.rx .data).ackWindow != 0 ||
    rxBitmapTriggerEack || e.hasExperiencedOowDrops
  { isEack := isEack
    bpsn := e.rxBpsn
    own := fun w => isEack && (e.rx w).hasOowDrop
    ackBitmap := fun w => if isEack then (e.rx w).ackWindow else 0
    receivedBitmap := if isEack then (e.rx .data).receiveWindow else 0
    timestamp1 := e.coalescing.timestamp1 }

def transmitACK : Endpoint :=
  let e := { e with
    coalescing := { e.coalescing with coalescingCounter := 0, timerTriggerTime := 0 }
    implicitlyAckedCounter := 0 }
  let ack := e.createExplicitAckOrEack
  (if ack.isEack then e.resetOowDrops else e).emit (.transmitAck ack)

def transmitNACK (originalPsn : Psn) (isRequestWindow : Bool) (code : NackCode)
    (rnrTimeout : Time) :
    Endpoint :=
  let e := e.piggybackAck
  let nack : NackPacket :=
    { code := code
      nackPsn := originalPsn
      requestWindow := isRequestWindow
      bpsn := e.rxBpsn
      own := fun w => (e.rx w).hasOowDrop
      rnrTimeout := if code = .ulpReceiverNotReady then rnrTimeout else 0
      timestamp1 := e.coalescing.timestamp1 }
  e.resetOowDrops.emit (.transmitNack nack)

def setupAckCoalescingTimer : Endpoint :=
  { e with coalescing := { e.coalescing with timerTriggerTime := e.now } }.scheduleEvent
    e.config.ackCoalescingTimeout .ackCoalescingTimeout

def generateAckOrUpdateCoalescingState (immediateAckReq : Bool) (countIncrement : Nat) : Endpoint :=
  let e := { e with
    coalescing := { e.coalescing with
      coalescingCounter := e.coalescing.coalescingCounter + countIncrement } }
  let immediateAckReq :=
    immediateAckReq && !(e.config.ignoreIncomingArBit && e.hasExperiencedOowDrops)
  if immediateAckReq || e.coalescing.coalescingCounter ≥ e.config.ackCoalescingThreshold * 2 then
    e.transmitACK
  else if e.coalescing.timerTriggerTime = 0 then e.setupAckCoalescingTimer
  else e

def handleAckCoalescingTimeout : Endpoint :=
  if e.now - e.coalescing.timerTriggerTime = e.config.ackCoalescingTimeout ∧
      e.coalescing.coalescingCounter > 0 then
    e.transmitACK
  else e

def updateCongestionControlMetadataToReflect (sentTimestamp : Time) : Endpoint :=
  { e with coalescing := { e.coalescing with timestamp1 := sentTimestamp } }

end Endpoint

end Isekai.Falcon
