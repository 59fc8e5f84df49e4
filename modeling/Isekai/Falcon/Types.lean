import Isekai.Falcon.ResourceCredits
import Isekai.Lib.Serial
import Isekai.Lib.Bitmap
import Isekai.Lib.OrderedSet
import Mathlib.Data.Fintype.Pi

/-!
# Falcon types

The enumerations and records of `falcon.h`, `gen1/falcon_types.h`,
`gen1/connection_scheduler_types.h` and `common/packet.h` that the transport reads. Packet sequence
numbers keep their 32 bits. Request and solicitation sequence numbers are natural numbers. A time is
a number of quarter nanoseconds, the resolution of the source's durations.
-/

namespace Isekai.Falcon

abbrev Psn := BitVec 32
abbrev Rsn := Nat
abbrev Ssn := Nat
abbrev Time := Int

def nanosecond : Time := 4

def ceilNanoseconds (t : Time) : Time := -(-t / nanosecond) * nanosecond

inductive PacketType where
  | invalid | pullRequest | pushRequest | pushGrant | pullData | pushSolicitedData
  | pushUnsolicitedData | resync | ack | nack | back | eack
  deriving DecidableEq, Repr

inductive NackCode where
  | notANack | rxResourceExhaustion | ulpReceiverNotReady | xlrDrop | reserved
  | ulpCompletionInError | ulpNonRecoverableError | invalidCidError
  deriving DecidableEq, Repr

inductive WindowType where
  | request | data
  deriving DecidableEq, Repr

instance : Fintype WindowType := ⟨{.request, .data}, fun w => by cases w <;> simp⟩

inductive TransactionType where
  | pull | pushSolicited | pushUnsolicited
  deriving DecidableEq, Repr

inductive TransactionLocation where
  | initiator | target
  deriving DecidableEq, Repr

inductive TransactionStage where
  | ulpRx | ulpTx | ulpAckRx | ulpRnrRx | ulpCompletionTx | ntwkRx | ntwkTx | ntwkAckRx
  deriving DecidableEq, Repr

inductive TransactionState where
  | invalid
  | pullReqUlpRx | pullDataUlpRx | pushSolicitedReqUlpRx | pushUnsolicitedReqUlpRx
  | pullReqUlpTx | pullDataUlpTx | pushSolicitedDataUlpTx | pushUnsolicitedDataUlpTx
  | pushCompletionUlpTx
  | pullReqAckUlpRx | pushSolicitedDataAckUlpRx | pushUnsolicitedDataAckUlpRx
  | pullReqRnrUlpRx | pushSolicitedDataRnrUlpRx | pushUnsolicitedDataRnrUlpRx
  | pullReqNtwkRx | pullDataNtwkRx | pushReqNtwkRx | pushGrantNtwkRx | pushSolicitedDataNtwkRx
  | pushUnsolicitedDataNtwkRx
  | pullReqNtwkTx | pullDataNtwkTx | pushReqNtwkTx | pushGrantNtwkTx | pushSolicitedDataNtwkTx
  | pushUnsolicitedDataNtwkTx
  | pullDataAckNtwkRx | pushSolicitedDataAckNtwkRx | pushUnsolicitedDataAckNtwkRx
  deriving DecidableEq, Repr

inductive PacketDirection where
  | incoming | outgoing
  deriving DecidableEq, Repr

inductive RetransmitReason where
  | timeout | earlyOooDis | earlyRack | earlyTlp | earlyNack | ulpRto
  deriving DecidableEq, Repr

inductive PacketTypeQueue where
  | pullAndOrderedPushRequest | unorderedPushRequest | pushData | pushGrant | pullData
  deriving DecidableEq, Repr

structure TransactionKey where
  rsn : Rsn
  location : TransactionLocation
  deriving DecidableEq, Repr

/-- What identifies a packet for the schedulers. -/
structure WorkId where
  rsn : Rsn
  type : PacketType
  deriving DecidableEq, Repr

/-- What identifies an outstanding packet. -/
structure RetransmissionWorkId where
  rsn : Rsn
  psn : Psn
  type : PacketType
  deriving DecidableEq, Repr

/-- The ways a modelled `CHECK`, `CHECK_OK` or `LOG(FATAL)` stops the simulator. -/
inductive Fatal where
  | transactionNotFound
  | packetNotFound
  | contextNotFound
  | receivedContextNotFound
  | updateState (type : PacketType) (stage : TransactionStage) (state : TransactionState)
  | bitmapIndex
  | unassignedPsn
  | noLocation
  | notASchedulerPacket
  | emptyQueue
  | cannotSend
  | cwndExceedsWindow
  | retransmissionLimit
  | earlyRetransmissionLimit
  | scanDoesNotTerminate
  | lengthMismatch
  | invalidPacket
  | unsupportedNack
  | reorderDuplicate
  | reorderEntryNotFound
  | ulpProtocol
  | noResources
  | resourcesNotReserved
  | resourcesNotHeld
  deriving DecidableEq, Repr

/-- `SeqLT`, `SeqGT` and `SeqGEQ`: the sign of the 32-bit distance. -/
def seqLT (a b : Psn) : Bool := Lib.Serial.lt a b

def seqGT (a b : Psn) : Bool := decide ((a - b).toInt > 0)

def seqGEQ (a b : Psn) : Bool := decide ((a - b).toInt ≥ 0)

def RetransmissionWorkId.lt (a b : RetransmissionWorkId) : Bool := seqLT a.psn b.psn

def belongsToRequestWindow (type : PacketType) : Bool :=
  type = .pullRequest || type = .pushRequest

def windowOf (type : PacketType) : WindowType :=
  if belongsToRequestWindow type then .request else .data

def txWindowSize : Nat := 1024

def rxBitmapWidth : Nat := 128

def rxWindowSize : WindowType → Nat
  | .request => 64
  | .data => 128

def getTransactionLocation (type : PacketType) (incoming : Bool) :
    Except Fatal TransactionLocation :=
  match type with
  | .pullRequest | .pushRequest | .pushSolicitedData | .pushUnsolicitedData =>
    pure (if incoming then .target else .initiator)
  | .pullData | .pushGrant => pure (if incoming then .initiator else .target)
  | _ => throw .noLocation

/-- A transaction packet: the Falcon header fields the transport reads. `bpsn` holds `rrbpsn` and
`rdbpsn`. -/
structure TransactionPacket where
  type : PacketType
  rsn : Rsn
  psn : Psn
  ssn : Ssn
  ackReq : Bool
  bpsn : WindowType → Psn
  requestLength : Nat
  payloadLength : Nat
  deriving DecidableEq

structure AckPacket where
  isEack : Bool
  bpsn : WindowType → Psn
  own : WindowType → Bool
  ackBitmap : WindowType → BitVec rxBitmapWidth
  receivedBitmap : BitVec rxBitmapWidth
  timestamp1 : Time
  deriving DecidableEq

structure NackPacket where
  code : NackCode
  nackPsn : Psn
  requestWindow : Bool
  bpsn : WindowType → Psn
  own : WindowType → Bool
  rnrTimeout : Time
  timestamp1 : Time
  deriving DecidableEq

inductive Packet where
  | transaction (p : TransactionPacket)
  | ack (p : AckPacket)
  | nack (p : NackPacket)
  deriving DecidableEq

structure Config where
  ordered : Bool
  enableOooCount : Bool := false
  enableOooDistance : Bool := true
  enableEackOwn : Bool := false
  enableRecencyCheckBypass : Bool := false
  enableScanningExitCriteriaBypass : Bool := false
  enableSmallerPsnRecencyCheckBypass : Bool := false
  enablePauseInitialTransmissionOnOowDrops : Bool := false
  ignoreIncomingArBit : Bool := false
  eackTriggerByHoleInRxBitmap : Bool := false
  slack : WindowType → Psn := fun _ => 0
  earlyRetxThreshold : Nat := 2 ^ 32 - 1
  oooDistanceThreshold : BitVec 32 := 3
  oooCountThreshold : Nat := 3
  maxRetransmitAttempts : Nat := 2 ^ 31 - 1
  earlyRetransmitLimit : Nat := 64
  ackCoalescingThreshold : Nat := 10
  ackCoalescingTimeout : Time := 8000 * nanosecond
  ulpRto : Time := 5000000 * nanosecond
  thresholdSolicit : Nat := 0
  resources : ResourceConfig := {}

lemma RetransmissionWorkId.equiv_lt_iff (a b : RetransmissionWorkId) :
    Lib.OrderedSet.equiv RetransmissionWorkId.lt a b = true ↔ a.psn = b.psn := by
  simp only [Lib.OrderedSet.equiv, RetransmissionWorkId.lt, seqLT, Bool.and_eq_true,
    Bool.not_eq_true', Lib.Serial.lt_eq_false_iff]
  constructor
  · rintro ⟨hab, hba⟩
    by_contra hne
    have hpos : Lib.Serial.dist b.psn a.psn ≠ 0 := fun h => hne (Lib.Serial.dist_eq_zero.mp h)
    have ha := Lib.Serial.lt_iff_dist b.psn (by simp : 2 * Lib.Serial.dist b.psn b.psn < 2 ^ 32) hab
    rw [Lib.Serial.dist_self, Lib.Serial.lt_iff] at ha
    omega
  · intro h
    simp [h]

end Isekai.Falcon
