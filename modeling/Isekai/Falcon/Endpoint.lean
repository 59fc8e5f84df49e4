import Isekai.Falcon.Transaction
import Isekai.Lib.OrderedMap
import Isekai.Lib.Outcome

/-!
# The state of one side of a connection

`ConnectionState` of `falcon_connection_state.h` with the per-connection state of the schedulers,
the reorder engine, the coalescing engine and the inter-host scheduler, the callbacks that wait in
the simulator's event queue, and the log of what the endpoint has done so far, the latest action
first. `ulp` is what the attached upper layer holds: the transactions it was handed and has not
answered, and the reads it acknowledged and has not responded to. `globalCredits` are the credits
that the resource manager has left; the connections of a host share them.
-/

namespace Isekai.Falcon

open Function

structure CongestionControlMetadata where
  fabricCongestionWindow : BitVec 32
  nicCongestionWindow : BitVec 32
  retransmitTimeout : Time
  numAcked : Nat := 0

/-- A window of the transmitter. -/
structure TransmitterReliabilityWindowMetadata where
  base : Psn
  next : Psn
  outstandingRequestsCounter : BitVec 32 := 0
  outstandingRetransmissionRequestsCounter : BitVec 32 := 0
  oowNotificationReceived : Bool := false
  window : BitVec txWindowSize := 0
  outstandingPackets : List RetransmissionWorkId := []
  outstandingPacketContexts : Psn → Option WorkId := fun _ => none

/-- A window of the receiver. -/
structure ReceiverReliabilityWindowMetadata where
  base : Psn
  hasOowDrop : Bool := false
  receiveWindow : BitVec rxBitmapWidth := 0
  ackWindow : BitVec rxBitmapWidth := 0

/-- What is kept of a received packet until its ACK. -/
structure ReceivedPacketContext where
  psn : Psn := 0
  type : PacketType := .invalid
  isAckRequested : Bool := false
  deriving DecidableEq, Repr

/-- The counter and the timer of ACK coalescing. -/
structure AckCoalescingEntry where
  timestamp1 : Time := 0
  coalescingCounter : Nat := 0
  timerTriggerTime : Time := 0

/-- An entry of `target_rsn_buffer`. `retryTime` is `none` for an infinite retry time: the
transaction was sent to the ULP, which has not answered. -/
structure TargetBufferEntry where
  type : PacketType
  retryTime : Option Time := some 0
  deriving DecidableEq, Repr

/-- The reorder buffers of a connection. -/
structure ConnectionReorderMetadata where
  nextInitiatorRsn : Rsn := 0
  nextTargetRsn : Rsn := 0
  nextTargetNetworkRsn : Rsn := 0
  nextInitiatorSsn : Ssn := 0
  nextTargetSsn : Ssn := 0
  inRnr : Bool := false
  rnrTimeout : Time := 0
  initiatorRsnBuffer : List (Rsn × PacketType) := []
  targetRsnBuffer : List (Rsn × TargetBufferEntry) := []
  initiatorSsnBuffer : List (Ssn × Rsn) := []
  targetSsnBuffer : List (Ssn × Rsn) := []

inductive Callback where
  | retransmitTimeout
  | ackCoalescingTimeout
  | rnrTimeout (rsn : Rsn)
  | clearOpRate
  deriving DecidableEq, Repr

inductive RateUpdateEvent where
  | packetTimeoutRetransmitted (psn : Psn) (attempts : Nat)
  | packetEarlyRetransmitted (psn : Psn) (attempts : Nat)
  | explicitAckReceived (eack dropDetected : Bool)
  | nackReceived (code : NackCode)
  deriving DecidableEq, Repr

/-- Credits that are reserved for a packet. -/
structure Reservation where
  key : TransactionKey
  type : PacketType
  credits : FalconResourceCredits
  deriving DecidableEq

/-- What an endpoint does. `decrement` records the value of a request counter that is about to be
decremented, `txAdvance` and `rxAdvance` by how much the base of a window moves. -/
inductive Action where
  | transmit (packet : TransactionPacket) (retransmission : Bool)
  | transmitAck (packet : AckPacket)
  | transmitNack (packet : NackPacket)
  | accept (window : WindowType) (psn : Psn) (work : WorkId)
  | ackToUlp (window : WindowType) (psn : Psn) (work : WorkId)
  | txAdvance (window : WindowType) (delta : Nat)
  | rxAdvance (window : WindowType) (delta : Nat)
  | retransmit (work : WorkId) (reason : RetransmitReason)
  | decrement (window : WindowType) (retransmitted : Bool) (before : BitVec 32)
  | rue (event : RateUpdateEvent)
  | schedule (time : Time) (callback : Callback)
  | toUlp (work : WorkId)
  | completion (rsn : Rsn)
  | reserve (reservation : Reservation)
  | release (reservation : Reservation)
  | returnFalconCredit (key : TransactionKey) (credits : FalconResourceCredits)
  deriving DecidableEq

structure Ulp where
  given : List Rsn := []
  reads : List Rsn := []

structure Endpoint where
  config : Config
  now : Time := 0
  pending : List (Time × Callback) := []
  log : List Action := []
  congestionControl : CongestionControlMetadata
  tx : WindowType → TransmitterReliabilityWindowMetadata
  rtoExpirationBaseTime : Time := 0
  rx : WindowType → ReceiverReliabilityWindowMetadata
  implicitlyAckedCounter : Nat := 0
  receivedPacketContexts : TransactionKey → Option ReceivedPacketContext := fun _ => none
  coalescing : AckCoalescingEntry := {}
  transactions : TransactionKey → Option TransactionMetadata := fun _ => none
  nextRequestSequenceNumber : Rsn := 0
  currentSolicitationSequenceNumber : Ssn := 0
  queues : PacketTypeQueue → List WorkId := fun _ => []
  retransmissionQueues : WindowType → List RetransmissionWorkId := fun _ => []
  isOpRateLimited : Bool := false
  reorder : ConnectionReorderMetadata := {}
  interHostQueue : List WorkId := []
  ulp : Ulp := {}
  globalCredits : FalconResourceCredits := 0

abbrev Outcome := Except Fatal Endpoint

/-- The bound on aborts for results that only say what holds when a call returns. -/
abbrev AnyFault (_ : Fatal) : Prop := True

namespace Endpoint

variable (e : Endpoint)

def emit (a : Action) : Endpoint := { e with log := a :: e.log }

def setTx (w : WindowType) (tx : TransmitterReliabilityWindowMetadata) : Endpoint :=
  { e with tx := update e.tx w tx }

def setRx (w : WindowType) (rx : ReceiverReliabilityWindowMetadata) : Endpoint :=
  { e with rx := update e.rx w rx }

def setTransaction (key : TransactionKey) (tr : TransactionMetadata) : Endpoint :=
  { e with transactions := update e.transactions key (some tr) }

def eraseTransaction (key : TransactionKey) : Endpoint :=
  { e with transactions := update e.transactions key none }

def setReceivedPacketContext (key : TransactionKey) (context : Option ReceivedPacketContext) :
    Endpoint :=
  { e with receivedPacketContexts := update e.receivedPacketContexts key context }

def setRetransmissionQueue (w : WindowType) (l : List RetransmissionWorkId) : Endpoint :=
  { e with retransmissionQueues := update e.retransmissionQueues w l }

def setQueue (q : PacketTypeQueue) (l : List WorkId) : Endpoint :=
  { e with queues := update e.queues q l }

def scheduleEvent (delay : Time) (callback : Callback) : Endpoint :=
  { e with pending := e.pending ++ [(e.now + delay, callback)] }.emit
    (.schedule (e.now + delay) callback)

def getTransaction (key : TransactionKey) : Except Fatal TransactionMetadata :=
  match e.transactions key with
  | some tr => pure tr
  | none => throw .transactionNotFound

def getReceivedPacketContext (key : TransactionKey) : Except Fatal ReceivedPacketContext :=
  match e.receivedPacketContexts key with
  | some context => pure context
  | none => throw .receivedContextNotFound

end Endpoint

def TransactionMetadata.getPacketMetadata (tr : TransactionMetadata) (type : PacketType) :
    Except Fatal PacketMetadata :=
  match tr.packets type with
  | some pm => pure pm
  | none => throw .packetNotFound

namespace Endpoint

def getPacketMetadata (e : Endpoint) (rsn : Rsn) (type : PacketType) :
    Except Fatal (TransactionKey × TransactionMetadata × PacketMetadata) := do
  let location ← getTransactionLocation type false
  let tr ← e.getTransaction ⟨rsn, location⟩
  let pm ← tr.getPacketMetadata type
  pure (⟨rsn, location⟩, tr, pm)

end Endpoint

end Isekai.Falcon
