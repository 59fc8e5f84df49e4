import Isekai.Falcon.Endpoint
import Isekai.Lib.TransitionSystem
import Mathlib.Algebra.BigOperators.Group.Finset.Piecewise
import Mathlib.Algebra.Order.BigOperators.Group.Finset
import Mathlib.Data.Rat.Floor

/-!
# The queues of the connection scheduler

`gen1/connection_scheduler.cc` over several connections: which packets wait in which queue, and the
count of each packet type from which its weight follows. The round robin policies pick the queue
and the connection that are served; here every pick is possible. The transactions of the initiator
follow their state machine, since it decides when a grant releases solicited data.
-/

namespace Isekai.Falcon

open Lib Function

/-- A connection with its transactions as initiator; the packets of the target are always eligible.
`grants` are the grants that the reorder engine has yet to forward. -/
structure SchedulerConnection where
  ordered : Bool
  nextRequestSequenceNumber : Rsn := 0
  transactions : Rsn → Option TransactionMetadata := fun _ => none
  queues : PacketTypeQueue → List WorkId := fun _ => []
  isOpRateLimited : Bool := false
  grants : List Rsn := []

namespace SchedulerConnection

variable (c : SchedulerConnection)

def setTransaction (rsn : Rsn) (tr : TransactionMetadata) : SchedulerConnection :=
  { c with transactions := update c.transactions rsn (some tr) }

def enqueue (queue : PacketTypeQueue) (work : WorkId) : SchedulerConnection :=
  { c with queues := update c.queues queue (c.queues queue ++ [work]) }

def pop (queue : PacketTypeQueue) : SchedulerConnection :=
  { c with queues := update c.queues queue (c.queues queue).tail }

def getTransaction (rsn : Rsn) : Except Fatal TransactionMetadata :=
  match c.transactions rsn with
  | some tr => pure tr
  | none => throw .transactionNotFound

def getPacketMetadata (work : WorkId) : Except Fatal PacketMetadata :=
  match work.type with
  | .pullData | .pushGrant => pure {}
  | type => do
    let tr ← c.getTransaction work.rsn
    tr.getPacketMetadata type

def makeEligible (rsn : Rsn) (type : PacketType) : Except Fatal SchedulerConnection := do
  let tr ← c.getTransaction rsn
  let pm ← tr.getPacketMetadata type
  pure (c.setTransaction rsn (tr.createPacket type { pm with isTransmissionEligible := true }))

def updateState (rsn : Rsn) (type : PacketType) (stage : TransactionStage) :
    Except Fatal SchedulerConnection := do
  let tr ← c.getTransaction rsn
  let tr ← tr.updateState type stage
  pure (c.setTransaction rsn tr)

def transmitPacket (work : WorkId) : Except Fatal SchedulerConnection :=
  match work.type with
  | .pullData | .pushGrant => pure c
  | type => c.updateState work.rsn type .ntwkTx

def queueOf (type : PacketType) : Except Fatal PacketTypeQueue :=
  match type with
  | .pullRequest => pure .pullAndOrderedPushRequest
  | .pushRequest => pure (if c.ordered then .pullAndOrderedPushRequest else .unorderedPushRequest)
  | .pullData => pure .pullData
  | .pushGrant => pure .pushGrant
  | .pushSolicitedData | .pushUnsolicitedData => pure .pushData
  | _ => throw .notASchedulerPacket

def createTransaction (type : TransactionType) (packets : List (PacketType × PacketMetadata))
    (first : PacketType) : Except Fatal SchedulerConnection := do
  let rsn := c.nextRequestSequenceNumber
  let tr : TransactionMetadata := packets.foldl (fun tr p => tr.createPacket p.1 p.2)
    { rsn := rsn, type := type, location := .initiator }
  let tr ← tr.updateState first .ulpRx
  pure { c.setTransaction rsn tr with nextRequestSequenceNumber := rsn + 1 }

def isWaitingForGrant (work : WorkId) : Bool :=
  c.ordered && work.type = .pushSolicitedData &&
    match c.getPacketMetadata work with
    | .ok pm => !pm.isTransmissionEligible
    | .error _ => false

def isHeadEligible (queue : PacketTypeQueue) (meetsCc meetsOow : PacketType → Bool) : Bool :=
  match c.queues queue with
  | [] => false
  | work :: _ =>
    if queue = .pullAndOrderedPushRequest ∧ work.type = .invalid then true
    else if c.isOpRateLimited then false
    else
      let isPacketEligible :=
        if queue = .pushData then
          match c.getPacketMetadata work with
          | .ok pm => pm.isTransmissionEligible
          | .error _ => false
        else true
      isPacketEligible && meetsCc work.type && meetsOow work.type

end SchedulerConnection

/-- The connections with the packet counts of the scheduler. -/
structure ConnectionScheduler where
  scids : Finset Nat := ∅
  connection : Nat → SchedulerConnection := fun _ => { ordered := false }
  packetQueueWisePktCount : PacketTypeQueue → Int := fun _ => 0

namespace ConnectionScheduler

variable (s : ConnectionScheduler)

def setConnection (scid : Nat) (c : SchedulerConnection) : ConnectionScheduler :=
  { s with connection := update s.connection scid c }

def updateOutstandingPacketCount (queue : PacketTypeQueue) (isDequed : Bool) :
    ConnectionScheduler :=
  let count := s.packetQueueWisePktCount queue
  { s with
    packetQueueWisePktCount := update s.packetQueueWisePktCount queue
      (if isDequed then count - 1 else count + 1) }

def computePacketTypeWeight (queue : PacketTypeQueue) : Int :=
  ⌈(s.packetQueueWisePktCount queue : ℚ) / 64⌉

def initConnectionSchedulerQueues (scid : Nat) (ordered : Bool) : ConnectionScheduler :=
  if scid ∈ s.scids then s
  else { s.setConnection scid { ordered := ordered } with scids := insert scid s.scids }

def addPacketToQueue (scid : Nat) (c : SchedulerConnection) (rsn : Rsn) (type : PacketType) :
    Except Fatal ConnectionScheduler := do
  discard <| c.getPacketMetadata ⟨rsn, type⟩
  let queue ← c.queueOf type
  if c.ordered ∧ type = .pushSolicitedData then
    -- The data waits in its queue since the request was enqueued; the grant releases it.
    let c ← c.makeEligible rsn type
    pure ((s.updateOutstandingPacketCount queue false).setConnection scid c)
  else
    let s := s.updateOutstandingPacketCount queue false
    let c := c.enqueue queue ⟨rsn, type⟩
    if c.ordered ∧ type = .pushUnsolicitedData then
      let s := s.updateOutstandingPacketCount .pullAndOrderedPushRequest false
      discard <| c.getPacketMetadata ⟨rsn, .invalid⟩
      pure (s.setConnection scid (c.enqueue .pullAndOrderedPushRequest ⟨rsn, .invalid⟩))
    else if c.ordered ∧ type = .pushRequest then
      discard <| c.getPacketMetadata ⟨rsn, .pushSolicitedData⟩
      pure (s.setConnection scid (c.enqueue .pushData ⟨rsn, .pushSolicitedData⟩))
    else pure (s.setConnection scid c)

inductive UlpOp where
  | read | solicitedWrite | unsolicitedWrite
  | readResponse (rsn : Rsn)
  deriving DecidableEq

/-- The ULP starts a transaction. -/
def initiateTransaction (scid : Nat) (op : UlpOp) : Except Fatal ConnectionScheduler := do
  let c := s.connection scid
  let rsn := c.nextRequestSequenceNumber
  match op with
  | .read =>
    let c ← c.createTransaction .pull [(.pullRequest, {})] .pullRequest
    s.addPacketToQueue scid c rsn .pullRequest
  | .solicitedWrite =>
    let c ← c.createTransaction .pushSolicited
      [(.pushSolicitedData, { isTransmissionEligible := !c.ordered }), (.pushRequest, {})]
      .pushRequest
    s.addPacketToQueue scid c rsn .pushRequest
  | .unsolicitedWrite =>
    let phantom : List (PacketType × PacketMetadata) := if c.ordered then [(.invalid, {})] else []
    let c ← c.createTransaction .pushUnsolicited
      (phantom ++ [(.pushUnsolicitedData, { isTransmissionEligible := !c.ordered })])
      .pushUnsolicitedData
    s.addPacketToQueue scid c rsn .pushUnsolicitedData
  | .readResponse rsn => s.addPacketToQueue scid c rsn .pullData

def receiveGrant (scid : Nat) (rsn : Rsn) : Except Fatal ConnectionScheduler := do
  let c := s.connection scid
  let tr ← c.getTransaction rsn
  let tr ← (tr.createPacket .pushGrant { direction := .incoming }).updateState .pushGrant .ntwkRx
  pure (s.setConnection scid { c.setTransaction rsn tr with grants := rsn :: c.grants })

/-- `ReorderCallback` for a push request, which is answered by a grant, and for a grant. -/
def reorderCallback (scid : Nat) (rsn : Rsn) (isGrant : Bool) : Except Fatal ConnectionScheduler :=
  let c := s.connection scid
  if isGrant then
    s.addPacketToQueue scid { c with grants := c.grants.erase rsn } rsn .pushSolicitedData
  else s.addPacketToQueue scid c rsn .pushGrant

def handlePhantomRequest (scid : Nat) (work : WorkId) (queue : PacketTypeQueue) :
    Except Fatal ConnectionScheduler := do
  let c ← (s.connection scid).makeEligible work.rsn .pushUnsolicitedData
  discard <| c.getPacketMetadata work
  pure ((s.setConnection scid (c.pop queue)).updateOutstandingPacketCount queue true)

def schedulePacket (scid : Nat) (queue : PacketTypeQueue) (work : WorkId) :
    Except Fatal ConnectionScheduler := do
  let s := s.updateOutstandingPacketCount queue true
  let c ← { s.connection scid with isOpRateLimited := true }.transmitPacket work
  pure (s.setConnection scid (c.pop queue))

/-- `ScheduleWork` for the queue and the connection that were picked; `meetsCriteria` is the answer
of the admission control, the congestion control and the window. -/
def scheduleWork (scid : Nat) (queue : PacketTypeQueue) (meetsCriteria : Bool) :
    Except Fatal ConnectionScheduler :=
  let c := s.connection scid
  match c.queues queue with
  | [] => throw .emptyQueue
  | work :: _ =>
    if work.type = .invalid then s.handlePhantomRequest scid work queue
    else do
      let pm ← c.getPacketMetadata work
      if pm.isTransmissionEligible && !c.isOpRateLimited && meetsCriteria then
        s.schedulePacket scid queue work
      else throw .cannotSend

/-! ## Runs -/

inductive Label where
  | initConnectionSchedulerQueues (scid : Nat) (ordered : Bool)
  | initiateTransaction (scid : Nat) (op : UlpOp)
  | receiveGrant (scid : Nat) (rsn : Rsn)
  | reorderCallback (scid : Nat) (rsn : Rsn) (isGrant : Bool)
  | updateState (scid : Nat) (rsn : Rsn) (type : PacketType) (stage : TransactionStage)
  /-- A completed transaction is deleted. -/
  | complete (scid : Nat) (rsn : Rsn)
  | opRate (scid : Nat) (isOpRateLimited : Bool)
  | scheduleWork (scid : Nat) (queue : PacketTypeQueue) (meetsCriteria : Bool)

def initiatorStages : List (PacketType × TransactionStage) :=
  [(.pullRequest, .ntwkAckRx), (.pullData, .ntwkRx), (.pullData, .ulpTx),
    (.pushRequest, .ntwkAckRx), (.pushSolicitedData, .ntwkAckRx),
    (.pushSolicitedData, .ulpCompletionTx), (.pushUnsolicitedData, .ntwkAckRx),
    (.pushUnsolicitedData, .ulpCompletionTx)]

def Allowed : Label → Prop
  | .initConnectionSchedulerQueues _ _ => True
  | .initiateTransaction scid _ | .receiveGrant scid _ | .opRate scid _ | .scheduleWork scid _ _ =>
    scid ∈ s.scids
  | .reorderCallback scid rsn isGrant =>
    scid ∈ s.scids ∧ (isGrant = true → rsn ∈ (s.connection scid).grants)
  | .updateState scid _ type stage => scid ∈ s.scids ∧ (type, stage) ∈ initiatorStages
  | .complete scid rsn => scid ∈ s.scids ∧
      ∃ tr ∈ (s.connection scid).transactions rsn,
        tr.state = .pushCompletionUlpTx ∨ tr.state = .pullDataUlpTx

def next (s : ConnectionScheduler) : Label → Except Fatal ConnectionScheduler
  | .initConnectionSchedulerQueues scid ordered =>
    pure (s.initConnectionSchedulerQueues scid ordered)
  | .initiateTransaction scid op => s.initiateTransaction scid op
  | .receiveGrant scid rsn => s.receiveGrant scid rsn
  | .reorderCallback scid rsn isGrant => s.reorderCallback scid rsn isGrant
  | .updateState scid rsn type stage => do
    let c ← (s.connection scid).updateState rsn type stage
    pure (s.setConnection scid c)
  | .complete scid rsn =>
    let c := s.connection scid
    pure (s.setConnection scid { c with transactions := update c.transactions rsn none })
  | .opRate scid isOpRateLimited =>
    pure (s.setConnection scid { s.connection scid with isOpRateLimited := isOpRateLimited })
  | .scheduleWork scid queue meetsCriteria => s.scheduleWork scid queue meetsCriteria

def runs : TransitionSystem ConnectionScheduler Label Fatal where
  init s := s = {}
  allowed := Allowed
  next := next

instance : ∀ l : Label, Decidable (s.Allowed l)
  | .initConnectionSchedulerQueues _ _ => isTrue trivial
  | .initiateTransaction scid _ | .receiveGrant scid _ | .opRate scid _ | .scheduleWork scid _ _ =>
    inferInstanceAs (Decidable (scid ∈ s.scids))
  | .reorderCallback _ _ _ | .updateState _ _ _ _ => inferInstanceAs (Decidable (_ ∧ _))
  | .complete scid rsn => inferInstanceAs (Decidable (scid ∈ s.scids ∧
      ∃ tr ∈ (s.connection scid).transactions rsn,
        tr.state = .pushCompletionUlpTx ∨ tr.state = .pullDataUlpTx))

instance (s : ConnectionScheduler) (l : Label) : Decidable (runs.allowed s l) :=
  inferInstanceAs (Decidable (s.Allowed l))

end ConnectionScheduler

end Isekai.Falcon
