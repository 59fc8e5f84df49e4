import Isekai.Falcon.AckCoalescing

/-!
# Transmission gating and the connection queues

The gating criteria of `gen1/packet_reliability_manager.cc`, the connection queues of
`gen1/connection_scheduler.cc` and the retransmission queues of
`gen1/retransmission_scheduler.cc`, for one connection. Which queue is served next is left open
here, so an eligibility recomputation only keeps its checks.
-/

namespace Isekai.Falcon

open Lib

def fractionalBits : Nat := 10

/-- The fabric congestion window in packets: rounded down, but at least one. -/
def roundedFcwnd (fcwnd : BitVec 32) : Nat := max 1 (fcwnd.toNat / 2 ^ fractionalBits)

def isOutstandingRequestType (type : PacketType) : Bool :=
  type = .pullRequest || type = .pushRequest || type = .pushUnsolicitedData

namespace Endpoint

variable (e : Endpoint)

def psnBound (type : PacketType) : Except Fatal Psn :=
  let rounded := roundedFcwnd e.congestionControl.fabricCongestionWindow
  if rounded ≤ txWindowSize then pure ((e.tx (windowOf type)).base + BitVec.ofNat 32 rounded)
  else throw .cwndExceedsWindow

def getOpenFcwnd (type : PacketType) : Except Fatal Nat := do
  let psnBound ← e.psnBound type
  let futurePsn := (e.tx (windowOf type)).next
  if !seqLT futurePsn psnBound then pure 0 else pure (psnBound - futurePsn).toNat

def meetsInitialTransmissionCCTxGatingCriteria (type : PacketType) : Except Fatal Bool := do
  let openFcwnd ← e.getOpenFcwnd type
  if openFcwnd = 0 then pure false
  else if isOutstandingRequestType type then
    pure ((e.tx (windowOf type)).outstandingRequestsCounter.toNat <
      e.congestionControl.nicCongestionWindow.toNat)
  else pure true

def meetsInitialTransmissionOowTxGatingCriteria (type : PacketType) : Bool :=
  if e.config.enablePauseInitialTransmissionOnOowDrops then
    !(e.tx (windowOf type)).oowNotificationReceived
  else true

def meetsRetransmissionCCTxGatingCriteria (psn : Psn) (type : PacketType) : Except Fatal Bool := do
  let psnBound ← e.psnBound type
  if !seqLT psn psnBound then pure false
  else if isOutstandingRequestType type then
    pure ((e.tx (windowOf type)).outstandingRetransmissionRequestsCounter.toNat <
      e.congestionControl.nicCongestionWindow.toNat)
  else pure true

def recomputeQueue (queue : PacketTypeQueue) : Except Fatal Unit :=
  match e.queues queue with
  | [] => pure ()
  | work :: _ =>
    if (queue = .pullAndOrderedPushRequest ∧ work.type = .invalid) ∨ e.isOpRateLimited then pure ()
    else do
      if queue = .pushData then discard <| e.getPacketMetadata work.rsn work.type
      discard <| e.meetsInitialTransmissionCCTxGatingCriteria work.type

/-- The head of one retransmission queue, as `RecomputeEligibility` of the retransmission scheduler
looks at it. -/
def recomputeRetransmissionQueue (w : WindowType) : Except Fatal Unit :=
  match e.retransmissionQueues w with
  | [] => pure ()
  | work :: _ =>
    if e.isOpRateLimited then pure ()
    else discard <| e.meetsRetransmissionCCTxGatingCriteria work.psn work.type

/-- What a write to a gating variable triggers: both schedulers recompute their eligibility. -/
def gate : Outcome := do
  e.recomputeQueue .pullAndOrderedPushRequest
  e.recomputeQueue .unorderedPushRequest
  e.recomputeQueue .pushData
  e.recomputeQueue .pushGrant
  e.recomputeQueue .pullData
  e.recomputeRetransmissionQueue .request
  e.recomputeRetransmissionQueue .data
  pure e

def enqueueWork (queue : PacketTypeQueue) (work : WorkId) : Endpoint :=
  e.setQueue queue (e.queues queue ++ [work])

def queueOf (type : PacketType) : Except Fatal PacketTypeQueue :=
  match type with
  | .pullRequest => pure .pullAndOrderedPushRequest
  | .pushRequest =>
    pure (if e.config.ordered then .pullAndOrderedPushRequest else .unorderedPushRequest)
  | .pullData => pure .pullData
  | .pushGrant => pure .pushGrant
  | .pushSolicitedData | .pushUnsolicitedData => pure .pushData
  | _ => throw .notASchedulerPacket

def addPacketToQueue (rsn : Rsn) (type : PacketType) : Outcome := do
  let (key, tr, pm) ← e.getPacketMetadata rsn type
  let queue ← e.queueOf type
  if e.config.ordered ∧ type = .pushSolicitedData then
    -- The data already waits in its queue since the request was enqueued; the grant releases it.
    pure (e.setTransaction key (tr.createPacket type { pm with isTransmissionEligible := true }))
  else
    let e := e.enqueueWork queue ⟨rsn, type⟩
    if e.config.ordered ∧ type = .pushUnsolicitedData then
      discard <| tr.getPacketMetadata .invalid
      pure (e.enqueueWork .pullAndOrderedPushRequest ⟨rsn, .invalid⟩)
    else if e.config.ordered ∧ type = .pushRequest then
      discard <| tr.getPacketMetadata .pushSolicitedData
      pure (e.enqueueWork .pushData ⟨rsn, .pushSolicitedData⟩)
    else pure e

def enqueuePacket (rsn : Rsn) (type : PacketType) : Outcome := do
  let e ← e.addPacketToQueue rsn type
  e.gate

/-- `CanSend` of the connection scheduler; `admitted` is the answer of the admission control. -/
def canSend (rsn : Rsn) (type : PacketType) (admitted : Bool) : Except Fatal Bool := do
  let (_, _, pm) ← e.getPacketMetadata rsn type
  let meetsCc ← e.meetsInitialTransmissionCCTxGatingCriteria type
  pure (pm.isTransmissionEligible && !e.isOpRateLimited && meetsCc && admitted &&
    e.meetsInitialTransmissionOowTxGatingCriteria type)

def canRetransmit (psn : Psn) (type : PacketType) : Except Fatal Bool := do
  let meetsCc ← e.meetsRetransmissionCCTxGatingCriteria psn type
  pure (!e.isOpRateLimited && meetsCc)

def retransmissionQueueOf (type : PacketType) : Except Fatal WindowType :=
  match type with
  | .pullRequest | .pushRequest => pure .request
  | .pullData | .pushGrant | .pushSolicitedData | .pushUnsolicitedData => pure .data
  | _ => throw .notASchedulerPacket

/-- `EnqueuePacket` of the retransmission scheduler. The flag tells whether the packet was not
already waiting. -/
def enqueueRetransmission (rsn : Rsn) (type : PacketType) : Except Fatal (Endpoint × Bool) := do
  let (_, _, pm) ← e.getPacketMetadata rsn type
  let w ← retransmissionQueueOf type
  let some psn := pm.psn | throw .unassignedPsn
  let work : RetransmissionWorkId := ⟨rsn, psn, type⟩
  if OrderedSet.contains RetransmissionWorkId.lt work (e.retransmissionQueues w) then
    pure (e, false)
  else
    let e ← (e.setRetransmissionQueue w
      (OrderedSet.insert RetransmissionWorkId.lt work (e.retransmissionQueues w))).gate
    pure (e, true)

def dequeueRetransmission (rsn : Rsn) (type : PacketType) : Outcome := do
  let (_, _, pm) ← e.getPacketMetadata rsn type
  let w ← retransmissionQueueOf type
  let some psn := pm.psn | throw .unassignedPsn
  let work : RetransmissionWorkId := ⟨rsn, psn, type⟩
  (e.setRetransmissionQueue w
    (OrderedSet.erase RetransmissionWorkId.lt work (e.retransmissionQueues w))).gate

end Endpoint

end Isekai.Falcon
