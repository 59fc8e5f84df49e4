import Isekai.Falcon.Endpoint
import Isekai.Rdma.Credit

/-!
# The resource manager

`gen1/resource_manager.cc`. The credits of a packet are reserved when the ULP hands over its
transaction or when a request arrives, often together with the credits of later packets of the
transaction, and they are released packet by packet. The log records which packet the credits are
for. Statistics, the occupancy reported to congestion control and the backpressure signal to RDMA
are left out.
-/

namespace Isekai.Falcon

open Rdma (Word calculateFalconTxBufferCredits calculateFalconRxBufferCredits)

namespace ResourceConfig

variable (c : ResourceConfig)

def txBufferCredits (lengths : UlpLengths) : Int :=
  (calculateFalconTxBufferCredits (.ofNat 32 lengths.dataLength) (.ofNat 32 lengths.sglLength)
    c.txBufferMinimumAllocationUnit.bytes).toInt

def rxBufferCredits (length : Word) : Int :=
  (calculateFalconRxBufferCredits length c.rxBufferMinimumAllocationUnit.bytes).toInt

def computeOutgoingPullRequestResources (lengths : UlpLengths) : FalconResourceCredits :=
  creditsOf .txPacketUlpRequests 1 + creditsOf .txBufferUlpRequests (c.txBufferCredits lengths)

def computeIncomingPullRequestResources (payloadLength : Word) : FalconResourceCredits :=
  creditsOf .rxPacketNetworkRequests 1 +
    creditsOf .rxBufferNetworkRequests (c.rxBufferCredits payloadLength)

def computeOutgoingPullDataResources (lengths : UlpLengths) : FalconResourceCredits :=
  creditsOf .txPacketUlpData 1 + creditsOf .txBufferUlpData (c.txBufferCredits lengths)

def computeIncomingPullDataResources (requestLength : Word) : FalconResourceCredits :=
  creditsOf .rxPacketUlpRequests 1 +
    creditsOf .rxBufferUlpRequests (c.rxBufferCredits requestLength)

def computeOutgoingPushRequestResources (lengths : UlpLengths) : FalconResourceCredits :=
  creditsOf .txPacketUlpRequests 1 + creditsOf .txBufferUlpRequests (c.txBufferCredits lengths)

def computeIncomingPushRequestResources : FalconResourceCredits :=
  creditsOf .rxPacketNetworkRequests 1

def computeOutgoingPushGrantResources : FalconResourceCredits :=
  creditsOf .txPacketNetworkRequests 1

def computeIncomingPushGrantResources : FalconResourceCredits :=
  creditsOf .rxPacketUlpRequests 1

def computeOutgoingPushSolicitedDataResources (lengths : UlpLengths) : FalconResourceCredits :=
  creditsOf .txPacketUlpRequests 1 + creditsOf .txBufferUlpRequests (c.txBufferCredits lengths) -
    c.computeOutgoingPushRequestResources lengths

def computeIncomingPushUnsolicitedCompletionResources : FalconResourceCredits :=
  creditsOf .rxPacketUlpRequests 1

def computeIncomingPushSolicitedDataResources (requestLength : Word) : FalconResourceCredits :=
  creditsOf .rxPacketNetworkRequests 1 +
    creditsOf .rxBufferNetworkRequests (c.rxBufferCredits requestLength) -
    computeIncomingPushRequestResources

def computeOutgoingPushUnsolicitedDataResources (lengths : UlpLengths) : FalconResourceCredits :=
  creditsOf .txPacketUlpRequests 1 + creditsOf .txBufferUlpRequests (c.txBufferCredits lengths)

def computeIncomingPushUnsolicitedDataResources (requestLength : Word) : FalconResourceCredits :=
  creditsOf .rxPacketNetworkRequests 1 +
    creditsOf .rxBufferNetworkRequests (c.rxBufferCredits requestLength)

end ResourceConfig

def headerLength (length : Nat) : Word := .ofNat 32 (length % 2 ^ 16)

def ResourceConfig.releasedCredits (c : ResourceConfig) (type : PacketType) (pm : PacketMetadata) :
    Except Fatal FalconResourceCredits :=
  match type, pm.direction with
  | .pullRequest, .outgoing => pure (c.computeOutgoingPullRequestResources pm.lengths)
  | .pullRequest, .incoming =>
    pure (c.computeIncomingPullRequestResources (headerLength pm.payloadLength))
  | .pullData, .outgoing => pure (c.computeOutgoingPullDataResources pm.lengths)
  | .pullData, .incoming =>
    pure (c.computeIncomingPullDataResources (headerLength pm.payloadLength))
  | .pushRequest, _ => pure 0
  | .pushGrant, .outgoing => pure ResourceConfig.computeOutgoingPushGrantResources
  | .pushGrant, .incoming => pure 0
  | .pushSolicitedData, .outgoing =>
    pure (c.computeOutgoingPushSolicitedDataResources pm.lengths +
      ResourceConfig.computeIncomingPushGrantResources +
      c.computeOutgoingPushRequestResources pm.lengths)
  | .pushSolicitedData, .incoming =>
    pure (c.computeIncomingPushSolicitedDataResources (headerLength pm.payloadLength) +
      ResourceConfig.computeIncomingPushRequestResources)
  | .pushUnsolicitedData, .outgoing =>
    pure (c.computeOutgoingPushUnsolicitedDataResources pm.lengths +
      ResourceConfig.computeIncomingPushUnsolicitedCompletionResources)
  | .pushUnsolicitedData, .incoming =>
    pure (c.computeIncomingPushUnsolicitedDataResources (headerLength pm.payloadLength))
  | _, _ => throw .invalidPacket

def FalconResourceCredits.toFalconCredit (credits : FalconResourceCredits) : Rdma.FalconCredit
  | .requestTxPacket => .ofInt 32 (credits .txPacketUlpRequests)
  | .requestTxBuffer => .ofInt 32 (credits .txBufferUlpRequests)
  | .requestRxPacket => .ofInt 32 (credits .rxPacketUlpRequests)
  | .requestRxBuffer => .ofInt 32 (credits .rxBufferUlpRequests)
  | .responseTxPacket => .ofInt 32 (credits .txPacketUlpData)
  | .responseTxBuffer => .ofInt 32 (credits .txBufferUlpData)

inductive RxNetworkRequestZone where
  | green | yellow | red
  deriving DecidableEq, Repr

/-- The zone of an occupancy, which the source compares with the thresholds as unsigned numbers. -/
def ZoneThresholds.zoneOf (t : ZoneThresholds) (occupancy : Int) : RxNetworkRequestZone :=
  if (BitVec.ofInt 32 occupancy).toNat < t.greenZoneEnd.toNat then .green
  else if (BitVec.ofInt 32 occupancy).toNat < t.yellowZoneEnd.toNat then .yellow
  else .red

def RxNetworkRequestZone.max : RxNetworkRequestZone → RxNetworkRequestZone → RxNetworkRequestZone
  | .green, z => z
  | z, .green => z
  | .yellow, .yellow => .yellow
  | _, _ => .red

inductive ResourceStatus where
  | ok | resourceExhausted | notFound
  deriving DecidableEq, Repr

namespace Endpoint

variable (e : Endpoint)

def occupancyZone (t : ZoneThresholds) (pool : ResourcePool) : RxNetworkRequestZone :=
  t.zoneOf (e.config.resources.resourceCredits pool - e.globalCredits pool)

def networkRequestZone : RxNetworkRequestZone :=
  ((e.occupancyZone e.config.resources.rxBufferPoolThresholds .rxBufferNetworkRequests).max
    (e.occupancyZone e.config.resources.rxPacketPoolThresholds .rxPacketNetworkRequests)).max
    (e.occupancyZone e.config.resources.txPacketPoolThresholds .txPacketNetworkRequests)

def isHeadOfLineNetworkRequest (rsn : Rsn) : Bool :=
  if e.config.ordered then decide (rsn = e.reorder.nextTargetNetworkRsn) else true

def meetsNetworkRequestAdmissionCriteria (rsn : Rsn) (type : PacketType) : Bool :=
  match e.networkRequestZone with
  | .green => true
  | .yellow => e.isHeadOfLineNetworkRequest rsn
  | .red =>
    if type = .pullRequest ∨ type = .pushUnsolicitedData then e.isHeadOfLineNetworkRequest rsn
    else false

def reservedEarlier (key : TransactionKey) : ResourceStatus :=
  match e.transactions key with
  | some _ => .ok
  | none => .notFound

def networkRequestCredits (p : TransactionPacket) : FalconResourceCredits :=
  let c := e.config.resources
  match p.type with
  | .pullRequest => c.computeIncomingPullRequestResources (headerLength p.payloadLength)
  | .pushRequest =>
    ResourceConfig.computeIncomingPushRequestResources +
      ResourceConfig.computeOutgoingPushGrantResources +
      c.computeIncomingPushSolicitedDataResources (headerLength p.requestLength)
  | _ => c.computeIncomingPushUnsolicitedDataResources (headerLength p.payloadLength)

/-- `VerifyResourceAvailabilityOrReserveResources` for an incoming packet, as far as its result
goes. A pull response carries the RSN of its request in both of its headers. -/
def verifyResourceAvailability (p : TransactionPacket) : ResourceStatus :=
  if e.config.resources.bypassReservation then .ok
  else
    match p.type with
    | .pullData | .pushGrant => e.reservedEarlier ⟨p.rsn, .initiator⟩
    | .pushSolicitedData => e.reservedEarlier ⟨p.rsn, .target⟩
    | type =>
      if !e.meetsNetworkRequestAdmissionCriteria p.rsn type then .resourceExhausted
      else if e.networkRequestCredits p ≤ e.globalCredits then .ok
      else .resourceExhausted

def networkReservations (p : TransactionPacket) : List (PacketType × FalconResourceCredits) :=
  let c := e.config.resources
  match p.type with
  | .pullData | .pushGrant | .pushSolicitedData => []
  | .pullRequest =>
    [(.pullRequest, c.computeIncomingPullRequestResources (headerLength p.payloadLength))]
  | .pushRequest =>
    [(.pushGrant, ResourceConfig.computeOutgoingPushGrantResources),
     (.pushSolicitedData, c.computeIncomingPushSolicitedDataResources
       (headerLength p.requestLength) +
       ResourceConfig.computeIncomingPushRequestResources)]
  | type => [(type, c.computeIncomingPushUnsolicitedDataResources (headerLength p.payloadLength))]

def takeCredits (key : TransactionKey) (credits : FalconResourceCredits)
    (packets : List (PacketType × FalconResourceCredits)) : Endpoint :=
  packets.foldl (fun e p => e.emit (.reserve ⟨key, p.1, p.2⟩))
    { e with globalCredits := e.globalCredits - credits }

def reserveIncoming (p : TransactionPacket) : Outcome :=
  match e.verifyResourceAvailability p with
  | .ok =>
    if e.config.resources.bypassReservation then pure e
    else
      match p.type with
      | .pullData | .pushGrant | .pushSolicitedData => pure e
      | _ => pure (e.takeCredits ⟨p.rsn, .target⟩ (e.networkRequestCredits p)
          (e.networkReservations p))
  | .resourceExhausted | .notFound => throw .resourcesNotReserved

/-- The credits that the release of a packet returns to RDMA: those of all its packets when a
transaction of the ULP is complete. -/
def rdmaManagedCredits (tr : TransactionMetadata) (type : PacketType) (pm : PacketMetadata)
    (released : FalconResourceCredits) : Except Fatal FalconResourceCredits :=
  match type, pm.direction with
  | .pullData, .outgoing | .pushSolicitedData, .outgoing | .pushUnsolicitedData, .outgoing =>
    pure released
  | .pullData, .incoming => do
    let request ← tr.getPacketMetadata .pullRequest
    pure (e.config.resources.computeOutgoingPullRequestResources request.lengths + released)
  | _, _ => pure 0

def returnRdmaManagedFalconResourceCredits (key : TransactionKey)
    (credits : FalconResourceCredits) : Outcome :=
  if credits.toFalconCredit = 0 then pure e
  else do
    discard <| e.getReceivedPacketContext key
    pure (e.emit (.returnFalconCredit key credits))

/-- Gives back the credits of a packet, once. -/
def releaseResources (key : TransactionKey) (type : PacketType) : Outcome :=
  if e.config.resources.bypassReservation then pure e
  else do
    let tr ← e.getTransaction key
    let pm ← tr.getPacketMetadata type
    if !pm.resourcesReserved then throw .resourcesNotHeld
    else
      let released ← e.config.resources.releasedCredits type pm
      let managed ← e.rdmaManagedCredits tr type pm released
      let e := { e with globalCredits := e.globalCredits + released }.emit
        (.release ⟨key, type, released⟩)
      let e ← e.returnRdmaManagedFalconResourceCredits key managed
      pure (e.setTransaction key (tr.createPacket type { pm with resourcesReserved := false }))

end Endpoint

end Isekai.Falcon
