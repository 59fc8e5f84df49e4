import Isekai.Falcon.EarlyRetransmission

/-!
# Early retransmission policies

`gen3/rack_retransmission_policy.cc`, `gen3/tlp_retransmission_policy.cc` and the parts of
`gen3/reliability_manager.cc` that call them. The policies compare sequence numbers as plain
integers. Products of a round-trip time with a configured factor are functions of the configuration;
`none` is the infinite duration.
-/

namespace Isekai.Falcon

open Lib

inductive TlpType where
  | firstUnreceived | lastUnreceived
  deriving DecidableEq, Repr

/-- The settings of RACK and TLP. -/
structure EarlyRetxConfig where
  enableRack : Bool := true
  enableTlp : Bool := true
  /-- The product with `rack_time_window_rtt_factor`. -/
  scaleRackWindow : Time → Time := id
  minRackTimeWindow : Time := 0
  rackBypassRtoCheck : Bool := false
  rackBypassScanRangeLimit : Bool := false
  /-- The product with `tlp_timeout_rtt_factor`. -/
  scaleTlpTimeout : Time → Time := id
  minTlpTimeout : Time := 0
  tlpPerWindowProbe : Bool := false
  tlpBypassScanRangeLimit : Bool := false
  tlpType : TlpType := .firstUnreceived

structure Rack where
  xmitTs : Time := 0
  rto : Option Time := none
  enabledForWindow : WindowType → Bool := fun _ => false

/-- `Gen3ConnectionState`. `flowRtt` is the round-trip time of the first flow, `tlpPending` the
times of the pending events of the tail loss probe. -/
structure Gen3ConnectionState extends Endpoint where
  early : EarlyRetxConfig
  flowRtt : Time := 0
  rack : Rack := {}
  pto : Time := 0
  maxAckBpsn : WindowType → Psn := fun _ => 0
  tlpPending : List Time := []

/-- What a retransmission policy asks for. -/
structure RetransmissionPolicyAction where
  scheduledEventDuration : Time := 0
  retxWorkIds : List RetransmissionWorkId := []

def maxPsn (a b : Psn) : Psn := if a.toNat < b.toNat then b else a

def truncNanoseconds (t : Time) : Time := Int.tdiv t nanosecond * nanosecond

namespace Gen3ConnectionState

variable (s : Gen3ConnectionState) (e : Endpoint)

def scanLimit (w : WindowType) : Psn := s.maxAckBpsn w + BitVec.ofNat 32 (rxWindowSize w)

/-! ## RACK -/

def calculateRackWindow : Time :=
  let rackTimeWindow := ceilNanoseconds (s.early.scaleRackWindow s.flowRtt)
  if rackTimeWindow < s.early.minRackTimeWindow then s.early.minRackTimeWindow else rackTimeWindow

def rackUpdate (txTime : Time) : Gen3ConnectionState :=
  if txTime > s.rack.xmitTs then
    { s with rack := { s.rack with
      xmitTs := txTime
      rto := some (s.now - txTime + s.calculateRackWindow) } }
  else s

def applyAckBit (w : WindowType) (basePsn : Psn) (bitmap : BitVec rxBitmapWidth) (e : Endpoint)
    (index : Nat) : Outcome :=
  match (e.tx w).outstandingPacketContexts (basePsn + BitVec.ofNat 32 index) with
  | none => pure e
  | some work => do
    let (key, tr, pm) ← e.getPacketMetadata work.rsn work.type
    if Bitmap.get bitmap index && !pm.received then
      pure (e.setPacketMetadata key tr work.type { pm with received := true })
    else pure e

def applyAckWindowMetadata (w : WindowType) (basePsn : Psn) (bitmap : BitVec rxBitmapWidth) :
    Outcome :=
  (List.range (rxWindowSize w)).foldlM (applyAckBit w basePsn bitmap) e

def rackExpired (transmissionTime : Time) : Bool :=
  match s.rack.rto with
  | none => false
  | some rto => decide (s.now - transmissionTime ≥ rto)

/-- The loop of `PerformRackScan` over the outstanding packets of one window. The packets that it
takes are marked in the endpoint. -/
def rackScan (w : WindowType) : Endpoint → List RetransmissionWorkId →
    Except Fatal (Endpoint × List RetransmissionWorkId)
  | e, [] => pure (e, [])
  | e, work :: rest =>
    if Bitmap.get (e.tx w).window (txBitmapIndex (e.tx w) work.psn) then rackScan w e rest
    else if !s.early.rackBypassScanRangeLimit && work.psn.toNat ≥ (s.scanLimit w).toNat then
      pure (e, [])
    else do
      let (key, tr, pm) ← e.getPacketMetadata work.rsn work.type
      if pm.received || pm.earlyRetxAttempts ≥ s.config.earlyRetxThreshold then rackScan w e rest
      else if pm.transmissionTime ≤ s.rack.xmitTs then
        if s.early.rackBypassRtoCheck || s.rackExpired pm.transmissionTime then
          let e := e.setPacketMetadata key tr work.type
            { pm with retransmissionReason := .earlyRack }
          let (e, retx) ← rackScan w e rest
          pure (e, work :: retx)
        else pure (e, [])
      else rackScan w e rest

def rackScanWindow (w : WindowType) (e : Endpoint) :
    Except Fatal (Endpoint × List RetransmissionWorkId) :=
  if s.rack.enabledForWindow w then s.rackScan w e (e.tx w).outstandingPackets else pure (e, [])

def rackRtoExceedsBase : Bool :=
  match s.rack.rto with
  | none => true
  | some rto => decide (rto > s.congestionControl.retransmitTimeout)

def performRackScan : Except Fatal (Gen3ConnectionState × RetransmissionPolicyAction) :=
  if !s.early.rackBypassRtoCheck && s.rackRtoExceedsBase then pure (s, {})
  else do
    let (e, request) ← s.rackScanWindow .request s.toEndpoint
    let (e, data) ← s.rackScanWindow .data e
    pure ({ s with toEndpoint := e }, { retxWorkIds := request ++ data })

def rackApplyEack (p : AckPacket) : Except Fatal Gen3ConnectionState := do
  let e ← applyAckWindowMetadata s.toEndpoint .request (p.bpsn .request)
    (Endpoint.receivedBitmapOf p .request)
  let e ← applyAckWindowMetadata e .data (p.bpsn .data) (Endpoint.receivedBitmapOf p .data)
  return { s with
    toEndpoint := e
    maxAckBpsn := fun w => maxPsn (s.maxAckBpsn w) (p.bpsn w)
    rack := { s.rack with enabledForWindow := fun _ => true } }

/-- A base ACK disables RACK for the windows in which it is beyond every EACK. -/
def rackApplyAck (p : AckPacket) : Gen3ConnectionState :=
  { s with rack := { s.rack with
    enabledForWindow := fun w =>
      if (p.bpsn w).toNat > (s.maxAckBpsn w).toNat then false else s.rack.enabledForWindow w } }

def rackHandleAck (p : AckPacket) :
    Except Fatal (Gen3ConnectionState × RetransmissionPolicyAction) := do
  let s := s.rackUpdate p.timestamp1
  if p.isEack then
    let s ← s.rackApplyEack p
    s.performRackScan
  else pure (s.rackApplyAck p, {})

def rackHandleRetransmitTimeoutEvent :
    Except Fatal (Gen3ConnectionState × RetransmissionPolicyAction) :=
  if s.early.rackBypassRtoCheck then pure (s, {}) else s.performRackScan

def rackTimeoutOfPacket (type : PacketType) (pm : PacketMetadata) : Option Time :=
  if s.early.rackBypassRtoCheck then none
  else if !pm.received && decide (pm.transmissionTime ≤ s.rack.xmitTs) &&
      decide (pm.earlyRetxAttempts < s.config.earlyRetxThreshold) then
    let w := windowOf type
    if (s.early.rackBypassScanRangeLimit ||
        decide ((pm.psn.getD 0).toNat < (s.scanLimit w).toNat)) &&
        s.rack.enabledForWindow w then s.rack.rto
    else none
  else none

/-! ## Tail loss probes -/

def tlpTimeout : Time :=
  let tlpTimeout := s.early.scaleTlpTimeout s.flowRtt + s.config.ackCoalescingTimeout
  truncNanoseconds (if tlpTimeout < s.early.minTlpTimeout then s.early.minTlpTimeout
    else tlpTimeout)

/-- `GetTlpTimeoutDuration`: zero if the pending event stays valid. -/
def getTlpTimeoutDuration : Gen3ConnectionState × Time :=
  let expirationTime := s.now + s.tlpTimeout
  if expirationTime = s.pto then (s, 0) else ({ s with pto := expirationTime }, s.tlpTimeout)

def tlpRestart : Gen3ConnectionState × RetransmissionPolicyAction :=
  let (s, duration) := s.getTlpTimeoutDuration
  (s, { scheduledEventDuration := duration })

def tlpGetPacketMetadata (type : PacketType) (rsn : Rsn) :
    Except Fatal (Option (TransactionKey × TransactionMetadata × PacketMetadata)) := do
  let location ← getTransactionLocation type false
  return (e.transactions ⟨rsn, location⟩).bind fun tr =>
    (tr.packets type).map fun pm => (⟨rsn, location⟩, tr, pm)

/-- One round of the loop of the tail loss probe's `ApplyAckWindowMetadata`. It skips a transaction
that does not exist any more. -/
def tlpApplyAckBit (w : WindowType) (basePsn : Psn) (bitmap : BitVec rxBitmapWidth) (e : Endpoint)
    (index : Nat) : Outcome :=
  match (e.tx w).outstandingPacketContexts (basePsn + BitVec.ofNat 32 index) with
  | none => pure e
  | some work => do
    match ← tlpGetPacketMetadata e work.type work.rsn with
    | none => pure e
    | some (key, tr, pm) =>
      if Bitmap.get bitmap index && !pm.received then
        pure (e.setPacketMetadata key tr work.type { pm with received := true })
      else pure e

def tlpApplyAckWindowMetadata (w : WindowType) (basePsn : Psn) (bitmap : BitVec rxBitmapWidth) :
    Outcome :=
  (List.range (rxWindowSize w)).foldlM (tlpApplyAckBit w basePsn bitmap) e

def tlpApplyEack (p : AckPacket) : Except Fatal Gen3ConnectionState := do
  let e ← tlpApplyAckWindowMetadata s.toEndpoint .request (p.bpsn .request)
    (Endpoint.receivedBitmapOf p .request)
  let e ← tlpApplyAckWindowMetadata e .data (p.bpsn .data) (Endpoint.receivedBitmapOf p .data)
  return { s with toEndpoint := e, maxAckBpsn := fun w => maxPsn (s.maxAckBpsn w) (p.bpsn w) }

def tlpApplyAck (p : AckPacket) : Except Fatal Gen3ConnectionState :=
  if p.isEack then s.tlpApplyEack p else pure s

def tlpHandleAck (p : AckPacket) :
    Except Fatal (Gen3ConnectionState × RetransmissionPolicyAction) := do
  let s ← s.tlpApplyAck p
  return s.tlpRestart

/-- The packet of one window that a probe would repeat: the first in the order of the scan that is
in range and was not received, unless a packet before it has used up its early retransmissions. -/
def unreceivedProbe (inRange : RetransmissionWorkId → Bool) (e : Endpoint) :
    List RetransmissionWorkId → Except Fatal (Option RetransmissionWorkId)
  | [] => pure none
  | pkt :: rest =>
    if !inRange pkt then unreceivedProbe inRange e rest
    else do
      match ← tlpGetPacketMetadata e pkt.type pkt.rsn with
      | none => unreceivedProbe inRange e rest
      | some (_, _, pm) =>
        if pm.earlyRetxAttempts ≥ e.config.earlyRetxThreshold then pure none
        else if !pm.received then pure (some pkt)
        else unreceivedProbe inRange e rest

def getFirstUnreceivedProbe (w : WindowType) : Except Fatal (Option RetransmissionWorkId) :=
  unreceivedProbe (fun _ => true) s.toEndpoint (s.tx w).outstandingPackets

def getLastUnreceivedProbe (w : WindowType) : Except Fatal (Option RetransmissionWorkId) :=
  unreceivedProbe
    (fun pkt => s.early.tlpBypassScanRangeLimit || decide (pkt.psn.toNat < (s.scanLimit w).toNat))
    s.toEndpoint (s.tx w).outstandingPackets.reverse

def getProbe (w : WindowType) : Except Fatal (Option RetransmissionWorkId) :=
  match s.early.tlpType with
  | .firstUnreceived => s.getFirstUnreceivedProbe w
  | .lastUnreceived => s.getLastUnreceivedProbe w

def selectProbesBetweenWindows (request data : Option RetransmissionWorkId) :
    List RetransmissionWorkId :=
  match request, data with
  | some r, some d =>
    if s.early.tlpPerWindowProbe then [r, d]
    else if d.type = .pullData ∨ d.type = .pushGrant ∨ d.rsn < r.rsn then [d]
    else [r]
  | _, _ => request.toList ++ data.toList

def markProbe (pkt : RetransmissionWorkId) : Outcome := do
  match ← tlpGetPacketMetadata e pkt.type pkt.rsn with
  | none => pure e
  | some (key, tr, pm) =>
    pure (e.setPacketMetadata key tr pkt.type { pm with retransmissionReason := .earlyTlp })

def tlpHandleScheduledEvent : Except Fatal (Gen3ConnectionState × RetransmissionPolicyAction) := do
  if s.now ≠ s.pto then return (s, {})
  let s := { s with pto := 0 }
  let request ← s.getProbe .request
  let data ← s.getProbe .data
  let retx := s.selectProbesBetweenWindows request data
  let e ← retx.foldlM markProbe s.toEndpoint
  return ({ s with toEndpoint := e }, { retxWorkIds := retx })

/-! ## The reliability manager -/

/-- The packet goes from the outstanding ones to the retransmission scheduler. -/
def executeRetransmission (work : RetransmissionWorkId) : Outcome := do
  let e ← e.initiateRetransmission work.rsn work.type
  let w := windowOf work.type
  return e.setTx w { e.tx w with
    outstandingPackets :=
      OrderedSet.erase RetransmissionWorkId.lt work (e.tx w).outstandingPackets }

/-- Schedules the timer of a policy and retransmits what it selects. -/
def executeRetransmissionPolicyAction (action : RetransmissionPolicyAction) :
    Except Fatal Gen3ConnectionState := do
  let s := if action.scheduledEventDuration ≠ 0 then
      { s with tlpPending := s.tlpPending ++ [s.now + action.scheduledEventDuration] }
    else s
  let e ← action.retxWorkIds.foldlM executeRetransmission s.toEndpoint
  return { s with toEndpoint := e }

def ifInstalled (installed : Bool)
    (handler : Except Fatal (Gen3ConnectionState × RetransmissionPolicyAction)) :
    Except Fatal (Gen3ConnectionState × RetransmissionPolicyAction) :=
  if installed then handler else pure (s, {})

/-- `InvokeRetransmissionPolicies` for an ACK, with the packets selected for retransmission. Both
policies decide before the action of either is executed. -/
def invokeHandleAck (p : AckPacket) :
    Except Fatal (Gen3ConnectionState × List RetransmissionWorkId) := do
  let (s, rackAction) ← s.ifInstalled s.early.enableRack (s.rackHandleAck p)
  let (s, tlpAction) ← s.ifInstalled s.early.enableTlp (s.tlpHandleAck p)
  let s ← s.executeRetransmissionPolicyAction rackAction
  let s ← s.executeRetransmissionPolicyAction tlpAction
  return (s, rackAction.retxWorkIds ++ tlpAction.retxWorkIds)

/-- `GetTimeoutOfPacket`: the smaller of the base timeout and the timeouts of the policies. -/
def getTimeoutOfPacket (type : PacketType) (pm : PacketMetadata) : Time :=
  let baseTimeout := s.toEndpoint.getTimeoutOfPacket pm
  if s.early.enableRack then
    match s.rackTimeoutOfPacket type pm with
    | some timeout => if timeout < baseTimeout then timeout else baseTimeout
    | none => baseTimeout
  else baseTimeout

def headDeadline (w : WindowType) : Except Fatal (Option Time) :=
  match (s.tx w).outstandingPackets with
  | [] => pure none
  | work :: _ => do
    let (_, _, pm) ← s.getPacketMetadata work.rsn work.type
    pure (some (pm.transmissionTime + s.getTimeoutOfPacket work.type pm))

def setupRetransmitTimer : Except Fatal Gen3ConnectionState := do
  let request ← s.headDeadline .request
  let data ← s.headDeadline .data
  match Endpoint.minDeadline request data with
  | none => pure s
  | some deadline =>
    let baseTime := ceilNanoseconds deadline
    if baseTime = s.rtoExpirationBaseTime then pure s
    else
      let baseTime := if baseTime < s.now then s.now else baseTime
      let e := { s.toEndpoint with rtoExpirationBaseTime := baseTime }
      pure { s with toEndpoint := e.scheduleEvent (baseTime - s.now) .retransmitTimeout }

/-- `HandleRetransmitTimeout` of the base class after the policies have acted. They do not change
the time of the timer, so that it is still valid. -/
def baseRetransmitTimeout : Except Fatal Gen3ConnectionState := do
  let e := { s.toEndpoint with rtoExpirationBaseTime := 0 }
  let e ← e.timeoutScan .request (e.tx .request).outstandingPackets
  let e ← e.timeoutScan .data (e.tx .data).outstandingPackets
  { s with toEndpoint := e }.setupRetransmitTimer

def handleRetransmitTimeout : Except Fatal Gen3ConnectionState := do
  if s.now ≠ s.rtoExpirationBaseTime then pure s
  else
    let (s, action) ← s.ifInstalled s.early.enableRack s.rackHandleRetransmitTimeoutEvent
    let s ← s.executeRetransmissionPolicyAction action
    s.baseRetransmitTimeout

end Gen3ConnectionState

end Isekai.Falcon
