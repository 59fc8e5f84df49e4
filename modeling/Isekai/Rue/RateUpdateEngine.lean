import Isekai.Lib.Agenda
import Isekai.Lib.TransitionSystem
import Mathlib.Algebra.GroupWithZero.Nat

/-!
# The rate update engine

`ProtocolRateUpdateEngine` of the first generation with its adapter: events of connections wait in a
queue for the congestion control algorithm, and its responses wait in another one. The formats of
events and responses, the algorithm and the rest of the congestion control metadata are parameters,
as the adapter is a template over them. The latency of the engine is a choice of the environment.
Statistics are not in the model.
-/

namespace Isekai.Rue

open Lib

inductive RueFatal where
  | unknownConnection
  | connectionIdBits
  | retransmitCountBits
  | timeBits
  | formatBits
  | outstandingEvent
  | queueNotScheduled
  | emptyResponseQueue
  deriving DecidableEq, Repr

/-- `CongestionControlMetadata`. The time of the last event is `none` before the first one. -/
structure CcMetadata (μ : Type) where
  outstandingRueEvent : Bool := false
  lastRueEventTime : Option Nat := none
  numAcked : Nat := 0
  rest : μ

structure RueEvent (φ : Type) where
  connectionId : Nat
  content : φ
  deriving DecidableEq, Repr

structure RueResponse (ρ : Type) where
  connectionId : Nat
  content : ρ
  deriving DecidableEq, Repr

inductive RueTask where
  | processNextEvent | handleNextResponse
  deriving DecidableEq, Repr

/-- The configuration, with the format adapter and the algorithm for packets `π`, events `φ`,
responses `ρ` and metadata `μ`. An event is not filled if one of its fields has too many bits. -/
structure RueConfig (π μ φ ρ : Type) where
  falconLatency : Nat
  eventQueueSize : Nat
  eventQueueThreshold1 : Nat
  eventQueueThreshold2 : Nat
  eventQueueThreshold3 : Nat
  predicate1TimeThreshold : Nat
  predicate2PacketCountThreshold : Nat
  falconTimeUnits : Nat → Nat
  fillExplicitAckEvent : π → CcMetadata μ → Nat → Bool → Bool → Option φ
  fillNackEvent : π → CcMetadata μ → Nat → Option φ
  fillTimeoutRetransmittedEvent : π → CcMetadata μ → Nat → Option φ
  process : φ → Nat → ρ
  updateFromResponse : μ → ρ → μ
  retransmitTimeout : μ → Nat

/-- What happens to events and responses, for the history. -/
inductive RueAction (φ ρ : Type) where
  | enqueued (event : RueEvent φ)
  | processed (event : RueEvent φ) (now : Nat)
  | applied (response : RueResponse ρ)
  | rtoReduction (connectionId : Nat)
  deriving DecidableEq, Repr

structure RateUpdateEngine (μ φ ρ : Type) where
  agenda : Agenda RueTask := {}
  connections : Nat → Option (CcMetadata μ) := fun _ => none
  eventQueue : List (RueEvent φ) := []
  responseQueue : List (RueResponse ρ) := []
  queueScheduled : Bool := false
  history : List (RueAction φ ρ) := []

def saturateHigh (bits value : Nat) : Nat := min value (2 ^ bits - 1)

def connectionIdBits : Nat := 24
def numPacketsAckedBits : Nat := 10
def retransmitCountBits : Nat := 3
def timeBits : Nat := 24

namespace RateUpdateEngine

variable {π μ φ ρ : Type} (c : RueConfig π μ φ ρ) (s : RateUpdateEngine μ φ ρ)

def emit (action : RueAction φ ρ) : RateUpdateEngine μ φ ρ :=
  { s with history := action :: s.history }

def schedule (delay : Nat) (task : RueTask) : RateUpdateEngine μ φ ρ :=
  { s with agenda := s.agenda.schedule delay task }

def lookup (cid : Nat) : Except RueFatal (CcMetadata μ) :=
  match s.connections cid with
  | some metadata => .ok metadata
  | none => .error .unknownConnection

def setMetadata (cid : Nat) (metadata : CcMetadata μ) : RateUpdateEngine μ φ ρ :=
  { s with connections := Function.update s.connections cid (some metadata) }

def updateOutstandingEvent (cid : Nat) (value : Bool) :
    Except RueFatal (RateUpdateEngine μ φ ρ) := do
  let metadata ← s.lookup cid
  if metadata.outstandingRueEvent = value then .error .outstandingEvent
  else .ok (s.setMetadata cid { metadata with outstandingRueEvent := value })

def canEnqueueEvent (metadata : CcMetadata μ) : Bool :=
  let numEvents := s.eventQueue.length
  let predicate1 :=
    match metadata.lastRueEventTime with
    | some time => decide (c.predicate1TimeThreshold ≤ s.agenda.now - time)
    | none => true
  let predicate2 := decide (c.predicate2PacketCountThreshold ≤ metadata.numAcked)
  if metadata.outstandingRueEvent then false
  else if numEvents < c.eventQueueThreshold1 then true
  else if numEvents < c.eventQueueThreshold2 then predicate1 || predicate2
  else if numEvents < c.eventQueueThreshold3 then predicate1
  else if numEvents < c.eventQueueSize then predicate1 && predicate2
  else false

def triggerEventProcessing (cid : Nat) : Except RueFatal (RateUpdateEngine μ φ ρ) := do
  let s ← s.updateOutstandingEvent cid true
  if s.queueScheduled then pure s
  else pure ({ s with queueScheduled := true }.schedule 1 .processNextEvent)

/-- The metadata of the connection is written back, and its event goes to the queue of the
adapter. -/
def enqueueEvent (cid : Nat) (metadata : CcMetadata μ) :
    Option φ → Except RueFatal (RateUpdateEngine μ φ ρ)
  | some content =>
    let event := { connectionId := cid, content }
    let s := { s.setMetadata cid metadata with eventQueue := s.eventQueue ++ [event] }
    (s.emit (.enqueued event)).triggerEventProcessing cid
  | none => .error .formatBits

/-- The metadata of an event for which the number of acknowledged packets starts again. -/
def resetNumAcked (metadata : CcMetadata μ) : CcMetadata μ :=
  { metadata with numAcked := 0, lastRueEventTime := some s.agenda.now }

def explicitAckReceived (cid : Nat) (packet : π) (eack eackDrop : Bool) :
    Except RueFatal (RateUpdateEngine μ φ ρ) :=
  if 2 ^ connectionIdBits ≤ cid then .error .connectionIdBits
  else do
    let metadata ← s.lookup cid
    if !s.canEnqueueEvent c metadata then pure s
    else
      let numPacketsAcked := saturateHigh numPacketsAckedBits metadata.numAcked
      let metadata := s.resetNumAcked metadata
      s.enqueueEvent cid metadata
        (c.fillExplicitAckEvent packet metadata numPacketsAcked eack eackDrop)

def nackReceived (cid : Nat) (packet : π) : Except RueFatal (RateUpdateEngine μ φ ρ) :=
  if 2 ^ connectionIdBits ≤ cid then .error .connectionIdBits
  else do
    let metadata ← s.lookup cid
    if !s.canEnqueueEvent c metadata then pure s
    else
      let numPacketsAcked := saturateHigh numPacketsAckedBits metadata.numAcked
      let metadata := s.resetNumAcked metadata
      s.enqueueEvent cid metadata (c.fillNackEvent packet metadata numPacketsAcked)

/-- `HandlePacketTimeoutRetransmitted`, which resets the number of acknowledged packets also if
there is no event. -/
def packetTimeoutRetransmitted (cid : Nat) (packet : π) (retransmitCount : Nat) :
    Except RueFatal (RateUpdateEngine μ φ ρ) :=
  let retransmitCount := if 7 ≤ retransmitCount then 6 else retransmitCount
  if 2 ^ retransmitCountBits ≤ retransmitCount then .error .retransmitCountBits
  else if 2 ^ connectionIdBits ≤ cid then .error .connectionIdBits
  else do
    let metadata ← s.lookup cid
    let metadata := { metadata with numAcked := 0 }
    if !s.canEnqueueEvent c metadata then pure (s.setMetadata cid metadata)
    else
      let metadata := s.resetNumAcked metadata
      s.enqueueEvent cid metadata (c.fillTimeoutRetransmittedEvent packet metadata retransmitCount)

/-- The engine takes the next event; its response comes later. -/
def processNextEvent (latency : Nat) : Except RueFatal (RateUpdateEngine μ φ ρ) :=
  if !s.queueScheduled then .error .queueNotScheduled
  else
    match s.eventQueue with
    | [] => .ok { s with queueScheduled := false }
    | event :: rest =>
      let now := c.falconTimeUnits s.agenda.now
      if 2 ^ timeBits ≤ now then .error .timeBits
      else
        let response :=
          { connectionId := event.connectionId, content := c.process event.content now }
        let s := { s with eventQueue := rest, responseQueue := s.responseQueue ++ [response] }
        .ok (((s.emit (.processed event now)).schedule latency .processNextEvent).schedule
          (c.falconLatency + latency) .handleNextResponse)

def handleRtoReduction (cid before after : Nat) : RateUpdateEngine μ φ ρ :=
  if after < before then s.emit (.rtoReduction cid) else s

/-- Falcon takes over the next response of the engine. -/
def handleNextResponse : Except RueFatal (RateUpdateEngine μ φ ρ) :=
  match s.responseQueue with
  | [] => .error .emptyResponseQueue
  | response :: rest => do
    let cid := response.connectionId
    let metadata ← s.lookup cid
    let updated := c.updateFromResponse metadata.rest response.content
    let s := { s with responseQueue := rest }.setMetadata cid { metadata with rest := updated }
    let s := (s.emit (.applied response)).handleRtoReduction cid
      (c.retransmitTimeout metadata.rest) (c.retransmitTimeout updated)
    s.updateOutstandingEvent cid false

def runTask (latency : Nat) : RueTask → Except RueFatal (RateUpdateEngine μ φ ρ)
  | .processNextEvent => s.processNextEvent c latency
  | .handleNextResponse => s.handleNextResponse c

end RateUpdateEngine

inductive RueLabel (π μ : Type) where
  | initializeMetadata (cid : Nat) (rest : μ)
  | packetAcked (cid : Nat)
  | explicitAckReceived (time cid : Nat) (packet : π) (eack eackDrop : Bool)
  | nackReceived (time cid : Nat) (packet : π)
  | packetTimeoutRetransmitted (time cid : Nat) (packet : π) (retransmitCount : Nat)
  | task (index latency : Nat)

namespace RateUpdateEngine

variable {π μ φ ρ : Type} (c : RueConfig π μ φ ρ) (s : RateUpdateEngine μ φ ρ)

/-- `AccumulateNumAcked`, a 32-bit counter. -/
def packetAcked (cid : Nat) : Except RueFatal (RateUpdateEngine μ φ ρ) := do
  let metadata ← s.lookup cid
  pure (s.setMetadata cid { metadata with numAcked := (metadata.numAcked + 1) % 2 ^ 32 })

def next : RueLabel π μ → Except RueFatal (RateUpdateEngine μ φ ρ)
  | .initializeMetadata cid rest => .ok (s.setMetadata cid { rest })
  | .packetAcked cid => s.packetAcked cid
  | .explicitAckReceived time cid packet eack eackDrop =>
    { s with agenda := s.agenda.advance time }.explicitAckReceived c cid packet eack eackDrop
  | .nackReceived time cid packet =>
    { s with agenda := s.agenda.advance time }.nackReceived c cid packet
  | .packetTimeoutRetransmitted time cid packet retransmitCount =>
    { s with agenda := s.agenda.advance time }.packetTimeoutRetransmitted c cid packet
      retransmitCount
  | .task index latency =>
    match s.agenda.pending[index]? with
    | some (time, task) => { s with agenda := s.agenda.fire time index }.runTask c latency task
    | none => .ok s

def allowed : RueLabel π μ → Prop
  | .initializeMetadata cid _ => (s.connections cid).isNone = true
  | .packetAcked _ => True
  | .explicitAckReceived time _ _ _ _ => s.agenda.Reaches time
  | .nackReceived time _ _ => s.agenda.Reaches time
  | .packetTimeoutRetransmitted time _ _ _ => s.agenda.Reaches time
  | .task index _ => s.agenda.IsNext index

instance : (l : RueLabel π μ) → Decidable (s.allowed l)
  | .initializeMetadata cid _ => inferInstanceAs (Decidable ((s.connections cid).isNone = true))
  | .packetAcked _ => instDecidableTrue
  | .explicitAckReceived time _ _ _ _ => inferInstanceAs (Decidable (s.agenda.Reaches time))
  | .nackReceived time _ _ => inferInstanceAs (Decidable (s.agenda.Reaches time))
  | .packetTimeoutRetransmitted time _ _ _ => inferInstanceAs (Decidable (s.agenda.Reaches time))
  | .task index _ => inferInstanceAs (Decidable (s.agenda.IsNext index))

end RateUpdateEngine

def RueConfig.system {π μ φ ρ : Type} (c : RueConfig π μ φ ρ) :
    TransitionSystem (RateUpdateEngine μ φ ρ) (RueLabel π μ) RueFatal where
  init s := s = {}
  allowed := RateUpdateEngine.allowed
  next := RateUpdateEngine.next c

instance {π μ φ ρ : Type} (c : RueConfig π μ φ ρ) (s : RateUpdateEngine μ φ ρ) (l : RueLabel π μ) :
    Decidable (c.system.allowed s l) := inferInstanceAs (Decidable (s.allowed l))

end Isekai.Rue
