import Isekai.Lib.Agenda
import Isekai.Lib.TransitionSystem
import Isekai.Fabric.NetworkRouter

/-!
# The packet builder of a host

`OmnestPacketBuilder` takes packets from its transmit queue, one after the other, and pauses on PFC
frames. There is one transmit queue, and a state for each of the eight priorities. Headers, hashes
and statistics are not in the model; the random draw for drops is a choice of the environment.
-/

namespace Isekai.Host

open Lib

abbrev classesOfService : Nat := 8

scoped instance : NeZero classesOfService := ⟨by decide⟩

abbrev Priority := Fin classesOfService

inductive PacketBuilderQueueState where
  | idle | active | paused
  deriving DecidableEq, Repr

/-- A packet with the fields that the builder reads. The length is that of the built packet. -/
structure TxPacket where
  id : Nat
  byteLength : Nat
  isAckOrNack : Bool := false
  addedDelay : Option Nat := none
  timestamp : Nat := 0
  sentTimestamp : Nat := 0
  deriving DecidableEq, Repr

/-- The configuration of the builder, with the transmission delays and the pause unit of its
channel. -/
structure PacketBuilderConfig where
  supportPfc : Bool
  rxPfcDelay : Nat := 100
  packetBuildInterval : Nat
  txQueueLengthThreshold : Nat := 2 ^ 32 - 1
  mtuSize : Nat
  dropBurstSize : Nat := 1
  dropAck : Bool := false
  recordT1AfterPacketBuilder : Bool := false
  transmissionDelay : Nat → Nat
  pauseDuration : Int → Nat

inductive PacketBuilderEvent where
  | encapsulateAndSend (priority : Priority)
  | setPfcPaused (priority : Priority) (pauseDuration : Nat)
  | wakeUpTxQueue (priority : Priority) (unpausedTime : Nat)
  deriving DecidableEq, Repr

inductive PacketBuilderAction where
  | falconFlowControl (xoff : Bool)
  | taken (time nextBuildDuration : Nat)
  | randomDrop (packet : TxPacket)
  | wrongSize (packet : TxPacket)
  | scheduleSend (packet : TxPacket) (sendDelay transmissionDelay : Nat)
  | pfcPaused (priority : Priority) (time pauseDuration : Nat)
  deriving DecidableEq, Repr

structure PacketBuilder where
  agenda : Agenda PacketBuilderEvent := {}
  queueStates : Priority → PacketBuilderQueueState := fun _ => .idle
  txQueue : List TxPacket := []
  txQueueUnpauseTimes : Priority → Nat := fun _ => 0
  remainingDropInBurst : Nat := 0
  history : List PacketBuilderAction := []

namespace PacketBuilder

variable (c : PacketBuilderConfig) (s : PacketBuilder)

def emit (action : PacketBuilderAction) : PacketBuilder :=
  { s with history := action :: s.history }

def schedule (delay : Nat) (event : PacketBuilderEvent) : PacketBuilder :=
  { s with agenda := s.agenda.schedule delay event }

def setQueueState (priority : Priority) (state : PacketBuilderQueueState) : PacketBuilder :=
  { s with queueStates := Function.update s.queueStates priority state }

def setFalconFlowControl (length : Nat) (xoff : Bool) : PacketBuilder :=
  if length = c.txQueueLengthThreshold then s.emit (.falconFlowControl xoff) else s

def isRandomDrop (draw : Bool) (packet : TxPacket) : Bool :=
  draw && (c.dropAck || !packet.isAckOrNack)

def getNextPacketBuildEventTime (packet : TxPacket) : Nat :=
  if c.packetBuildInterval < c.transmissionDelay packet.byteLength then
    c.transmissionDelay packet.byteLength
  else c.packetBuildInterval

/-- `SendoutPacket` returns the duration until the next packet is built. -/
def sendoutPacket (draw : Bool) (packet : TxPacket) : PacketBuilder × Nat :=
  let remaining :=
    if isRandomDrop c draw packet then (s.remainingDropInBurst + c.dropBurstSize) % 2 ^ 32
    else s.remainingDropInBurst
  if remaining ≠ 0 then
    ({ s with remainingDropInBurst := remaining - 1 }.emit (.randomDrop packet),
      c.packetBuildInterval)
  else
    let s := { s with remainingDropInBurst := remaining }
    if c.mtuSize < packet.byteLength then (s.emit (.wrongSize packet), c.packetBuildInterval)
    else
      (s.emit (.scheduleSend packet (packet.addedDelay.getD 0)
        (c.transmissionDelay packet.byteLength)), getNextPacketBuildEventTime c packet)

def encapsulateAndSendFalconPacket (draw : Bool) (priority : Priority) (packet : TxPacket)
    (rest : List TxPacket) : PacketBuilder :=
  let s := { s with txQueue := rest }.setFalconFlowControl c (rest.length + 1) false
  let packet :=
    { packet with
      sentTimestamp :=
        if c.recordT1AfterPacketBuilder then s.agenda.now else packet.timestamp }
  let (s, nextBuildDuration) := s.sendoutPacket c draw packet
  (s.emit (.taken s.agenda.now nextBuildDuration)).schedule nextBuildDuration
    (.encapsulateAndSend priority)

def encapsulateAndSendTransportPacket (draw : Bool) (priority : Priority) : PacketBuilder :=
  if s.queueStates priority = .paused then s
  else
    match s.txQueue with
    | [] => s.setQueueState priority .idle
    | packet :: rest => s.encapsulateAndSendFalconPacket c draw priority packet rest

def enqueuePacket (draw : Bool) (packet : TxPacket) : PacketBuilder :=
  let packet := { packet with timestamp := s.agenda.now }
  let s := { s with txQueue := s.txQueue ++ [packet] }
  let s := s.setFalconFlowControl c s.txQueue.length true
  if s.queueStates 0 = .idle then
    (s.setQueueState 0 .active).encapsulateAndSendTransportPacket c draw 0
  else s

def handlePfcClass (frame : Fabric.PfcFrame classesOfService) (s : PacketBuilder)
    (priority : Priority) : PacketBuilder :=
  if frame.classEnable priority then
    s.schedule c.rxPfcDelay (.setPfcPaused priority (c.pauseDuration (frame.timeClass priority)))
  else s

/-- `HandlePfc`, which is only called if the host supports PFC. -/
def handlePfc (frame : Fabric.PfcFrame classesOfService) : PacketBuilder :=
  if c.supportPfc then (List.finRange classesOfService).foldl (handlePfcClass c frame) s else s

def setPfcPaused (priority : Priority) (pauseDuration : Nat) : PacketBuilder :=
  let unpausedTime := s.agenda.now + pauseDuration
  let s := { s with
    txQueueUnpauseTimes := Function.update s.txQueueUnpauseTimes priority unpausedTime }
  ((s.setQueueState priority .paused).emit
    (.pfcPaused priority s.agenda.now pauseDuration)).schedule pauseDuration
      (.wakeUpTxQueue priority unpausedTime)

def wakeUpTxQueue (draw : Bool) (priority : Priority) (unpausedTime : Nat) : PacketBuilder :=
  if unpausedTime = s.txQueueUnpauseTimes priority then
    (s.setQueueState priority .active).encapsulateAndSendTransportPacket c draw priority
  else s

def handleEvent (draw : Bool) : PacketBuilderEvent → PacketBuilder
  | .encapsulateAndSend priority => s.encapsulateAndSendTransportPacket c draw priority
  | .setPfcPaused priority pauseDuration => s.setPfcPaused priority pauseDuration
  | .wakeUpTxQueue priority unpausedTime => s.wakeUpTxQueue c draw priority unpausedTime

end PacketBuilder

/-- Packets and frames arrive at any time, and events happen at theirs. -/
inductive PacketBuilderLabel where
  | enqueuePacket (time : Nat) (packet : TxPacket) (draw : Bool)
  | receivePfc (time : Nat) (frame : Fabric.PfcFrame classesOfService)
  | event (index : Nat) (draw : Bool)

namespace PacketBuilder

variable (c : PacketBuilderConfig) (s : PacketBuilder)

def next : PacketBuilderLabel → PacketBuilder
  | .enqueuePacket time packet draw =>
    { s with agenda := s.agenda.advance time }.enqueuePacket c draw packet
  | .receivePfc time frame => { s with agenda := s.agenda.advance time }.handlePfc c frame
  | .event index draw =>
    match s.agenda.pending[index]? with
    | some (time, event) => { s with agenda := s.agenda.fire time index }.handleEvent c draw event
    | none => s

def allowed : PacketBuilderLabel → Prop
  | .enqueuePacket time _ _ => s.agenda.Reaches time
  | .receivePfc time _ => s.agenda.Reaches time
  | .event index _ => s.agenda.IsNext index

instance : (l : PacketBuilderLabel) → Decidable (s.allowed l)
  | .enqueuePacket time _ _ => inferInstanceAs (Decidable (s.agenda.Reaches time))
  | .receivePfc time _ => inferInstanceAs (Decidable (s.agenda.Reaches time))
  | .event index _ => inferInstanceAs (Decidable (s.agenda.IsNext index))

end PacketBuilder

def PacketBuilderConfig.system (c : PacketBuilderConfig) :
    TransitionSystem PacketBuilder PacketBuilderLabel Empty where
  init s := s = {}
  allowed := PacketBuilder.allowed
  next s l := .ok (s.next c l)

instance (c : PacketBuilderConfig) (s : PacketBuilder) (l : PacketBuilderLabel) :
    Decidable (c.system.allowed s l) := inferInstanceAs (Decidable (s.allowed l))

end Isekai.Host
