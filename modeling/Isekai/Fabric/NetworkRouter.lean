import Isekai.Fabric.MemoryManagementUnit
import Mathlib.Data.List.FinRange

/-!
# The network router

`NetworkRouter` with its ports, its packet queues and its routing pipeline, over the memory
management unit. Events are handled in the order of their times, and in any order at the same time.
A self-message is an object with the time for which it is scheduled; it cannot be scheduled again
before it arrives. The routing table, the port selection, the contents of packets, the transmission
delays and WRED are choices of the environment. All data packets have priority 0, and a PFC frame
has one class for each queue. Statistics are not in the model.
-/

namespace Isekai.Fabric

open Lib Function

/-- `RouterConfigProfile` and the parameters of the channels. Times are in nanoseconds. The two
functions convert the quanta of PFC frames at the data rate of a port. -/
structure RouterConfig (n q : Nat) extends MmuConfig n q where
  mtuSize : Nat
  routerDelay : Nat
  rxPfcDelay : Nat
  pfcPauseDuration : Nat
  maxFrameTransmissionTime : Fin n → Nat
  ifgDelay : Fin n → Nat
  isConnected : Fin n → Bool
  convertToPauseDuration : Fin n → Int → Nat
  convertToPauseQuanta : Fin n → Nat → Int

/-- A PFC frame: the classes it is for and their pause times. -/
structure PfcFrame (q : Nat) where
  classEnable : Fin q → Bool
  timeClass : Fin q → Int

inductive Frame (n q : Nat) where
  | data (byteLength : Nat) (packet : Packet n q)
  | pfc (byteLength : Nat) (frame : PfcFrame q)

inductive PortState where
  | idle | active
  deriving DecidableEq, Repr

/-- `NetworkPort` with its packet queues and the end of its last transmission. -/
structure Port (n q : Nat) where
  portState : PortState := .idle
  packetQueues : Fin q → List (Packet n q) := fun _ => []
  pfcQueue : List (PfcFrame q) := []
  transmissionFinishTime : Nat := 0

/-- A pause that takes effect at `arrivalTime`. -/
structure PfcMessage where
  pauseDuration : Nat := 0
  arrivalTime : Option Nat := none
  deriving DecidableEq, Repr

inductive RouterAction (n q : Nat) where
  | admitted (id : Nat)
  | sent (port : Fin n) (id : Nat)
  | discarded (id : Nat)
  | receivedPfc (port : Fin n) (priority : Fin q) (time duration : Nat)
  | pausedPfc (port : Fin n) (priority : Fin q) (time duration : Nat)
  deriving DecidableEq, Repr

inductive RouterFatal where
  | mmu (e : MmuFatal)
  | outputAlreadyScheduled
  | wrongPortState
  | wrongPfcGeneration
  | invalidOutputPort
  | noPfcMessage
  | pfcMessageAlreadyScheduled
  deriving DecidableEq, Repr

structure Router (n q : Nat) where
  now : Nat := 0
  mmu : Mmu n q
  ports : Fin n → Port n q := fun _ => {}
  txQueueUnpauseTimes : Fin n → Fin q → Nat := fun _ _ => 0
  routerDelays : List (Nat × Packet n q) := []
  outputScheduleMessages : Fin n → Option Nat := fun _ => none
  pfcSetPausedMessages : Fin n → Fin q → PfcMessage := fun _ _ => {}
  pfcRefreshmentMessages : Fin n → Fin q → Option Nat := fun _ _ => none
  pfcSendPauseMessages : Fin n → Fin q → Option Nat := fun _ _ => none
  history : List (RouterAction n q) := []

def enqueueDelay : Nat := 10

/-- `PfcFrameUpdate` of a frame, where `CreatePfcPacket` starts from no class. -/
def PfcFrame.update {q : Nat} (frame : PfcFrame q) (priority : Fin q) (pauseUnits : Int) :
    PfcFrame q where
  classEnable := Function.update frame.classEnable priority true
  timeClass := Function.update frame.timeClass priority pauseUnits

def PfcFrame.empty {q : Nat} : PfcFrame q where
  classEnable _ := false
  timeClass _ := 0

namespace Router

variable {n q : Nat} (c : RouterConfig n q) (s : Router n q)

def setPort (port : Fin n) (p : Port n q) : Router n q :=
  { s with ports := update s.ports port p }

def setPacketQueue (port : Fin n) (priority : Fin q) (queue : List (Packet n q)) : Router n q :=
  s.setPort port
    { s.ports port with
      packetQueues := update (s.ports port).packetQueues priority queue }

def emit (action : RouterAction n q) : Router n q := { s with history := action :: s.history }

def liftMmu {α : Type} : Except MmuFatal α → Except RouterFatal α := Except.mapError .mmu

def scheduleOutputAfter (port : Fin n) (delay : Nat) : Except RouterFatal (Router n q) :=
  if (s.outputScheduleMessages port).isSome then .error .outputAlreadyScheduled
  else
    .ok { s with
      outputScheduleMessages :=
        update s.outputScheduleMessages port (some (s.now + delay)) }

def wakePort (port : Fin n) : Except RouterFatal (Router n q) :=
  if (s.ports port).portState = .idle then
    (s.setPort port
      { s.ports port with portState := .active }).scheduleOutputAfter port enqueueDelay
  else .ok s

def generatePfc (port : Fin n) (priority : Fin q) (pauseUnits : Int) :
    Except RouterFatal (Router n q) :=
  let p := s.ports port
  match p.pfcQueue with
  | [] =>
    (s.setPort port
      { p with pfcQueue := [PfcFrame.empty.update priority pauseUnits] }).wakePort port
  | [frame] =>
    (s.setPort port { p with pfcQueue := [frame.update priority pauseUnits] }).wakePort port
  | _ => .error .wrongPfcGeneration

def sendPfc (port : Fin n) (priority : Fin q) : Except RouterFatal (Router n q) :=
  if !(s.mmu.queue port priority).pfcSendingTriggered then .ok s
  else do
    let nextPfcSendingTime := s.now + (c.pfcPauseDuration - c.maxFrameTransmissionTime port) +
      ((s.ports port).transmissionFinishTime - s.now)
    let s ← s.generatePfc port priority (c.convertToPauseQuanta port c.pfcPauseDuration)
    pure
      { s with
        pfcSendPauseMessages :=
          setAt s.pfcSendPauseMessages port priority (some nextPfcSendingTime) }

def sendPacket (port : Fin n) (transmissionDelay : Nat) : Except RouterFatal (Router n q) :=
  let s := s.setPort port
    { s.ports port with transmissionFinishTime := s.now + transmissionDelay }
  s.scheduleOutputAfter port (transmissionDelay + c.ifgDelay port)

/-- `MemoryManagementUnit::ReceivedPfc` for one class, and `NetworkRouter::SetPfcPaused`. -/
def receivedPfcClass (port : Fin n) (frame : PfcFrame q) (s : Router n q) (priority : Fin q) :
    Except RouterFatal (Router n q) :=
  if frame.classEnable priority then
    if !c.supportPfc then .error .noPfcMessage
    else
      let pauseDuration := c.convertToPauseDuration port (frame.timeClass priority)
      if (s.pfcSetPausedMessages port priority).arrivalTime.isSome then
        .error .pfcMessageAlreadyScheduled
      else
        .ok ({ s with
            pfcSetPausedMessages := setAt s.pfcSetPausedMessages port priority
              { pauseDuration, arrivalTime := some (s.now + c.rxPfcDelay) } }.emit
          (.receivedPfc port priority s.now pauseDuration))
  else .ok s

def receivedPfc (port : Fin n) (frame : PfcFrame q) : Except RouterFatal (Router n q) :=
  (List.finRange q).foldlM (receivedPfcClass c port frame) s

def setPfcPaused (port : Fin n) (priority : Fin q) (unpauseTime : Nat) : Router n q :=
  { s with
    txQueueUnpauseTimes := setAt s.txQueueUnpauseTimes port priority unpauseTime
    pfcRefreshmentMessages := setAt s.pfcRefreshmentMessages port priority
      (if unpauseTime ≠ s.now then some unpauseTime else none) }

def isPaused (port : Fin n) (priority : Fin q) : Bool :=
  s.now < s.txQueueUnpauseTimes port priority

def canTransmit (port : Fin n) (priority : Fin q) : Bool :=
  !((s.ports port).packetQueues priority).isEmpty && (!c.supportPfc || !s.isPaused port priority)

/-- `FixedPriorityArbiter::Arbitrate` over the queues of a port. -/
def arbitrate (port : Fin n) : Option (Fin q) :=
  (List.finRange q).find? fun priority => s.canTransmit c port priority

def sendXon : Option (Fin n × Fin q) → Except RouterFatal (Router n q)
  | some (ingressPort, ingressPriority) => s.generatePfc ingressPort ingressPriority 0
  | none => .ok s

def dequeue (port : Fin n) (priority : Fin q) (wred : Bool) : Except RouterFatal (Router n q) :=
  match (s.ports port).packetQueues priority with
  | [] => .ok s
  | packet :: rest => do
    let (mmu, _, xon) ← liftMmu (s.mmu.dequeuedPacket c.toMmuConfig port priority wred packet)
    let s ← { s.setPacketQueue port priority rest with mmu }.sendXon xon
    pure (s.emit (.sent port packet.id))

/-- Sends a PFC frame or a packet, or leaves the port idle. -/
def scheduleOutput (port : Fin n) (wred : Bool) (transmissionDelay : Nat) :
    Except RouterFatal (Router n q) :=
  let p := s.ports port
  if p.portState ≠ .active then .error .wrongPortState
  else
    match p.pfcQueue with
    | _ :: rest =>
      (s.setPort port { p with pfcQueue := rest }).sendPacket c port transmissionDelay
    | [] =>
      match s.arbitrate c port with
      | some priority => do
        let s ← s.dequeue c port priority wred
        s.sendPacket c port transmissionDelay
      | none => .ok (s.setPort port { p with portState := .idle })

def resumeOutput (port : Fin n) (wred : Bool) (transmissionDelay : Nat) :
    Except RouterFatal (Router n q) :=
  if (s.ports port).portState = .idle then
    (s.setPort port { s.ports port with portState := .active }).scheduleOutput c port wred
      transmissionDelay
  else .ok s

variable [NeZero q]

def enqueuePacket (port : Fin n) (wred : Bool) (packet : Packet n q) :
    Except RouterFatal (Router n q) := do
  let (mmu, packet, enqueued) ← liftMmu (s.mmu.requestEnqueue c.toMmuConfig port 0 wred packet)
  let s := { s with mmu }
  if enqueued then
    (s.setPacketQueue port 0 ((s.ports port).packetQueues 0 ++ [packet])).wakePort port
  else pure (s.emit (.discarded packet.id))

def enablePfcSending (port : Fin n) (triggers : Bool) : Except RouterFatal (Router n q) :=
  if triggers then s.sendPfc c port 0 else .ok s

def routeOrDrop (port : Fin n) (memoryOccupancy : IngressMemoryOccupancy) (packet : Packet n q) :
    Router n q :=
  if memoryOccupancy.drop then s
  else
    let packet := addIngressTag packet port 0 memoryOccupancy
    { s with routerDelays := s.routerDelays ++ [(s.now + c.routerDelay, packet)] }.emit
      (.admitted packet.id)

/-- A frame arrives; those above the MTU are ignored. -/
def receivePacket (port : Fin n) : Frame n q → Except RouterFatal (Router n q)
  | .data byteLength packet =>
    if c.mtuSize < byteLength then .ok s
    else do
      let (mmu, memoryOccupancy, triggers) ←
        liftMmu (s.mmu.receivedData c.toMmuConfig port (getPacketOccupancy packet) 0)
      let s ← { s with mmu }.enablePfcSending c port triggers
      pure (s.routeOrDrop c port memoryOccupancy packet)
  | .pfc byteLength frame =>
    if c.mtuSize < byteLength then .ok s else s.receivedPfc c port frame

def routePacket (packet : Packet n q) (outputPort : Option (Fin n)) (wred : Bool) :
    Except RouterFatal (Router n q) :=
  if packet.hopLimit = 0 then .ok (s.emit (.discarded packet.id))
  else
    let packet := { packet with hopLimit := packet.hopLimit - 1 }
    match outputPort with
    | none => .ok (s.emit (.discarded packet.id))
    | some port =>
      if !c.isConnected port then .error .invalidOutputPort
      else s.enqueuePacket c port wred packet

end Router

inductive RouterLabel (n q : Nat) where
  | receivePacket (time : Nat) (port : Fin n) (frame : Frame n q)
  | routerDelay (index : Nat) (outputPort : Option (Fin n)) (wred : Bool)
  | outputScheduling (port : Fin n) (wred : Bool) (transmissionDelay : Nat)
  | setPfcPaused (port : Fin n) (priority : Fin q)
  | pfcRefreshment (port : Fin n) (priority : Fin q) (wred : Bool) (transmissionDelay : Nat)
  | pfcPauseSend (port : Fin n) (priority : Fin q)

namespace Router

variable {n q : Nat} [NeZero q] (c : RouterConfig n q) (s : Router n q)

def timeOf : RouterLabel n q → Option Nat
  | .receivePacket time _ _ => some time
  | .routerDelay index _ _ => s.routerDelays[index]?.map Prod.fst
  | .outputScheduling port _ _ => s.outputScheduleMessages port
  | .setPfcPaused port priority => (s.pfcSetPausedMessages port priority).arrivalTime
  | .pfcRefreshment port priority _ _ => s.pfcRefreshmentMessages port priority
  | .pfcPauseSend port priority => s.pfcSendPauseMessages port priority

def NothingBefore (time : Nat) : Prop :=
  s.now ≤ time ∧ (∀ p ∈ s.routerDelays, time ≤ p.1) ∧
  ∀ port, (∀ t ∈ s.outputScheduleMessages port, time ≤ t) ∧
    ∀ priority, (∀ t ∈ (s.pfcSetPausedMessages port priority).arrivalTime, time ≤ t) ∧
      (∀ t ∈ s.pfcRefreshmentMessages port priority, time ≤ t) ∧
      ∀ t ∈ s.pfcSendPauseMessages port priority, time ≤ t

instance (time : Nat) : Decidable (s.NothingBefore time) := by
  unfold NothingBefore
  infer_instance

def isNew : RouterLabel n q → Bool
  | .receivePacket _ _ (.data _ packet) =>
    packet.ingressTag.isNone && s.history.all fun action => action ≠ .admitted packet.id
  | _ => true

def handleMessage : RouterLabel n q → Except RouterFatal (Router n q)
  | .receivePacket _ port frame => s.receivePacket c port frame
  | .routerDelay index outputPort wred =>
    match s.routerDelays[index]? with
    | some (_, packet) =>
      { s with routerDelays := s.routerDelays.eraseIdx index }.routePacket c packet outputPort wred
    | none => .ok s
  | .outputScheduling port wred transmissionDelay =>
    { s with
      outputScheduleMessages :=
        update s.outputScheduleMessages port none }.scheduleOutput c port wred
      transmissionDelay
  | .setPfcPaused port priority =>
    let pauseDuration := (s.pfcSetPausedMessages port priority).pauseDuration
    let s := { s with
      pfcSetPausedMessages := setAt s.pfcSetPausedMessages port priority
        { pauseDuration, arrivalTime := none } }
    .ok ((s.setPfcPaused port priority (s.now + pauseDuration)).emit
      (.pausedPfc port priority s.now pauseDuration))
  | .pfcRefreshment port priority wred transmissionDelay =>
    { s with
      pfcRefreshmentMessages :=
        setAt s.pfcRefreshmentMessages port priority none }.resumeOutput c port wred
      transmissionDelay
  | .pfcPauseSend port priority =>
    { s with
      pfcSendPauseMessages :=
        setAt s.pfcSendPauseMessages port priority none }.sendPfc c port priority

def next (l : RouterLabel n q) : Except RouterFatal (Router n q) :=
  match s.timeOf l with
  | some time => { s with now := time }.handleMessage c l
  | none => .ok s

def allowed (l : RouterLabel n q) : Prop :=
  s.isNew l = true ∧ ∃ time ∈ s.timeOf l, s.NothingBefore time

instance (l : RouterLabel n q) : Decidable (s.allowed l) :=
  inferInstanceAs (Decidable (_ ∧ ∃ time ∈ s.timeOf l, s.NothingBefore time))

end Router

def RouterConfig.initial {n q : Nat} (c : RouterConfig n q) : Router n q where
  mmu := c.toMmuConfig.initial

def RouterConfig.system {n q : Nat} [NeZero q] (c : RouterConfig n q) :
    TransitionSystem (Router n q) (RouterLabel n q) RouterFatal where
  init s := s = c.initial
  allowed := Router.allowed
  next := Router.next c

instance {n q : Nat} [NeZero q] (c : RouterConfig n q) (s : Router n q) (l : RouterLabel n q) :
    Decidable (c.system.allowed s l) := inferInstanceAs (Decidable (s.allowed l))

def twoPortsConfig : RouterConfig 2 1 where
  supportPfc := true
  pfcXon := true
  ingressServicePoolSize := 100
  egressServicePoolSize := 100
  portEgressAlpha _ := 1
  cosConfig _ _ := { ingressAlpha := 1, egressAlpha := 1, pfcHeadroom := 10 }
  round := id
  mtuSize := 9000
  routerDelay := 600
  rxPfcDelay := 100
  pfcPauseDuration := 10000
  maxFrameTransmissionTime _ := 720
  ifgDelay _ := 1
  isConnected _ := true
  convertToPauseDuration _ quanta := quanta.toNat * 5
  convertToPauseQuanta _ duration := duration / 5

end Isekai.Fabric
