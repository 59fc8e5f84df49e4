import Isekai.Lib.Table
import Isekai.Lib.TransitionSystem
import Mathlib.Algebra.GroupWithZero.Nat

/-!
# The memory management unit of a switch

`MemoryManagementUnit` counts the cells that packets occupy, by their ingress queue and by their
egress queue, and decides which packets are admitted and when PFC frames are sent. Cells are natural
numbers: a frame is shorter than the MTU, so the parts fit the integers of its tag. An alpha is the
rational number that its `double` stands for, and `round` is the rounding of the results of `double`
operations. The calls that the unit makes to its ports are part of its results. `PerformWred` is a
choice of the environment. Statistics are not in the model.
-/

namespace Isekai.Fabric

open Lib

scoped instance neZeroOne : NeZero 1 := ⟨Nat.one_ne_zero⟩

scoped instance neZeroTwo : NeZero 2 := ⟨by decide⟩

inductive EcnCode where
  | nonEct | ecnCapableTransport0 | ecnCapableTransport1 | congestionEncountered
  deriving DecidableEq, Repr

inductive EcnMarkingStage where
  | enqueueMark | dequeueMark
  deriving DecidableEq, Repr

/-- The cells that a packet was charged at ingress. -/
structure IngressPacketTag (n q : Nat) where
  portId : Fin n
  priority : Fin q
  minimalGuaranteeOccupancy : Nat
  sharedPoolOccupancy : Nat
  headroomOccupancy : Nat
  deriving DecidableEq, Repr

/-- A packet without its frame header. The `id` tells packets apart. -/
structure Packet (n q : Nat) where
  id : Nat
  bitLength : Nat
  hopLimit : Nat := 64
  ecn : EcnCode := .nonEct
  ingressTag : Option (IngressPacketTag n q) := none
  deriving DecidableEq, Repr

/-- `GetPacketOccupancy`, in cells of 256 bytes. -/
def getPacketOccupancy {n q : Nat} (packet : Packet n q) : Nat := (packet.bitLength + 2047) / 2048

/-- The thresholds of a class of service. -/
structure CosProfile where
  ingressAlpha : Rat
  egressAlpha : Rat
  ingressMinimalGuarantee : Nat := 0
  pfcHeadroom : Nat := 0
  ecnMarkingStage : EcnMarkingStage := .dequeueMark
  hasWredConfig : Bool := false

/-- `MemoryManagementUnitConfig` for `n` ports with `q` queues each. -/
structure MmuConfig (n q : Nat) where
  supportPfc : Bool
  pfcXon : Bool
  ingressServicePoolSize : Nat
  egressServicePoolSize : Nat
  portEgressAlpha : Fin n → Rat
  cosConfig : Fin n → Fin q → CosProfile
  round : Rat → Rat

/-- The cells for a packet in each ingress pool. -/
structure IngressMemoryOccupancy where
  drop : Bool := true
  minimalGuaranteeOccupancy : Nat := 0
  sharedPoolOccupancy : Nat := 0
  headroomOccupancy : Nat := 0
  deriving DecidableEq, Repr

def addIngressTag {n q : Nat} (packet : Packet n q) (portId : Fin n) (priority : Fin q)
    (memoryOccupancy : IngressMemoryOccupancy) : Packet n q :=
  { packet with
    ingressTag := some
      { portId, priority
        minimalGuaranteeOccupancy := memoryOccupancy.minimalGuaranteeOccupancy
        sharedPoolOccupancy := memoryOccupancy.sharedPoolOccupancy
        headroomOccupancy := memoryOccupancy.headroomOccupancy } }

/-- The counters of a port's traffic class. -/
structure QueueCounters where
  pfcSendingTriggered : Bool := false
  ingressOccupancy : Nat := 0
  minimalGuaranteeOccupancy : Nat := 0
  pfcHeadroomOccupancy : Nat := 0
  egressOccupancy : Nat := 0
  deriving DecidableEq, Repr

structure Mmu (n q : Nat) where
  ingressPoolFreeCells : Nat
  egressPoolFreeCells : Nat
  portEgressOccupancy : Fin n → Nat
  queue : Fin n → Fin q → QueueCounters

inductive MmuFatal where
  | notEnoughIngressPoolSpace | notEnoughIngressFreeCells
  | packetLossGlobalLimit | packetLossPortLimit | packetLossQueueLimit
  | noIngressTag | wrongPacketOccupancy | wrongMinimalGuaranteeCounting | wrongHeadroomCounting
  | wrongIngressCounting | wrongPortEgressCounting | wrongQueueEgressCounting
  deriving DecidableEq, Repr

def maxPoolSize : Nat := 2 ^ 64 - 1

def MmuConfig.initial {n q : Nat} (c : MmuConfig n q) : Mmu n q where
  ingressPoolFreeCells := if c.supportPfc then c.ingressServicePoolSize else maxPoolSize
  egressPoolFreeCells := c.egressServicePoolSize
  portEgressOccupancy _ := 0
  queue _ _ := {}

def MmuConfig.scaled {n q : Nat} (c : MmuConfig n q) (cells : Nat) (alpha : Rat) : Rat :=
  c.round (c.round cells * alpha)

def MmuConfig.pfcTriggerLimit {n q : Nat} (c : MmuConfig n q) (freeCells : Nat) (port : Fin n)
    (priority : Fin q) : Rat :=
  let cos := c.cosConfig port priority
  c.round (c.scaled freeCells cos.ingressAlpha + c.round cos.ingressMinimalGuarantee)

namespace Mmu

variable {n q : Nat} (m : Mmu n q) (c : MmuConfig n q)

def setQueue (port : Fin n) (priority : Fin q) (counters : QueueCounters) : Mmu n q :=
  { m with queue := setAt m.queue port priority counters }

/-- A queue for which PFC is not triggered reaches its limit, or the packet does not fit the
pool. -/
def triggersPfc (port : Fin n) (packetSize : Nat) (priority : Fin q) : Bool :=
  let counters := m.queue port priority
  !counters.pfcSendingTriggered &&
    (decide (c.pfcTriggerLimit m.ingressPoolFreeCells port priority ≤
        c.round counters.ingressOccupancy) ||
      decide (m.ingressPoolFreeCells < packetSize))

/-- `ReceivedData`. The last result tells whether `EnablePfcSending` sends a frame. -/
def receivedData (port : Fin n) (packetSize : Nat) (priority : Fin q) :
    Except MmuFatal (Mmu n q × IngressMemoryOccupancy × Bool) :=
  if !c.supportPfc then .ok (m, { drop := false }, false)
  else
    let triggers := m.triggersPfc c port packetSize priority
    let cos := c.cosConfig port priority
    let counters := m.queue port priority
    let counters :=
      { counters with pfcSendingTriggered := counters.pfcSendingTriggered || triggers }
    if !counters.pfcSendingTriggered then
      if cos.ingressMinimalGuarantee ≤ counters.ingressOccupancy then
        -- the whole packet goes to the shared pool
        if m.ingressPoolFreeCells < packetSize then .error .notEnoughIngressPoolSpace
        else
          let counters :=
            { counters with ingressOccupancy := counters.ingressOccupancy + packetSize }
          .ok ({ m.setQueue port priority counters with
              ingressPoolFreeCells := m.ingressPoolFreeCells - packetSize },
            { drop := false, sharedPoolOccupancy := packetSize }, triggers)
      else if counters.minimalGuaranteeOccupancy + packetSize ≤ cos.ingressMinimalGuarantee then
        let counters :=
          { counters with
            minimalGuaranteeOccupancy := counters.minimalGuaranteeOccupancy + packetSize
            ingressOccupancy := counters.ingressOccupancy + packetSize }
        .ok (m.setQueue port priority counters,
          { drop := false, minimalGuaranteeOccupancy := packetSize }, triggers)
      else
        -- a part goes to the minimal guarantee, the rest to the shared pool
        let poolOccupancy :=
          counters.minimalGuaranteeOccupancy + packetSize - cos.ingressMinimalGuarantee
        let counters :=
          { counters with minimalGuaranteeOccupancy := cos.ingressMinimalGuarantee }
        let minimalGuaranteeOccupancy :=
          cos.ingressMinimalGuarantee - counters.minimalGuaranteeOccupancy
        if m.ingressPoolFreeCells < poolOccupancy then .error .notEnoughIngressFreeCells
        else
          let counters :=
            { counters with ingressOccupancy := counters.ingressOccupancy + packetSize }
          .ok ({ m.setQueue port priority counters with
              ingressPoolFreeCells := m.ingressPoolFreeCells - poolOccupancy },
            { drop := false, minimalGuaranteeOccupancy, sharedPoolOccupancy := poolOccupancy },
            triggers)
    else if cos.pfcHeadroom < counters.pfcHeadroomOccupancy + packetSize then
      .ok (m.setQueue port priority counters, {}, triggers)
    else
      let counters :=
        { counters with
          pfcHeadroomOccupancy := counters.pfcHeadroomOccupancy + packetSize
          ingressOccupancy := counters.ingressOccupancy + packetSize }
      .ok (m.setQueue port priority counters,
        { drop := false, headroomOccupancy := packetSize }, triggers)

def performEcnMarking (port : Fin n) (priority : Fin q) (wred : Bool) (packet : Packet n q) :
    Packet n q :=
  if (c.cosConfig port priority).hasWredConfig && packet.ecn ≠ .nonEct &&
      packet.ecn ≠ .congestionEncountered && wred then
    { packet with ecn := .congestionEncountered }
  else packet

/-- `RequestEnqueue`. A packet that is refused while PFC is supported is a fatal loss. -/
def requestEnqueue (port : Fin n) (priority : Fin q) (wred : Bool) (packet : Packet n q) :
    Except MmuFatal (Mmu n q × Packet n q × Bool) :=
  let packetOccupancy := getPacketOccupancy packet
  let counters := m.queue port priority
  let refuse (loss : MmuFatal) : Except MmuFatal (Mmu n q × Packet n q × Bool) :=
    if c.supportPfc then .error loss else .ok (m, packet, false)
  if m.egressPoolFreeCells < packetOccupancy then refuse .packetLossGlobalLimit
  else if c.scaled m.egressPoolFreeCells (c.portEgressAlpha port) ≤
      c.round (m.portEgressOccupancy port + packetOccupancy : Nat) then refuse .packetLossPortLimit
  else if c.scaled m.egressPoolFreeCells (c.cosConfig port priority).egressAlpha ≤
      c.round (counters.egressOccupancy + packetOccupancy : Nat) then refuse .packetLossQueueLimit
  else
    let packet :=
      if (c.cosConfig port priority).ecnMarkingStage = .enqueueMark then
        performEcnMarking c port priority wred packet
      else packet
    .ok ({ m.setQueue port priority
          { counters with egressOccupancy := counters.egressOccupancy + packetOccupancy } with
        egressPoolFreeCells := m.egressPoolFreeCells - packetOccupancy
        portEgressOccupancy := Function.update m.portEgressOccupancy port
          (m.portEgressOccupancy port + packetOccupancy) },
      packet, true)

/-- Gives back the cells in the tag of the packet. -/
def ingressAccountingRelease (packet : Packet n q) : Except MmuFatal (Mmu n q × Packet n q) :=
  match packet.ingressTag with
  | none => .error .noIngressTag
  | some tag =>
    let packet := { packet with ingressTag := none }
    let packetOccupancy := getPacketOccupancy packet
    let counters := m.queue tag.portId tag.priority
    if packetOccupancy ≠
        tag.minimalGuaranteeOccupancy + tag.sharedPoolOccupancy + tag.headroomOccupancy then
      .error .wrongPacketOccupancy
    else if counters.minimalGuaranteeOccupancy < tag.minimalGuaranteeOccupancy then
      .error .wrongMinimalGuaranteeCounting
    else if counters.pfcHeadroomOccupancy < tag.headroomOccupancy then
      .error .wrongHeadroomCounting
    else if counters.ingressOccupancy < packetOccupancy then .error .wrongIngressCounting
    else
      .ok ({ m.setQueue tag.portId tag.priority
            { counters with
              minimalGuaranteeOccupancy :=
                counters.minimalGuaranteeOccupancy - tag.minimalGuaranteeOccupancy
              pfcHeadroomOccupancy := counters.pfcHeadroomOccupancy - tag.headroomOccupancy
              ingressOccupancy := counters.ingressOccupancy - packetOccupancy } with
          ingressPoolFreeCells := m.ingressPoolFreeCells + tag.sharedPoolOccupancy },
        packet)

/-- `DisablePfcSending`, if the occupancy of the ingress queue is below its limit again. The result
tells whether it sends an X-on frame. -/
def disablePfcSending (port : Fin n) (priority : Fin q) : Mmu n q × Bool :=
  let counters := m.queue port priority
  if counters.pfcSendingTriggered ∧
      c.round counters.ingressOccupancy <
        c.pfcTriggerLimit m.ingressPoolFreeCells port priority then
    (m.setQueue port priority { counters with pfcSendingTriggered := false }, c.pfcXon)
  else (m, false)

def egressAccountingRelease (port : Fin n) (priority : Fin q) (packetOccupancy : Nat) :
    Except MmuFatal (Mmu n q) :=
  let counters := m.queue port priority
  if m.portEgressOccupancy port < packetOccupancy then .error .wrongPortEgressCounting
  else if counters.egressOccupancy < packetOccupancy then .error .wrongQueueEgressCounting
  else
    .ok { m.setQueue port priority
          { counters with egressOccupancy := counters.egressOccupancy - packetOccupancy } with
        egressPoolFreeCells := m.egressPoolFreeCells + packetOccupancy
        portEgressOccupancy := Function.update m.portEgressOccupancy port
          (m.portEgressOccupancy port - packetOccupancy) }

/-- `DequeuedPacket`. The last result is the ingress queue for which an X-on frame is sent. -/
def dequeuedPacket (port : Fin n) (priority : Fin q) (wred : Bool) (packet : Packet n q) :
    Except MmuFatal (Mmu n q × Packet n q × Option (Fin n × Fin q)) := do
  let packet :=
    if (c.cosConfig port priority).ecnMarkingStage = .dequeueMark then
      performEcnMarking c port priority wred packet
    else packet
  let packetOccupancy := getPacketOccupancy packet
  if c.supportPfc then
    match packet.ingressTag with
    | none => .error .noIngressTag
    | some tag =>
      let (m, packet) ← m.ingressAccountingRelease packet
      let (m, xon) := m.disablePfcSending c tag.portId tag.priority
      let m ← m.egressAccountingRelease port priority packetOccupancy
      pure (m, packet, if xon then some (tag.portId, tag.priority) else none)
  else
    let m ← m.egressAccountingRelease port priority packetOccupancy
    pure (m, packet, none)

end Mmu

/-- The unit with the packets inside the switch, and the egress queues of those that are
enqueued. -/
structure SharedBuffer (n q : Nat) where
  mmu : Mmu n q
  inside : List (Packet n q × Option (Fin n × Fin q)) := []

inductive BufferLabel (n q : Nat) where
  | receive (port : Fin n) (packet : Packet n q) (priority : Fin q)
  | enqueue (index : Nat) (port : Fin n) (priority : Fin q) (wred : Bool)
  | dequeue (index : Nat) (wred : Bool)

namespace SharedBuffer

variable {n q : Nat} (c : MmuConfig n q) (s : SharedBuffer n q)

def next : BufferLabel n q → Except MmuFatal (SharedBuffer n q)
  | .receive port packet priority => do
    let (mmu, memoryOccupancy, _) ←
      s.mmu.receivedData c port (getPacketOccupancy packet) priority
    if memoryOccupancy.drop then pure { s with mmu }
    else
      pure { mmu, inside := s.inside ++
        [(addIngressTag packet port priority memoryOccupancy, none)] }
  | .enqueue index port priority wred =>
    match s.inside[index]? with
    | some (packet, none) => do
      let (mmu, packet, enqueued) ← s.mmu.requestEnqueue c port priority wred packet
      if enqueued then pure { mmu, inside := s.inside.set index (packet, some (port, priority)) }
      else pure { mmu, inside := s.inside.eraseIdx index }
    | _ => .ok s
  | .dequeue index wred =>
    match s.inside[index]? with
    | some (packet, some (port, priority)) => do
      let (mmu, _, _) ← s.mmu.dequeuedPacket c port priority wred packet
      pure { mmu, inside := s.inside.eraseIdx index }
    | _ => .ok s

def allowed : BufferLabel n q → Prop
  | .receive _ packet _ => packet.ingressTag = none
  | .enqueue index _ _ _ => (s.inside[index]?.any fun p => p.2.isNone) = true
  | .dequeue index _ => (s.inside[index]?.any fun p => p.2.isSome) = true

instance : (l : BufferLabel n q) → Decidable (s.allowed l)
  | .receive _ packet _ => inferInstanceAs (Decidable (packet.ingressTag = none))
  | .enqueue index _ _ _ =>
    inferInstanceAs (Decidable ((s.inside[index]?.any fun p => p.2.isNone) = true))
  | .dequeue index _ =>
    inferInstanceAs (Decidable ((s.inside[index]?.any fun p => p.2.isSome) = true))

end SharedBuffer

def MmuConfig.system {n q : Nat} (c : MmuConfig n q) :
    TransitionSystem (SharedBuffer n q) (BufferLabel n q) MmuFatal where
  init s := s = { mmu := c.initial }
  allowed := SharedBuffer.allowed
  next := SharedBuffer.next c

instance {n q : Nat} (c : MmuConfig n q) (s : SharedBuffer n q) (l : BufferLabel n q) :
    Decidable (c.system.allowed s l) := inferInstanceAs (Decidable (s.allowed l))

end Isekai.Fabric
