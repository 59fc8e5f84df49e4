import Isekai.Rdma.Credit

/-!
# RDMA operations and queue pair contexts

The records of `rdma_component_interfaces.h`, and the functions of `rdma_falcon_work_scheduler.cc`
that read or change one queue pair only: cutting a packet from a scatter-gather list, the credit of
the item at the head of a work queue, and the construction of request and response packets.

Operations to send live in a heap (`ops`). The send queue and the completion queue own them by name,
and `rsnToOp` holds plain pointers, which dangle once the owner erased the operation. Nothing points
into the receive queue, which holds its operations by value.
-/

namespace Isekai.Rdma

open Function

open Falcon (Time)

abbrev QpId := Nat

/-- A request sequence number. The source keeps it in 32 bits; here it does not come round, so the
model follows the code as long as no request is still in use when `2 ^ 32` later ones were sent. -/
abbrev Rsn := Nat

/-- The name of an operation in the heap. -/
abbrev OpId := Nat

/-- The `CHECK`s and `LOG(FATAL)`s of the RDMA model, and the accesses that C++ leaves undefined. -/
inductive Fatal where
  | qpContextNotFound | qpIdReserved | duplicateQpId
  | segmentLength | inlineOpcode | inlineTooBig | unsupportedVerb
  | danglingOp | emptySendQueue | emptyInboundReadRequestQueue | popFrontOfEmptyList
  | noActiveSqs | noActiveIirqs | readResponseInUdMode
  | recvScheduled | sglAndInlinePayload | sglLengthExceedsLimit | insufficientTokens
  | invalidOpcode | unorderedSend | rsnNotInRsnToOp | outOfOrderRsn | creditExceedsUsage
  deriving DecidableEq, Repr

inductive RdmaOpcode where
  | send | write | read | recv
  deriving DecidableEq, Repr

inductive WorkType where
  | request | response
  deriving DecidableEq, Repr

inductive RdmaConnectedMode where
  | unorderedRc | orderedRc
  deriving DecidableEq, Repr

/-- An RDMA operation and its progress. -/
structure RdmaOp where
  opcode : RdmaOpcode
  sgl : List Word := []
  inlinePayloadLength : Word := 0
  destQpId : QpId := 0
  startSeq : Rsn := 0
  endSeq : Rsn := 0
  nSeqs : Word := 0
  nSeqsFinished : Word := 0
  isScheduled : Bool := false
  deriving DecidableEq, Repr

structure InboundReadRequest where
  rsn : Rsn
  sgl : List Word
  deriving DecidableEq, Repr

inductive PacketOpcode where
  | invalid | sendOnly | writeOnly | readRequest | readResponseOnly | ack
  deriving DecidableEq, Repr

/-- The RDMA part of `Packet`. `requestLength` is also the response length: they share a union. -/
structure Packet where
  opcode : PacketOpcode := .invalid
  srcQpId : QpId := 0
  destQpId : QpId := 0
  scid : Nat := 0
  rsn : Rsn := 0
  sgl : List Word := []
  inlinePayloadLength : Word := 0
  dataLength : Word := 0
  requestLength : Word := 0
  sglLength : Word := 0
  isLastPacket : Bool := false
  deriving DecidableEq, Repr

/-- `FalconQpContext`. Request sequence numbers and the counters of operations are natural
numbers. -/
structure QpContext where
  qpId : QpId
  destQpId : QpId := 0
  rcMode : RdmaConnectedMode := .unorderedRc
  scid : Nat := 0
  ops : OpId → Option RdmaOp := fun _ => none
  nextOp : OpId := 0
  sendQueue : List OpId := []
  receiveQueue : List (OpId × RdmaOp) := []
  inboundReadRequestQueue : List InboundReadRequest := []
  completionQueue : Rsn → Option OpId := fun _ => none
  rsnToOp : Rsn → Option OpId := fun _ => none
  creditLimit : FalconCredit
  creditUsage : FalconCredit := 0
  nextRsn : Rsn := 0
  qpRequestXoff : Bool := false
  qpResponseXoff : Bool := false
  outboundReadRequests : Nat := 0
  inRnr : Bool := false
  nextRxRsn : Rsn := 0
  rnrTimeout : Time := 0
  nextScheduleTime : Time := 0

structure RdmaConfig where
  mtu : Word
  maxSegmentLength : Word
  maxInlinePayloadLength : Word
  chipCycleTime : Time
  schedulerPipelineDelayTime : Time
  perQpInterOpGap : Time
  ackNackLatency : Time
  responseLatency : Time
  rnrTimeout : Time
  workSchedulerQuanta : Int
  outboundReadQueueDepth : Nat
  inboundReadQueueDepth : Nat
  perQpCredits : FalconCredit
  globalCredits : FalconCredit
  txTokensPerRefillInterval : Nat
  txTokenBucketRefillInterval : Time
  txBurstSize : Nat
  txBufferAllocationUnit : Word
  rxBufferAllocationUnit : Word
  enablePcieDelayForCompletion : Bool := false

def readHeaderSize : Word := 44
def writeHeaderSize : Word := 28
def responseHeaderSize : Word := 24
def sendHeaderSize : Word := 20
def sglHeaderSize : Word := 8
def sglFragmentHeaderSize : Nat := 16
def maxRdmaOpsPerQuanta : Int := 8
def rdmaHeader : Word := 28
def outerRdmaHeaderSize : Word := 98

/-- The loop of `CutPacketFromSgl`: the fragments taken, and what is left of the list. -/
def cutPacketLoop (mtu : Word) : Word → List Word → List Word × List Word
  | _, [] => ([], [])
  | accumulated, segment :: rest =>
    if accumulated < mtu then
      if accumulated + segment ≤ mtu then
        let (sgl, input) := cutPacketLoop mtu (accumulated + segment) rest
        (segment :: sgl, input)
      else
        -- the packet is full, so the loop ends with the rest of this segment in the input
        let delta := mtu - accumulated
        ([delta], (segment - delta) :: rest)
    else ([], segment :: rest)

def cutPacketFromSgl (input : List Word) (mtu : Word) : List Word × List Word :=
  cutPacketLoop mtu 0 input

/-- `GetSglLength`, with `none` beyond 32 entries. -/
def getSglLength (sgl : List Word) : Option Word :=
  let entries := sgl.length
  if entries ≤ 1 then some (sglHeaderSize + .ofNat 32 (1 * sglFragmentHeaderSize))
  else if entries ≤ 4 then some (sglHeaderSize + .ofNat 32 (4 * sglFragmentHeaderSize))
  else if entries ≤ 8 then some (sglHeaderSize + .ofNat 32 (8 * sglFragmentHeaderSize))
  else if entries ≤ 16 then some (sglHeaderSize + .ofNat 32 (16 * sglFragmentHeaderSize))
  else if entries ≤ 32 then some (sglHeaderSize + .ofNat 32 (32 * sglFragmentHeaderSize))
  else none

variable (c : RdmaConfig) (ctx : QpContext)

/-- `ComputeRequestCredit`. Its `LOG(FATAL)` for a receive is in `createRequestPacket`, which the
scheduler calls on the same operation. -/
def computeRequestCredit (op : RdmaOp) : FalconCredit
  | .requestTxPacket | .requestRxPacket => 1
  | .requestTxBuffer =>
    let header := match op.opcode with
      | .send | .recv => sendHeaderSize + op.inlinePayloadLength
      | .write => writeHeaderSize + op.inlinePayloadLength
      | .read => readHeaderSize
    calculateFalconTxBufferCredits header (.ofNat 32 (op.sgl.length * sglFragmentHeaderSize))
      c.txBufferAllocationUnit
  | .requestRxBuffer =>
    match op.opcode with
    | .read => calculateFalconRxBufferCredits (responseHeaderSize + minWord c.mtu op.sgl.sum)
        c.rxBufferAllocationUnit
    | _ => 0
  | .responseTxPacket | .responseTxBuffer => 0

def computeResponseCredit (request : InboundReadRequest) : FalconCredit
  | .responseTxPacket => 1
  | .responseTxBuffer =>
    calculateFalconTxBufferCredits responseHeaderSize
      (.ofNat 32 (request.sgl.length * sglFragmentHeaderSize)) c.txBufferAllocationUnit
  | _ => 0

namespace QpContext

def isConnected : Bool := ctx.destQpId != 0

def xoff : WorkType → Bool
  | .request => ctx.qpRequestXoff
  | .response => ctx.qpResponseXoff

def frontOp : Option RdmaOp := ctx.sendQueue.head?.bind ctx.ops

def setOp (id : OpId) (op : RdmaOp) : QpContext :=
  { ctx with ops := update ctx.ops id (some op) }

def frontCredit : WorkType → Option FalconCredit
  | .request => ctx.frontOp.map (computeRequestCredit c)
  | .response => ctx.inboundReadRequestQueue.head?.map (computeResponseCredit c)

def hasCredits (workType : WorkType) : Bool :=
  match ctx.frontCredit c workType with
  | none => false
  | some credit => decide (ctx.creditUsage + credit ≤ ctx.creditLimit)

def atOrdLimit : Bool :=
  c.outboundReadQueueDepth ≤ ctx.outboundReadRequests &&
    (ctx.frontOp.map (·.opcode) == some .read)

def requestHeader (op : RdmaOp) : Except Fatal Packet :=
  match op.opcode with
  | .recv => .error .recvScheduled
  | .read =>
    .ok
      { opcode := .readRequest, dataLength := readHeaderSize, requestLength := responseHeaderSize }
  | .send =>
    .ok
      { opcode := .sendOnly
        dataLength := sendHeaderSize + op.inlinePayloadLength
        requestLength := sendHeaderSize + op.inlinePayloadLength }
  | .write =>
    .ok
      { opcode := .writeOnly
        dataLength := writeHeaderSize + op.inlinePayloadLength
        requestLength := writeHeaderSize + op.inlinePayloadLength }

def requestPayload (op : RdmaOp) (packet : Packet) : Except Fatal (Packet × List Word) :=
  if op.inlinePayloadLength ≠ 0 then
    if op.sgl = [] then .ok ({ packet with inlinePayloadLength := op.inlinePayloadLength }, [])
    else .error .sglAndInlinePayload
  else
    let (sgl, rest) := cutPacketFromSgl op.sgl c.mtu
    match getSglLength sgl with
    | none => .error .sglLengthExceedsLimit
    | some sglLength =>
      .ok ({ packet with sgl, sglLength, requestLength := packet.requestLength + sgl.sum }, rest)

def recordRequest (id : OpId) (op : RdmaOp) (rest : List Word) : QpContext :=
  let rsn := ctx.nextRsn
  let op := { op with sgl := rest }
  let op := if op.isScheduled then op else { op with isScheduled := true, startSeq := rsn }
  let ctx :=
    { ctx with
      nextRsn := rsn + 1
      rsnToOp := update ctx.rsnToOp rsn (some id) }
  if rest = [] then
    { ctx.setOp id { op with endSeq := rsn, nSeqs := .ofNat 32 (rsn - op.startSeq + 1) } with
      completionQueue := update ctx.completionQueue rsn (some id)
      sendQueue := ctx.sendQueue.tail }
  else ctx.setOp id op

def createRequestPacket : Except Fatal (Packet × QpContext) :=
  match ctx.sendQueue with
  | [] => .error .emptySendQueue
  | id :: _ =>
    match ctx.ops id with
    | none => .error .danglingOp
    | some op => do
      let packet ← requestHeader op
      let (packet, rest) ← requestPayload c op packet
      let packet :=
        { packet with
          srcQpId := ctx.qpId
          scid := ctx.scid
          destQpId := op.destQpId
          rsn := ctx.nextRsn
          isLastPacket := rest = [] }
      pure (packet, ctx.recordRequest id op rest)

def createResponsePacket : Except Fatal (Packet × QpContext) :=
  match ctx.inboundReadRequestQueue with
  | [] => .error .emptyInboundReadRequestQueue
  | request :: queue =>
    match getSglLength request.sgl with
    | none => .error .sglLengthExceedsLimit
    | some sglLength =>
      .ok
        ({ opcode := .readResponseOnly
           srcQpId := ctx.qpId
           destQpId := ctx.destQpId
           scid := ctx.scid
           rsn := request.rsn
           sgl := request.sgl
           dataLength := responseHeaderSize
           requestLength := responseHeaderSize + request.sgl.sum
           sglLength },
          { ctx with inboundReadRequestQueue := queue })

end QpContext

def quantaSize (packet : Packet) : Word :=
  match packet.opcode with
  | .readRequest => packet.dataLength + outerRdmaHeaderSize
  | _ => packet.requestLength + outerRdmaHeaderSize

def tokensConsumed (packet : Packet) : Word :=
  match packet.opcode with
  | .readRequest => packet.dataLength
  | _ => packet.requestLength

end Isekai.Rdma
