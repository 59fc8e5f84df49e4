import Isekai.Rdma.WorkScheduler
import Isekai.Lib.TransitionSystem

/-!
# The RDMA model

`RdmaFalconModel` and `RdmaBaseModel`: posted operations, the receive pipeline, completions and read
responses, credits returned by Falcon and backpressure, over the work scheduler. `system` is the
model as a transition system. Its environment is the ULP, Falcon and the host interface, which may
act at any time, and the simulator, which runs a callback that is due; callbacks due at the same
time run in any order.
-/

namespace Isekai.Rdma

open Function

open Falcon (Time)
open Common Lib

namespace QpContext

variable (ctx : QpContext)

def isRsnAcceptable (rsn : Rsn) : Except Fatal Bool :=
  if ctx.rcMode = .orderedRc ∧ rsn ≠ ctx.nextRxRsn then
    if ctx.inRnr then .ok false else .error .outOfOrderRsn
  else .ok true

def accept : QpContext :=
  if ctx.rcMode = .orderedRc then { ctx with nextRxRsn := ctx.nextRxRsn + 1, inRnr := false }
  else ctx

def enterRnrState : QpContext :=
  if ctx.rcMode = .orderedRc then { ctx with inRnr := true } else ctx

/-- Matches an incoming Send with the receive at the head of the receive queue. The result is `none`
on a mismatch, and otherwise the changed context with the receive that is now complete. -/
def matchRecv (c : RdmaConfig) (ctx : QpContext) (packet : Packet) :
    Option (QpContext × Option OpId) :=
  match ctx.receiveQueue with
  | [] => none
  | (id, op) :: queue =>
    let complete := { ctx with receiveQueue := queue }
    if packet.inlinePayloadLength ≠ 0 then
      if op.sgl.sum = packet.inlinePayloadLength then some (complete, some id) else none
    else
      let (expected, rest) := cutPacketFromSgl op.sgl c.mtu
      if packet.sgl ≠ expected then none
      else if rest = [] then some (complete, some id)
      else some ({ ctx with receiveQueue := (id, { op with sgl := rest }) :: queue }, none)

/-- A response or a completion for the request `rsn`: the operation it belongs to, if this was its
last one. -/
def finishRequest (rsn : Rsn) : Except Fatal (QpContext × Option OpId) :=
  match ctx.rsnToOp rsn with
  | none => .error .rsnNotInRsnToOp
  | some id =>
    match ctx.ops id with
    | none => .error .danglingOp
    | some op =>
      let op := { op with nSeqsFinished := op.nSeqsFinished + 1 }
      let ctx := { ctx.setOp id op with rsnToOp := update ctx.rsnToOp rsn none }
      if 0 < op.nSeqs ∧ op.nSeqsFinished = op.nSeqs then
        match ctx.completionQueue op.endSeq with
        | none => .error .danglingOp
        | some owned =>
          .ok
            ({ ctx with
                completionQueue := update ctx.completionQueue op.endSeq none
                ops := update ctx.ops owned none }, some id)
      else .ok (ctx, none)

end QpContext

/-- The pipeline does not run before this time. It may run at once if it never ran. -/
def RdmaConfig.pipelineNextRunTime (c : RdmaConfig) (lastRunTime : Option Time)
    (now : Time) : Time :=
  lastRunTime.elim now (· + c.chipCycleTime)

def PipelineWork.qpId : PipelineWork → QpId
  | .transaction packet => packet.destQpId
  | .completion qpId _ => qpId

namespace RdmaModel

variable (c : RdmaConfig) (s : RdmaModel)

def notify (qpId : QpId) (workType : WorkType) : Except Fatal RdmaModel := do
  let ctx ← s.getQp qpId
  if ctx.hasCredits c workType && !ctx.xoff workType then s.addQpToScheduleSet c qpId workType
  else pure s

def createRcQp (localQpId remoteQpId : QpId) (scid : Nat) (initialCredit : FalconCredit)
    (rcMode : RdmaConnectedMode) : Except Fatal RdmaModel :=
  if localQpId = 0 ∨ remoteQpId = 0 then .error .qpIdReserved
  else if (s.qps localQpId).isSome then .error .duplicateQpId
  else
    let initialized := initialCredit ≠ 0
    .ok (s.setQp localQpId
      { qpId := localQpId
        destQpId := remoteQpId
        rcMode
        scid
        creditLimit := if initialized then initialCredit else c.perQpCredits
        creditUsage := if initialized then initialCredit else 0
        rnrTimeout := c.rnrTimeout })

/-- Checks an operation and posts it. -/
def performOp (qpId : QpId) (opcode : RdmaOpcode) (sgl : List Word) (isInline : Bool)
    (destQpId : QpId) : Except Fatal RdmaModel :=
  if sgl.any (fun segment => c.maxSegmentLength < segment || segment = 0) then
    .error .segmentLength
  else if !isInline then .ok (s.schedule 0 (.postOp qpId { opcode, sgl, destQpId }))
  else if opcode = .read ∨ opcode = .recv then .error .inlineOpcode
  else if c.maxInlinePayloadLength < sgl.sum then .error .inlineTooBig
  else .ok (s.schedule 0 (.postOp qpId { opcode, inlinePayloadLength := sgl.sum, destQpId }))

def enqueueOp (ctx : QpContext) (op : RdmaOp) : Except Fatal QpContext :=
  if ctx.isConnected ∨ op.opcode = .send ∨ op.opcode = .recv then
    let op := if ctx.isConnected then { op with destQpId := ctx.destQpId } else op
    let id := ctx.nextOp
    let ctx := { ctx with nextOp := id + 1 }
    .ok (if op.opcode = .recv then { ctx with receiveQueue := ctx.receiveQueue ++ [(id, op)] }
      else { ctx.setOp id op with sendQueue := ctx.sendQueue ++ [id] })
  else .error .unsupportedVerb

def postOp (qpId : QpId) (op : RdmaOp) : Except Fatal RdmaModel := do
  let ctx ← s.getQp qpId
  let ctx ← enqueueOp ctx op
  let s := s.setQp qpId ctx
  if ctx.sendQueue.length = 1 then s.notify c qpId .request else pure s

def rnrNack (qpId : QpId) (ctx : QpContext) (rsn : Rsn) : RdmaModel :=
  (s.setQp qpId ctx.enterRnrState).schedule c.ackNackLatency
    (.ackTransaction ctx.scid rsn (.rnrNak ctx.rnrTimeout) none)

/-- The first test of `ProcessIncomingSend`. The sequence number is not looked at if there is no
receive. -/
def isSendAcceptable (ctx : QpContext) (rsn : Rsn) : Except Fatal Bool :=
  if ctx.isConnected ∧ ctx.rcMode ≠ .orderedRc then .error .unorderedSend
  else if ctx.receiveQueue = [] then .ok false
  else ctx.isRsnAcceptable rsn

def processIncomingSend (qpId : QpId) (ctx : QpContext) (packet : Packet) :
    Except Fatal RdmaModel := do
  let acceptable ← isSendAcceptable ctx packet.rsn
  match (if acceptable then ctx.matchRecv c packet else none) with
  | none => pure (s.rnrNack c qpId ctx packet.rsn)
  | some (ctx, recv) =>
    let issue := PcieIssue.ack ctx.scid packet.rsn (s.now + c.ackNackLatency)
      (recv.map fun id => (qpId, id))
    pure { s.setQp qpId ctx.accept with pcieIssues := s.pcieIssues ++ [issue] }

def processIncomingWrite (qpId : QpId) (ctx : QpContext) (packet : Packet) (randomRnr : Bool) :
    Except Fatal RdmaModel := do
  let acceptable ← ctx.isRsnAcceptable packet.rsn
  if acceptable && !randomRnr then
    let issue := PcieIssue.ack ctx.scid packet.rsn (s.now + c.ackNackLatency) none
    pure { s.setQp qpId ctx.accept with pcieIssues := s.pcieIssues ++ [issue] }
  else pure (s.rnrNack c qpId ctx packet.rsn)

def processIncomingReadRequest (qpId : QpId) (ctx : QpContext) (packet : Packet)
    (randomRnr : Bool) :
    Except Fatal RdmaModel := do
  let acceptable ← ctx.isRsnAcceptable packet.rsn
  if acceptable && !randomRnr &&
      ctx.inboundReadRequestQueue.length < c.inboundReadQueueDepth then
    let issue := PcieIssue.readRequest qpId ⟨packet.rsn, packet.sgl⟩ (s.now + c.ackNackLatency)
    pure { s.setQp qpId ctx.accept with pcieIssues := s.pcieIssues ++ [issue] }
  else pure (s.rnrNack c qpId ctx packet.rsn)

/-- `ProcessIncomingReadResponse`. The mapping of the request is erased before the scheduler is
notified, which does not read it. -/
def processIncomingReadResponse (qpId : QpId) (ctx : QpContext) (rsn : Rsn) :
    Except Fatal RdmaModel := do
  let (ctx, finished) ← ctx.finishRequest rsn
  let s := { s with log := .readResponse qpId rsn :: s.log }
  match finished with
  | none => pure (s.setQp qpId ctx)
  | some id =>
    let ctx := { ctx with outboundReadRequests := ctx.outboundReadRequests - 1 }
    let s := { s.setQp qpId ctx with pcieCompletions := s.pcieCompletions ++ [(qpId, id)] }
    if ctx.outboundReadRequests < c.outboundReadQueueDepth ∧
        ctx.frontOp.map (·.opcode) = some .read then
      s.addQpToScheduleSet c qpId .request
    else pure s

def processCompletion (qpId : QpId) (ctx : QpContext) (rsn : Rsn) : Except Fatal RdmaModel := do
  let (ctx, finished) ← ctx.finishRequest rsn
  let s := { s.setQp qpId ctx with log := .requestCompletion qpId rsn :: s.log }
  match finished with
  | none => pure s
  | some id =>
    if c.enablePcieDelayForCompletion then
      pure { s with pcieCompletions := s.pcieCompletions ++ [(qpId, id)] }
    else pure { s with log := .completionCallback qpId id :: s.log }

def processRxTransaction (packet : Packet) (randomRnr : Bool) : Except Fatal RdmaModel := do
  let qpId := packet.destQpId
  let ctx ← s.getQp qpId
  match packet.opcode with
  | .invalid | .ack => throw .invalidOpcode
  | .sendOnly => s.processIncomingSend c qpId ctx packet
  | .writeOnly => s.processIncomingWrite c qpId ctx packet randomRnr
  | .readRequest => s.processIncomingReadRequest c qpId ctx packet randomRnr
  | .readResponseOnly => s.processIncomingReadResponse c qpId ctx packet.rsn

def processWork (work : PipelineWork) (randomRnr : Bool) : Except Fatal RdmaModel :=
  match work with
  | .transaction packet => s.processRxTransaction c packet randomRnr
  | .completion qpId rsn => do
    let ctx ← s.getQp qpId
    s.processCompletion c qpId ctx rsn

/-- Processes one piece of work for each cycle. -/
def pipelineDequeue (c : RdmaConfig) (s : RdmaModel) (randomRnr : Bool) : Except Fatal RdmaModel :=
  match s.pipeline with
  | [] => .ok { s with pipelineActive := false }
  | work :: rest =>
    let nextRunTime := c.pipelineNextRunTime s.pipelineLastRunTime s.now
    if s.now < nextRunTime then .ok (s.schedule (nextRunTime - s.now) .pipelineDequeue)
    else do
      let s := { s with pipeline := rest, pipelineLastRunTime := some s.now }
      let s ← s.processWork c work randomRnr
      pure (s.schedule c.chipCycleTime .pipelineDequeue)

/-- What the lookups of `HandleRxTransaction` and `HandleCompletion` run. -/
def enterPipeline (work : PipelineWork) (randomRnr : Bool) : Except Fatal RdmaModel := do
  let _ ← s.getQp work.qpId
  let s := { s with pipeline := s.pipeline ++ [work] }
  if s.pipelineActive then pure s
  else ({ s with pipelineActive := true } : RdmaModel).pipelineDequeue c randomRnr

def returnFalconCredit (qpId : QpId) (credit : FalconCredit) : Except Fatal RdmaModel := do
  let ctx ← s.getQp qpId
  if credit ≤ ctx.creditUsage then
    let s := s.setQp qpId { ctx with creditUsage := ctx.creditUsage - credit }
    let s ← s.notify c qpId .request
    let s ← s.notify c qpId .response
    s.returnFalconCredits c credit
  else throw .creditExceedsUsage

def backpressureXoff (qpId : QpId) (request response : Bool) : Except Fatal RdmaModel := do
  let ctx ← s.getQp qpId
  let s := s.setQp qpId { ctx with qpRequestXoff := request, qpResponseXoff := response }
  let s ← s.notify c qpId .request
  s.notify c qpId .response

/-- The new limit of `BackpressureQP` with `kDynamicCredit`, at least one and at most the configured
credit in every pool. -/
def clampCredit (credit : FalconCredit) : FalconCredit := fun pool =>
  if credit pool < 1 then 1
  else if c.perQpCredits pool < credit pool then c.perQpCredits pool
  else credit pool

def backpressureDynamicCredit (qpId : QpId) (creditLimit : FalconCredit) :
    Except Fatal RdmaModel := do
  let ctx ← s.getQp qpId
  let newCreditLimit := clampCredit c creditLimit
  let s := s.setQp qpId { ctx with creditLimit := newCreditLimit }
  if newCreditLimit ≤ ctx.creditLimit then pure s
  else
    let s ← s.notify c qpId .request
    s.notify c qpId .response

def ackTransaction (s : RdmaModel) (scid : Nat) (rsn : Rsn) (syndrome : Syndrome)
    (recv : Option (QpId × OpId)) : RdmaModel :=
  let completion := recv.toList.map fun (qpId, id) => Action.completionCallback qpId id
  { s with log := completion ++ .ackTransaction scid rsn syndrome :: s.log }

def issue : PcieIssue → RdmaModel
  | .ack scid rsn ackTime recv =>
    if s.now < ackTime then s.schedule (ackTime - s.now) (.ackTransaction scid rsn .ack recv)
    else s.ackTransaction scid rsn .ack recv
  | .readRequest qpId request ackTime =>
    s.schedule (max ackTime s.now - s.now) (.ackReadRequest qpId request)

/-- The ack of a read request, and the latency until its response is enqueued. -/
def ackReadRequest (qpId : QpId) (request : InboundReadRequest) : Except Fatal RdmaModel := do
  let ctx ← s.getQp qpId
  pure ((s.ackTransaction ctx.scid request.rsn .ack none).schedule c.responseLatency
    (.enqueueReadRequest qpId request))

def enqueueReadRequest (qpId : QpId) (request : InboundReadRequest) : Except Fatal RdmaModel := do
  let ctx ← s.getQp qpId
  let ctx := { ctx with inboundReadRequestQueue := ctx.inboundReadRequestQueue ++ [request] }
  let s := s.setQp qpId ctx
  if ctx.inboundReadRequestQueue.length = 1 then s.notify c qpId .response else pure s

def runCallback (randomRnr : Bool) :
    Callback → Except Fatal RdmaModel
  | .runWorkScheduler => s.runWorkScheduler c
  | .sendTransaction qpId => s.sendTransaction c qpId
  | .addQpToScheduleSet qpId workType => s.addQpToScheduleSet c qpId workType
  | .requeue qpId _ => s.addQpToScheduleSet c qpId s.currentWorkType
  | .initiateTransaction packet => .ok { s with log := .initiateTransaction packet :: s.log }
  | .postOp qpId op => s.postOp c qpId op
  | .enterPipeline work => s.enterPipeline c work randomRnr
  | .pipelineDequeue => s.pipelineDequeue c randomRnr
  | .ackTransaction scid rsn syndrome recv => .ok (s.ackTransaction scid rsn syndrome recv)
  | .ackReadRequest qpId request => s.ackReadRequest c qpId request
  | .enqueueReadRequest qpId request => s.enqueueReadRequest c qpId request

end RdmaModel

inductive Input where
  | createRcQp (localQpId remoteQpId : QpId) (scid : Nat) (initialCredit : FalconCredit)
      (rcMode : RdmaConnectedMode)
  | performOp (qpId : QpId) (opcode : RdmaOpcode) (sgl : List Word) (isInline : Bool)
      (destQpId : QpId)
  | handleRxTransaction (packet : Packet)
  | handleCompletion (qpId : QpId) (rsn : Rsn)
  | returnFalconCredit (qpId : QpId) (credit : FalconCredit)
  | setXoff (requestXoff globalXoff : Bool)
  | backpressureXoff (qpId : QpId) (request response : Bool)
  | backpressureDynamicCredit (qpId : QpId) (creditLimit : FalconCredit)
  | pcieIssue (index : Nat)
  | pcieComplete (index : Nat)

inductive Label where
  | input (time : Time) (input : Input)
  | fire (index : Nat) (randomRnr : Bool)

namespace RdmaModel

def handleInput (c : RdmaConfig) (s : RdmaModel) : Input → Except Fatal RdmaModel
  | .createRcQp localQpId remoteQpId scid initialCredit rcMode =>
    s.createRcQp c localQpId remoteQpId scid initialCredit rcMode
  | .performOp qpId opcode sgl isInline destQpId =>
    s.performOp c qpId opcode sgl isInline destQpId
  | .handleRxTransaction packet => .ok (s.schedule 0 (.enterPipeline (.transaction packet)))
  | .handleCompletion qpId rsn => .ok (s.schedule 0 (.enterPipeline (.completion qpId rsn)))
  | .returnFalconCredit qpId credit => s.returnFalconCredit c qpId credit
  | .setXoff requestXoff globalXoff => s.setXoff c requestXoff globalXoff
  | .backpressureXoff qpId request response => s.backpressureXoff c qpId request response
  | .backpressureDynamicCredit qpId creditLimit => s.backpressureDynamicCredit c qpId creditLimit
  | .pcieIssue index =>
    match s.pcieIssues[index]? with
    | some write => .ok (({ s with pcieIssues := s.pcieIssues.eraseIdx index }).issue write)
    | none => .ok s
  | .pcieComplete index =>
    match s.pcieCompletions[index]? with
    | some (qpId, id) =>
      .ok
        { s with
          pcieCompletions := s.pcieCompletions.eraseIdx index
          log := .completionCallback qpId id :: s.log }
    | none => .ok s

def next (c : RdmaConfig) (s : RdmaModel) : Label → Except Fatal RdmaModel
  | .input time input => ({ s with now := time } : RdmaModel).handleInput c input
  | .fire index randomRnr =>
    match s.pending[index]? with
    | some (time, callback) =>
      ({ s with now := time, pending := s.pending.eraseIdx index } : RdmaModel).runCallback c
        randomRnr callback
    | none => .ok s

def sentAs (s : RdmaModel) (qpId : QpId) (rsn : Rsn) (opcode : PacketOpcode) : Bool :=
  s.log.any fun action => match action with
    | .transaction packet => packet.srcQpId = qpId ∧ packet.rsn = rsn ∧ packet.opcode = opcode
    | _ => false

/-- Falcon answers reads with read responses and writes and sends with completions. -/
def inputAllowed (s : RdmaModel) : Input → Bool
  | .handleRxTransaction packet =>
    packet.opcode != .readResponseOnly || s.sentAs packet.destQpId packet.rsn .readRequest
  | .handleCompletion qpId rsn => s.sentAs qpId rsn .sendOnly || s.sentAs qpId rsn .writeOnly
  | _ => true

/-- The simulator runs a callback with the earliest time; inputs come no later than that. -/
def allowed (s : RdmaModel) : Label → Prop
  | .input time input =>
    s.now ≤ time ∧ (∀ event ∈ s.pending, time ≤ event.1) ∧ s.inputAllowed input
  | .fire index _ =>
    ∃ event ∈ s.pending[index]?, ∀ event' ∈ s.pending, event.1 ≤ event'.1

instance (s : RdmaModel) : (l : Label) → Decidable (s.allowed l)
  | .input time input =>
    inferInstanceAs (Decidable (s.now ≤ time ∧ (∀ event ∈ s.pending, time ≤ event.1) ∧
      s.inputAllowed input))
  | .fire index _ =>
    inferInstanceAs (Decidable (∃ event ∈ s.pending[index]?,
      ∀ event' ∈ s.pending, event.1 ≤ event'.1))

end RdmaModel

/-- `DefaultRdmaConfig`, with the allocation units of the default Falcon configuration. -/
def defaultRdmaConfig : RdmaConfig where
  mtu := 4096
  maxSegmentLength := 0x7fffffff
  maxInlinePayloadLength := 224
  chipCycleTime := 10 * Falcon.nanosecond
  schedulerPipelineDelayTime := 0
  perQpInterOpGap := 25 * Falcon.nanosecond
  ackNackLatency := 0
  responseLatency := 0
  rnrTimeout := 0
  workSchedulerQuanta := 4096
  outboundReadQueueDepth := 0x7fffffff
  inboundReadQueueDepth := 0x7fffffff
  perQpCredits _ := 0x7fffffff
  globalCredits _ := 0x7fffffff
  txTokensPerRefillInterval := 12500
  txTokenBucketRefillInterval := 500 * Falcon.nanosecond
  txBurstSize := 12500
  txBufferAllocationUnit := 1
  rxBufferAllocationUnit := 1

def initial (c : RdmaConfig) : RdmaModel where
  remainingGlobalCredits := c.globalCredits
  txTokenBucket :=
    { tokensPerRefillInterval := c.txTokensPerRefillInterval
      bucketRefillInterval := c.txTokenBucketRefillInterval
      bucketSize := c.txBurstSize + (c.mtu + rdmaHeader).toNat
      availableTokens := c.txBurstSize + (c.mtu + rdmaHeader).toNat }

def system (c : RdmaConfig) : TransitionSystem RdmaModel Label Fatal where
  init s := s = initial c
  allowed := RdmaModel.allowed
  next := RdmaModel.next c

instance (c : RdmaConfig) (s : RdmaModel) (l : Label) : Decidable ((system c).allowed s l) :=
  inferInstanceAs (Decidable (s.allowed l))

def WorkType.tabulate {α : Type} (f : WorkType → α) : WorkType → α
  | .request => f .request
  | .response => f .response

lemma WorkType.tabulate_eq {α : Type} (f : WorkType → α) : WorkType.tabulate f = f := by
  funext w
  cases w <;> rfl

/-- The same state with its tables written out, so that a run does not pile up updates whose keys
are not evaluated. -/
def RdmaModel.tabulate (s : RdmaModel) : RdmaModel :=
  { s with
    wqs := WorkType.tabulate s.wqs
    qpSet := WorkType.tabulate s.qpSet
    remainingQuantaBytes := WorkType.tabulate s.remainingQuantaBytes
    remainingQuantaOps := WorkType.tabulate s.remainingQuantaOps }

def tabulatedSystem (c : RdmaConfig) : TransitionSystem RdmaModel Label Fatal :=
  { system c with next := fun s l => (s.next c l).map RdmaModel.tabulate }

instance (c : RdmaConfig) (s : RdmaModel) (l : Label) :
    Decidable ((tabulatedSystem c).allowed s l) :=
  inferInstanceAs (Decidable (s.allowed l))

lemma tabulatedSystem_eq (c : RdmaConfig) : tabulatedSystem c = system c := by
  have htabulate : RdmaModel.tabulate = id := by
    funext s
    simp only [RdmaModel.tabulate, WorkType.tabulate_eq, id]
  simp only [tabulatedSystem, htabulate, Except.map_id, id, system]

end Isekai.Rdma
