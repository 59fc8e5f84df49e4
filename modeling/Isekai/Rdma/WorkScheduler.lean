import Isekai.Rdma.Context
import Isekai.Common.TokenBucket
import Isekai.Lib.Outcome

/-!
# The RDMA work scheduler

`RdmaFalconRoundRobinWorkScheduler` over the state of the RDMA model: two round-robin lists of queue
pairs, one for requests and one for responses, each with the set of its members. `pending` holds the
callbacks that wait in the simulator's event queue with the times at which they are due, and `log`
what the model has done, the latest action first.
-/

namespace Isekai.Rdma

open Function

open Falcon (Time)
open Common Lib

inductive PipelineWork where
  | transaction (packet : Packet)
  | completion (qpId : QpId) (rsn : Rsn)
  deriving DecidableEq, Repr

inductive Syndrome where
  | ack
  | rnrNak (rnrTimeout : Time)
  deriving DecidableEq, Repr

/-- A callback in the event queue. `requeue` is the closure with which `SendTransaction` puts a
queue pair back on a list. `served` is the work type of the turn that created it; the source's
closure does not capture it, and no step below reads it. -/
inductive Callback where
  | runWorkScheduler
  | sendTransaction (qpId : QpId)
  | addQpToScheduleSet (qpId : QpId) (workType : WorkType)
  | requeue (qpId : QpId) (served : WorkType)
  | initiateTransaction (packet : Packet)
  | postOp (qpId : QpId) (op : RdmaOp)
  | enterPipeline (work : PipelineWork)
  | pipelineDequeue
  | ackTransaction (scid : Nat) (rsn : Rsn) (syndrome : Syndrome) (recv : Option (QpId × OpId))
  | ackReadRequest (qpId : QpId) (request : InboundReadRequest)
  | enqueueReadRequest (qpId : QpId) (request : InboundReadRequest)
  deriving DecidableEq, Repr

inductive Action where
  | transaction (packet : Packet)
  | initiateTransaction (packet : Packet)
  | ackTransaction (scid : Nat) (rsn : Rsn) (syndrome : Syndrome)
  | readResponse (qpId : QpId) (rsn : Rsn)
  | requestCompletion (qpId : QpId) (rsn : Rsn)
  | completionCallback (qpId : QpId) (op : OpId)
  deriving DecidableEq, Repr

/-- The callback that the host buffer runs when it issues the write of a packet over PCIe. -/
inductive PcieIssue where
  | ack (scid : Nat) (rsn : Rsn) (ackTime : Time) (recv : Option (QpId × OpId))
  | readRequest (qpId : QpId) (request : InboundReadRequest) (ackTime : Time)
  deriving DecidableEq, Repr

/-- The state of `RdmaFalconModel` and of its work scheduler. Before the first run of the pipeline
its last run time is `-InfiniteDuration` in the source, here `none`. -/
structure RdmaModel where
  now : Time := 0
  qps : QpId → Option QpContext := fun _ => none
  requestXoff : Bool := false
  globalXoff : Bool := false
  isIdle : Bool := true
  currentWorkType : WorkType := .request
  lastSchedulerRunTime : Time := 0
  wqs : WorkType → List QpId := fun _ => []
  qpSet : WorkType → Finset QpId := fun _ => ∅
  remainingQuantaBytes : WorkType → Int := fun _ => 0
  remainingQuantaOps : WorkType → Int := fun _ => 0
  remainingGlobalCredits : FalconCredit
  txTokenBucket : TokenBucket
  pipeline : List PipelineWork := []
  pipelineActive : Bool := false
  pipelineLastRunTime : Option Time := none
  pcieIssues : List PcieIssue := []
  pcieCompletions : List (QpId × OpId) := []
  pending : List (Time × Callback) := []
  log : List Action := []

variable (c : RdmaConfig) (s : RdmaModel)

def minimumCredit : WorkType → FalconCredit
  | .request => fun pool => match pool with
    | .requestTxPacket | .requestRxPacket => 1
    | .requestTxBuffer => calculateFalconTxBufferCredits 256 650 c.txBufferAllocationUnit
    | .requestRxBuffer => calculateFalconRxBufferCredits c.mtu c.rxBufferAllocationUnit
    | .responseTxPacket | .responseTxBuffer => 0
  | .response => fun pool => match pool with
    | .responseTxPacket => 1
    | .responseTxBuffer => calculateFalconTxBufferCredits 256 650 c.txBufferAllocationUnit
    | _ => 0

namespace RdmaModel

def getQp (qpId : QpId) : Except Fatal QpContext :=
  match s.qps qpId with
  | some ctx => .ok ctx
  | none => .error .qpContextNotFound

def setQp (qpId : QpId) (ctx : QpContext) : RdmaModel :=
  { s with qps := update s.qps qpId (some ctx) }

def schedule (delay : Time) (callback : Callback) : RdmaModel :=
  { s with pending := s.pending ++ [(s.now + delay, callback)] }

def canSend : WorkType → Bool
  | .request => !(s.requestXoff || s.globalXoff || (s.wqs .request).isEmpty) &&
      decide (minimumCredit c .request ≤ s.remainingGlobalCredits)
  | .response => !(s.globalXoff || (s.wqs .response).isEmpty) &&
      decide (minimumCredit c .response ≤ s.remainingGlobalCredits)

/-- The work type that `RunWorkScheduler` serves: the current one unless it cannot be sent. -/
def workTypeToServe : WorkType :=
  match s.currentWorkType with
  | .response => if s.canSend c .response then .response else .request
  | .request => if s.canSend c .request then .request else .response

def replenishQuanta : RdmaModel :=
  let w := s.currentWorkType
  if s.remainingQuantaBytes w = 0 ∧ s.remainingQuantaOps w = 0 then
    { s with
      remainingQuantaBytes := update s.remainingQuantaBytes w c.workSchedulerQuanta
      remainingQuantaOps := update s.remainingQuantaOps w maxRdmaOpsPerQuanta }
  else s

/-- The second half of `RunWorkScheduler`: choose the queue pair to serve and look it up. -/
def selectWorkQueue : Except Fatal RdmaModel :=
  if !s.canSend c .request && !s.canSend c .response then .ok { s with isIdle := true }
  else
    let s := ({ s with currentWorkType := s.workTypeToServe c } : RdmaModel).replenishQuanta c
    match s.wqs s.currentWorkType with
    | qpId :: _ => .ok (s.schedule 0 (.sendTransaction qpId))
    | [] => .error (match s.currentWorkType with
      | .request => .noActiveSqs
      | .response => .noActiveIirqs)

/-- Waits for the next cycle and for tokens. -/
def runWorkScheduler (c : RdmaConfig) (s : RdmaModel) : Except Fatal RdmaModel :=
  let s := { s with isIdle := false }
  let nextRunTime := max s.now (s.lastSchedulerRunTime + c.chipCycleTime)
  if s.now < nextRunTime then .ok (s.schedule (nextRunTime - s.now) .runWorkScheduler)
  else
    let (bucket, sufficientTokens) :=
      s.txTokenBucket.areTokensAvailable (c.mtu + rdmaHeader).toNat s.now
    let s := { s with txTokenBucket := bucket }
    if sufficientTokens then s.selectWorkQueue c
    else .ok (s.schedule (bucket.nextRefillTime - s.now) .runWorkScheduler)

def runIfIdle : Except Fatal RdmaModel :=
  if s.isIdle then s.runWorkScheduler c else .ok s

def pushWorkQueue (qpId : QpId) (workType : WorkType) : RdmaModel :=
  { s with
    wqs := update s.wqs workType (s.wqs workType ++ [qpId])
    qpSet := update s.qpSet workType (insert qpId (s.qpSet workType)) }

def popWorkQueue (qpId : QpId) (workType : WorkType) : Except Fatal RdmaModel :=
  match s.wqs workType with
  | [] => .error .popFrontOfEmptyList
  | _ :: rest =>
    .ok
      { s with
        wqs := update s.wqs workType rest
        qpSet := update s.qpSet workType ((s.qpSet workType).erase qpId) }

def addQpToScheduleSet (c : RdmaConfig) (s : RdmaModel) (qpId : QpId) (workType : WorkType) :
    Except Fatal RdmaModel := do
  let ctx ← s.getQp qpId
  if s.now < ctx.nextScheduleTime then
    pure (s.schedule (ctx.nextScheduleTime - s.now) (.addQpToScheduleSet qpId workType))
  else if !ctx.hasCredits c workType || ctx.xoff workType || qpId ∈ s.qpSet workType then pure s
  else (s.pushWorkQueue qpId workType).runIfIdle c

def setXoff (requestXoff globalXoff : Bool) : Except Fatal RdmaModel :=
  ({ s with requestXoff, globalXoff } : RdmaModel).runIfIdle c

def returnFalconCredits (credit : FalconCredit) : Except Fatal RdmaModel :=
  ({ s with remainingGlobalCredits := s.remainingGlobalCredits + credit } : RdmaModel).runIfIdle c

def updateWorkType : RdmaModel :=
  match s.currentWorkType with
  | .request => if s.canSend c .response then { s with currentWorkType := .response } else s
  | .response => if s.canSend c .request then { s with currentWorkType := .request } else s

def endTurn : RdmaModel :=
  let w := s.currentWorkType
  ({ s with
      remainingQuantaBytes := update s.remainingQuantaBytes w 0
      remainingQuantaOps := update s.remainingQuantaOps w 0 } : RdmaModel).updateWorkType c

/-- The packet that `SendTransaction` builds, with the credit it charges and the changed context. -/
def createPacket (ctx : QpContext) (workType : WorkType) : Except Fatal (Packet × QpContext) :=
  match workType with
  | .request => ctx.createRequestPacket c
  | .response => if ctx.isConnected then ctx.createResponsePacket else .error .readResponseInUdMode

def chargeQp (now : Time) (ctx : QpContext) (packet : Packet) (credit : FalconCredit) : QpContext :=
  { ctx with
    creditUsage := ctx.creditUsage + credit
    outboundReadRequests :=
      if packet.opcode = .readRequest then ctx.outboundReadRequests + 1
      else ctx.outboundReadRequests
    nextScheduleTime :=
      if ctx.nextScheduleTime ≤ now then now + c.perQpInterOpGap
      else ctx.nextScheduleTime + c.perQpInterOpGap }

/-- What a transaction changes in the scheduler: global credits, quanta, tokens, and the event that
hands the packet to Falcon. -/
def chargeScheduler (packet : Packet) (credit : FalconCredit) : Except Fatal RdmaModel :=
  let w := s.currentWorkType
  let size : Int := (quantaSize packet).toNat
  let bytes := s.remainingQuantaBytes w
  match s.txTokenBucket.requestTokens (tokensConsumed packet).toNat with
  | none => .error .insufficientTokens
  | some bucket =>
    .ok <| schedule
      { s with
        remainingGlobalCredits := s.remainingGlobalCredits - credit
        remainingQuantaBytes :=
          update s.remainingQuantaBytes w (if size ≤ bytes then bytes - size else 0)
        remainingQuantaOps := update s.remainingQuantaOps w (s.remainingQuantaOps w - 1)
        txTokenBucket := bucket
        lastSchedulerRunTime := s.now
        log := .transaction packet :: s.log }
      c.schedulerPipelineDelayTime (.initiateTransaction packet)

/-- The end of `SendTransaction`: whether the queue pair keeps its turn, and the next run of the
scheduler. -/
def scheduleNext (qpId : QpId) (ctx : QpContext) : Except Fatal RdmaModel :=
  let w := s.currentWorkType
  if ctx.atOrdLimit c then do
    -- the request list is popped whatever type was served
    let s ← s.popWorkQueue qpId .request
    pure ((s.schedule c.chipCycleTime .runWorkScheduler).endTurn c)
  else if 0 < s.remainingQuantaBytes w ∧ 0 < s.remainingQuantaOps w ∧ ctx.hasCredits c w ∧
      !ctx.xoff w then
    .ok (s.schedule c.chipCycleTime .runWorkScheduler)
  else do
    let s ← s.popWorkQueue qpId w
    let s := if ctx.hasCredits c w ∧ !ctx.xoff w then
      s.schedule (ctx.nextScheduleTime - s.now) (.requeue qpId w) else s
    pure ((s.endTurn c).schedule c.chipCycleTime .runWorkScheduler)

def sendTransaction (qpId : QpId) : Except Fatal RdmaModel := do
  let ctx ← s.getQp qpId
  let w := s.currentWorkType
  let (packet, ctx') ← createPacket c ctx w
  let credit := (ctx.frontCredit c w).getD 0
  let ctx' := chargeQp c s.now ctx' packet credit
  let s ← s.chargeScheduler c packet credit
  (s.setQp qpId ctx').scheduleNext c qpId ctx'

end RdmaModel

end Isekai.Rdma
