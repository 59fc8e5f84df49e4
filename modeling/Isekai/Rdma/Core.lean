import Isekai.Rdma.Requests
import Mathlib.Data.Multiset.AddSub
import Mathlib.Data.Multiset.Filter

/-!
# The requests of the queue pairs, without the scheduler

`Core` is what remains of the RDMA model when its work scheduler and the order in which items wait
are forgotten. Any queue pair with a request may send its next packet at any time.
-/

namespace Isekai.Rdma

open Falcon (Time)

/-- The context without what only the scheduler and the receive side of an ordered queue pair
read. -/
def QpContext.forget (ctx : QpContext) : QpContext :=
  { ctx with
    creditLimit := 0
    creditUsage := 0
    qpRequestXoff := false
    qpResponseXoff := false
    inRnr := false
    nextRxRsn := 0
    nextScheduleTime := 0 }

def Callback.work : Callback → Option PipelineWork
  | .enterPipeline work => some work
  | _ => none

/-- The other callbacks that change a queue or complete a receive. -/
def Callback.isJob : Callback → Bool
  | .postOp _ _ | .ackTransaction _ _ _ (some _) | .ackReadRequest _ _ | .enqueueReadRequest _ _ =>
    true
  | _ => false

def Action.isOutcome : Action → Bool
  | .initiateTransaction _ | .ackTransaction _ _ _ => false
  | _ => true

/-- The model without the scheduler. -/
structure Core where
  qps : QpId → Option QpContext
  arriving : Multiset PipelineWork
  jobs : Multiset Callback
  issues : Multiset PcieIssue
  completions : Multiset (QpId × OpId)
  history : List Action

def RdmaModel.core (s : RdmaModel) : Core where
  qps q := (s.qps q).map QpContext.forget
  arriving := s.pipeline + (s.pending.filterMap fun event => event.2.work : Multiset PipelineWork)
  jobs := (s.pending.map Prod.snd).filter Callback.isJob
  issues := s.pcieIssues
  completions := s.pcieCompletions
  history := s.log.filter Action.isOutcome

structure QpContext.IsNew (q : QpId) (ctx : QpContext) : Prop where
  qpId : ctx.qpId = q
  ops : ctx.ops = fun _ => none
  sendQueue : ctx.sendQueue = []
  receiveQueue : ctx.receiveQueue = []
  inbound : ctx.inboundReadRequestQueue = []
  completionQueue : ctx.completionQueue = fun _ => none
  rsnToOp : ctx.rsnToOp = fun _ => none
  nextRsn : ctx.nextRsn = 0
  reads : ctx.outboundReadRequests = 0

/-- The context after the report of a read response, which is counted when its operation is done. -/
def QpContext.countRead (ctx : QpContext) (finished : Option OpId) : QpContext :=
  match finished with
  | none => ctx
  | some _ => { ctx with outboundReadRequests := ctx.outboundReadRequests - 1 }

def QpContext.countRequest (ctx : QpContext) (packet : Packet) : QpContext :=
  { ctx with
    outboundReadRequests :=
      if packet.opcode = .readRequest then ctx.outboundReadRequests + 1
      else ctx.outboundReadRequests }

inductive Event where
  | creates (q : QpId)
  | posts (q : QpId) (op : RdmaOp)
  | enters (work : PipelineWork)
  | enqueues (q : QpId) (op : RdmaOp)
  | cuts (q : QpId) (id : OpId)
  | responds (q : QpId)
  | takes (work : PipelineWork)
  | issues
  | acks
  | enqueuesRead (q : QpId)
  | completes

def Event.taken : Event → Option PipelineWork
  | .takes work => some work
  | _ => none

namespace Core

def setQp (k : Core) (q : QpId) (ctx : QpContext) : Core :=
  { k with qps := Function.update k.qps q (some ctx) }

inductive Process (c : RdmaConfig) (k : Core) : PipelineWork → Core → Prop
  | refuses (work : PipelineWork) : Process c k work k
  | acceptsWrite {packet : Packet} (scid : Nat) (time : Time) : Process c k (.transaction packet)
      { k with issues := .ack scid packet.rsn time none ::ₘ k.issues }
  | acceptsSend {packet : Packet} {ctx ctx' : QpContext} {recv : Option OpId} (scid : Nat)
      (time : Time) (hq : k.qps packet.destQpId = some ctx)
      (hmatch : ctx.matchRecv c packet = some (ctx', recv)) : Process c k (.transaction packet)
      { k.setQp packet.destQpId ctx' with
        issues := .ack scid packet.rsn time (recv.map fun id =>
          (packet.destQpId, id)) ::ₘ k.issues }
  | acceptsRead {packet : Packet} {ctx : QpContext} (time : Time)
      (hopcode : packet.opcode = .readRequest) (hq : k.qps packet.destQpId = some ctx)
      (hdepth : ctx.inboundReadRequestQueue.length < c.inboundReadQueueDepth) :
      Process c k (.transaction packet)
      { k with
        issues := .readRequest packet.destQpId ⟨packet.rsn, packet.sgl⟩ time ::ₘ k.issues }
  | answers {packet : Packet} {ctx ctx' : QpContext} {finished : Option OpId}
      (hopcode : packet.opcode = .readResponseOnly) (hq : k.qps packet.destQpId = some ctx)
      (hfinish : ctx.finishRequest packet.rsn = .ok (ctx', finished)) :
      Process c k (.transaction packet)
      { k.setQp packet.destQpId (ctx'.countRead finished) with
        completions := (finished.map fun id => (packet.destQpId, id)).toList + k.completions
        history := .readResponse packet.destQpId packet.rsn :: k.history }
  | finishes {q : QpId} {rsn : Rsn} {ctx ctx' : QpContext} {finished : Option OpId}
      (hq : k.qps q = some ctx) (hfinish : ctx.finishRequest rsn = .ok (ctx', finished))
      (hdelay : c.enablePcieDelayForCompletion = true) : Process c k (.completion q rsn)
      { k.setQp q ctx' with
        completions := (finished.map fun id => (q, id)).toList + k.completions
        history := .requestCompletion q rsn :: k.history }
  | finishesNow {q : QpId} {rsn : Rsn} {ctx ctx' : QpContext} {finished : Option OpId}
      (hq : k.qps q = some ctx) (hfinish : ctx.finishRequest rsn = .ok (ctx', finished)) :
      Process c k (.completion q rsn)
      { k.setQp q ctx' with
        history := (finished.map fun id => Action.completionCallback q id).toList ++
          .requestCompletion q rsn :: k.history }

inductive Step (c : RdmaConfig) (k : Core) : Event → Core → Prop
  | creates {q : QpId} {ctx : QpContext} (hnone : k.qps q = none) (hnew : ctx.IsNew q) :
      Step c k (.creates q) (k.setQp q ctx)
  | posts (q : QpId) (op : RdmaOp) :
      Step c k (.posts q op) { k with jobs := .postOp q op ::ₘ k.jobs }
  | enters (work : PipelineWork) :
      Step c k (.enters work) { k with arriving := work ::ₘ k.arriving }
  | enqueues {q : QpId} {op : RdmaOp} {ctx ctx' : QpContext} {jobs : Multiset Callback}
      (hjobs : k.jobs = .postOp q op ::ₘ jobs) (hq : k.qps q = some ctx)
      (h : ctx.Enqueues op ctx') : Step c k (.enqueues q op) { k.setQp q ctx' with jobs }
  | cuts {q : QpId} {id : OpId} {ctx ctx' : QpContext} {packet : Packet} (hq : k.qps q = some ctx)
      (hid : ctx.sendQueue.head? = some id)
      (hpacket : ctx.createRequestPacket c = .ok (packet, ctx')) :
      Step c k (.cuts q id)
        { k.setQp q (ctx'.countRequest packet) with history := .transaction packet :: k.history }
  | responds {q : QpId} {ctx ctx' : QpContext} {packet : Packet} (hq : k.qps q = some ctx)
      (hpacket : ctx.createResponsePacket = .ok (packet, ctx')) :
      Step c k (.responds q)
        { k.setQp q ctx' with history := .transaction packet :: k.history }
  | takes {work : PipelineWork} {arriving : Multiset PipelineWork} {k' : Core}
      (harriving : k.arriving = work ::ₘ arriving) (h : Process c { k with arriving } work k') :
      Step c k (.takes work) k'
  | issuesAck {scid : Nat} {rsn : Rsn} {time : Time} {issues : Multiset PcieIssue}
      (hissues : k.issues = .ack scid rsn time none ::ₘ issues) : Step c k .issues { k with issues }
  | issuesRecv {scid : Nat} {rsn : Rsn} {time : Time} {recv : QpId × OpId}
      {issues : Multiset PcieIssue}
      (hissues : k.issues = .ack scid rsn time (some recv) ::ₘ issues) : Step c k .issues
        { k with issues, jobs := .ackTransaction scid rsn .ack (some recv) ::ₘ k.jobs }
  | issuesRecvNow {scid : Nat} {rsn : Rsn} {time : Time} {recv : QpId × OpId}
      {issues : Multiset PcieIssue}
      (hissues : k.issues = .ack scid rsn time (some recv) ::ₘ issues) : Step c k .issues
        { k with issues, history := .completionCallback recv.1 recv.2 :: k.history }
  | issuesRead {q : QpId} {request : InboundReadRequest} {time : Time}
      {issues : Multiset PcieIssue} (hissues : k.issues = .readRequest q request time ::ₘ issues) :
      Step c k .issues { k with issues, jobs := .ackReadRequest q request ::ₘ k.jobs }
  | acks {scid : Nat} {rsn : Rsn} {syndrome : Syndrome} {recv : QpId × OpId}
      {jobs : Multiset Callback}
      (hjobs : k.jobs = .ackTransaction scid rsn syndrome (some recv) ::ₘ jobs) : Step c k .acks
        { k with jobs, history := .completionCallback recv.1 recv.2 :: k.history }
  | acksRead {q : QpId} {request : InboundReadRequest} {jobs : Multiset Callback}
      (hjobs : k.jobs = .ackReadRequest q request ::ₘ jobs) :
      Step c k .acks { k with jobs := .enqueueReadRequest q request ::ₘ jobs }
  | enqueuesRead {q : QpId} {request : InboundReadRequest} {ctx : QpContext}
      {jobs : Multiset Callback} (hjobs : k.jobs = .enqueueReadRequest q request ::ₘ jobs)
      (hq : k.qps q = some ctx) : Step c k (.enqueuesRead q)
        { k.setQp q
            { ctx with
              inboundReadRequestQueue := ctx.inboundReadRequestQueue ++ [request] } with jobs }
  | completes {q : QpId} {id : OpId} {completions : Multiset (QpId × OpId)}
      (hcompletions : k.completions = (q, id) ::ₘ completions) : Step c k .completes
        { k with completions, history := .completionCallback q id :: k.history }

end Core

def RdmaModel.takes (c : RdmaConfig) (s : RdmaModel) : Label → Option PipelineWork
  | .fire index _ =>
    match s.pending[index]? with
    | some (time, .pipelineDequeue) =>
      if time < c.pipelineNextRunTime s.pipelineLastRunTime time then none else s.pipeline.head?
    | some (time, .enterPipeline work) =>
      if s.pipelineActive ||
          decide (time < c.pipelineNextRunTime s.pipelineLastRunTime time) then none
      else (s.pipeline ++ [work]).head?
    | _ => none
  | .input _ _ => none

def Label.Posts (q : QpId) (op : RdmaOp) (l : Label) : Prop :=
  ∃ time opcode sgl isInline dest, l = .input time (.performOp q opcode sgl isInline dest) ∧
    (op = { opcode, sgl, destQpId := dest } ∨
      opcode ≠ .read ∧ op = { opcode, inlinePayloadLength := sgl.sum, destQpId := dest })

def Label.Enters (work : PipelineWork) : Label → Prop
  | .input _ (.handleRxTransaction packet) => work = .transaction packet
  | .input _ (.handleCompletion q rsn) => work = .completion q rsn
  | _ => False

/-- The label `l` of the model makes the event `e`. -/
structure Caused (c : RdmaConfig) (s : RdmaModel) (l : Label) (e : Event) : Prop where
  taken : s.takes c l = e.taken
  posts : ∀ q op, e = .posts q op → l.Posts q op
  enters : ∀ work, e = .enters work → l.Enters work

def Refines (c : RdmaConfig) (s : RdmaModel) (l : Label) (s' : RdmaModel) : Prop :=
  (s'.core = s.core ∧ s.takes c l = none) ∨ ∃ e, Caused c s l e ∧ Core.Step c s.core e s'.core

end Isekai.Rdma
