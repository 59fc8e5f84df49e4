import Isekai.Rdma.Core

/-!
# The RDMA model refines its core

Every step of the RDMA model leaves its core as it is or is one step of the core.
-/

namespace Isekai.Rdma

open Falcon (Time)
open Lib

namespace QpContext

variable {c : RdmaConfig} {ctx ctx' : QpContext}

lemma forget_accept (ctx : QpContext) : ctx.accept.forget = ctx.forget := by
  unfold accept
  split <;> rfl

lemma forget_enterRnrState (ctx : QpContext) : ctx.enterRnrState.forget = ctx.forget := by
  unfold enterRnrState
  split <;> rfl

lemma createRequestPacket_forget {packet : Packet}
    (h : ctx.createRequestPacket c = .ok (packet, ctx')) :
    ctx.forget.createRequestPacket c = .ok (packet, ctx'.forget) := by
  unfold createRequestPacket at h ⊢
  rw [show ctx.forget.sendQueue = ctx.sendQueue from rfl]
  cases hqueue : ctx.sendQueue with
  | nil => simp [hqueue] at h
  | cons id queue =>
    simp only [hqueue] at h ⊢
    rw [show ctx.forget.ops = ctx.ops from rfl]
    cases hop : ctx.ops id with
    | none => simp [hop] at h
    | some op =>
      simp only [hop] at h ⊢
      obtain ⟨header, hheader, h⟩ := exists_of_bind_eq_ok h
      obtain ⟨⟨packet', rest⟩, hpayload, h⟩ := exists_of_bind_eq_ok h
      cases h
      rw [hheader, Ensures.ok_bind, hpayload, Ensures.ok_bind]
      unfold recordRequest
      split <;> rfl

lemma createResponsePacket_forget {packet : Packet}
    (h : ctx.createResponsePacket = .ok (packet, ctx')) :
    ctx.forget.createResponsePacket = .ok (packet, ctx'.forget) := by
  unfold createResponsePacket at h ⊢
  rw [show ctx.forget.inboundReadRequestQueue = ctx.inboundReadRequestQueue from rfl]
  cases hqueue : ctx.inboundReadRequestQueue with
  | nil => simp [hqueue] at h
  | cons request queue =>
    simp only [hqueue] at h ⊢
    cases hlength : getSglLength request.sgl with
    | none => simp [hlength] at h
    | some length =>
      simp only [hlength] at h ⊢
      cases h
      rfl

lemma finishRequest_forget (ctx : QpContext) (rsn : Rsn) :
    ctx.forget.finishRequest rsn = (ctx.finishRequest rsn).map fun r => (r.1.forget, r.2) := by
  unfold finishRequest
  rw [show ctx.forget.rsnToOp = ctx.rsnToOp from rfl]
  cases ctx.rsnToOp rsn with
  | none => rfl
  | some id =>
    dsimp only
    rw [show ctx.forget.ops = ctx.ops from rfl]
    cases ctx.ops id with
    | none => rfl
    | some op =>
      dsimp only
      split
      · simp only [setOp]
        rw [show ctx.forget.completionQueue = ctx.completionQueue from rfl]
        cases ctx.completionQueue op.endSeq <;> rfl
      · rfl

lemma matchRecv_forget (c : RdmaConfig) (ctx : QpContext) (packet : Packet) :
    ctx.forget.matchRecv c packet =
      (ctx.matchRecv c packet).map fun r => (r.1.forget, r.2) := by
  unfold matchRecv
  rw [show ctx.forget.receiveQueue = ctx.receiveQueue from rfl]
  cases ctx.receiveQueue with
  | nil => rfl
  | cons entry queue =>
    dsimp only
    split
    · split <;> rfl
    · split
      · rfl
      · split <;> rfl

end QpContext

/-- What aborts a step does not matter here. -/
abbrev AnyFault (_ : Fatal) : Prop := True

namespace RdmaModel

variable {c : RdmaConfig} {s s' : RdmaModel} {q : QpId} {ctx ctx' : QpContext} {w : WorkType}
  {packet : Packet} {work : PipelineWork} {rsn : Rsn} {l : Label} {delay : Time}

@[simp] lemma core_setQp : (s.setQp q ctx).core = s.core.setQp q ctx.forget := by
  simp only [core, setQp, Core.setQp, Core.mk.injEq, and_self, and_true]
  funext q'
  by_cases hqq : q' = q
  · subst hqq
    simp
  · simp [hqq]

lemma core_qps (hq : s.qps q = some ctx) : s.core.qps q = some ctx.forget := by
  simp [core, hq]

lemma core_setQp_of_forget (hq : s.qps q = some ctx) (h : ctx'.forget = ctx.forget) :
    (s.setQp q ctx').core = s.core := by
  rw [core_setQp, h, Core.setQp, ← core_qps hq, Function.update_eq_self]

lemma core_schedule {callback : Callback} (hwork : callback.work = none)
    (hjob : callback.isJob = false) : (s.schedule delay callback).core = s.core := by
  simp [core, schedule, hwork, hjob, List.filter_append]

lemma selectWorkQueue_core : Ensures AnyFault (fun s' => s'.core = s.core)
    (s.selectWorkQueue c) := by
  have hquanta : ∀ s' : RdmaModel, (s'.replenishQuanta c).core = s'.core := by
    intro s'
    obtain ⟨bytes, ops, heq, -⟩ := replenishQuanta_eq s' c
    rw [heq]
    rfl
  refine .ite (fun _ => rfl) fun _ => ?_
  dsimp only
  split
  · exact (core_schedule rfl rfl).trans (hquanta _)
  · refine .fail ?_
    split <;> decide

lemma runWorkScheduler_core : Ensures AnyFault (fun s' => s'.core = s.core)
    (s.runWorkScheduler c) := by
  refine .ite (fun _ => ?_) fun _ => .ite (fun _ => ?_) fun _ => ?_
  · exact core_schedule rfl rfl
  · exact selectWorkQueue_core
  · exact core_schedule rfl rfl

lemma runIfIdle_core : Ensures AnyFault (fun s' => s'.core = s.core) (s.runIfIdle c) :=
  .ite (fun _ => runWorkScheduler_core) fun _ => rfl

lemma addQpToScheduleSet_core : Ensures AnyFault (fun s' => s'.core = s.core)
    (s.addQpToScheduleSet c q w) := by
  refine (getQp_spec trivial).bind fun ctx _ => .ite (fun _ => ?_) fun _ =>
    .ite (fun _ => rfl) fun _ => ?_
  · exact core_schedule rfl rfl
  · exact runIfIdle_core

lemma notify_core : Ensures AnyFault (fun s' => s'.core = s.core) (s.notify c q w) :=
  (getQp_spec trivial).bind fun _ _ => .ite (fun _ => addQpToScheduleSet_core) fun _ => rfl

lemma notify_both_core : Ensures AnyFault (fun s' => s'.core = s.core)
    (do let s ← s.notify c q .request; s.notify c q .response) :=
  notify_core.bind fun _ h => notify_core.imp fun _ h' => h'.trans h

lemma popWorkQueue_core : Ensures AnyFault (fun s' => s'.core = s.core)
    (s.popWorkQueue q w) := by
  unfold popWorkQueue
  split
  · exact .fail trivial
  · exact rfl

lemma endTurn_core : (s.endTurn c).core = s.core := by
  obtain ⟨w, heq⟩ := endTurn_eq s c
  rw [heq]
  rfl

lemma scheduleNext_core : Ensures AnyFault (fun s' => s'.core = s.core)
    (s.scheduleNext c q ctx) := by
  refine .ite (fun _ => ?_) fun _ => .ite (fun _ => core_schedule rfl rfl) fun _ => ?_
  · refine popWorkQueue_core.bind fun s₁ h₁ => ?_
    exact endTurn_core.trans ((core_schedule rfl rfl).trans h₁)
  · refine popWorkQueue_core.bind fun s₁ h₁ => ?_
    refine (core_schedule rfl rfl).trans (endTurn_core.trans ?_)
    split
    · exact (core_schedule rfl rfl).trans h₁
    · exact h₁

lemma setXoff_core {request all : Bool} : Ensures AnyFault (fun s' => s'.core = s.core)
    (s.setXoff c request all) :=
  runIfIdle_core

lemma backpressureXoff_core {request response : Bool} :
    Ensures AnyFault (fun s' => s'.core = s.core) (s.backpressureXoff c q request response) :=
  (getQp_spec trivial).bind fun _ hq =>
    notify_both_core.imp fun _ h => h.trans (core_setQp_of_forget hq rfl)

lemma backpressureDynamicCredit_core {limit : FalconCredit} :
    Ensures AnyFault (fun s' => s'.core = s.core) (s.backpressureDynamicCredit c q limit) := by
  refine (getQp_spec trivial).bind fun _ hq => .ite (fun _ => core_setQp_of_forget hq rfl) ?_
  exact fun _ => notify_both_core.imp fun _ h => h.trans (core_setQp_of_forget hq rfl)

lemma returnFalconCredit_core {credit : FalconCredit} :
    Ensures AnyFault (fun s' => s'.core = s.core) (s.returnFalconCredit c q credit) := by
  refine (getQp_spec trivial).bind fun ctx hq => .ite (fun _ => ?_) fun _ => .fail trivial
  refine notify_core.bind fun s₁ h₁ => notify_core.bind fun s₂ h₂ => ?_
  have hset : s₂.core = s.core := (h₂.trans h₁).trans (core_setQp_of_forget hq rfl)
  exact runIfIdle_core.imp fun _ h => h.trans hset

lemma rnrNack_core (hq : s.qps q = some ctx) : (s.rnrNack c q ctx rsn).core = s.core :=
  (core_schedule rfl rfl).trans (core_setQp_of_forget hq ctx.forget_enterRnrState)

lemma core_push {issue : PcieIssue} :
    ({ s.setQp q ctx with pcieIssues := s.pcieIssues ++ [issue] } : RdmaModel).core =
      { (s.setQp q ctx).core with issues := issue ::ₘ s.core.issues } := by
  simp only [core, Core.mk.injEq, true_and, and_true]
  rw [← Multiset.coe_add, add_comm]
  rfl

lemma processIncomingWrite_core (hq : s.qps packet.destQpId = some ctx) {randomRnr : Bool} :
    Ensures AnyFault (fun s' => Core.Process c s.core (.transaction packet) s'.core)
      (s.processIncomingWrite c packet.destQpId ctx packet randomRnr) := by
  refine (isRsnAcceptable_spec trivial).bind fun _ _ => .ite (fun _ => ?_) fun _ => ?_
  · rw [Ensures.pure_iff, core_push, core_setQp_of_forget hq ctx.forget_accept]
    exact .acceptsWrite _ _
  · rw [Ensures.pure_iff, rnrNack_core hq]
    exact .refuses _

lemma processIncomingReadRequest_core (hq : s.qps packet.destQpId = some ctx)
    (hopcode : packet.opcode = .readRequest) {randomRnr : Bool} :
    Ensures AnyFault (fun s' => Core.Process c s.core (.transaction packet) s'.core)
      (s.processIncomingReadRequest c packet.destQpId ctx packet randomRnr) := by
  refine (isRsnAcceptable_spec trivial).bind fun _ _ => .ite (fun haccept => ?_) fun _ => ?_
  · rw [Ensures.pure_iff, core_push, core_setQp_of_forget hq ctx.forget_accept]
    refine .acceptsRead _ hopcode (core_qps hq) ?_
    simp only [Bool.and_eq_true, decide_eq_true_eq] at haccept
    exact haccept.2
  · rw [Ensures.pure_iff, rnrNack_core hq]
    exact .refuses _

lemma processIncomingSend_core (hq : s.qps packet.destQpId = some ctx) :
    Ensures AnyFault (fun s' => Core.Process c s.core (.transaction packet) s'.core)
      (s.processIncomingSend c packet.destQpId ctx packet) := by
  have hacceptable : Ensures AnyFault (fun _ => True) (isSendAcceptable ctx packet.rsn) :=
    .ite (fun _ => .fail trivial) fun _ =>
      .ite (fun _ => trivial) fun _ => isRsnAcceptable_spec trivial
  refine hacceptable.bind fun acceptable _ => ?_
  split
  · rw [Ensures.pure_iff, rnrNack_core hq]
    exact .refuses _
  · rename_i ctx' recv hmatch
    split at hmatch
    · rw [Ensures.pure_iff, core_push, core_setQp, ctx'.forget_accept]
      refine .acceptsSend _ _ (core_qps hq) ?_
      rw [QpContext.matchRecv_forget, hmatch]
      rfl
    · cases hmatch

lemma core_record (action : Action) (h : action.isOutcome = true) :
    ({ s with log := action :: s.log } : RdmaModel).core =
      { s.core with history := action :: s.core.history } := by
  simp [core, h]

lemma core_complete (entry : QpId × OpId) :
    ({ s with pcieCompletions := s.pcieCompletions ++ [entry] } : RdmaModel).core =
      { s.core with completions := entry ::ₘ s.core.completions } := by
  simp only [core, Core.mk.injEq, true_and, and_true]
  rw [← Multiset.coe_add, add_comm]
  rfl

lemma finishRequest_core :
    Ensures AnyFault (fun r => ctx.forget.finishRequest rsn = .ok (r.1.forget, r.2))
      (ctx.finishRequest rsn) := by
  rw [QpContext.finishRequest_forget]
  cases ctx.finishRequest rsn with
  | ok r => exact rfl
  | error e => trivial

lemma processIncomingReadResponse_core (hq : s.qps packet.destQpId = some ctx)
    (hopcode : packet.opcode = .readResponseOnly) :
    Ensures AnyFault (fun s' => Core.Process c s.core (.transaction packet) s'.core)
      (s.processIncomingReadResponse c packet.destQpId ctx packet.rsn) := by
  refine finishRequest_core.bind fun ⟨ctx', finished⟩ hfinish => ?_
  have hstep := Core.Process.answers (c := c) hopcode (core_qps hq) hfinish
  have hrecord := core_record (s := s) (.readResponse packet.destQpId packet.rsn) rfl
  cases finished with
  | none =>
    rw [Ensures.pure_iff, core_setQp, hrecord]
    simpa [Core.setQp, QpContext.countRead] using hstep
  | some id =>
    have hset : Core.Process c s.core (.transaction packet)
        ({ ({ s with log := .readResponse packet.destQpId packet.rsn :: s.log } :
            RdmaModel).setQp packet.destQpId
            { ctx' with outboundReadRequests := ctx'.outboundReadRequests - 1 } with
          pcieCompletions := s.pcieCompletions ++ [(packet.destQpId, id)] } : RdmaModel).core := by
      have hcomplete := core_complete (packet.destQpId, id)
        (s := ({ s with log := .readResponse packet.destQpId packet.rsn :: s.log } :
            RdmaModel).setQp packet.destQpId
            { ctx' with outboundReadRequests := ctx'.outboundReadRequests - 1 })
      rw [core_setQp, hrecord] at hcomplete
      exact hcomplete ▸ hstep
    refine .ite (fun _ => ?_) fun _ => hset
    exact addQpToScheduleSet_core.imp fun s' h => h ▸ hset

lemma processCompletion_core (hq : s.qps q = some ctx) :
    Ensures AnyFault (fun s' => Core.Process c s.core (.completion q rsn) s'.core)
      (s.processCompletion c q ctx rsn) := by
  refine finishRequest_core.bind fun ⟨ctx', finished⟩ hfinish => ?_
  have hnow := Core.Process.finishesNow (c := c) (core_qps hq) hfinish
  have hrecord :
      ({ s.setQp q ctx' with log := .requestCompletion q rsn :: s.log } : RdmaModel).core =
        { s.core.setQp q ctx'.forget with
          history := .requestCompletion q rsn :: s.core.history } := by
    rw [← core_setQp]
    exact core_record (s := s.setQp q ctx') _ rfl
  cases finished with
  | none =>
    rw [Ensures.pure_iff, hrecord]
    exact hnow
  | some id =>
    refine .ite (fun hdelay => ?_) fun _ => ?_
    · have hlater := Core.Process.finishes (c := c) (core_qps hq) hfinish hdelay
      have hcomplete := core_complete (q, id)
        (s := { s.setQp q ctx' with log := .requestCompletion q rsn :: s.log })
      rw [hrecord] at hcomplete
      exact Ensures.pure_iff.mpr (hcomplete ▸ hlater)
    · have hcallback := core_record (.completionCallback q id)
        (s := { s.setQp q ctx' with log := .requestCompletion q rsn :: s.log }) rfl
      rw [hrecord] at hcallback
      exact Ensures.pure_iff.mpr (hcallback ▸ hnow)

lemma processWork_core {randomRnr : Bool} : Ensures AnyFault
    (fun s' => Core.Process c s.core work s'.core) (s.processWork c work randomRnr) := by
  cases work with
  | completion q rsn =>
    refine (getQp_spec trivial).bind fun ctx hq => ?_
    exact processCompletion_core hq
  | transaction packet =>
    refine (getQp_spec trivial).bind fun ctx hq => ?_
    cases hopcode : packet.opcode with
    | invalid => trivial
    | ack => trivial
    | sendOnly => exact processIncomingSend_core hq
    | writeOnly => exact processIncomingWrite_core hq
    | readRequest => exact processIncomingReadRequest_core hq hopcode
    | readResponseOnly => exact processIncomingReadResponse_core hq hopcode

def dequeues (c : RdmaConfig) (s : RdmaModel) : Option PipelineWork :=
  if s.now < c.pipelineNextRunTime s.pipelineLastRunTime s.now then none else s.pipeline.head?

lemma pipelineDequeue_core {randomRnr : Bool} :
    Ensures AnyFault (fun s' => (s.dequeues c = none ∧ s'.core = s.core) ∨
        ∃ work, s.dequeues c = some work ∧ Core.Step c s.core (.takes work) s'.core)
      (s.pipelineDequeue c randomRnr) := by
  unfold pipelineDequeue
  split
  · rename_i hpipeline
    exact .inl ⟨by simp [dequeues, hpipeline], rfl⟩
  · rename_i work rest hpipeline
    refine .ite (fun hwait => ?_) fun hrun => ?_
    · exact .inl ⟨if_pos hwait, core_schedule rfl rfl⟩
    · have htake : s.dequeues c = some work := by
        rw [dequeues, if_neg hrun, hpipeline]
        rfl
      have harriving : s.core.arriving = work ::ₘ
          ({ s with pipeline := rest, pipelineLastRunTime := some s.now } :
            RdmaModel).core.arriving := by
        simp [core, hpipeline, ← Multiset.cons_coe]
      refine (processWork_core
        (s := { s with pipeline := rest, pipelineLastRunTime := some s.now })).bind
        fun s' hprocess => ?_
      refine .inr ⟨work, htake, ?_⟩
      rw [core_schedule rfl rfl]
      exact .takes harriving hprocess

lemma core_fire {index : Nat} {time : Time} {callback : Callback}
    (hget : s.pending[index]? = some (time, callback)) :
    s.core =
      { ({ s with now := time, pending := s.pending.eraseIdx index } : RdmaModel).core with
        arriving := (callback.work.toList : Multiset PipelineWork) +
          ({ s with now := time, pending := s.pending.eraseIdx index } : RdmaModel).core.arriving
        jobs := (if callback.isJob then {callback} else 0) +
          ({ s with now := time, pending := s.pending.eraseIdx index } :
            RdmaModel).core.jobs } := by
  obtain ⟨before, after, hpending, herase⟩ := eraseIdx_perm hget
  simp only [core, herase, Core.mk.injEq, true_and, and_true]
  constructor
  · rw [hpending, add_left_comm]
    refine congrArg ((s.pipeline : Multiset PipelineWork) + ·) ?_
    refine Multiset.coe_eq_coe.mpr ?_
    rw [List.filterMap_append, List.filterMap_append, List.filterMap_cons]
    cases callback.work with
    | none => exact .refl _
    | some work => exact List.perm_middle
  · rw [hpending, List.map_append, List.map_cons, List.map_append, List.filter_append,
      List.filter_append, List.filter_cons]
    cases callback.isJob with
    | false =>
      rw [if_neg (by decide), if_neg (by decide), zero_add]
    | true =>
      exact Multiset.coe_eq_coe.mpr List.perm_middle

lemma core_fire_of_unseen {index : Nat} {time : Time} {callback : Callback}
    (hget : s.pending[index]? = some (time, callback)) (hwork : callback.work = none)
    (hjob : callback.isJob = false) :
    ({ s with now := time, pending := s.pending.eraseIdx index } : RdmaModel).core = s.core := by
  rw [core_fire hget, hwork, hjob]
  simp

lemma core_fire_job {index : Nat} {time : Time} {callback : Callback}
    (hget : s.pending[index]? = some (time, callback)) (hwork : callback.work = none)
    (hjob : callback.isJob = true) :
    ∃ jobs, s.core.jobs = callback ::ₘ jobs ∧
      ({ s with now := time, pending := s.pending.eraseIdx index } : RdmaModel).core =
        { s.core with jobs } := by
  let s₀ : RdmaModel := { s with now := time, pending := s.pending.eraseIdx index }
  refine ⟨s₀.core.jobs, ?_, ?_⟩
  · rw [core_fire hget, hjob]
    rfl
  · rw [core_fire hget, hwork]
    simp [s₀]

lemma sendTransaction_core :
    Ensures AnyFault (fun s' => ∃ ctx, s.qps q = some ctx ∧
        ((s.currentWorkType = .request ∧ ∃ id, ctx.sendQueue.head? = some id ∧
            Core.Step c s.core (.cuts q id) s'.core) ∨
          (s.currentWorkType = .response ∧ Core.Step c s.core (.responds q) s'.core)))
      (s.sendTransaction c q) := by
  refine sendTransaction_spec trivial trivial (fun ctx hq => ?_) ?_
  · exact .of_forall (fun _ h => h) fun _ _ => trivial
  · intro ctx packet ctx₁ s₁ hq hpacket hcharged
    refine scheduleNext_core.imp fun s' hs' => ⟨ctx, hq, ?_⟩
    have hcore : s₁.core = { s.core with history := .transaction packet :: s.core.history } := by
      have hrecord := core_record (s := s) (.transaction packet) rfl
      rw [← hrecord]
      simp [core, hcharged.qps, hcharged.pipeline, hcharged.pending, hcharged.pcieIssues,
        hcharged.pcieCompletions, hcharged.log, Callback.work, Callback.isJob]
    rw [hs', core_setQp, hcore]
    cases hw : s.currentWorkType with
    | request =>
      rw [hw] at hpacket
      obtain ⟨id, queue, op, hqueue, -⟩ := QpContext.createRequestPacket_ok hpacket
      have hid : ctx.sendQueue.head? = some id := by rw [hqueue]; rfl
      refine .inl ⟨rfl, id, hid, ?_⟩
      exact .cuts (core_qps hq) hid (QpContext.createRequestPacket_forget hpacket)
    | response =>
      rw [hw] at hpacket
      simp only [createPacket] at hpacket
      split at hpacket
      · have hstep := Core.Step.responds (c := c) (core_qps hq)
          (QpContext.createResponsePacket_forget hpacket)
        obtain ⟨request, queue, -, hopcode, -, rfl⟩ := QpContext.createResponsePacket_ok hpacket
        have hread : packet.opcode ≠ .readRequest := by rw [hopcode]; decide
        refine .inr ⟨rfl, ?_⟩
        simp only [chargeQp, if_neg hread]
        exact hstep
      · cases hpacket

lemma postOp_core {op : RdmaOp} :
    Ensures AnyFault (fun s' => ∃ ctx ctx', s.core.qps q = some ctx ∧ ctx.Enqueues op ctx' ∧
      s'.core = s.core.setQp q ctx') (s.postOp c q op) := by
  refine (getQp_spec trivial).bind fun ctx hq => ?_
  refine (enqueueOp_spec trivial).bind fun ctx' hctx' => ?_
  have hforget : ctx.forget.Enqueues op ctx'.forget := by
    cases hctx' with
    | recv recv hop => exact .recv recv hop
    | send dest hop => exact .send dest hop
  refine .ite (fun _ => ?_) fun _ => ⟨_, _, core_qps hq, hforget, core_setQp⟩
  exact notify_core.imp fun s' h => ⟨_, _, core_qps hq, hforget, h.trans core_setQp⟩

lemma enqueueReadRequest_core {request : InboundReadRequest} :
    Ensures AnyFault (fun s' => ∃ ctx, s.core.qps q = some ctx ∧ s'.core = s.core.setQp q
        { ctx with
          inboundReadRequestQueue := ctx.inboundReadRequestQueue ++ [request] })
      (s.enqueueReadRequest c q request) := by
  refine (getQp_spec trivial).bind fun ctx hq => ?_
  refine .ite (fun _ => ?_) fun _ => ⟨_, core_qps hq, core_setQp⟩
  exact notify_core.imp fun s' h => ⟨_, core_qps hq, h.trans core_setQp⟩

lemma createRcQp_core {remote : QpId} {scid : Nat} {credit : FalconCredit}
    {mode : RdmaConnectedMode} :
    Ensures AnyFault (fun s' => Core.Step c s.core (.creates q) s'.core)
      (s.createRcQp c q remote scid credit mode) := by
  refine .ite (fun _ => .fail trivial) fun _ => .ite (fun _ => .fail trivial) fun hnone => ?_
  have hnone : s.qps q = none := by simpa using hnone
  rw [Ensures.ok_iff, core_setQp]
  refine .creates ?_ ⟨rfl, rfl, rfl, rfl, rfl, rfl, rfl, rfl, rfl⟩
  simp [core, hnone]

lemma core_schedule_job {callback : Callback} (hwork : callback.work = none)
    (hjob : callback.isJob = true) :
    (s.schedule delay callback).core = { s.core with jobs := callback ::ₘ s.core.jobs } := by
  simp only [core, schedule, List.filterMap_append, List.map_append, List.map_cons, List.map_nil,
    List.filter_append, Core.mk.injEq, true_and, and_true]
  constructor
  · simp [hwork]
  · simp only [List.filter_cons, hjob, if_true, List.filter_nil]
    rw [← Multiset.coe_add, add_comm]
    rfl

lemma core_schedule_work :
    (s.schedule delay (.enterPipeline work)).core =
      { s.core with arriving := work ::ₘ s.core.arriving } := by
  simp only [core, schedule, List.filterMap_append, List.map_append, List.map_cons, List.map_nil,
    List.filter_append, Core.mk.injEq, true_and, and_true]
  constructor
  · rw [← Multiset.coe_add, ← add_assoc, add_comm]
    rfl
  · simp [Callback.isJob]

lemma performOp_core {opcode : RdmaOpcode} {sgl : List Word} {isInline : Bool} {dest : QpId} :
    Ensures AnyFault (fun s' => ∃ op, (op = { opcode, sgl, destQpId := dest } ∨
        opcode ≠ .read ∧ op = { opcode, inlinePayloadLength := sgl.sum, destQpId := dest }) ∧
        Core.Step c s.core (.posts q op) s'.core)
      (s.performOp c q opcode sgl isInline dest) := by
  have hposts : ∀ op, Core.Step c s.core (.posts q op) (s.schedule 0 (.postOp q op)).core := by
    intro op
    rw [core_schedule_job rfl rfl]
    exact .posts q op
  refine .ite (fun _ => .fail trivial) fun _ => .ite (fun _ => ?_) fun _ =>
    .ite (fun _ => .fail trivial) fun hopcode => .ite (fun _ => .fail trivial) fun _ => ?_
  · exact ⟨_, .inl rfl, hposts _⟩
  · exact ⟨_, .inr ⟨fun hread => hopcode (.inl hread), rfl⟩, hposts _⟩

lemma core_ackTransaction {scid : Nat} {syndrome : Syndrome} {recv : Option (QpId × OpId)} :
    (s.ackTransaction scid rsn syndrome recv).core =
      { s.core with
        history := (recv.map fun recv => Action.completionCallback recv.1 recv.2).toList ++
          s.core.history } := by
  cases recv with
  | none => simp [core, ackTransaction, Action.isOutcome]
  | some recv =>
    rfl

lemma issue_core {index : Nat} {write : PcieIssue} (hget : s.pcieIssues[index]? = some write) :
    Core.Step c s.core .issues
      (({ s with pcieIssues := s.pcieIssues.eraseIdx index } : RdmaModel).issue write).core := by
  let s₀ : RdmaModel := { s with pcieIssues := s.pcieIssues.eraseIdx index }
  have hissues : s.core.issues = write ::ₘ s₀.core.issues := by
    obtain ⟨hlt, hget⟩ := List.getElem?_eq_some_iff.mp hget
    subst hget
    exact Multiset.coe_eq_coe.mpr (List.getElem_cons_eraseIdx_perm hlt).symm
  cases write with
  | ack scid rsn ackTime recv =>
    unfold issue
    dsimp only
    cases recv with
    | none =>
      split
      · rw [core_schedule rfl rfl]
        exact .issuesAck hissues
      · rw [core_ackTransaction]
        exact .issuesAck hissues
    | some recv =>
      split
      · rw [core_schedule_job rfl rfl]
        exact .issuesRecv hissues
      · rw [core_ackTransaction]
        exact .issuesRecvNow hissues
  | readRequest q request ackTime =>
    have hstep : Core.Step c s.core .issues (s₀.schedule (max ackTime s₀.now - s₀.now)
        (.ackReadRequest q request)).core := by
      rw [core_schedule_job rfl rfl]
      exact .issuesRead hissues
    exact hstep

lemma refines_of_step {e : Event} (htaken : s.takes c l = e.taken)
    (hposts : ∀ q op, e ≠ .posts q op) (henters : ∀ work, e ≠ .enters work)
    (hstep : Core.Step c s.core e s'.core) : Refines c s l s' :=
  .inr ⟨e, ⟨htaken, fun q op he => absurd he (hposts q op),
    fun work he => absurd he (henters work)⟩, hstep⟩

lemma handleInput_core {time : Time} {input : Input} :
    Ensures AnyFault (Refines c s (.input time input))
      (({ s with now := time } : RdmaModel).handleInput c input) := by
  have hsame : ∀ s' : RdmaModel, s'.core = s.core → Refines c s (.input time input) s' :=
    fun s' h => .inl ⟨h, rfl⟩
  cases input with
  | createRcQp q remote scid credit mode =>
    exact createRcQp_core.imp fun s' h => refines_of_step (e := .creates q) rfl nofun nofun h
  | performOp q opcode sgl isInline dest =>
    refine performOp_core.imp fun s' ⟨op, hop, h⟩ => .inr ⟨.posts q op, ⟨rfl, ?_, nofun⟩, h⟩
    rintro q' op' ⟨⟩
    exact ⟨time, opcode, sgl, isInline, dest, rfl, hop⟩
  | handleRxTransaction packet =>
    refine .inr ⟨.enters (.transaction packet), ⟨rfl, nofun, ?_⟩, ?_⟩
    · rintro work ⟨⟩
      exact rfl
    · rw [core_schedule_work]
      exact .enters _
  | handleCompletion q rsn =>
    refine .inr ⟨.enters (.completion q rsn), ⟨rfl, nofun, ?_⟩, ?_⟩
    · rintro work ⟨⟩
      exact rfl
    · rw [core_schedule_work]
      exact .enters _
  | returnFalconCredit q credit => exact returnFalconCredit_core.imp fun s' h => hsame s' h
  | setXoff request all => exact setXoff_core.imp fun s' h => hsame s' h
  | backpressureXoff q request response =>
    exact backpressureXoff_core.imp fun s' h => hsame s' h
  | backpressureDynamicCredit q limit =>
    exact backpressureDynamicCredit_core.imp fun s' h => hsame s' h
  | pcieIssue index =>
    unfold handleInput
    dsimp only
    split
    · rename_i write hget
      exact refines_of_step (e := .issues) rfl nofun nofun
        (issue_core (s := { s with now := time }) hget)
    · exact hsame _ rfl
  | pcieComplete index =>
    unfold handleInput
    dsimp only
    split
    · rename_i q id hget
      refine refines_of_step (e := .completes) rfl nofun nofun ?_
      obtain ⟨hlt, hget⟩ := List.getElem?_eq_some_iff.mp hget
      have hcompletions : s.core.completions =
          (q, id) ::ₘ (s.pcieCompletions.eraseIdx index : Multiset (QpId × OpId)) := by
        rw [← hget]
        exact Multiset.coe_eq_coe.mpr (List.getElem_cons_eraseIdx_perm hlt).symm
      exact .completes hcompletions
    · exact hsame _ rfl

section Fire

variable {index : Nat} {randomRnr : Bool} {time : Time} {callback : Callback}

variable (hget : s.pending[index]? = some (time, callback))

include hget

lemma takes_fire (hwork : callback.work = none) (hdequeue : callback ≠ .pipelineDequeue) :
    s.takes c (.fire index randomRnr) = none := by
  cases callback with
  | enterPipeline work => exact absurd hwork nofun
  | pipelineDequeue => exact absurd rfl hdequeue
  | _ => simp [takes, hget]

lemma refines_of_unseen (hwork : callback.work = none) (hjob : callback.isJob = false)
    (hdequeue : callback ≠ .pipelineDequeue) (hcore : s'.core =
      ({ s with now := time, pending := s.pending.eraseIdx index } : RdmaModel).core) :
    Refines c s (.fire index randomRnr) s' :=
  .inl ⟨hcore.trans (core_fire_of_unseen hget hwork hjob), takes_fire hget hwork hdequeue⟩

lemma refines_of_job {e : Event} (hwork : callback.work = none) (hjob : callback.isJob = true)
    (htaken : e.taken = none) (hposts : ∀ q op, e ≠ .posts q op)
    (henters : ∀ work, e ≠ .enters work)
    (hstep : ∀ jobs, s.core.jobs = callback ::ₘ jobs →
      ({ s with now := time, pending := s.pending.eraseIdx index } : RdmaModel).core =
        { s.core with jobs } → Core.Step c s.core e s'.core) :
    Refines c s (.fire index randomRnr) s' := by
  obtain ⟨jobs, hjobs, hrest⟩ := core_fire_job hget hwork hjob
  refine refines_of_step ?_ hposts henters (hstep jobs hjobs hrest)
  rw [htaken]
  refine takes_fire hget hwork ?_
  rintro rfl
  exact absurd hjob nofun

omit hget

lemma sendTransaction_refines (hget : s.pending[index]? = some (time, .sendTransaction q)) :
    Ensures AnyFault (Refines c s (.fire index randomRnr))
      (({ s with now := time, pending := s.pending.eraseIdx index } : RdmaModel).sendTransaction c
        q) := by
  refine sendTransaction_core.imp fun s' ⟨ctx, hq, hs'⟩ => ?_
  rw [core_fire_of_unseen hget rfl rfl] at hs'
  obtain ⟨-, id, -, hcut⟩ | ⟨-, hrespond⟩ := hs'
  · exact refines_of_step (e := .cuts q id) (takes_fire hget rfl nofun) nofun nofun hcut
  · exact refines_of_step (e := .responds q) (takes_fire hget rfl nofun) nofun nofun hrespond

/-- The pipeline runs in a state `s₁` with the core of `s`. -/
lemma pipelineDequeue_refines {s₁ : RdmaModel} (hcore : s₁.core = s.core)
    (htakes : s.takes c l = s₁.dequeues c) :
    Ensures AnyFault (Refines c s l) (s₁.pipelineDequeue c randomRnr) := by
  refine pipelineDequeue_core.imp fun s' hs' => ?_
  obtain ⟨hnone, hs'⟩ | ⟨work, hsome, htake⟩ := hs'
  · exact .inl ⟨hs'.trans hcore, htakes.trans hnone⟩
  · exact refines_of_step (e := .takes work) (htakes.trans hsome) nofun nofun (hcore ▸ htake)

lemma enterPipeline_refines (hget : s.pending[index]? = some (time, .enterPipeline work)) :
    Ensures AnyFault (Refines c s (.fire index randomRnr))
      (({ s with now := time, pending := s.pending.eraseIdx index } : RdmaModel).runCallback c
        randomRnr (.enterPipeline work)) := by
  let s₀ : RdmaModel := { s with now := time, pending := s.pending.eraseIdx index }
  let s₁ : RdmaModel := { s₀ with pipeline := s₀.pipeline ++ [work] }
  have hpush : s₁.core = s.core := by
    have harriving : s.core = { s₀.core with arriving := work ::ₘ s₀.core.arriving } := by
      rw [core_fire hget]
      simp [Callback.work, Callback.isJob, s₀]
    rw [harriving]
    simp only [core, s₁, Core.mk.injEq, true_and, and_true]
    rw [← Multiset.coe_add, add_right_comm, add_comm]
    rfl
  refine (getQp_spec trivial).bind fun _ _ => .ite (fun hactive => ?_) fun hidle => ?_
  · have hactive : s.pipelineActive = true := hactive
    exact .inl ⟨hpush, by simp [takes, hget, hactive]⟩
  · have hidle : s.pipelineActive = false := by simpa using hidle
    refine pipelineDequeue_refines hpush ?_
    simp [takes, hget, hidle, dequeues]

lemma runCallback_core (hget : s.pending[index]? = some (time, callback)) :
    Ensures AnyFault (Refines c s (.fire index randomRnr))
      (({ s with now := time, pending := s.pending.eraseIdx index } : RdmaModel).runCallback c
        randomRnr callback) := by
  cases callback with
  | runWorkScheduler =>
    exact runWorkScheduler_core.imp fun s' h => refines_of_unseen hget rfl rfl nofun h
  | addQpToScheduleSet q w =>
    exact addQpToScheduleSet_core.imp fun s' h => refines_of_unseen hget rfl rfl nofun h
  | requeue q w =>
    exact addQpToScheduleSet_core.imp fun s' h => refines_of_unseen hget rfl rfl nofun h
  | initiateTransaction packet =>
    refine refines_of_unseen hget rfl rfl nofun ?_
    simp [core, Action.isOutcome]
  | sendTransaction q => exact sendTransaction_refines hget
  | postOp q op =>
    refine postOp_core.imp fun s' ⟨ctx, ctx', hq, henqueue, hs'⟩ => ?_
    refine refines_of_job (e := .enqueues q op) hget rfl rfl rfl nofun nofun
      fun jobs hjobs hrest => ?_
    rw [hs', hrest]
    exact .enqueues hjobs hq henqueue
  | enterPipeline work => exact enterPipeline_refines hget
  | pipelineDequeue =>
    refine pipelineDequeue_refines (core_fire_of_unseen hget rfl rfl) ?_
    simp [takes, hget, dequeues]
  | ackTransaction scid rsn syndrome recv =>
    cases recv with
    | none => exact refines_of_unseen hget rfl rfl nofun core_ackTransaction
    | some recv =>
      refine refines_of_job (e := .acks) hget rfl rfl rfl nofun nofun fun jobs hjobs hrest => ?_
      rw [core_ackTransaction, hrest]
      exact .acks hjobs
  | ackReadRequest q request =>
    refine (getQp_spec trivial).bind fun ctx hq => ?_
    refine refines_of_job (e := .acks) hget rfl rfl rfl nofun nofun fun jobs hjobs hrest => ?_
    rw [core_schedule_job rfl rfl, core_ackTransaction, hrest]
    exact .acksRead hjobs
  | enqueueReadRequest q request =>
    refine enqueueReadRequest_core.imp fun s' ⟨ctx, hq, hs'⟩ => ?_
    refine refines_of_job (e := .enqueuesRead q) hget rfl rfl rfl nofun nofun
      fun jobs hjobs hrest => ?_
    rw [hs', hrest]
    exact .enqueuesRead hjobs hq

end Fire

/-- Every step leaves the core as it is or is a step of the core. -/
lemma refines_of_next (hallowed : s.allowed l) (hnext : s.next c l = .ok s') :
    Refines c s l s' := by
  refine Ensures.of_ok (E := AnyFault) ?_ hnext
  cases l with
  | input time input => exact handleInput_core
  | fire index randomRnr =>
    obtain ⟨⟨time, callback⟩, hevent, -⟩ := hallowed
    have hget : s.pending[index]? = some (time, callback) := hevent
    simp only [next, hget]
    exact runCallback_core hget

/-- The schedulers, the credits and the clocks only choose among the steps of the core. -/
theorem run_refines_core {C : RdmaModel → Label → Prop} (h : (system c).Reachable C s) :
    Relation.ReflTransGen (fun k k' => ∃ e, Core.Step c k e k') (initial c).core s.core := by
  induction h with
  | init hs => exact hs ▸ .refl
  | step _ hallowed _ hnext ih =>
    obtain ⟨hcore, -⟩ | ⟨e, -, hstep⟩ := refines_of_next hallowed hnext
    · exact hcore ▸ ih
    · exact ih.tail ⟨e, hstep⟩

/-- A queue pair sends a write and a read and answers a read of its peer; Falcon reports the write
and delivers the response to the read, which the host interface then completes. -/
def servedRun : List Label :=
  [.input 0 (.createRcQp 1 11 1 0 .orderedRc), .input 0 (.performOp 1 .write [8] false 0),
    .input 0 (.performOp 1 .read [8] false 0),
    .input 0 (.handleRxTransaction { opcode := .readRequest, destQpId := 1, sgl := [8] })] ++
  List.replicate 11 (.fire 0 false) ++ [.input 120 (.pcieIssue 0)] ++
  List.replicate 6 (.fire 0 false) ++
  [.input 280 (.handleCompletion 1 0), .input 280 (.handleRxTransaction
    { opcode := .readResponseOnly, destQpId := 1, rsn := 1, sgl := [8] })] ++
  List.replicate 4 (.fire 0 false) ++ [.input 360 (.pcieComplete 0)]

theorem run_refines_core_served : ∃ s : RdmaModel,
    (s.sentAs 1 0 .writeOnly ∧ s.sentAs 1 1 .readRequest ∧ s.sentAs 1 0 .readResponseOnly ∧
      .completionCallback 1 0 ∈ s.log ∧ .completionCallback 1 1 ∈ s.log) ∧
    Relation.ReflTransGen (fun k k' => ∃ e, Core.Step defaultRdmaConfig k e k')
      (initial defaultRdmaConfig).core s.core := by
  obtain ⟨s, hs, hserved⟩ := TransitionSystem.Reachable.exists_of_run
    (T := tabulatedSystem defaultRdmaConfig) (C := fun _ _ => True)
    (P := fun s => s.sentAs 1 0 .writeOnly ∧ s.sentAs 1 1 .readRequest ∧
      s.sentAs 1 0 .readResponseOnly ∧ .completionCallback 1 0 ∈ s.log ∧
      .completionCallback 1 1 ∈ s.log) servedRun rfl (by decide +kernel)
  rw [tabulatedSystem_eq] at hs
  exact ⟨s, hserved, run_refines_core hs⟩

end RdmaModel

end Isekai.Rdma
