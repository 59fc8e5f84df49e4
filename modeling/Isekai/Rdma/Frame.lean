import Isekai.Rdma.Model

/-!
# What the scheduler can see of a step

`QpContext.ready` says that the head of a work queue may be scheduled. `Still` relates two states
that look the same to the work scheduler, except that operations may be gone. Receiving,
acknowledging and completing are still.
-/

namespace Isekai.Rdma

open Falcon (Time)
open Lib Function

namespace QpContext

variable {c : RdmaConfig} {ctx ctx' : QpContext} {w : WorkType}

def hasWork (ctx : QpContext) : WorkType → Prop
  | .request => ctx.sendQueue ≠ []
  | .response => ctx.inboundReadRequestQueue ≠ []

/-- The work queue has an item, the queue pair has the credits for it and is not xoffed, and a read
is below the limit of outstanding reads. -/
structure ready (c : RdmaConfig) (ctx : QpContext) (w : WorkType) : Prop where
  credits : ctx.hasCredits c w = true
  noXoff : ctx.xoff w = false
  belowLimit : w = .request → ctx.atOrdLimit c = false

lemma hasCredits_iff : ctx.hasCredits c w = true ↔
    ∃ credit, ctx.frontCredit c w = some credit ∧ ctx.creditUsage + credit ≤ ctx.creditLimit := by
  unfold hasCredits
  cases ctx.frontCredit c w with
  | none => simp
  | some credit => simp

lemma hasWork_of_hasCredits (h : ctx.hasCredits c w = true) : ctx.hasWork w := by
  cases w with
  | request =>
    intro hnil
    simp [hasCredits, frontCredit, frontOp, hnil] at h
  | response =>
    intro hnil
    simp [hasCredits, frontCredit, hnil] at h

def RdmaOp.SameRequest (op op' : RdmaOp) : Prop :=
  op'.opcode = op.opcode ∧ op'.sgl = op.sgl ∧ op'.inlinePayloadLength = op.inlinePayloadLength

lemma computeRequestCredit_congr {op op' : RdmaOp} (h : RdmaOp.SameRequest op op') :
    computeRequestCredit c op' = computeRequestCredit c op := by
  obtain ⟨hopcode, hsgl, hinline⟩ := h
  funext pool
  cases pool <;> simp only [computeRequestCredit, hopcode, hsgl, hinline]

def Fresh (ctx : QpContext) : Prop := ∀ id ∈ ctx.sendQueue, id < ctx.nextOp

/-- The context of a queue pair after a change that the scheduler does not see, except that
operations may be gone. -/
structure Calm (ctx ctx' : QpContext) : Prop where
  sendQueue : ctx'.sendQueue = ctx.sendQueue
  nextOp : ctx.nextOp ≤ ctx'.nextOp
  inbound : ctx'.inboundReadRequestQueue = ctx.inboundReadRequestQueue
  usage : ctx'.creditUsage = ctx.creditUsage
  limit : ctx'.creditLimit = ctx.creditLimit
  xoff : ctx'.xoff = ctx.xoff
  reads : ctx'.outboundReadRequests = ctx.outboundReadRequests
  ops : ∀ id op', ctx'.ops id = some op' → ∃ op, ctx.ops id = some op ∧ RdmaOp.SameRequest op op'

structure Blank (ctx : QpContext) : Prop where
  sendQueue : ctx.sendQueue = []
  inbound : ctx.inboundReadRequestQueue = []
  usage : ctx.creditUsage ≤ ctx.creditLimit
  reads : ctx.outboundReadRequests = 0

lemma Blank.fresh (h : ctx.Blank) : ctx.Fresh := by
  intro id hid
  rw [h.sendQueue] at hid
  cases hid

namespace Calm

lemma of_ops (hops : ctx'.ops = ctx.ops) (hsend : ctx'.sendQueue = ctx.sendQueue)
    (hnextOp : ctx.nextOp ≤ ctx'.nextOp)
    (hinbound : ctx'.inboundReadRequestQueue = ctx.inboundReadRequestQueue)
    (husage : ctx'.creditUsage = ctx.creditUsage) (hlimit : ctx'.creditLimit = ctx.creditLimit)
    (hxoff : ctx'.xoff = ctx.xoff)
    (hreads : ctx'.outboundReadRequests = ctx.outboundReadRequests) : ctx.Calm ctx' :=
  ⟨hsend, hnextOp, hinbound, husage, hlimit, hxoff, hreads,
    fun _ op' h => ⟨op', hops ▸ h, rfl, rfl, rfl⟩⟩

lemma refl (ctx : QpContext) : ctx.Calm ctx := of_ops rfl rfl le_rfl rfl rfl rfl rfl rfl

variable (h : ctx.Calm ctx')

include h

lemma trans {ctx'' : QpContext} (h' : ctx'.Calm ctx'') : ctx.Calm ctx'' where
  sendQueue := h'.sendQueue.trans h.sendQueue
  nextOp := h.nextOp.trans h'.nextOp
  inbound := h'.inbound.trans h.inbound
  usage := h'.usage.trans h.usage
  limit := h'.limit.trans h.limit
  xoff := h'.xoff.trans h.xoff
  reads := h'.reads.trans h.reads
  ops id op'' hop'' := by
    obtain ⟨op', hop', hsame'⟩ := h'.ops id op'' hop''
    obtain ⟨op, hop, hsame⟩ := h.ops id op' hop'
    exact ⟨op, hop, hsame'.1.trans hsame.1, hsame'.2.1.trans hsame.2.1,
      hsame'.2.2.trans hsame.2.2⟩

lemma frontOp {op' : RdmaOp} (hop' : ctx'.frontOp = some op') :
    ∃ op, ctx.frontOp = some op ∧ RdmaOp.SameRequest op op' := by
  unfold QpContext.frontOp at hop'
  rw [h.sendQueue] at hop'
  obtain ⟨id, hid, hop'⟩ := Option.bind_eq_some_iff.mp hop'
  obtain ⟨op, hop, hsame⟩ := h.ops id op' hop'
  exact ⟨op, by simp [QpContext.frontOp, hid, hop], hsame⟩

lemma hasCredits (hcredits : ctx'.hasCredits c w = true) : ctx.hasCredits c w = true := by
  obtain ⟨credit, hfront, hle⟩ := hasCredits_iff.mp hcredits
  rw [h.usage, h.limit] at hle
  refine hasCredits_iff.mpr ⟨credit, ?_, hle⟩
  cases w with
  | response => rwa [frontCredit, h.inbound] at hfront
  | request =>
    obtain ⟨op', hop', rfl⟩ := Option.map_eq_some_iff.mp hfront
    obtain ⟨op, hop, hsame⟩ := h.frontOp hop'
    simp [frontCredit, hop, computeRequestCredit_congr hsame]

lemma hasWork (hwork : ctx.hasWork w) : ctx'.hasWork w := by
  cases w with
  | request => exact fun hnil => hwork (h.sendQueue ▸ hnil)
  | response => exact fun hnil => hwork (h.inbound ▸ hnil)

lemma atOrdLimit_eq {op' : RdmaOp} (hop' : ctx'.frontOp = some op') :
    ctx'.atOrdLimit c = ctx.atOrdLimit c := by
  obtain ⟨op, hop, hsame⟩ := h.frontOp hop'
  simp only [QpContext.atOrdLimit, h.reads, hop, hop', Option.map_some, hsame.1]

lemma atOrdLimit (hlimit : ctx'.atOrdLimit c = true) : ctx.atOrdLimit c = true := by
  cases hop' : ctx'.frontOp with
  | none => simp [QpContext.atOrdLimit, hop'] at hlimit
  | some op' => rw [← h.atOrdLimit_eq hop', hlimit]

lemma ready (hready : ctx'.ready c w) : ctx.ready c w := by
  have hxoff : ctx.xoff w = false := by rw [← h.xoff]; exact hready.noXoff
  refine ⟨h.hasCredits hready.credits, hxoff, fun hw => ?_⟩
  subst hw
  obtain ⟨_, hfront, -⟩ := hasCredits_iff.mp hready.credits
  obtain ⟨op', hop', -⟩ := Option.map_eq_some_iff.mp hfront
  rw [← h.atOrdLimit_eq hop', hready.belowLimit rfl]

lemma fresh (hfresh : ctx.Fresh) : ctx'.Fresh :=
  fun id hid => (hfresh id (h.sendQueue ▸ hid)).trans_le h.nextOp

lemma blank (hblank : ctx.Blank) : ctx'.Blank where
  sendQueue := h.sendQueue.trans hblank.sendQueue
  inbound := h.inbound.trans hblank.inbound
  usage := by
    rw [h.usage, h.limit]
    exact hblank.usage
  reads := h.reads.trans hblank.reads

end Calm

lemma calm_accept (ctx : QpContext) : ctx.Calm ctx.accept := by
  unfold accept
  split
  · exact .of_ops rfl rfl le_rfl rfl rfl rfl rfl rfl
  · exact .refl ctx

lemma calm_enterRnrState (ctx : QpContext) : ctx.Calm ctx.enterRnrState := by
  unfold enterRnrState
  split
  · exact .of_ops rfl rfl le_rfl rfl rfl rfl rfl rfl
  · exact .refl ctx

lemma matchRecv_eq {packet : Packet} {id : Option OpId}
    (h : ctx.matchRecv c packet = some (ctx', id)) :
    ∃ queue, ctx' = { ctx with receiveQueue := queue } := by
  unfold matchRecv at h
  split at h
  · cases h
  · rename_i id op queue _
    dsimp only at h
    split at h
    · split at h <;> simp_all
      exact ⟨queue, h.1.symm⟩
    · split at h
      · cases h
      · split at h
        · simp only [Option.some.injEq, Prod.mk.injEq] at h
          exact ⟨_, h.1.symm⟩
        · simp only [Option.some.injEq, Prod.mk.injEq] at h
          exact ⟨_, h.1.symm⟩

lemma calm_matchRecv {packet : Packet} {id : Option OpId}
    (h : ctx.matchRecv c packet = some (ctx', id)) : ctx.Calm ctx' := by
  obtain ⟨queue, rfl⟩ := matchRecv_eq h
  exact .of_ops rfl rfl le_rfl rfl rfl rfl rfl rfl

/-- What a response or completion for a request does: the operation of the request is counted, and
the operation that owns the last sequence number is erased with the last response. -/
lemma finishRequest_ok {rsn : Rsn} {finished : Option OpId}
    (h : ctx.finishRequest rsn = .ok (ctx', finished)) :
    ∃ id op, ctx.rsnToOp rsn = some id ∧ ctx.ops id = some op ∧
      (((0 < op.nSeqs ∧ op.nSeqsFinished + 1 = op.nSeqs) ∧ finished = some id ∧
        ∃ owned, ctx.completionQueue op.endSeq = some owned ∧
          ctx' =
            { ctx with
              ops := update (update ctx.ops id
                (some { op with nSeqsFinished := op.nSeqsFinished + 1 })) owned none
              rsnToOp := update ctx.rsnToOp rsn none
              completionQueue := update ctx.completionQueue op.endSeq none }) ∨
      (¬(0 < op.nSeqs ∧ op.nSeqsFinished + 1 = op.nSeqs) ∧ finished = none ∧
        ctx' =
          { ctx with
            ops := update ctx.ops id
              (some { op with nSeqsFinished := op.nSeqsFinished + 1 })
            rsnToOp := update ctx.rsnToOp rsn none })) := by
  unfold finishRequest at h
  split at h
  · cases h
  · rename_i id hid
    split at h
    · cases h
    · rename_i op hop
      refine ⟨id, op, hid, hop, ?_⟩
      dsimp only at h
      split at h
      · rename_i hlast
        split at h
        · cases h
        · rename_i owned howned
          cases h
          exact .inl ⟨hlast, rfl, owned, howned, rfl⟩
      · rename_i hlast
        cases h
        exact .inr ⟨hlast, rfl, rfl⟩

lemma calm_finishRequest {rsn : Rsn} {finished : Option OpId}
    (h : ctx.finishRequest rsn = .ok (ctx', finished)) : ctx.Calm ctx' := by
  obtain ⟨id, op, -, hop, hcases⟩ := finishRequest_ok h
  have hcounted : ∀ i op', update ctx.ops id
      (some { op with nSeqsFinished := op.nSeqsFinished + 1 }) i = some op' →
      ∃ op₀, ctx.ops i = some op₀ ∧ RdmaOp.SameRequest op₀ op' := by
    intro i op' hi
    by_cases hid : i = id
    · subst hid
      rw [update_self] at hi
      cases hi
      exact ⟨op, hop, rfl, rfl, rfl⟩
    · rw [update_of_ne hid] at hi
      exact ⟨op', hi, rfl, rfl, rfl⟩
  obtain ⟨-, -, owned, -, rfl⟩ | ⟨-, -, rfl⟩ := hcases
  · refine ⟨rfl, le_rfl, rfl, rfl, rfl, rfl, rfl, fun i op' hi => ?_⟩
    dsimp only at hi
    by_cases howned : i = owned
    · subst howned
      rw [update_self] at hi
      cases hi
    · rw [update_of_ne howned] at hi
      exact hcounted i op' hi
  · exact ⟨rfl, le_rfl, rfl, rfl, rfl, rfl, rfl, hcounted⟩

/-- A posted receive goes to the receive queue, and every other operation gets a new name and goes
to the send queue. -/
inductive Enqueues (op : RdmaOp) (ctx : QpContext) : QpContext → Prop
  | recv (recv : RdmaOp) (hop : op.opcode = .recv) : Enqueues op ctx
      { ctx with
        nextOp := ctx.nextOp + 1
        receiveQueue := ctx.receiveQueue ++ [(ctx.nextOp, recv)] }
  | send (dest : QpId) (hop : op.opcode ≠ .recv) : Enqueues op ctx
      { ctx with
        nextOp := ctx.nextOp + 1
        ops := update ctx.ops ctx.nextOp (some { op with destQpId := dest })
        sendQueue := ctx.sendQueue ++ [ctx.nextOp] }

end QpContext

def Callback.isScheduling : Callback → Bool
  | .runWorkScheduler | .sendTransaction _ | .addQpToScheduleSet _ _ | .requeue _ _ => true
  | _ => false

inductive QpContext.Remains : Option QpContext → Option QpContext → Prop
  | none : Remains none none
  | created {ctx : QpContext} (h : ctx.Blank) : Remains none (some ctx)
  | calm {ctx ctx' : QpContext} (h : ctx.Calm ctx') : Remains (some ctx) (some ctx')

/-- Nothing that the work scheduler reads has changed, except that operations may be gone. -/
structure Still (s s' : RdmaModel) : Prop where
  wqs : s'.wqs = s.wqs
  qpSet : s'.qpSet = s.qpSet
  isIdle : s'.isIdle = s.isIdle
  currentWorkType : s'.currentWorkType = s.currentWorkType
  quantaBytes : s'.remainingQuantaBytes = s.remainingQuantaBytes
  quantaOps : s'.remainingQuantaOps = s.remainingQuantaOps
  credits : s'.remainingGlobalCredits = s.remainingGlobalCredits
  bucket : s'.txTokenBucket = s.txTokenBucket
  pending : s'.pending.filter (fun event => event.2.isScheduling) =
    s.pending.filter fun event => event.2.isScheduling
  qps : ∀ q, QpContext.Remains (s.qps q) (s'.qps q)

def NoQueueFault (e : Fatal) : Prop :=
  e ≠ .emptySendQueue ∧ e ≠ .emptyInboundReadRequestQueue ∧ e ≠ .popFrontOfEmptyList ∧
    e ≠ .noActiveSqs ∧ e ≠ .noActiveIirqs

instance : DecidablePred NoQueueFault := fun _ => inferInstanceAs (Decidable (_ ∧ _))

def Ordinary (e : Fatal) : Prop := NoQueueFault e ∧ e ≠ .insufficientTokens

instance : DecidablePred Ordinary := fun _ => inferInstanceAs (Decidable (_ ∧ _))

namespace QpContext.Remains

lemma refl (entry : Option QpContext) : Remains entry entry := by
  cases entry with
  | none => exact .none
  | some ctx => exact .calm (.refl ctx)

lemma trans {a b c : Option QpContext} (h : Remains a b) (h' : Remains b c) : Remains a c := by
  cases h with
  | none => exact h'
  | created hblank =>
    cases h' with
    | calm hcalm => exact .created (hcalm.blank hblank)
  | calm hcalm =>
    cases h' with
    | calm hcalm' => exact .calm (hcalm.trans hcalm')

lemma of_some {entry : Option QpContext} {ctx : QpContext} (h : Remains (some ctx) entry) :
    ∃ ctx', entry = some ctx' ∧ ctx.Calm ctx' := by
  cases h with
  | calm hcalm => exact ⟨_, rfl, hcalm⟩

lemma to_some {entry : Option QpContext} {ctx' : QpContext} (h : Remains entry (some ctx')) :
    (entry = .none ∧ ctx'.Blank) ∨ ∃ ctx, entry = some ctx ∧ ctx.Calm ctx' := by
  cases h with
  | created hblank => exact .inl ⟨rfl, hblank⟩
  | calm hcalm => exact .inr ⟨_, rfl, hcalm⟩

end QpContext.Remains

lemma RdmaModel.eraseIdx_perm {s : RdmaModel} {index : Nat} {event : Time × Callback}
    (hevent : s.pending[index]? = some event) :
    ∃ before after, s.pending = before ++ event :: after ∧
      s.pending.eraseIdx index = before ++ after := by
  obtain ⟨hlt, hget⟩ := List.getElem?_eq_some_iff.mp hevent
  refine ⟨s.pending.take index, s.pending.drop (index + 1), ?_, List.eraseIdx_eq_take_drop_succ _ _⟩
  rw [← hget, List.cons_getElem_drop_succ, List.take_append_drop]

namespace Still

variable {s s' s'' : RdmaModel} {q : QpId} {ctx ctx' : QpContext}

lemma of_eq (hwqs : s'.wqs = s.wqs) (hset : s'.qpSet = s.qpSet) (hidle : s'.isIdle = s.isIdle)
    (hcurrent : s'.currentWorkType = s.currentWorkType)
    (hbytes : s'.remainingQuantaBytes = s.remainingQuantaBytes)
    (hops : s'.remainingQuantaOps = s.remainingQuantaOps)
    (hcredits : s'.remainingGlobalCredits = s.remainingGlobalCredits)
    (hbucket : s'.txTokenBucket = s.txTokenBucket) (hpending : s'.pending = s.pending)
    (hqps : s'.qps = s.qps) : Still s s' :=
  ⟨hwqs, hset, hidle, hcurrent, hbytes, hops, hcredits, hbucket, by rw [hpending],
    fun q => hqps ▸ .refl _⟩

lemma refl (s : RdmaModel) : Still s s := of_eq rfl rfl rfl rfl rfl rfl rfl rfl rfl rfl

lemma trans (h : Still s s') (h' : Still s' s'') : Still s s'' where
  wqs := h'.wqs.trans h.wqs
  qpSet := h'.qpSet.trans h.qpSet
  isIdle := h'.isIdle.trans h.isIdle
  currentWorkType := h'.currentWorkType.trans h.currentWorkType
  quantaBytes := h'.quantaBytes.trans h.quantaBytes
  quantaOps := h'.quantaOps.trans h.quantaOps
  credits := h'.credits.trans h.credits
  bucket := h'.bucket.trans h.bucket
  pending := h'.pending.trans h.pending
  qps q := (h.qps q).trans (h'.qps q)

lemma schedule {delay : Time} {callback : Callback} (hcallback : callback.isScheduling = false) :
    Still s (s.schedule delay callback) where
  wqs := rfl
  qpSet := rfl
  isIdle := rfl
  currentWorkType := rfl
  quantaBytes := rfl
  quantaOps := rfl
  credits := rfl
  bucket := rfl
  pending := by simp [RdmaModel.schedule, List.filter_append, hcallback]
  qps q := .refl _

lemma setQp (hq : QpContext.Remains (s.qps q) (some ctx')) : Still s (s.setQp q ctx') where
  wqs := rfl
  qpSet := rfl
  isIdle := rfl
  currentWorkType := rfl
  quantaBytes := rfl
  quantaOps := rfl
  credits := rfl
  bucket := rfl
  pending := rfl
  qps q' := by
    by_cases hqq : q' = q
    · subst hqq
      simpa [RdmaModel.setQp] using hq
    · simpa [RdmaModel.setQp, hqq] using QpContext.Remains.refl (s.qps q')

lemma setQp_calm (hq : s.qps q = some ctx) (hcalm : ctx.Calm ctx') : Still s (s.setQp q ctx') :=
  setQp (hq ▸ .calm hcalm)

lemma eraseIdx {index : Nat} {time : Time} {callback : Callback}
    (hget : s.pending[index]? = some (time, callback)) (hcallback : callback.isScheduling = false) :
    Still s { s with now := time, pending := s.pending.eraseIdx index } where
  wqs := rfl
  qpSet := rfl
  isIdle := rfl
  currentWorkType := rfl
  quantaBytes := rfl
  quantaOps := rfl
  credits := rfl
  bucket := rfl
  pending := by
    obtain ⟨before, after, hpending, herase⟩ := RdmaModel.eraseIdx_perm hget
    rw [herase, hpending]
    simp [List.filter_append, hcallback]
  qps q := .refl _

end Still

namespace RdmaModel

variable {c : RdmaConfig} {s : RdmaModel} {q : QpId} {ctx : QpContext} {E : Fatal → Prop}
  {rsn : Rsn} {packet : Packet}

lemma getQp_spec (hE : E .qpContextNotFound) :
    Ensures E (fun ctx => s.qps q = some ctx) (s.getQp q) := by
  unfold getQp
  split
  · assumption
  · exact hE

lemma isRsnAcceptable_spec (hE : E .outOfOrderRsn) :
    Ensures E (fun _ => True) (ctx.isRsnAcceptable rsn) := by
  unfold QpContext.isRsnAcceptable
  split
  · split
    · trivial
    · exact hE
  · trivial

lemma rnrNack_still (hq : s.qps q = some ctx) : Still s (s.rnrNack c q ctx rsn) :=
  (Still.setQp_calm hq (QpContext.calm_enterRnrState ctx)).trans (Still.schedule rfl)

lemma setQp_push_still {ctx' : QpContext} (hq : s.qps q = some ctx) (hcalm : ctx.Calm ctx')
    {issues : List PcieIssue} : Still s { s.setQp q ctx' with pcieIssues := issues } :=
  (Still.setQp_calm hq hcalm).trans (.of_eq rfl rfl rfl rfl rfl rfl rfl rfl rfl rfl)

lemma enqueueOp_spec (hE : E .unsupportedVerb) {op : RdmaOp} :
    Ensures E (QpContext.Enqueues op ctx) (enqueueOp ctx op) := by
  refine .ite (fun _ => ?_) fun _ => .fail hE
  have hop : ∃ dest, (if ctx.isConnected = true then { op with destQpId := ctx.destQpId } else op) =
      { op with destQpId := dest } := by
    split
    · exact ⟨_, rfl⟩
    · exact ⟨op.destQpId, rfl⟩
  obtain ⟨dest, hop⟩ := hop
  rw [hop]
  by_cases hrecv : op.opcode = .recv
  · simp only [Ensures.ok_iff, if_pos hrecv]
    exact .recv _ hrecv
  · simp only [Ensures.ok_iff, if_neg hrecv]
    exact .send dest hrecv

lemma processIncomingWrite_still (hq : s.qps q = some ctx) {randomRnr : Bool} :
    Ensures Ordinary (Still s) (s.processIncomingWrite c q ctx packet randomRnr) := by
  refine (isRsnAcceptable_spec (by decide)).bind fun acceptable _ => ?_
  refine .ite (fun _ => ?_) fun _ => rnrNack_still hq
  exact setQp_push_still hq (QpContext.calm_accept ctx)

lemma processIncomingReadRequest_still (hq : s.qps q = some ctx) {randomRnr : Bool} :
    Ensures Ordinary (Still s) (s.processIncomingReadRequest c q ctx packet randomRnr) := by
  refine (isRsnAcceptable_spec (by decide)).bind fun acceptable _ => ?_
  refine .ite (fun _ => ?_) fun _ => rnrNack_still hq
  exact setQp_push_still hq (QpContext.calm_accept ctx)

lemma processIncomingSend_still (hq : s.qps q = some ctx) :
    Ensures Ordinary (Still s) (s.processIncomingSend c q ctx packet) := by
  have hacceptable : Ensures Ordinary (fun _ => True) (isSendAcceptable ctx packet.rsn) :=
    .ite (fun _ => .fail (by decide)) fun _ =>
      .ite (fun _ => trivial) fun _ => isRsnAcceptable_spec (by decide)
  refine hacceptable.bind fun acceptable _ => ?_
  split
  · exact rnrNack_still hq
  · rename_i ctx' recv hmatch
    split at hmatch
    · exact setQp_push_still hq
        ((QpContext.calm_matchRecv hmatch).trans (QpContext.calm_accept ctx'))
    · cases hmatch

lemma finishRequest_spec (hE : E .rsnNotInRsnToOp) (hE' : E .danglingOp) :
    Ensures E (fun r => ctx.finishRequest rsn = .ok r) (ctx.finishRequest rsn) := by
  refine .of_forall (fun r h => h) fun e h => ?_
  unfold QpContext.finishRequest at h
  split at h
  · cases h
    exact hE
  · split at h
    · cases h
      exact hE'
    · dsimp only at h
      split at h
      · split at h
        · cases h
          exact hE'
        · cases h
      · cases h

lemma processCompletion_still (hq : s.qps q = some ctx) :
    Ensures Ordinary (Still s) (s.processCompletion c q ctx rsn) := by
  refine (finishRequest_spec (by decide) (by decide)).bind fun ⟨ctx', finished⟩ hfinish => ?_
  have hstill : Still s (s.setQp q ctx') :=
    .setQp_calm hq (QpContext.calm_finishRequest hfinish)
  cases finished with
  | none => exact hstill.trans (.of_eq rfl rfl rfl rfl rfl rfl rfl rfl rfl rfl)
  | some id =>
    refine .ite (fun _ => ?_) fun _ => ?_
    · exact hstill.trans (.of_eq rfl rfl rfl rfl rfl rfl rfl rfl rfl rfl)
    · exact hstill.trans (.of_eq rfl rfl rfl rfl rfl rfl rfl rfl rfl rfl)

lemma issue_still {write : PcieIssue} : Still s (s.issue write) := by
  cases write with
  | ack scid rsn ackTime recv =>
    unfold issue
    dsimp only
    split
    · exact .schedule rfl
    · exact .of_eq rfl rfl rfl rfl rfl rfl rfl rfl rfl rfl
  | readRequest qpId request ackTime =>
    have hcallback : (Callback.ackReadRequest qpId request).isScheduling = false := rfl
    exact .schedule hcallback

lemma ackReadRequest_still {request : InboundReadRequest} :
    Ensures Ordinary (Still s) (s.ackReadRequest c q request) := by
  refine (getQp_spec (by decide)).bind fun ctx _ => ?_
  have hack : Still s (s.ackTransaction ctx.scid request.rsn .ack none) :=
    .of_eq rfl rfl rfl rfl rfl rfl rfl rfl rfl rfl
  exact hack.trans (.schedule rfl)

lemma performOp_still {opcode : RdmaOpcode} {sgl : List Word} {isInline : Bool} {dest : QpId} :
    Ensures Ordinary (Still s) (s.performOp c q opcode sgl isInline dest) := by
  refine .ite (fun _ => .fail (by decide)) fun _ => .ite (fun _ => ?_) fun _ => ?_
  · exact Still.schedule rfl
  · refine .ite (fun _ => .fail (by decide)) fun _ => .ite (fun _ => .fail (by decide)) fun _ => ?_
    exact Still.schedule rfl

lemma createRcQp_still {remote : QpId} {scid : Nat} {credit : FalconCredit}
    {mode : RdmaConnectedMode} :
    Ensures Ordinary (Still s) (s.createRcQp c q remote scid credit mode) := by
  refine .ite (fun _ => .fail (by decide)) fun _ => .ite (fun _ => .fail (by decide))
    fun hnone => ?_
  have hnone : s.qps q = none := by simpa using hnone
  refine Still.setQp (hnone ▸ .created ⟨rfl, rfl, fun pool => ?_, rfl⟩)
  split
  · exact BitVec.le_refl _
  · exact BitVec.le_def.mpr (Nat.zero_le _)

end RdmaModel

end Isekai.Rdma
