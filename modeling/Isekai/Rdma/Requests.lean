import Isekai.Rdma.Frame

/-!
# The transactions of the work scheduler

What `CreateRequestPacket`, `CreateResponsePacket` and `SendTransaction` do, for the proofs that
follow a transaction from the work queue to Falcon.
-/

namespace Isekai.Rdma

open Falcon (Time)
open Lib Function

lemma update_eq_some_iff {α β : Type} [DecidableEq α] {f : α → Option β} {a x : α} {v : Option β}
    {y : β} : update f a v x = some y ↔
      (x = a ∧ v = some y) ∨ (x ≠ a ∧ f x = some y) := by
  by_cases hx : x = a
  · simp [hx]
  · simp [hx]

def RdmaOpcode.packetOpcode : RdmaOpcode → PacketOpcode
  | .send => .sendOnly
  | .write => .writeOnly
  | .read => .readRequest
  | .recv => .invalid

namespace QpContext

variable {c : RdmaConfig} {ctx ctx' : QpContext} {packet : Packet}

def remainder (c : RdmaConfig) (op : RdmaOp) : List Word :=
  if op.inlinePayloadLength ≠ 0 then [] else (cutPacketFromSgl op.sgl c.mtu).2

lemma createRequestPacket_ok (h : ctx.createRequestPacket c = .ok (packet, ctx')) :
    ∃ id queue op, ctx.sendQueue = id :: queue ∧ ctx.ops id = some op ∧ op.opcode ≠ .recv ∧
      packet.opcode = op.opcode.packetOpcode ∧ packet.srcQpId = ctx.qpId ∧
      packet.rsn = ctx.nextRsn ∧ ctx' = ctx.recordRequest id op (remainder c op) := by
  unfold createRequestPacket at h
  split at h
  · cases h
  · rename_i id queue hqueue
    split at h
    · cases h
    · rename_i op hop
      refine ⟨id, queue, op, hqueue, hop, ?_⟩
      obtain ⟨header, hheader, h⟩ := exists_of_bind_eq_ok h
      obtain ⟨⟨packet', rest⟩, hpayload, h⟩ := exists_of_bind_eq_ok h
      cases h
      have hrest : rest = remainder c op ∧ packet'.opcode = header.opcode := by
        unfold requestPayload at hpayload
        split at hpayload
        · rename_i hinline
          split at hpayload
          · cases hpayload
            exact ⟨(if_pos hinline).symm, rfl⟩
          · cases hpayload
        · rename_i hinline
          dsimp only at hpayload
          split at hpayload
          · cases hpayload
          · cases hpayload
            exact ⟨(if_neg hinline).symm, rfl⟩
      have hopcode : op.opcode ≠ .recv ∧ header.opcode = op.opcode.packetOpcode := by
        unfold requestHeader at hheader
        split at hheader <;> cases hheader <;> simp_all [RdmaOpcode.packetOpcode]
      exact ⟨hopcode.1, hrest.2.trans hopcode.2, rfl, rfl, by rw [hrest.1]⟩

lemma createResponsePacket_ok (h : ctx.createResponsePacket = .ok (packet, ctx')) :
    ∃ request queue, ctx.inboundReadRequestQueue = request :: queue ∧
      packet.opcode = .readResponseOnly ∧ packet.srcQpId = ctx.qpId ∧
      ctx' = { ctx with inboundReadRequestQueue := queue } := by
  unfold createResponsePacket at h
  split at h
  · cases h
  · rename_i request queue hqueue
    split at h
    · cases h
    · cases h
      exact ⟨request, queue, hqueue, rfl, rfl, rfl⟩

lemma recordRequest_queues (ctx : QpContext) (id : OpId) (op : RdmaOp) (rest : List Word) :
    ((ctx.recordRequest id op rest).sendQueue = ctx.sendQueue ∨
      (ctx.recordRequest id op rest).sendQueue = ctx.sendQueue.tail) ∧
    (ctx.recordRequest id op rest).inboundReadRequestQueue = ctx.inboundReadRequestQueue := by
  unfold recordRequest
  split
  · exact ⟨.inr rfl, rfl⟩
  · exact ⟨.inl rfl, rfl⟩

/-- A packet is cut from the operation. -/
structure Cut (ctx : QpContext) (op op' : RdmaOp) (last : Prop) : Prop where
  opcode : op'.opcode = op.opcode
  nSeqsFinished : op'.nSeqsFinished = op.nSeqsFinished
  more : ¬last → op'.nSeqs = op.nSeqs
  endSeq : last → op'.endSeq = ctx.nextRsn
  only : last → op.isScheduled = false → op'.nSeqs = 1

lemma recordRequest_cut (ctx : QpContext) (id : OpId) (op : RdmaOp) (rest : List Word) :
    ∃ op', Cut ctx op op' (rest = []) ∧ ctx.recordRequest id op rest =
      { ctx with
        ops := update ctx.ops id (some op')
        nextRsn := ctx.nextRsn + 1
        rsnToOp := update ctx.rsnToOp ctx.nextRsn (some id)
        completionQueue :=
          if rest = [] then update ctx.completionQueue ctx.nextRsn (some id)
          else ctx.completionQueue
        sendQueue := if rest = [] then ctx.sendQueue.tail else ctx.sendQueue } := by
  by_cases hlast : rest = []
  · simp only [recordRequest, hlast, if_true]
    refine ⟨_, ⟨?_, ?_, fun h => absurd trivial h, fun _ => rfl, fun _ hscheduled => ?_⟩, rfl⟩
    · cases hscheduled : op.isScheduled <;> rfl
    · cases hscheduled : op.isScheduled <;> rfl
    · simp [hscheduled]
  · simp only [recordRequest, hlast, if_false]
    refine ⟨_, ⟨?_, ?_, fun _ => ?_, fun h => h.elim, fun h => h.elim⟩, rfl⟩
    · cases hscheduled : op.isScheduled <;> rfl
    · cases hscheduled : op.isScheduled <;> rfl
    · cases hscheduled : op.isScheduled <;> rfl

section Cut

variable {ctx : QpContext} {id id' : OpId} {queue : List OpId} {rest : List Word} {rsn : Rsn}

lemma mem_sendQueue_cut (hqueue : ctx.sendQueue = id :: queue) (hnodup : ctx.sendQueue.Nodup) :
    id' ∈ (if rest = [] then ctx.sendQueue.tail else ctx.sendQueue) ↔
      id' ∈ ctx.sendQueue ∧ (id' = id → rest ≠ []) := by
  rw [hqueue, List.nodup_cons] at hnodup
  split
  · rename_i hlast
    simp only [hqueue, List.tail_cons, List.mem_cons, hlast, ne_eq, not_true_eq_false, imp_false]
    constructor
    · exact fun hmem => ⟨.inr hmem, fun heq => hnodup.1 (heq ▸ hmem)⟩
    · exact fun hmem => hmem.1.resolve_left hmem.2
  · rename_i hmore
    simp [hmore]

lemma nodup_sendQueue_cut (hnodup : ctx.sendQueue.Nodup) :
    (if rest = [] then ctx.sendQueue.tail else ctx.sendQueue).Nodup := by
  split
  · exact hnodup.tail
  · exact hnodup

lemma completionQueue_cut (hrsn : rsn < ctx.nextRsn) :
    (if rest = [] then update ctx.completionQueue ctx.nextRsn (some id)
      else ctx.completionQueue) rsn = ctx.completionQueue rsn := by
  split
  · exact update_of_ne hrsn.ne _ _
  · rfl

end Cut

lemma recordRequest_eq (ctx : QpContext) (id : OpId) (op : RdmaOp) (rest : List Word) :
    ∃ ops rsnToOp completionQueue nextRsn sendQueue, ctx.recordRequest id op rest =
      { ctx with ops, rsnToOp, completionQueue, nextRsn, sendQueue } := by
  unfold recordRequest
  split
  · exact ⟨_, _, _, _, _, rfl⟩
  · exact ⟨_, _, _, _, _, rfl⟩

end QpContext

namespace RdmaModel

variable {c : RdmaConfig} {s s' : RdmaModel} {q : QpId} {ctx : QpContext} {packet : Packet}
  {credit : FalconCredit} {w : WorkType} {E : Fatal → Prop}

/-- Why no packet is built: there is no item, the operation of the item is gone, or the item cannot
be sent. -/
lemma createPacket_error {e : Fatal} (h : createPacket c ctx w = .error e) :
    (¬ctx.hasWork w ∧ (e = .emptySendQueue ∨ e = .emptyInboundReadRequestQueue)) ∨
      (e = .danglingOp ∧ ∃ id, ctx.sendQueue.head? = some id ∧ ctx.ops id = none) ∨
      e ∈ [Fatal.recvScheduled, .sglAndInlinePayload, .sglLengthExceedsLimit,
        .readResponseInUdMode] := by
  cases w with
  | request =>
    simp only [createPacket, QpContext.createRequestPacket] at h
    split at h
    · rename_i hqueue
      cases h
      exact .inl ⟨fun hne => hne hqueue, .inl rfl⟩
    rename_i id queue hqueue
    split at h
    · rename_i hop
      cases h
      exact .inr (.inl ⟨rfl, id, by rw [hqueue]; rfl, hop⟩)
    · rename_i op _
      let E (e : Fatal) : Prop := e ∈ [Fatal.recvScheduled, .sglAndInlinePayload,
        .sglLengthExceedsLimit, .readResponseInUdMode]
      have hheader : Ensures E (fun _ => True) (QpContext.requestHeader op) := by
        unfold QpContext.requestHeader
        split
        · exact .fail (by decide)
        · trivial
        · trivial
        · trivial
      have hpayload : ∀ header, Ensures E (fun _ => True)
        (QpContext.requestPayload c op header) := by
        intro header
        refine .ite (fun _ => .ite (fun _ => trivial) fun _ => .fail (by decide)) fun _ => ?_
        dsimp only
        split
        · exact .fail (by decide)
        · trivial
      exact .inr (.inr ((hheader.bind fun header _ => (hpayload header).bind fun _ _ => by trivial :
        Ensures E (fun _ => True) _).of_error h))
  | response =>
    simp only [createPacket, QpContext.createResponsePacket] at h
    split at h
    · split at h
      · rename_i hqueue
        cases h
        exact .inl ⟨fun hne => hne hqueue, .inr rfl⟩
      · split at h
        · cases h
          exact .inr (.inr (by decide))
        · cases h
    · cases h
      exact .inr (.inr (by decide))

lemma createPacket_spec (hE : ∀ e, Ordinary e → E e)
    (hwork : ¬ctx.hasWork w → E .emptySendQueue ∧ E .emptyInboundReadRequestQueue) :
    Ensures E (fun r => createPacket c ctx w = .ok r) (createPacket c ctx w) := by
  refine .of_forall (fun _ h => h) fun e h => ?_
  obtain ⟨hnone, rfl | rfl⟩ | ⟨rfl, -⟩ | hmem := createPacket_error h
  · exact (hwork hnone).1
  · exact (hwork hnone).2
  · exact hE _ (by decide)
  · have hordinary : ∀ e ∈ [Fatal.recvScheduled, .sglAndInlinePayload, .sglLengthExceedsLimit,
        .readResponseInUdMode], Ordinary e := by decide
    exact hE e (hordinary e hmem)

lemma createPacket_hasWork {ctx' : QpContext} (h : createPacket c ctx w = .ok (packet, ctx'))
    {w' : WorkType} (hw : w' ≠ w) (hwork : ctx.hasWork w') : ctx'.hasWork w' := by
  cases w with
  | request =>
    obtain ⟨id, queue, op, -, -, -, -, -, -, rfl⟩ := QpContext.createRequestPacket_ok h
    cases w' with
    | request => exact absurd rfl hw
    | response =>
      have hqueues := (QpContext.recordRequest_queues ctx id op (QpContext.remainder c op)).2
      exact fun hnil => hwork (hqueues ▸ hnil)
  | response =>
    simp only [createPacket] at h
    split at h
    · obtain ⟨request, queue, -, -, -, rfl⟩ := QpContext.createResponsePacket_ok h
      cases w' with
      | request => exact hwork
      | response => exact absurd rfl hw
    · cases h

/-- The packet is sent and charged. -/
structure Charged (c : RdmaConfig) (s : RdmaModel) (packet : Packet) (s' : RdmaModel) : Prop where
  now : s'.now = s.now
  qps : s'.qps = s.qps
  wqs : s'.wqs = s.wqs
  qpSet : s'.qpSet = s.qpSet
  isIdle : s'.isIdle = s.isIdle
  currentWorkType : s'.currentWorkType = s.currentWorkType
  pending : s'.pending =
    s.pending ++ [(s.now + c.schedulerPipelineDelayTime, .initiateTransaction packet)]
  log : s'.log = .transaction packet :: s.log
  pipeline : s'.pipeline = s.pipeline
  pcieIssues : s'.pcieIssues = s.pcieIssues
  pcieCompletions : s'.pcieCompletions = s.pcieCompletions

lemma chargeScheduler_spec (hE : E .insufficientTokens) :
    Ensures E (Charged c s packet) (s.chargeScheduler c packet credit) := by
  unfold chargeScheduler
  split
  · exact hE
  · exact ⟨rfl, rfl, rfl, rfl, rfl, rfl, rfl, rfl, rfl, rfl, rfl⟩

lemma sendTransaction_spec {Q : RdmaModel → Prop} (hE : E .qpContextNotFound)
    (hE' : E .insufficientTokens) (hcreate : ∀ ctx, s.qps q = some ctx → Ensures E
      (fun r => createPacket c ctx s.currentWorkType = .ok r)
        (createPacket c ctx s.currentWorkType))
    (hnext : ∀ ctx packet ctx₁ s₁, s.qps q = some ctx →
      createPacket c ctx s.currentWorkType = .ok (packet, ctx₁) → Charged c s packet s₁ →
      Ensures E Q ((s₁.setQp q (chargeQp c s.now ctx₁ packet
        ((ctx.frontCredit c s.currentWorkType).getD 0))).scheduleNext c q
          (chargeQp c s.now ctx₁ packet ((ctx.frontCredit c s.currentWorkType).getD 0)))) :
    Ensures E Q (s.sendTransaction c q) := by
  refine (getQp_spec hE).bind fun ctx hq => ?_
  refine (hcreate ctx hq).bind fun ⟨packet, ctx₁⟩ hpacket => ?_
  refine (chargeScheduler_spec hE').bind fun s₁ hcharged => ?_
  exact hnext ctx packet ctx₁ s₁ hq hpacket hcharged

lemma atOrdLimit_chargeQp_response {ctx₁ : QpContext} (now : Time) (credit : FalconCredit)
    (h : createPacket c ctx .response = .ok (packet, ctx₁)) :
    (chargeQp c now ctx₁ packet credit).atOrdLimit c = ctx.atOrdLimit c := by
  simp only [createPacket] at h
  split at h
  · obtain ⟨request, queue, -, hopcode, -, rfl⟩ := QpContext.createResponsePacket_ok h
    have hread : packet.opcode ≠ .readRequest := by rw [hopcode]; decide
    simp only [QpContext.atOrdLimit, chargeQp, if_neg hread]
    rfl
  · cases h

def Spent (s : RdmaModel) (w : WorkType) : Prop :=
  s.remainingQuantaBytes w = 0 ∧ s.remainingQuantaOps w = 0

instance (s : RdmaModel) (w : WorkType) : Decidable (s.Spent w) :=
  inferInstanceAs (Decidable (_ ∧ _))

/-- The quanta with which the type is served: they are refilled if both are used up. -/
def Refills (c : RdmaConfig) (s : RdmaModel) (w : WorkType) (bytes ops : WorkType → Int) : Prop :=
  (s.Spent w ∧ bytes = update s.remainingQuantaBytes w c.workSchedulerQuanta ∧
    ops = update s.remainingQuantaOps w maxRdmaOpsPerQuanta) ∨
  (¬s.Spent w ∧ bytes = s.remainingQuantaBytes ∧ ops = s.remainingQuantaOps)

lemma Refills.not_spent {bytes ops : WorkType → Int} (h : s.Refills c w bytes ops) :
    ¬(bytes w = 0 ∧ ops w = 0) := by
  obtain ⟨-, rfl, rfl⟩ | ⟨hnot, rfl, rfl⟩ := h
  · simp [maxRdmaOpsPerQuanta]
  · exact hnot

lemma replenishQuanta_eq (s : RdmaModel) (c : RdmaConfig) : ∃ bytes ops, s.replenishQuanta c =
    { s with remainingQuantaBytes := bytes, remainingQuantaOps := ops } ∧
      s.Refills c s.currentWorkType bytes ops := by
  unfold replenishQuanta
  dsimp only
  split
  · exact ⟨_, _, rfl, .inl ⟨‹_›, rfl, rfl⟩⟩
  · exact ⟨_, _, rfl, .inr ⟨‹_›, rfl, rfl⟩⟩

lemma endTurn_eq (s : RdmaModel) (c : RdmaConfig) : ∃ w', s.endTurn c =
    { s with
      remainingQuantaBytes := update s.remainingQuantaBytes s.currentWorkType 0
      remainingQuantaOps := update s.remainingQuantaOps s.currentWorkType 0
      currentWorkType := w' } := by
  unfold endTurn updateWorkType
  dsimp only
  split
  · split
    · exact ⟨_, rfl⟩
    · exact ⟨_, rfl⟩
  · split
    · exact ⟨_, rfl⟩
    · exact ⟨_, rfl⟩

end RdmaModel

end Isekai.Rdma
