import Isekai.Rdma.Limits
import Isekai.Rdma.OutstandingReads

/-!
# The limit of outstanding reads

The limit is tested after a transaction, for the operation that is next. The other ways into the
request list do not test it.
-/

namespace Isekai.Rdma

open Falcon (Time)
open Lib Function TransitionSystem QpContext RdmaModel

section ReadLimit

variable {c : RdmaConfig} {q : QpId} {s s' : RdmaModel} {l : Label} {ctx ctx' : QpContext}
  {w : WorkType}

def QpContext.postedAtOrdLimit (c : RdmaConfig) (ctx : QpContext) (op : RdmaOp) : Bool :=
  if op.opcode = .recv then decide (ctx.sendQueue.length = 1) && ctx.atOrdLimit c
  else decide (ctx.sendQueue = []) && decide (op.opcode = .read) &&
    decide (c.outboundReadQueueDepth ≤ ctx.outboundReadRequests)

/-- The step asks the scheduler to add the requests of the queue pair although its next operation is
a read and the limit of outstanding reads is reached. -/
def addsAtOrdLimit (c : RdmaConfig) (q : QpId) (s : RdmaModel) : Label → Bool
  | .input _ (.returnFalconCredit q' _) | .input _ (.backpressureXoff q' _ _)
  | .input _ (.backpressureDynamicCredit q' _) =>
    decide (q' = q) && (s.qps q).any (·.atOrdLimit c)
  | .input _ _ => false
  | .fire index _ =>
    match s.pending[index]? with
    | some (_, .postOp q' op) => decide (q' = q) && (s.qps q).any (·.postedAtOrdLimit c op)
    | some (_, .addQpToScheduleSet q' .request) =>
      decide (q' = q) && (s.qps q).any (·.atOrdLimit c)
    | some (_, .requeue q' _) =>
      decide (q' = q) && decide (s.currentWorkType = .request) && (s.qps q).any (·.atOrdLimit c)
    | _ => false

/-- A request of the queue pair may be sent: it is below the limit of outstanding reads, or its next
operation is not a read. -/
def MaySend (c : RdmaConfig) : WorkType → QpContext → Prop
  | .request, ctx => ctx.sendQueue ≠ [] ∧ ctx.atOrdLimit c = false
  | .response, _ => True

namespace MaySend

lemma of_hasCredits (h : ctx.hasCredits c w = true)
    (hlimit : w = .request → ctx.atOrdLimit c = false) : MaySend c w ctx := by
  cases w with
  | request => exact ⟨hasWork_of_hasCredits h, hlimit rfl⟩
  | response => trivial

lemma calm (h : MaySend c w ctx) (hcalm : ctx.Calm ctx') : MaySend c w ctx' := by
  cases w with
  | response => trivial
  | request =>
    refine ⟨hcalm.sendQueue ▸ h.1, ?_⟩
    by_contra hlimit
    have hbefore := hcalm.atOrdLimit (Bool.eq_true_of_not_eq_false hlimit)
    rw [h.2] at hbefore
    cases hbefore

lemma write (h : MaySend c w ctx) (write : Write) (hfresh : write ≠ .answered → ctx.Fresh) :
    MaySend c w (write.apply ctx) := by
  cases w with
  | response => trivial
  | request =>
    refine ⟨hasWork_write (w := .request) h.1 write, ?_⟩
    have hlimit := h.2
    cases write with
    | posted op dest =>
      simp only [atOrdLimit, frontOp_posted (hfresh (by rintro ⟨⟩)) h.1] at hlimit ⊢
      exact hlimit
    | answered =>
      simp only [atOrdLimit, Bool.and_eq_false_iff, decide_eq_false_iff_not,
        not_le] at hlimit ⊢
      exact hlimit.imp_left fun hlt => (Nat.sub_le _ _).trans_lt hlt
    | _ => exact hlimit

lemma pushed (hadds : addsAtOrdLimit c q s l = false) (write : Write)
    (hq : s.qps q = some ctx ∨ write = .answered) (hmade : write.MadeBy c s l q ctx)
    (hw : w ∈ write.adds c ctx) (hcredits : (write.apply ctx).hasCredits c w = true) :
    MaySend c w (write.apply ctx) := by
  refine of_hasCredits hcredits fun hrequest => ?_
  subst hrequest
  have hq : write ≠ .answered → s.qps q = some ctx := hq.resolve_right
  cases write with
  | posted op dest =>
    have hq := hq (by rintro ⟨⟩)
    obtain ⟨hsend, index, randomRnr, time, rfl, hevent⟩ := hmade
    have hempty : ctx.sendQueue = [] := by
      by_contra hne
      simp [Write.adds, hne] at hw
    simp only [addsAtOrdLimit, hevent, hq, decide_true, Bool.true_and, Option.any_some,
      postedAtOrdLimit, if_neg hsend, hempty] at hadds
    simp only [atOrdLimit, frontOp, Write.apply, hempty, List.nil_append,
      List.head?_cons, Option.bind_some, update_self, Option.map_some]
    simp only [Bool.and_eq_false_iff, decide_eq_false_iff_not] at hadds ⊢
    exact hadds.symm.imp_right fun hne => by simpa using hne
  | postedRecv queue =>
    have hq := hq (by rintro ⟨⟩)
    obtain ⟨index, randomRnr, time, op, rfl, hevent, hrecv⟩ := hmade
    have hlength : ctx.sendQueue.length = 1 := by
      by_contra hne
      simp [Write.adds, hne] at hw
    have hlimit : ctx.atOrdLimit c = false := by
      simpa [addsAtOrdLimit, hevent, hq, postedAtOrdLimit, hrecv, hlength] using hadds
    exact hlimit
  | inbound request =>
    simp only [Write.adds] at hw
    split at hw <;> simp at hw
  | answered =>
    have hlt : ctx.outboundReadRequests - 1 < c.outboundReadQueueDepth := by
      by_contra hle
      simp [Write.adds, hle] at hw
    simp [atOrdLimit, Write.apply, not_le.mpr hlt]
  | returned credit =>
    obtain ⟨-, time, rfl⟩ := hmade
    have hlimit : ctx.atOrdLimit c = false := by
      simpa [addsAtOrdLimit, hq (by rintro ⟨⟩)] using hadds
    exact hlimit
  | xoff request response =>
    obtain ⟨time, rfl⟩ := hmade
    have hlimit : ctx.atOrdLimit c = false := by
      simpa [addsAtOrdLimit, hq (by rintro ⟨⟩)] using hadds
    exact hlimit
  | limit creditLimit =>
    obtain ⟨time, requested, rfl, -⟩ := hmade
    have hlimit : ctx.atOrdLimit c = false := by
      simpa [addsAtOrdLimit, hq (by rintro ⟨⟩)] using hadds
    exact hlimit

end MaySend

/-- What is carried along the steps: the counter is within the limit, and it is below it whenever
the queue pair is in the request list with a read next. -/
structure ReadsWithinLimit (c : RdmaConfig) (q : QpId) (s : RdmaModel) : Prop where
  fresh : QpHolds q QpContext.Fresh s
  counter : QpHolds q (fun ctx => ctx.outboundReadRequests ≤ c.outboundReadQueueDepth) s
  maySend : Guarded q (MaySend c) s

lemma counter_chargeQp {packet : Packet} {ctx₁ : QpContext} {now : Time} {credit : FalconCredit}
    (hpacket : createPacket c ctx w = .ok (packet, ctx₁)) (hmay : MaySend c w ctx)
    (h : ctx.outboundReadRequests ≤ c.outboundReadQueueDepth) :
    (chargeQp c now ctx₁ packet credit).outboundReadRequests ≤
      c.outboundReadQueueDepth := by
  obtain ⟨-, -, -, hreads, -⟩ := createPacket_frame hpacket
  change (if packet.opcode = .readRequest then ctx₁.outboundReadRequests + 1
    else ctx₁.outboundReadRequests) ≤ _
  rw [hreads]
  split
  · rename_i hread
    cases w with
    | response =>
      simp only [createPacket] at hpacket
      split at hpacket
      · obtain ⟨request, queue, -, hopcode, -⟩ := createResponsePacket_ok hpacket
        rw [hopcode] at hread
        cases hread
      · cases hpacket
    | request =>
      obtain ⟨id, queue, op, hqueue, hop, -, hopcode, -⟩ :=
        createRequestPacket_ok hpacket
      have hopcode' : op.opcode = .read := by
        cases hcase : op.opcode <;> simp_all [RdmaOpcode.packetOpcode]
      have hlimit := hmay.2
      simp only [atOrdLimit, frontOp, hqueue, List.head?_cons,
        Option.bind_some, hop, Option.map_some, hopcode', beq_self_eq_true, Bool.and_true,
        decide_eq_false_iff_not, not_le] at hlimit
      exact hlimit
  · exact h

theorem ReadsWithinLimit.next (h : ReadsWithinLimit c q s) {F : Finding} (hchained : Chained F s)
    (hadds : addsAtOrdLimit c q s l = false) (hstep : Happens c s l s') :
    ReadsWithinLimit c q s' := by
  refine ⟨fresh_happens h.fresh hstep, ?_, ?_⟩
  · refine h.counter.happens hstep (fun ctx hblank => ?_) (fun ctx ctx' hle hcalm => ?_) ?_ ?_
    · rw [hblank.reads]
      exact Nat.zero_le _
    · rw [hcalm.reads]
      exact hle
    · intro ctx write _ _ hle
      cases write with
      | answered => exact (Nat.sub_le _ _).trans hle
      | _ => exact hle
    · intro index randomRnr time now ctx packet ctx₁ hl hevent hq hpacket hle
      have hhead := hchained.head (List.mem_of_getElem? hevent)
      obtain ⟨ctx', hq', hmay⟩ := h.maySend.holds _ (List.mem_of_head? hhead)
      cases hq.symm.trans hq'
      exact counter_chargeQp hpacket hmay hle
  · refine h.maySend.happens hchained ?_ hstep
    refine
      { calm := fun w ctx ctx' hmay hcalm => hmay.calm hcalm
        write := ?_
        pushWrite := fun w ctx write hq hmade hw hcredits _ =>
          .pushed hadds write hq hmade hw hcredits
        pushEvent := ?_
        other := ?_
        stays := fun ctx hcredits _ hlimit => .of_hasCredits hcredits fun _ => hlimit
        limit := ?_ }
    · intro w ctx write _ hq _ hmay
      exact hmay.write write fun hne => h.fresh ctx (hq.resolve_right hne)
    · intro w ctx index randomRnr time callback hl hevent hcallback hq hcredits _
      subst hl
      refine .of_hasCredits hcredits fun hw => ?_
      rcases hcallback with rfl | ⟨served, rfl, hserved⟩
      · subst hw
        simpa [addsAtOrdLimit, hevent, hq] using hadds
      · simpa [addsAtOrdLimit, hevent, hq, hserved ▸ hw] using hadds
    · intro w ctx packet ctx₁ now hw hpacket _ hmay
      cases w with
      | response => trivial
      | request =>
        have hserved : s.currentWorkType = .response := by
          cases hcase : s.currentWorkType with
          | request => exact absurd hcase.symm hw
          | response => rfl
        rw [hserved] at hpacket ⊢
        obtain ⟨-, -, -, -, -, -, hqueues⟩ := createPacket_frame hpacket
        refine ⟨?_, ?_⟩
        · change ctx₁.sendQueue ≠ []
          rw [(hqueues rfl).1]
          exact hmay.1
        · rw [atOrdLimit_chargeQp_response now _ hpacket]
          exact hmay.2
    · intro index randomRnr time ctx _ _ _ _ hlimit
      refine ⟨fun hmay => ?_, fun _ _ _ _ _ => trivial⟩
      exact absurd (hlimit.symm.trans hmay.2) (by decide)

end ReadLimit

section OutstandingReads

variable {c : RdmaConfig} {q : QpId} {requests : List (Rsn × PacketOpcode)} {answered : List Rsn}
  {ctx ctx' : QpContext}

/-- The counter of a queue pair is at least the number of its outstanding reads, however many
packets a read is cut into. -/
structure BoundsReads (q : QpId) (requests : List (Rsn × PacketOpcode)) (answered : List Rsn)
    (ctx : QpContext) : Prop where
  qpId : ctx.qpId = q
  requestsSent : ∀ request ∈ requests, request.1 < ctx.nextRsn
  answeredSent : ∀ rsn ∈ answered, rsn < ctx.nextRsn
  erased : ∀ rsn ∈ answered, ctx.rsnToOp rsn = none
  count : (waitingReads requests answered).card ≤ ctx.outboundReadRequests

namespace BoundsReads

lemma request (h : BoundsReads q requests answered ctx) {packet : Packet}
    (hpacket : ctx.createRequestPacket c = .ok (packet, ctx')) :
    BoundsReads q ((packet.rsn, packet.opcode) :: requests) answered
      (ctx'.countRequest packet) := by
  obtain ⟨id, queue, op, -, -, -, -, -, hrsn, rfl⟩ := createRequestPacket_ok hpacket
  obtain ⟨op', -, hrecord⟩ := recordRequest_cut ctx id op (remainder c op)
  rw [hrecord, hrsn]
  have hnew : ctx.nextRsn ∉ answered := fun hmem => lt_irrefl _ (h.answeredSent _ hmem)
  refine ⟨h.qpId, fun request hmem => ?_, fun rsn hmem =>
    Nat.lt_succ_of_lt (h.answeredSent rsn hmem),
    fun rsn hmem => ?_, ?_⟩
  · obtain rfl | hmem := List.mem_cons.mp hmem
    · exact Nat.lt_succ_self _
    · exact Nat.lt_succ_of_lt (h.requestsSent request hmem)
  · change update ctx.rsnToOp ctx.nextRsn (some id) rsn = none
    rw [update_of_ne (h.answeredSent rsn hmem).ne]
    exact h.erased rsn hmem
  · rw [CountsReads.waitingReads_cons hnew]
    change _ ≤ if packet.opcode = .readRequest then ctx.outboundReadRequests + 1
      else ctx.outboundReadRequests
    split
    · exact (Finset.card_insert_le _ _).trans (Nat.succ_le_succ h.count)
    · exact h.count

lemma finish (h : BoundsReads q requests answered ctx) {rsn : Rsn} {finished : Option OpId}
    (hfinish : ctx.finishRequest rsn = .ok (ctx', finished)) :
    rsn ∉ answered ∧ BoundsReads q requests answered ctx' ∧ ctx'.rsnToOp rsn = none ∧
      ctx'.nextRsn = ctx.nextRsn := by
  have herased : ∀ r ∈ answered, update ctx.rsnToOp rsn none r = none := by
    intro r hr
    by_cases hne : r = rsn
    · rw [hne, update_self]
    · rw [update_of_ne hne]
      exact h.erased r hr
  obtain ⟨id, op, hid, -, hcases⟩ := finishRequest_ok hfinish
  have hnot : rsn ∉ answered := by
    intro hmem
    rw [h.erased rsn hmem] at hid
    cases hid
  obtain ⟨-, -, owned, -, rfl⟩ | ⟨-, -, rfl⟩ := hcases
  · exact ⟨hnot, ⟨h.qpId, h.requestsSent, h.answeredSent, herased, h.count⟩,
      update_self .., rfl⟩
  · exact ⟨hnot, ⟨h.qpId, h.requestsSent, h.answeredSent, herased, h.count⟩,
      update_self .., rfl⟩

lemma answer (h : BoundsReads q requests answered ctx) {rsn : Rsn} {finished : Option OpId}
    (hmem : (rsn, PacketOpcode.readRequest) ∈ requests)
    (hfinish : ctx.finishRequest rsn = .ok (ctx', finished)) :
    BoundsReads q requests (rsn :: answered) (ctx'.countRead finished) := by
  obtain ⟨hnot, hctx', herased, hnext⟩ := h.finish hfinish
  have hwaiting : rsn ∈ waitingReads requests answered := mem_waitingReads.mpr ⟨hmem, hnot⟩
  have herase : waitingReads requests (rsn :: answered) =
      (waitingReads requests answered).erase rsn := by
    ext r
    simp only [mem_waitingReads, List.mem_cons, Finset.mem_erase]
    tauto
  have hsent : ∀ r ∈ rsn :: answered, r < ctx'.nextRsn := by
    intro r hr
    obtain rfl | hr := List.mem_cons.mp hr
    · exact hctx'.requestsSent _ hmem
    · exact hctx'.answeredSent r hr
  have hgone : ∀ r ∈ rsn :: answered, ctx'.rsnToOp r = none := by
    intro r hr
    obtain rfl | hr := List.mem_cons.mp hr
    · exact herased
    · exact hctx'.erased r hr
  have hcount : (waitingReads requests (rsn :: answered)).card ≤ ctx'.outboundReadRequests - 1 := by
    rw [herase, Finset.card_erase_of_mem hwaiting]
    exact Nat.sub_le_sub_right hctx'.count 1
  cases finished with
  | none => exact ⟨hctx'.qpId, hctx'.requestsSent, hsent, hgone, hcount.trans (Nat.sub_le _ _)⟩
  | some id => exact ⟨hctx'.qpId, hctx'.requestsSent, hsent, hgone, hcount⟩

lemma rules (c : RdmaConfig) : LedgerRules c (fun _ => True) BoundsReads where
  qpId h := h.qpId
  create hnew := ⟨hnew.qpId, nofun, nofun, nofun, Nat.zero_le _⟩
  enqueue h _ henqueue := by
    cases henqueue <;> exact ⟨h.qpId, h.requestsSent, h.answeredSent, h.erased, h.count⟩
  receive _ _ h := ⟨h.qpId, h.requestsSent, h.answeredSent, h.erased, h.count⟩
  request h hpacket := h.request hpacket
  answer h hmem hfinish := h.answer hmem hfinish
  finish h _ _ hfinish := (h.finish hfinish).2.1

end BoundsReads

end OutstandingReads

/-- In every run that never asks the scheduler to add the requests of the queue pair while the limit
of outstanding reads holds them back, the number of read requests that were sent and not yet
answered stays within the limit. -/
theorem outstandingReads_card_le (c : RdmaConfig) (q : QpId) (s : RdmaModel)
    (h : (system c).Reachable (fun s l => addsAtOrdLimit c q s l = false) s) :
    (s.outstandingReads q).card ≤ c.outboundReadQueueDepth := by
  have hbounds : Keeps (fun _ => True) BoundsReads s.core :=
    .of_reachable (BoundsReads.rules c) (fun _ _ _ _ _ _ => trivial) h
  have hwithin : ReadsWithinLimit c q s := h.invariant_of_ok
    (fun s hs => by
      cases hs
      exact ⟨nofun, nofun, .initial q _ c⟩)
    fun s l s' hreachable hs hallowed hadds hnext => hs.next (chained_of_reachable hreachable) hadds
      (happens_of_next hallowed hnext)
  have hledger : s.outstandingReads q =
      waitingReads (requestsOf s.core.history q) (answeredOf s.core.history q) := by
    rw [requestsOf_core, answeredOf_core]
    rfl
  cases hq : s.qps q with
  | none =>
    obtain ⟨hrequests, -⟩ := hbounds.unknown q (by simp [core, hq])
    simp [hledger, hrequests, waitingReads]
  | some ctx =>
    rw [hledger]
    exact (hbounds.contexts q _ (core_qps hq)).count.trans (hwithin.counter ctx hq)

/-- A read is sent, and a second one is posted before the response comes. -/
def secondReadRun : List Label :=
  [.input 0 (.createRcQp 1 11 1 0 .orderedRc), .input 0 (.performOp 1 .read [8] false 0),
    .fire 0 false, .fire 0 false, .fire 0 false, .fire 0 false, .fire 0 false,
    .input 400 (.performOp 1 .read [8] false 0), .fire 0 false, .fire 0 false]

/-- The second read goes out although one read may be outstanding. -/
theorem outstandingReads_exceed :
    ∃ s, (system { defaultRdmaConfig with outboundReadQueueDepth := 1 }).Reachable
        (fun _ _ => True) s ∧ (s.outstandingReads 1).card = 2 := by
  rw [← tabulatedSystem_eq]
  exact Reachable.exists_of_run secondReadRun rfl (by decide +kernel)

/-- Two reads that are posted before the first one is sent: the second one waits. -/
theorem outstandingReads_card_le_twoReads :
    ∃ s, s.outstandingReads 1 = {0} ∧ (s.qps 1).map (·.sendQueue) = some [1] ∧
      (RdmaModel.outstandingReads s 1).card ≤ 1 := by
  obtain ⟨s, hs, hreads, hqueue⟩ := Reachable.exists_of_run
    (T := system { defaultRdmaConfig with outboundReadQueueDepth := 1 })
    (C := fun s l => addsAtOrdLimit { defaultRdmaConfig with outboundReadQueueDepth := 1 } 1 s l =
      false)
    (P := fun s => s.outstandingReads 1 = {0} ∧ (s.qps 1).map (·.sendQueue) = some [1])
    [.input 0 (.createRcQp 1 11 1 0 .orderedRc), .input 0 (.performOp 1 .read [8] false 0),
      .input 0 (.performOp 1 .read [8] false 0), .fire 0 false, .fire 0 false, .fire 0 false,
      .fire 0 false] rfl (by decide +kernel)
  exact ⟨s, hreads, hqueue, outstandingReads_card_le _ 1 s hs⟩

/-- The requests of a queue pair are numbered in the order of sending, and no read is answered
twice. -/
structure NumbersRequests (q : QpId) (requests : List (Rsn × PacketOpcode)) (answered : List Rsn)
    (ctx : QpContext) : Prop extends BoundsReads q requests answered ctx where
  numbered : requests.map Prod.fst = (List.range ctx.nextRsn).reverse
  nodup : answered.Nodup
  reads : ∀ rsn ∈ answered, (rsn, .readRequest) ∈ requests

lemma NumbersRequests.rules (c : RdmaConfig) : LedgerRules c (fun _ => True) NumbersRequests where
  qpId h := h.qpId
  create hnew :=
    ⟨(BoundsReads.rules c).create hnew, by rw [hnew.nextRsn]; rfl, .nil, nofun⟩
  enqueue h _ henqueue := ⟨(BoundsReads.rules c).enqueue h.toBoundsReads trivial henqueue,
    by cases henqueue <;> exact h.numbered, h.nodup, h.reads⟩
  receive _ _ h := ⟨(BoundsReads.rules c).receive _ _ h.toBoundsReads, h.numbered, h.nodup, h.reads⟩
  request {q requests answered ctx ctx' packet} h hpacket := by
    refine ⟨h.request hpacket, ?_, h.nodup, fun rsn hmem =>
      List.mem_cons_of_mem _ (h.reads rsn hmem)⟩
    obtain ⟨id, queue, op, -, -, -, -, -, hrsn, rfl⟩ := createRequestPacket_ok hpacket
    obtain ⟨op', -, hrecord⟩ := recordRequest_cut ctx id op (remainder c op)
    rw [List.map_cons, h.numbered, hrsn, hrecord]
    exact (List.range_succ ▸ List.reverse_concat ..).symm
  answer {q requests answered ctx ctx' rsn finished} h hmem hfinish := by
    obtain ⟨hnot, -, -, hnext⟩ := h.finish hfinish
    refine ⟨h.answer hmem hfinish, ?_, h.nodup.cons hnot, List.forall_mem_cons.mpr ⟨hmem, h.reads⟩⟩
    have hcount : (ctx'.countRead finished).nextRsn = ctx.nextRsn := by
      cases finished <;> exact hnext
    exact hcount ▸ h.numbered
  finish h _ _ hfinish := by
    obtain ⟨-, hbounds, -, hnext⟩ := h.finish hfinish
    exact ⟨hbounds, hnext ▸ h.numbered, h.nodup, h.reads⟩

/-- As long as a queue pair has sent at most `2 ^ 32` requests, so that the 32-bit counter of the
source has not come round, they carry the numbers from zero on in the order of sending, and
responses are taken for reads that were sent and for none of them twice. -/
theorem requests_numbered {c : RdmaConfig} {C : RdmaModel → Label → Prop} {s : RdmaModel}
    (h : (system c).Reachable C s) (q : QpId) (hsent : (requestsOf s.log q).length ≤ 2 ^ 32) :
    (requestsOf s.log q).map Prod.fst = (List.range (requestsOf s.log q).length).reverse ∧
    (∀ request ∈ requestsOf s.log q, request.1 < 2 ^ 32) ∧
    (answeredOf s.log q).Nodup ∧
    ∀ rsn ∈ answeredOf s.log q, (rsn, .readRequest) ∈ requestsOf s.log q := by
  have hkeeps : Keeps (fun _ => True) NumbersRequests s.core :=
    .of_reachable (NumbersRequests.rules c) (fun _ _ _ _ _ _ => trivial) h
  rw [← requestsOf_core] at hsent ⊢
  rw [← answeredOf_core]
  cases hq : s.qps q with
  | none =>
    obtain ⟨hrequests, hanswered⟩ := hkeeps.unknown q (by simp [core, hq])
    rw [hrequests, hanswered]
    exact ⟨rfl, by simp, .nil, by simp⟩
  | some ctx =>
    have hctx := hkeeps.contexts q _ (core_qps hq)
    have hlength : (requestsOf s.core.history q).length = ctx.forget.nextRsn := by
      simpa using congrArg List.length hctx.numbered
    rw [hlength] at hsent ⊢
    refine ⟨hctx.numbered, fun request hmem => ?_, hctx.nodup, hctx.reads⟩
    exact (hctx.requestsSent request hmem).trans_le hsent

theorem requests_numbered_served : ∃ s : RdmaModel,
    (requestsOf s.log 1).map Prod.fst = [1, 0] ∧ answeredOf s.log 1 = [1] ∧
    (answeredOf s.log 1).Nodup := by
  obtain ⟨s, hs, hrsns, hanswered⟩ := Reachable.exists_of_run
    (T := tabulatedSystem defaultRdmaConfig) (C := fun _ _ => True)
    (P := fun s => (requestsOf s.log 1).map Prod.fst = [1, 0] ∧ answeredOf s.log 1 = [1])
    servedRun rfl (by decide +kernel)
  rw [tabulatedSystem_eq] at hs
  have hlength : (requestsOf s.log 1).length = 2 := by
    simpa using congrArg List.length hrsns
  exact ⟨s, hrsns, hanswered, (requests_numbered hs 1 (by omega)).2.2.1⟩

end Isekai.Rdma
