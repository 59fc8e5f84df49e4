import Isekai.Rdma.CoreRefinement
import Mathlib.Data.Multiset.Count

/-!
# The inbound read request queue

A read request is tested against the depth of the inbound read request queue when it is taken out of
the receive pipeline, and enters the queue only after the host interface, the acknowledgement and
the response latency.
-/

namespace Isekai.Rdma

open Falcon (Time)
open Lib TransitionSystem

def PcieIssue.isReadOf (q : QpId) : PcieIssue → Bool
  | .readRequest q' _ _ => q' = q
  | .ack _ _ _ _ => false

def Callback.isReadOf (q : QpId) : Callback → Bool
  | .ackReadRequest q' _ | .enqueueReadRequest q' _ => q' = q
  | _ => false

def RdmaModel.inFlightReads (s : RdmaModel) (q : QpId) : Nat :=
  s.pcieIssues.countP (·.isReadOf q) + s.pending.countP (·.2.isReadOf q)

/-- The step takes a read request out of the receive pipeline while there is room in the queue, but
not for the requests that are already on their way to it. -/
def overcommitsReads (c : RdmaConfig) (s : RdmaModel) (l : Label) : Bool :=
  match s.takes c l with
  | some (.transaction packet) =>
    decide (packet.opcode = .readRequest) && (s.qps packet.destQpId).any fun ctx =>
      decide (ctx.inboundReadRequestQueue.length < c.inboundReadQueueDepth) &&
      decide (c.inboundReadQueueDepth ≤
        ctx.inboundReadRequestQueue.length + s.inFlightReads packet.destQpId)
  | _ => false

namespace Core

variable {c : RdmaConfig} {k k' : Core} {e : Event} {work : PipelineWork}

def inFlightReads (k : Core) (q : QpId) : Nat :=
  k.issues.countP (fun issue => issue.isReadOf q = true) +
    k.jobs.countP fun callback => callback.isReadOf q = true

def inboundReads (k : Core) (q : QpId) : Nat :=
  (k.qps q).elim 0 (fun ctx => ctx.inboundReadRequestQueue.length) + k.inFlightReads q

lemma inboundReads_setQp {q : QpId} {ctx ctx' : QpContext} (hq : k.qps q = some ctx)
    (hqps : k'.qps = Function.update k.qps q (some ctx'))
    (hqueue : ctx'.inboundReadRequestQueue = ctx.inboundReadRequestQueue)
    (hreads : ∀ q, k'.inFlightReads q ≤ k.inFlightReads q) (q' : QpId) :
    k'.inboundReads q' ≤ k.inboundReads q' := by
  refine Nat.add_le_add ?_ (hreads q')
  rw [hqps]
  by_cases hqq : q' = q
  · subst hqq
    simp [hq, hqueue]
  · simp [hqq]

lemma inboundReads_of_qps (hqps : k'.qps = k.qps)
    (hreads : ∀ q, k'.inFlightReads q ≤ k.inFlightReads q) (q : QpId) :
    k'.inboundReads q ≤ k.inboundReads q := by
  unfold inboundReads
  rw [hqps]
  exact Nat.add_le_add_left (hreads q) _

def Accepts (c : RdmaConfig) (k : Core) (packet : Packet) (k' : Core) : Prop :=
  packet.opcode = .readRequest ∧
    (∃ ctx, k.qps packet.destQpId = some ctx ∧
      ctx.inboundReadRequestQueue.length < c.inboundReadQueueDepth) ∧
    ∀ q, k'.inboundReads q = k.inboundReads q + if packet.destQpId = q then 1 else 0

lemma Process.inboundReads_le (h : Process c k work k') :
    (∀ q, k'.inboundReads q ≤ k.inboundReads q) ∨
      ∃ packet, work = .transaction packet ∧ Accepts c k packet k' := by
  cases h with
  | refuses => exact .inl fun q => le_rfl
  | acceptsWrite scid time =>
    refine .inl (inboundReads_of_qps rfl fun q => ?_)
    simp only [inFlightReads, Multiset.countP_cons]
    simp [PcieIssue.isReadOf]
  | acceptsSend scid time hq hmatch =>
    obtain ⟨queue, rfl⟩ := QpContext.matchRecv_eq hmatch
    refine .inl (inboundReads_setQp hq rfl rfl fun q => ?_)
    simp only [inFlightReads, setQp, Multiset.countP_cons]
    simp [PcieIssue.isReadOf]
  | @acceptsRead packet ctx time hopcode hq hdepth =>
    refine .inr ⟨packet, rfl, hopcode, ⟨ctx, hq, hdepth⟩, fun q => ?_⟩
    simp only [inboundReads, inFlightReads, Multiset.countP_cons]
    simp only [PcieIssue.isReadOf, decide_eq_true_eq]
    omega
  | @answers packet ctx ctx' finished hopcode hq hfinish =>
    have hqueue := (QpContext.calm_finishRequest hfinish).inbound
    refine .inl (inboundReads_setQp hq rfl ?_ fun q => le_rfl)
    cases finished <;> exact hqueue
  | finishes hq hfinish hdelay =>
    exact .inl (inboundReads_setQp hq rfl (QpContext.calm_finishRequest hfinish).inbound
      fun q => le_rfl)
  | finishesNow hq hfinish =>
    exact .inl (inboundReads_setQp hq rfl (QpContext.calm_finishRequest hfinish).inbound
      fun q => le_rfl)

lemma Step.inboundReads_le (h : Step c k e k') :
    (∀ q, k'.inboundReads q ≤ k.inboundReads q) ∨
      ∃ packet, e = .takes (.transaction packet) ∧ Accepts c k packet k' := by
  cases h with
  | @creates q ctx hnone hnew =>
    refine .inl fun q' => ?_
    by_cases hqq : q' = q
    · subst hqq
      simp [inboundReads, setQp, hnone, hnew.inbound, inFlightReads]
    · simp [inboundReads, setQp, hqq, inFlightReads]
  | posts q op =>
    refine .inl (inboundReads_of_qps rfl fun q => ?_)
    simp only [inFlightReads, Multiset.countP_cons]
    simp [Callback.isReadOf]
  | enters work => exact .inl (inboundReads_of_qps rfl fun q => le_rfl)
  | enqueues hjobs hq henqueue =>
    refine .inl (inboundReads_setQp hq rfl (by cases henqueue <;> rfl) fun q => ?_)
    simp only [inFlightReads, setQp, hjobs, Multiset.countP_cons]
    simp [Callback.isReadOf]
  | cuts hq hid hpacket =>
    obtain ⟨id, queue, op, -, -, -, -, -, -, rfl⟩ := QpContext.createRequestPacket_ok hpacket
    exact .inl (inboundReads_setQp hq rfl (QpContext.recordRequest_queues _ id op _).2
      fun q => le_rfl)
  | @responds q ctx ctx' packet hq hpacket =>
    obtain ⟨request, queue, hqueue, -, -, rfl⟩ := QpContext.createResponsePacket_ok hpacket
    refine .inl fun q' => ?_
    by_cases hqq : q' = q
    · subst hqq
      simp [inboundReads, setQp, hq, hqueue, inFlightReads]
    · simp [inboundReads, setQp, hqq, inFlightReads]
  | @takes work arriving k' harriving hprocess =>
    obtain hle | ⟨packet, rfl, haccepts⟩ := hprocess.inboundReads_le
    · exact .inl hle
    · exact .inr ⟨packet, rfl, haccepts⟩
  | issuesAck hissues =>
    refine .inl (inboundReads_of_qps rfl fun q => ?_)
    simp only [inFlightReads, hissues, Multiset.countP_cons]
    simp [PcieIssue.isReadOf, Callback.isReadOf]
  | issuesRecv hissues =>
    refine .inl (inboundReads_of_qps rfl fun q => ?_)
    simp only [inFlightReads, hissues, Multiset.countP_cons]
    simp [PcieIssue.isReadOf, Callback.isReadOf]
  | issuesRecvNow hissues =>
    refine .inl (inboundReads_of_qps rfl fun q => ?_)
    simp only [inFlightReads, hissues, Multiset.countP_cons]
    simp [PcieIssue.isReadOf, Callback.isReadOf]
  | issuesRead hissues =>
    refine .inl (inboundReads_of_qps rfl fun q => ?_)
    simp only [inFlightReads, hissues, Multiset.countP_cons]
    simp only [PcieIssue.isReadOf, Callback.isReadOf, decide_eq_true_eq]
    omega
  | acks hjobs =>
    refine .inl (inboundReads_of_qps rfl fun q => ?_)
    simp only [inFlightReads, hjobs, Multiset.countP_cons]
    simp [Callback.isReadOf]
  | acksRead hjobs =>
    refine .inl (inboundReads_of_qps rfl fun q => ?_)
    simp only [inFlightReads, hjobs, Multiset.countP_cons]
    simp [Callback.isReadOf]
  | @enqueuesRead q request ctx jobs hjobs hq =>
    refine .inl fun q' => ?_
    by_cases hqq : q' = q
    · subst hqq
      simp only [inboundReads, setQp, inFlightReads, hjobs, Multiset.countP_cons]
      simp only [Callback.isReadOf, Function.update_self, hq, Option.elim_some, List.length_append,
        List.length_singleton, decide_true, if_true]
      omega
    · simp only [inboundReads, setQp, inFlightReads, hjobs, Multiset.countP_cons]
      simp [Callback.isReadOf, hqq, Ne.symm hqq]
  | completes hcompletions => exact .inl (inboundReads_of_qps rfl fun q => le_rfl)

end Core

section Model

variable {c : RdmaConfig} {s s' : RdmaModel} {l : Label} {packet : Packet} {ctx : QpContext}

lemma RdmaModel.inFlightReads_core (s : RdmaModel) (q : QpId) :
    s.core.inFlightReads q = s.inFlightReads q := by
  have hjob : ∀ callback : Callback, (callback.isReadOf q = true ∧ callback.isJob = true) ↔
      callback.isReadOf q = true := by
    intro callback
    cases callback <;> simp [Callback.isReadOf, Callback.isJob]
  simp only [Core.inFlightReads, core, Multiset.coe_countP, inFlightReads, List.countP_filter,
    List.countP_map]
  congr 1
  · refine List.countP_congr fun issue _ => ?_
    rw [decide_eq_true_eq]
  · refine List.countP_congr fun event _ => ?_
    simpa using hjob event.2

def ReadsFit (c : RdmaConfig) (s : RdmaModel) : Prop :=
  ∀ q, s.core.inboundReads q ≤ c.inboundReadQueueDepth

lemma ReadsFit.next (h : ReadsFit c s) (hallowed : s.allowed l)
    (hfits : overcommitsReads c s l = false) (hnext : s.next c l = .ok s') : ReadsFit c s' := by
  obtain ⟨hcore, -⟩ | ⟨e, hcaused, hstep⟩ := RdmaModel.refines_of_next hallowed hnext
  · intro q
    rw [hcore]
    exact h q
  · intro q
    obtain hle | ⟨packet, rfl, hopcode, ⟨ctx', hq', hdepth⟩, hcount⟩ := hstep.inboundReads_le
    · exact (hle q).trans (h q)
    · rw [hcount q]
      by_cases hqq : packet.destQpId = q
      · subst hqq
        rw [if_pos rfl]
        obtain ⟨ctx, hq, rfl⟩ := Option.map_eq_some_iff.mp hq'
        have htakes : s.takes c l = some (.transaction packet) := hcaused.taken
        have hlt : ctx.inboundReadRequestQueue.length < c.inboundReadQueueDepth := hdepth
        have hroom : ctx.inboundReadRequestQueue.length + s.inFlightReads packet.destQpId <
            c.inboundReadQueueDepth := by
          simpa [overcommitsReads, htakes, hopcode, hq, hlt] using hfits
        rw [← RdmaModel.inFlightReads_core] at hroom
        rw [Core.inboundReads, RdmaModel.core_qps hq]
        exact hroom
      · rw [if_neg hqq, add_zero]
        exact h q

def RnrNacked (ctx : QpContext) (rsn : Rsn) (s : RdmaModel) : Prop :=
  ∃ time, (time, .ackTransaction ctx.scid rsn (.rnrNak ctx.rnrTimeout) none) ∈ s.pending

lemma processWork_full (hopcode : packet.opcode = .readRequest)
    (hq : s.qps packet.destQpId = some ctx)
    (hfull : c.inboundReadQueueDepth ≤ ctx.inboundReadRequestQueue.length) {randomRnr : Bool} :
    Ensures (fun _ => True) (RnrNacked ctx packet.rsn)
      (s.processWork c (.transaction packet) randomRnr) := by
  simp only [RdmaModel.processWork, RdmaModel.processRxTransaction, RdmaModel.getQp, hq, hopcode]
  refine (RdmaModel.isRsnAcceptable_spec trivial).bind fun acceptable _ =>
    .ite (fun haccept => ?_) fun _ => ?_
  · simp only [Bool.and_eq_true, decide_eq_true_eq] at haccept
    exact absurd haccept.2 (Nat.not_lt.mpr hfull)
  · exact ⟨_, List.mem_append_right _ (List.mem_singleton_self _)⟩

lemma pipelineDequeue_full (htakes : s.dequeues c = some (.transaction packet))
    (hopcode : packet.opcode = .readRequest) (hq : s.qps packet.destQpId = some ctx)
    (hfull : c.inboundReadQueueDepth ≤ ctx.inboundReadRequestQueue.length) {randomRnr : Bool} :
    Ensures (fun _ => True) (RnrNacked ctx packet.rsn) (s.pipelineDequeue c randomRnr) := by
  unfold RdmaModel.pipelineDequeue
  unfold RdmaModel.dequeues at htakes
  split at htakes
  · cases htakes
  · rename_i hrun
    split
    · rename_i hnil
      rw [hnil] at htakes
      cases htakes
    · rename_i work rest hpipeline
      rw [hpipeline] at htakes
      obtain rfl : work = .transaction packet := Option.some.inj htakes
      rw [if_neg hrun]
      refine (processWork_full (s := { s with pipeline := rest, pipelineLastRunTime := some s.now })
        hopcode hq hfull).bind fun s' ⟨time, hmem⟩ => ?_
      exact ⟨time, List.mem_append_left _ hmem⟩

lemma rnrNacked_of_full (htakes : s.takes c l = some (.transaction packet))
    (hopcode : packet.opcode = .readRequest) (hq : s.qps packet.destQpId = some ctx)
    (hfull : c.inboundReadQueueDepth ≤ ctx.inboundReadRequestQueue.length)
    (hnext : s.next c l = .ok s') : RnrNacked ctx packet.rsn s' := by
  cases l with
  | input time input => cases htakes
  | fire index randomRnr =>
    cases hget : s.pending[index]? with
    | none => simp [RdmaModel.takes, hget] at htakes
    | some event =>
      obtain ⟨time, callback⟩ := event
      simp only [RdmaModel.next, hget] at hnext
      cases callback with
      | pipelineDequeue =>
        have hdequeues : ({ s with now := time, pending := s.pending.eraseIdx index } :
            RdmaModel).dequeues c = some (.transaction packet) := by
          simpa [RdmaModel.takes, hget, RdmaModel.dequeues] using htakes
        exact (pipelineDequeue_full hdequeues hopcode hq hfull).of_ok hnext
      | enterPipeline work =>
        simp only [RdmaModel.takes, hget] at htakes
        split at htakes
        · cases htakes
        · rename_i hrun
          simp only [Bool.or_eq_true, decide_eq_true_eq, not_or, Bool.not_eq_true] at hrun
          obtain ⟨-, -, hnext⟩ := exists_of_bind_eq_ok hnext
          simp only [hrun.1] at hnext
          have hdequeues : ({ s with
              now := time
              pending := s.pending.eraseIdx index
              pipeline := s.pipeline ++ [work]
              pipelineActive := true } : RdmaModel).dequeues c = some (.transaction packet) := by
            rw [RdmaModel.dequeues, if_neg hrun.2]
            exact htakes
          exact (pipelineDequeue_full hdequeues hopcode hq hfull).of_ok hnext
      | _ => simp [RdmaModel.takes, hget] at htakes

end Model

/-- In every run in which a read request is accepted only if the requests that are on their way to
the queue fit as well, the queue stays within its depth, and a read request that would make it
longer is refused with RNR. -/
theorem inbound_queue_within_depth (c : RdmaConfig) (s : RdmaModel)
    (h : (system c).Reachable (fun s l => overcommitsReads c s l = false) s) :
    (∀ q ctx, s.qps q = some ctx →
      ctx.inboundReadRequestQueue.length ≤ c.inboundReadQueueDepth) ∧
    ∀ l s' packet ctx, overcommitsReads c s l = false →
      s.takes c l = some (.transaction packet) → packet.opcode = .readRequest →
      s.qps packet.destQpId = some ctx → c.inboundReadQueueDepth <
        ctx.inboundReadRequestQueue.length + s.inFlightReads packet.destQpId + 1 →
      s.next c l = .ok s' → RnrNacked ctx packet.rsn s' := by
  have hfit : ReadsFit c s := h.invariant_of_ok
    (fun s hs q => by
      cases hs
      exact Nat.zero_le _)
    fun s l s' _ hs hallowed hfits hnext => hs.next hallowed hfits hnext
  refine ⟨fun q ctx hq => ?_, fun l s' packet ctx hfits htakes hopcode hq hexceeds hnext => ?_⟩
  · have hle := hfit q
    rw [Core.inboundReads, RdmaModel.core_qps hq] at hle
    exact (Nat.le_add_right _ _).trans hle
  · refine rnrNacked_of_full htakes hopcode hq ?_ hnext
    by_contra hroom
    have hlt : ctx.inboundReadRequestQueue.length < c.inboundReadQueueDepth := Nat.not_le.mp hroom
    have hovercommits : overcommitsReads c s l = true := by
      simp only [overcommitsReads, htakes, hopcode, hq, hlt, decide_true, Bool.true_and,
        Option.any_some, decide_eq_true_eq]
      omega
    rw [hovercommits] at hfits
    cases hfits

/-- A queue of one read request, and no credit for a response, so that a queued request stays. -/
def oneRequestConfig : RdmaConfig :=
  { defaultRdmaConfig with
    inboundReadQueueDepth := 1
    responseLatency := 100 * Falcon.nanosecond
    perQpCredits := fun pool => if pool = .responseTxPacket then 0 else 0x7fffffff }

/-- Two read requests arrive together. The second one is processed before the first one, which waits
for the response latency, is queued. -/
def twoReadRequestsRun : List Label :=
  [.input 0 (.createRcQp 1 11 1 0 .orderedRc),
    .input 0 (.handleRxTransaction { opcode := .readRequest, destQpId := 1, rsn := 0, sgl := [8] }),
    .input 0 (.handleRxTransaction { opcode := .readRequest, destQpId := 1, rsn := 1, sgl := [8] }),
    .fire 0 false, .fire 0 false, .input 0 (.pcieIssue 0), .fire 1 false, .fire 0 false,
    .input 40 (.pcieIssue 0), .fire 2 false, .fire 1 false, .fire 0 false, .fire 0 false]

/-- Both requests are accepted, since the queue was empty when they were processed. -/
theorem inbound_queue_exceeds_depth :
    ∃ s, (system oneRequestConfig).Reachable (fun _ _ => True) s ∧
      (s.qps 1).map (·.inboundReadRequestQueue.length) = some 2 := by
  exact Reachable.exists_of_run twoReadRequestsRun rfl (by decide +kernel)

/-- A read request is queued before the next one is processed, which is then refused. -/
theorem inbound_queue_within_depth_refused :
    ∃ s ctx s', (system oneRequestConfig).Reachable
        (fun s l => overcommitsReads oneRequestConfig s l = false) s ∧
      s.qps 1 = some ctx ∧ ctx.inboundReadRequestQueue.length ≤ 1 ∧
      s.next oneRequestConfig (.fire 0 false) = .ok s' ∧ RnrNacked ctx 1 s' := by
  obtain ⟨s, hs, hfits, htakes, hqueue, hok⟩ := Reachable.exists_of_run
    (T := system oneRequestConfig)
    (C := fun s l => overcommitsReads oneRequestConfig s l = false)
    (P := fun s => overcommitsReads oneRequestConfig s (.fire 0 false) = false ∧
      s.takes oneRequestConfig (.fire 0 false) = some (.transaction
        { opcode := .readRequest, destQpId := 1, rsn := 1, sgl := [8] }) ∧
      (s.qps 1).map (·.inboundReadRequestQueue.length) = some 1 ∧
      (s.next oneRequestConfig (.fire 0 false)).isOk)
    [.input 0 (.createRcQp 1 11 1 0 .orderedRc),
      .input 0 (.handleRxTransaction
        { opcode := .readRequest, destQpId := 1, rsn := 0, sgl := [8] }),
      .fire 0 false, .input 0 (.pcieIssue 0), .fire 1 false, .fire 0 false, .fire 0 false,
      .input 440 (.handleRxTransaction
        { opcode := .readRequest, destQpId := 1, rsn := 1, sgl := [8] })] rfl (by decide +kernel)
  obtain ⟨ctx, hq, hlength⟩ := Option.map_eq_some_iff.mp hqueue
  have hwithin := inbound_queue_within_depth oneRequestConfig s hs
  cases hnext : s.next oneRequestConfig (.fire 0 false) with
  | error e =>
    rw [hnext] at hok
    cases hok
  | ok s' =>
    have hexceeds : oneRequestConfig.inboundReadQueueDepth <
        ctx.inboundReadRequestQueue.length + s.inFlightReads 1 + 1 := by
      rw [hlength, show oneRequestConfig.inboundReadQueueDepth = 1 from rfl]
      omega
    exact ⟨s, ctx, s', hs, hq, hwithin.1 1 ctx hq, hnext,
      hwithin.2 _ s' _ ctx hfits htakes rfl hq hexceeds hnext⟩

end Isekai.Rdma
