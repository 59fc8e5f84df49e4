import Isekai.Rdma.CoreRefinement

/-!
# The history of the requests

The history of a queue pair is read off the log. A ledger is a condition on the history and the
context of one queue pair, and `Keeps.next` says that every step keeps a ledger that follows
`LedgerRules`.
-/

namespace Isekai.Rdma

open Falcon (Time)
open Lib Function

def requestsOf (log : List Action) (q : QpId) : List (Rsn × PacketOpcode) :=
  log.filterMap fun action => match action with
    | .transaction packet =>
      if packet.srcQpId = q ∧ packet.opcode ≠ .readResponseOnly
        then some (packet.rsn, packet.opcode)
      else none
    | _ => none

def answeredOf (log : List Action) (q : QpId) : List Rsn :=
  log.filterMap fun action => match action with
    | .readResponse q' rsn => if q' = q then some rsn else none
    | _ => none

def waitingReads (requests : List (Rsn × PacketOpcode)) (answered : List Rsn) : Finset Rsn :=
  ((requests.filter fun request => request.2 = .readRequest).map Prod.fst).toFinset \
    answered.toFinset

def RdmaModel.outstandingReads (s : RdmaModel) (q : QpId) : Finset Rsn :=
  waitingReads (requestsOf s.log q) (answeredOf s.log q)

lemma mem_waitingReads {requests : List (Rsn × PacketOpcode)} {answered : List Rsn} {rsn : Rsn} :
    rsn ∈ waitingReads requests answered ↔
      (rsn, PacketOpcode.readRequest) ∈ requests ∧ rsn ∉ answered := by
  simp [waitingReads]

/-- A work item of the receive pipeline that answers a request answers one that was sent: a response
a read, and a completion a send or a write. -/
def PipelineWork.Answers (log : List Action) : PipelineWork → Prop
  | .transaction packet => packet.opcode = .readResponseOnly →
    (packet.rsn, .readRequest) ∈ requestsOf log packet.destQpId
  | .completion q rsn => (rsn, .sendOnly) ∈ requestsOf log q ∨ (rsn, .writeOnly) ∈ requestsOf log q

lemma requestsOf_append (log log' : List Action) (q : QpId) :
    requestsOf (log ++ log') q = requestsOf log q ++ requestsOf log' q := List.filterMap_append

lemma answeredOf_append (log log' : List Action) (q : QpId) :
    answeredOf (log ++ log') q = answeredOf log q ++ answeredOf log' q := List.filterMap_append

variable {work : PipelineWork}

lemma PipelineWork.Answers.append {log : List Action} (h : work.Answers log)
    (actions : List Action) :
    work.Answers (actions ++ log) := by
  cases work with
  | transaction packet =>
    intro hopcode
    rw [requestsOf_append]
    exact List.mem_append_right _ (h hopcode)
  | completion q rsn =>
    simp only [Answers, requestsOf_append, List.mem_append]
    exact h.imp .inr .inr

section Core

variable (s : RdmaModel) (q : QpId)

lemma requestsOf_core : requestsOf s.core.history q = requestsOf s.log q := by
  simp only [requestsOf, RdmaModel.core, List.filterMap_filter]
  congr 1
  funext action
  cases action <;> rfl

lemma answeredOf_core : answeredOf s.core.history q = answeredOf s.log q := by
  simp only [answeredOf, RdmaModel.core, List.filterMap_filter]
  congr 1
  funext action
  cases action <;> rfl

variable {s q}

lemma mem_requestsOf {rsn : Rsn} {opcode : PacketOpcode} (hopcode : opcode ≠ .readResponseOnly)
    (h : s.sentAs q rsn opcode = true) : (rsn, opcode) ∈ requestsOf s.log q := by
  obtain ⟨action, hmem, haction⟩ := List.any_eq_true.mp h
  cases action with
  | transaction packet =>
    obtain ⟨rfl, rfl, rfl⟩ := of_decide_eq_true haction
    exact List.mem_filterMap.mpr ⟨_, hmem, if_pos ⟨rfl, hopcode⟩⟩
  | _ => cases haction

lemma Label.Enters.answers {l : Label} (henters : l.Enters work) (hallowed : s.allowed l) :
    work.Answers s.core.history := by
  match l, henters, hallowed with
  | .input _ (.handleRxTransaction packet), henters, hallowed =>
    obtain rfl : work = .transaction packet := henters
    intro hopcode
    rw [requestsOf_core]
    refine mem_requestsOf (by decide) ?_
    simpa [RdmaModel.inputAllowed, hopcode] using hallowed.2.2
  | .input _ (.handleCompletion q rsn), henters, hallowed =>
    obtain rfl : work = .completion q rsn := henters
    simp only [PipelineWork.Answers, requestsOf_core]
    exact (Bool.or_eq_true_iff.mp hallowed.2.2).imp (mem_requestsOf (by decide))
      (mem_requestsOf (by decide))

end Core

/-- What a ledger has to follow. `N` is what holds of the operations that are posted. -/
structure LedgerRules (c : RdmaConfig) (N : RdmaOp → Prop)
    (L : QpId → List (Rsn × PacketOpcode) → List Rsn → QpContext → Prop) : Prop where
  qpId : ∀ {q requests answered ctx}, L q requests answered ctx → ctx.qpId = q
  create : ∀ {q ctx}, ctx.IsNew q → L q [] [] ctx
  enqueue : ∀ {q requests answered ctx ctx' op}, L q requests answered ctx → N op →
    ctx.Enqueues op ctx' → L q requests answered ctx'
  receive : ∀ {q requests answered ctx} (receiveQueue : List (OpId × RdmaOp))
    (inboundReadRequestQueue : List InboundReadRequest), L q requests answered ctx →
    L q requests answered { ctx with receiveQueue, inboundReadRequestQueue }
  request : ∀ {q requests answered ctx ctx' packet}, L q requests answered ctx →
    ctx.createRequestPacket c = .ok (packet, ctx') →
    L q ((packet.rsn, packet.opcode) :: requests) answered (ctx'.countRequest packet)
  answer : ∀ {q requests answered ctx ctx' rsn finished}, L q requests answered ctx →
    (rsn, PacketOpcode.readRequest) ∈ requests → ctx.finishRequest rsn = .ok (ctx', finished) →
    L q requests (rsn :: answered) (ctx'.countRead finished)
  finish : ∀ {q requests answered ctx ctx' rsn opcode finished}, L q requests answered ctx →
    (rsn, opcode) ∈ requests → opcode ≠ .readRequest →
    ctx.finishRequest rsn = .ok (ctx', finished) → L q requests answered ctx'

/-- `L` relates the history of each queue pair to its context. -/
structure Keeps (N : RdmaOp → Prop)
    (L : QpId → List (Rsn × PacketOpcode) → List Rsn → QpContext → Prop) (k : Core) : Prop where
  contexts : ∀ q ctx, k.qps q = some ctx → L q (requestsOf k.history q) (answeredOf k.history q) ctx
  unknown : ∀ q, k.qps q = none → requestsOf k.history q = [] ∧ answeredOf k.history q = []
  arriving : ∀ work ∈ k.arriving, work.Answers k.history
  posted : ∀ q op, .postOp q op ∈ k.jobs → N op

def Unrelated (actions : List Action) (q : QpId) : Prop :=
  requestsOf actions q = [] ∧ answeredOf actions q = []

namespace Keeps

variable {c : RdmaConfig} {N : RdmaOp → Prop}
  {L : QpId → List (Rsn × PacketOpcode) → List Rsn → QpContext → Prop} {k k' : Core} {q : QpId}
  {ctx ctx' : QpContext}

lemma of_qps (h : Keeps N L k) (actions : List Action) (hqps : k'.qps = k.qps)
    (hhistory : k'.history = actions ++ k.history) (hactions : ∀ q, Unrelated actions q)
    (harriving : ∀ work ∈ k'.arriving, work ∈ k.arriving ∨ work.Answers k.history)
    (hjobs : ∀ q op, .postOp q op ∈ k'.jobs → .postOp q op ∈ k.jobs ∨ N op) : Keeps N L k' where
  contexts q ctx hq := by
    rw [hhistory, requestsOf_append, answeredOf_append, (hactions q).1, (hactions q).2]
    exact h.contexts q ctx (hqps ▸ hq)
  unknown q hq := by
    rw [hhistory, requestsOf_append, answeredOf_append, (hactions q).1, (hactions q).2]
    exact h.unknown q (hqps ▸ hq)
  arriving work hwork := by
    rw [hhistory]
    exact ((harriving work hwork).elim (h.arriving work) id).append actions
  posted q op hop := (hjobs q op hop).elim (h.posted q op) id

lemma setQp (h : Keeps N L k) (actions : List Action)
    (hqps : k'.qps = update k.qps q (some ctx'))
    (hhistory : k'.history = actions ++ k.history) (hactions : ∀ q' ≠ q, Unrelated actions q')
    (hctx' : L q (requestsOf k'.history q) (answeredOf k'.history q) ctx')
    (harriving : ∀ work ∈ k'.arriving, work ∈ k.arriving)
    (hjobs : ∀ q op, .postOp q op ∈ k'.jobs → .postOp q op ∈ k.jobs) : Keeps N L k' where
  contexts q' ctx₀ hq' := by
    rw [hqps] at hq'
    by_cases hqq : q' = q
    · subst hqq
      rw [update_self] at hq'
      cases hq'
      exact hctx'
    · rw [update_of_ne hqq] at hq'
      rw [hhistory, requestsOf_append, answeredOf_append, (hactions q' hqq).1, (hactions q' hqq).2]
      exact h.contexts q' ctx₀ hq'
  unknown q' hq' := by
    rw [hqps] at hq'
    by_cases hqq : q' = q
    · subst hqq
      rw [update_self] at hq'
      cases hq'
    · rw [update_of_ne hqq] at hq'
      rw [hhistory, requestsOf_append, answeredOf_append, (hactions q' hqq).1, (hactions q' hqq).2]
      exact h.unknown q' hq'
  arriving work hwork := by
    rw [hhistory]
    exact (h.arriving work (harriving work hwork)).append actions
  posted q op hop := h.posted q op (hjobs q op hop)

lemma setQp_receive (rules : LedgerRules c N L) (h : Keeps N L k) (hq : k.qps q = some ctx)
    {receiveQueue : List (OpId × RdmaOp)} {inboundReadRequestQueue : List InboundReadRequest}
    (hqps : k'.qps = update k.qps q
      (some { ctx with receiveQueue, inboundReadRequestQueue }))
    (hhistory : k'.history = k.history) (harriving : ∀ work ∈ k'.arriving, work ∈ k.arriving)
    (hjobs : ∀ q op, .postOp q op ∈ k'.jobs → .postOp q op ∈ k.jobs) : Keeps N L k' := by
  refine h.setQp [] hqps hhistory (fun _ _ => ⟨rfl, rfl⟩) ?_ harriving hjobs
  rw [hhistory]
  exact rules.receive _ _ (h.contexts q ctx hq)

lemma process (rules : LedgerRules c N L) (h : Keeps N L k) (hwork : work.Answers k.history)
    (hprocess : Core.Process c k work k') : Keeps N L k' := by
  cases hprocess with
  | refuses => exact h
  | acceptsWrite scid time =>
    exact h.of_qps [] rfl rfl (fun _ => ⟨rfl, rfl⟩) (fun _ => .inl) fun _ _ => .inl
  | acceptsSend scid time hq hmatch =>
    obtain ⟨queue, rfl⟩ := QpContext.matchRecv_eq hmatch
    exact h.setQp_receive rules hq rfl rfl (fun _ => id) fun _ _ => id
  | acceptsRead time hopcode hq hdepth =>
    exact h.of_qps [] rfl rfl (fun _ => ⟨rfl, rfl⟩) (fun _ => .inl) fun _ _ => .inl
  | @answers packet ctx ctx' finished hopcode hq hfinish =>
    refine h.setQp [.readResponse packet.destQpId packet.rsn] rfl rfl (fun q' hqq => ?_) ?_
      (fun _ => id) fun _ _ => id
    · simp [Unrelated, requestsOf, answeredOf, hqq.symm]
    · have hanswered : answeredOf (.readResponse packet.destQpId packet.rsn :: k.history)
          packet.destQpId = packet.rsn :: answeredOf k.history packet.destQpId := by
        simp [answeredOf]
      exact hanswered ▸ rules.answer (h.contexts _ ctx hq) (hwork hopcode) hfinish
  | @finishes q rsn ctx ctx' finished hq hfinish hdelay =>
    refine h.setQp [.requestCompletion q rsn] rfl rfl (fun _ _ => ⟨rfl, rfl⟩) ?_ (fun _ => id)
      fun _ _ => id
    exact hwork.elim
      (fun hmem => rules.finish (h.contexts q ctx hq) hmem (by decide) hfinish)
      fun hmem => rules.finish (h.contexts q ctx hq) hmem (by decide) hfinish
  | @finishesNow q rsn ctx ctx' finished hq hfinish =>
    have hcallback : ∀ q', Unrelated
        ((finished.map fun id => Action.completionCallback q id).toList ++
          [.requestCompletion q rsn]) q' := by
      intro q'
      cases finished <;> exact ⟨rfl, rfl⟩
    refine h.setQp _ rfl (List.append_assoc _ [Action.requestCompletion q rsn] _).symm
      (fun q' _ => hcallback q') ?_ (fun _ => id) fun _ _ => id
    have hctx' : L q (requestsOf k.history q) (answeredOf k.history q) ctx' := hwork.elim
      (fun hmem => rules.finish (h.contexts q ctx hq) hmem (by decide) hfinish)
      fun hmem => rules.finish (h.contexts q ctx hq) hmem (by decide) hfinish
    cases finished <;> exact hctx'

theorem step (rules : LedgerRules c N L) (h : Keeps N L k) {e : Event}
    (hposts : ∀ q op, e = .posts q op → N op)
    (henters : ∀ work, e = .enters work → work.Answers k.history)
    (hstep : Core.Step c k e k') : Keeps N L k' := by
  have hjob : ∀ {callback : Callback} {jobs : Multiset Callback}, k.jobs = callback ::ₘ jobs →
      ∀ q op, .postOp q op ∈ jobs → .postOp q op ∈ k.jobs :=
    fun hjobs q op hmem => hjobs ▸ Multiset.mem_cons_of_mem hmem
  cases hstep with
  | @creates q ctx hnone hnew =>
    obtain ⟨hrequests, hanswered⟩ := h.unknown q hnone
    refine h.setQp [] rfl rfl (fun _ _ => ⟨rfl, rfl⟩) ?_ (fun _ => id) fun _ _ => id
    change L q (requestsOf k.history q) (answeredOf k.history q) ctx
    rw [hrequests, hanswered]
    exact rules.create hnew
  | posts q op =>
    refine h.of_qps [] rfl rfl (fun _ => ⟨rfl, rfl⟩) (fun _ => .inl) fun q' op' hmem => ?_
    obtain heq | hmem := Multiset.mem_cons.mp hmem
    · cases heq
      exact .inr (hposts q op rfl)
    · exact .inl hmem
  | enters work =>
    refine h.of_qps [] rfl rfl (fun _ => ⟨rfl, rfl⟩) (fun work' hmem => ?_) fun _ _ => .inl
    obtain rfl | hmem := Multiset.mem_cons.mp hmem
    · exact .inr (henters _ rfl)
    · exact .inl hmem
  | @enqueues q op ctx ctx' jobs hjobs hq henqueue =>
    refine h.setQp [] rfl rfl (fun _ _ => ⟨rfl, rfl⟩) ?_ (fun _ => id) (hjob hjobs)
    have hop : N op := h.posted q op (hjobs ▸ Multiset.mem_cons_self _ _)
    exact rules.enqueue (h.contexts q ctx hq) hop henqueue
  | @cuts q front ctx ctx' packet hq hid hpacket =>
    obtain ⟨-, -, op, -, -, -, hopcode, hsource, -⟩ := QpContext.createRequestPacket_ok hpacket
    have hsource : packet.srcQpId = q := hsource.trans (rules.qpId (h.contexts q ctx hq))
    have hresponse : packet.opcode ≠ .readResponseOnly := by
      rw [hopcode]
      cases op.opcode <;> decide
    refine h.setQp [.transaction packet] rfl rfl (fun q' hqq => ?_) ?_ (fun _ => id) fun _ _ => id
    · simp [Unrelated, requestsOf, answeredOf, hsource, hqq.symm]
    · have hrequests : requestsOf (.transaction packet :: k.history) q =
          (packet.rsn, packet.opcode) :: requestsOf k.history q := by
        simp [requestsOf, hsource, hresponse]
      exact hrequests ▸ rules.request (h.contexts q ctx hq) hpacket
  | @responds q ctx ctx' packet hq hpacket =>
    obtain ⟨request, queue, -, hopcode, -, rfl⟩ := QpContext.createResponsePacket_ok hpacket
    have hunrelated : ∀ q', Unrelated [.transaction packet] q' := by
      simp [Unrelated, requestsOf, answeredOf, hopcode]
    refine h.setQp [.transaction packet] rfl rfl (fun q' _ => hunrelated q') ?_ (fun _ => id)
      fun _ _ => id
    have hrequests : requestsOf (.transaction packet :: k.history) q = requestsOf k.history q := by
      simp [requestsOf, hopcode]
    exact hrequests ▸ rules.receive ctx.receiveQueue queue (h.contexts q ctx hq)
  | @takes work arriving k' harriving hprocess =>
    have hrest : Keeps N L { k with arriving } := by
      refine h.of_qps [] rfl rfl (fun _ => ⟨rfl, rfl⟩) (fun work' hmem => .inl ?_) fun _ _ => .inl
      exact harriving ▸ Multiset.mem_cons_of_mem hmem
    exact hrest.process rules (h.arriving work (harriving ▸ Multiset.mem_cons_self _ _)) hprocess
  | issuesAck hissues =>
    exact h.of_qps [] rfl rfl (fun _ => ⟨rfl, rfl⟩) (fun _ => .inl) fun _ _ => .inl
  | issuesRecv hissues =>
    refine h.of_qps [] rfl rfl (fun _ => ⟨rfl, rfl⟩) (fun _ => .inl) fun q op hmem => .inl ?_
    exact (Multiset.mem_cons.mp hmem).resolve_left nofun
  | @issuesRecvNow scid rsn time recv issues hissues =>
    exact h.of_qps [.completionCallback recv.1 recv.2] rfl rfl (fun _ => ⟨rfl, rfl⟩) (fun _ => .inl)
      fun _ _ => .inl
  | issuesRead hissues =>
    refine h.of_qps [] rfl rfl (fun _ => ⟨rfl, rfl⟩) (fun _ => .inl) fun q op hmem => .inl ?_
    exact (Multiset.mem_cons.mp hmem).resolve_left nofun
  | @acks scid rsn syndrome recv jobs hjobs =>
    exact h.of_qps [.completionCallback recv.1 recv.2] rfl rfl (fun _ => ⟨rfl, rfl⟩) (fun _ => .inl)
      fun q op hmem => .inl (hjob hjobs q op hmem)
  | acksRead hjobs =>
    refine h.of_qps [] rfl rfl (fun _ => ⟨rfl, rfl⟩) (fun _ => .inl) fun q op hmem => .inl ?_
    exact hjob hjobs q op ((Multiset.mem_cons.mp hmem).resolve_left nofun)
  | enqueuesRead hjobs hq => exact h.setQp_receive rules hq rfl rfl (fun _ => id) (hjob hjobs)
  | @completes q op completions hcompletions =>
    exact h.of_qps [.completionCallback q op] rfl rfl (fun _ => ⟨rfl, rfl⟩) (fun _ => .inl)
      fun _ _ => .inl

/-- A step of the RDMA model keeps the ledgers. -/
theorem next {s s' : RdmaModel} (rules : LedgerRules c N L) (h : Keeps N L s.core) {l : Label}
    (hallowed : s.allowed l) (hposts : ∀ q op, l.Posts q op → N op)
    (hnext : s.next c l = .ok s') : Keeps N L s'.core := by
  obtain ⟨hcore, -⟩ | ⟨e, hcaused, hstep⟩ := RdmaModel.refines_of_next hallowed hnext
  · exact hcore ▸ h
  · exact h.step rules (fun q op he => hposts q op (hcaused.posts q op he))
      (fun work he => (hcaused.enters work he).answers hallowed) hstep

lemma initial (N : RdmaOp → Prop)
    (L : QpId → List (Rsn × PacketOpcode) → List Rsn → QpContext → Prop) (c : RdmaConfig) :
    Keeps N L (initial c).core :=
  ⟨nofun, fun _ _ => ⟨rfl, rfl⟩, nofun, nofun⟩

theorem of_reachable {C : RdmaModel → Label → Prop} {s : RdmaModel} (rules : LedgerRules c N L)
    (hposts : ∀ s l q op, C s l → l.Posts q op → N op) (h : (system c).Reachable C s) :
    Keeps N L s.core :=
  h.invariant_of_ok (I := fun s => Keeps N L s.core) (fun _ hs => hs ▸ .initial N L c)
    fun s l _ _ hs hallowed hC hnext => hs.next rules hallowed (hposts s l · · hC) hnext

end Keeps

end Isekai.Rdma
