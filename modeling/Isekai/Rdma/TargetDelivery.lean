import Isekai.Falcon.TargetBuffer
import Isekai.Lib.Rewind
import Isekai.Rdma.Model

/-!
# Requests from the reorder engine to an ordered queue pair

The reorder engine of an ordered connection sends requests to an RDMA model over a FIFO channel, and
the answers of the RDMA model come back in the order in which it issued them, after any delay. The
RDMA model may refuse any request with RNR. Both sides keep the number of the next request and a
flag for RNR of their own.
-/

namespace Isekai.Rdma

open Lib
open Falcon (Target TargetEvent Time)

def PacketOpcode.isRequest : PacketOpcode → Bool
  | .sendOnly | .writeOnly | .readRequest => true
  | _ => false

def QpContext.receiveSide (ctx : QpContext) : RdmaConnectedMode × Rsn × Bool :=
  (ctx.rcMode, ctx.nextRxRsn, ctx.inRnr)

namespace RdmaModel

variable {c : RdmaConfig} {s : RdmaModel} {q : QpId} {ctx : QpContext} {packet : Packet}
  {randomRnr : Bool}

/-- What became of a request for an ordered queue pair: it was the expected one and is acknowledged
once the host interface has taken it, or it is refused with RNR. -/
def Answered (s : RdmaModel) (q : QpId) (ctx : QpContext) (rsn : Rsn) (s' : RdmaModel) : Prop :=
  (rsn = ctx.nextRxRsn ∧ s'.pcieIssues.length = s.pcieIssues.length + 1 ∧
    (s'.qps q).map (·.receiveSide) = some (.orderedRc, ctx.nextRxRsn + 1, false)) ∨
  (s'.pcieIssues = s.pcieIssues ∧
    (s'.qps q).map (·.receiveSide) = some (.orderedRc, ctx.nextRxRsn, true))

lemma Answered.rnrNack (hmode : ctx.rcMode = .orderedRc) {rsn : Rsn} :
    Answered s q ctx rsn (s.rnrNack c q ctx rsn) := by
  refine .inr ⟨rfl, ?_⟩
  simp [RdmaModel.rnrNack, setQp, schedule, QpContext.enterRnrState, QpContext.receiveSide, hmode]

lemma Answered.accept {ctx' : QpContext} {issue : PcieIssue} {rsn : Rsn}
    (hmode : ctx.rcMode = .orderedRc) (hside : ctx'.receiveSide = ctx.receiveSide)
    (hrsn : rsn = ctx.nextRxRsn) :
    Answered s q ctx rsn
      { s.setQp q ctx'.accept with pcieIssues := s.pcieIssues ++ [issue] } := by
  simp only [QpContext.receiveSide, Prod.mk.injEq] at hside
  obtain ⟨hmode', hnext, -⟩ := hside
  refine .inl ⟨hrsn, by simp, ?_⟩
  simp [setQp, QpContext.accept, QpContext.receiveSide, hmode', hmode, hnext]

lemma isRsnAcceptable_ordered (hmode : ctx.rcMode = .orderedRc) {rsn : Rsn}
    (h : rsn = ctx.nextRxRsn ∨ ctx.inRnr = true) :
    ctx.isRsnAcceptable rsn = .ok (decide (rsn = ctx.nextRxRsn)) := by
  unfold QpContext.isRsnAcceptable
  by_cases hrsn : rsn = ctx.nextRxRsn
  · simp [hrsn]
  · simp [hrsn, hmode, h.resolve_left hrsn]

lemma receiveSide_matchRecv {ctx' : QpContext} {recv : Option OpId}
    (h : ctx.matchRecv c packet = some (ctx', recv)) : ctx'.receiveSide = ctx.receiveSide := by
  obtain ⟨queue, rfl⟩ : ∃ queue, ctx' = { ctx with receiveQueue := queue } := by
    unfold QpContext.matchRecv at h
    grind
  rfl

variable (randomRnr) in
lemma processRxTransaction_ordered (hq : s.qps packet.destQpId = some ctx)
    (hmode : ctx.rcMode = .orderedRc) (hopcode : packet.opcode.isRequest = true)
    (h : packet.rsn = ctx.nextRxRsn ∨ ctx.inRnr = true) :
    ∃ s', s.processRxTransaction c packet randomRnr = .ok s' ∧
      Answered s packet.destQpId ctx packet.rsn s' := by
  have hacceptable := isRsnAcceptable_ordered hmode h
  have hget : s.getQp packet.destQpId = .ok ctx := by simp [getQp, hq]
  unfold processRxTransaction
  dsimp only
  rw [hget, Ensures.ok_bind]
  cases hop : packet.opcode with
  | writeOnly =>
    simp only [processIncomingWrite]
    rw [hacceptable, Ensures.ok_bind]
    split
    · rename_i hc
      simp only [Bool.and_eq_true, decide_eq_true_eq] at hc
      exact ⟨_, rfl, .accept hmode rfl hc.1⟩
    · exact ⟨_, rfl, .rnrNack hmode⟩
  | readRequest =>
    simp only [processIncomingReadRequest]
    rw [hacceptable, Ensures.ok_bind]
    split
    · rename_i hc
      simp only [Bool.and_eq_true, decide_eq_true_eq] at hc
      exact ⟨_, rfl, .accept hmode rfl hc.1.1⟩
    · exact ⟨_, rfl, .rnrNack hmode⟩
  | sendOnly =>
    simp only [processIncomingSend]
    have hsend : ∃ b, isSendAcceptable ctx packet.rsn = .ok b ∧
        (b = true → packet.rsn = ctx.nextRxRsn) := by
      unfold isSendAcceptable
      rw [if_neg (by simp [hmode])]
      split
      · exact ⟨false, rfl, by simp⟩
      · exact ⟨_, hacceptable, by simp⟩
    obtain ⟨b, hb, hexpected⟩ := hsend
    rw [hb, Ensures.ok_bind]
    split
    · exact ⟨_, rfl, .rnrNack hmode⟩
    · rename_i ctx' recv hmatch
      cases b with
      | false => cases hmatch
      | true => exact ⟨_, rfl, .accept hmode (receiveSide_matchRecv hmatch) (hexpected rfl)⟩
  | invalid | ack | readResponseOnly => rw [hop] at hopcode; cases hopcode

end RdmaModel

inductive Answer where
  | ack | rnrNak
  deriving DecidableEq, Repr

def Answer.isAck : Answer → Bool
  | .ack => true
  | .rnrNak => false

/-- A reorder engine and the RDMA model behind it. `answers` are on their way to Falcon, the oldest
first, and `accepted` are the requests that RDMA has accepted, in order. -/
structure Delivery where
  target : Target
  rdma : RdmaModel
  answers : List Answer := []
  accepted : List Rsn := []

/-- The reorder engine does something on its own, the oldest copy in the channel reaches RDMA, the
oldest answer reaches Falcon, or RDMA does anything else. -/
inductive DeliveryEvent where
  | falcon (event : TargetEvent)
  | deliver (packet : Packet) (randomRnr : Bool)
  | answer (rnrTimeout : Time)
  | rdma (rdma : RdmaModel)

inductive DeliveryFatal where
  | falcon (fatal : Falcon.Fatal)
  | rdma (fatal : Fatal)
  deriving DecidableEq, Repr

namespace Delivery

variable (c : RdmaConfig) (q : QpId)

def channel (d : Delivery) : List Rsn := d.target.endpoint.interHostQueue.map (·.rsn)

/-- What RDMA issued for a request: a new item for the host interface, whose acknowledgement
follows, or an RNR NACK. -/
def answerOf (rdma rdma' : RdmaModel) : Answer :=
  if rdma.pcieIssues.length < rdma'.pcieIssues.length then .ack else .rnrNak

def next (d : Delivery) : DeliveryEvent → Except DeliveryFatal Delivery
  | .falcon event => do
    let target ← (d.target.next event).mapError .falcon
    pure { d with target := target }
  | .deliver packet randomRnr => do
    let rdma ← (d.rdma.processRxTransaction c packet randomRnr).mapError .rdma
    let target ← (d.target.next .interHostRx).mapError .falcon
    let answer := answerOf d.rdma rdma
    pure
      { target := target
        rdma := rdma
        answers := d.answers ++ [answer]
        accepted := if answer = .ack then d.accepted ++ [packet.rsn] else d.accepted }
  | .answer rnrTimeout =>
    match d.answers with
    | [] => pure d
    | .ack :: answers => do
      let target ← (d.target.next .ulpAck).mapError .falcon
      pure { d with target := target, answers := answers }
    | .rnrNak :: answers => do
      let target ← (d.target.next (.ulpRnrNack rnrTimeout)).mapError .falcon
      pure { d with target := target, answers := answers }
  | .rdma rdma => pure { d with rdma := rdma }

/-- The packets delivered are the copies in the channel, and nothing else changes what the queue
pair remembers about the requests it receives. -/
def Allowed (d : Delivery) : DeliveryEvent → Prop
  | .falcon event => event.isLocal = true ∧ d.target.Allowed event
  | .deliver packet _ =>
    d.channel.head? = some packet.rsn ∧ packet.destQpId = q ∧ packet.opcode.isRequest = true
  | .answer rnrTimeout => 0 ≤ rnrTimeout
  | .rdma rdma => (rdma.qps q).map (·.receiveSide) = (d.rdma.qps q).map (·.receiveSide)

instance : (d : Delivery) → (ev : DeliveryEvent) → Decidable (d.Allowed q ev)
  | d, .falcon event => inferInstanceAs (Decidable (event.isLocal = true ∧ d.target.Allowed event))
  | d, .deliver packet _ => inferInstanceAs (Decidable (d.channel.head? = some packet.rsn ∧
      packet.destQpId = q ∧ packet.opcode.isRequest = true))
  | _, .answer rnrTimeout => inferInstanceAs (Decidable (0 ≤ rnrTimeout))
  | d, .rdma rdma => inferInstanceAs (Decidable
      ((rdma.qps q).map (·.receiveSide) = (d.rdma.qps q).map (·.receiveSide)))

/-- A connection and its queue pair before the first request. -/
structure Initial (d : Delivery) : Prop where
  target : d.target.Initial
  rdma : (d.rdma.qps q).map (·.receiveSide) = some (.orderedRc, 0, false)
  answers : d.answers = []
  accepted : d.accepted = []

def system : TransitionSystem Delivery DeliveryEvent DeliveryFatal where
  init := Initial q
  allowed := Allowed q
  next := next c

instance (d : Delivery) (ev : DeliveryEvent) : Decidable ((system c q).allowed d ev) :=
  inferInstanceAs (Decidable (d.Allowed q ev))

def answered (d : Delivery) : List (Rsn × Bool) :=
  d.target.endpoint.ulp.given.zip (d.answers.map (·.isAck))

/-- The target and RDMA are in step. -/
structure Inv (d : Delivery) : Prop where
  target : d.target.Inv
  length : d.answers.length = d.target.endpoint.ulp.given.length
  aligned : ∃ inRnr, (d.rdma.qps q).map (·.receiveSide) =
      some (.orderedRc, d.accepted.length, inRnr) ∧
    Rewind.Aligned d.accepted.length inRnr d.target.endpoint.reorder.nextTargetRsn d.channel
      d.answered
  accepted : d.accepted = List.range d.accepted.length

variable {c q} {d : Delivery}

lemma Initial.inv (h : d.Initial q) : d.Inv q := by
  refine ⟨h.target.inv, ?_, ⟨false, ?_, ?_⟩, ?_⟩
  · rw [h.answers, h.target.given]
    rfl
  · rw [h.rdma, h.accepted]
    rfl
  · simp only [h.accepted, channel, answered, h.target.queue, h.target.given, h.target.reorder]
    exact Rewind.Aligned.init
  · rw [h.accepted]
    rfl

lemma not_mem_of_not_mem_inFlight {r : Rsn} (h : r ∉ d.target.endpoint.inFlight) :
    r ∉ d.channel ∧ ∀ b, (r, b) ∉ d.answered := by
  rw [Falcon.Endpoint.inFlight, List.mem_append, not_or] at h
  exact ⟨h.2, fun b hb => h.1 (List.of_mem_zip hb).1⟩

lemma Inv.handed (h : d.Inv q) {target : Target} (htarget : target.Inv)
    (hhanded : d.target.endpoint.Handed target.endpoint) : Inv q { d with target := target } := by
  obtain ⟨inRnr, hside, haligned⟩ := h.aligned
  obtain ⟨hgiven, k, hnext, hqueue, hfresh⟩ := hhanded
  refine ⟨htarget, h.length.trans (congrArg List.length hgiven.symm), ⟨inRnr, hside, ?_⟩,
    h.accepted⟩
  have hhand := haligned.hand k fun r hr => not_mem_of_not_mem_inFlight (hfresh r hr)
  simp only [channel, answered] at hhand ⊢
  rw [hnext, hqueue, hgiven]
  exact hhand

lemma Inv.answer (h : d.Inv q) {rnrTimeout : Time} (hnonneg : 0 ≤ rnrTimeout) :
    Ensures (fun _ => False) (Inv q) (d.next c (.answer rnrTimeout)) := by
  obtain ⟨inRnr, hside, haligned⟩ := h.aligned
  have hlength := h.length
  simp only [next]
  cases hanswers : d.answers with
  | nil => exact h
  | cons a answers =>
    cases hgiven : d.target.endpoint.ulp.given with
    | nil =>
      rw [hanswers, hgiven] at hlength
      cases hlength
    | cons r rest =>
      have hlength' : answers.length = rest.length := by
        simpa [hanswers, hgiven] using hlength
      have hordered := h.target.buffered.ordered
      rw [answered, hanswers, hgiven] at haligned
      cases a with
      | ack =>
        have hsame : d.target.endpoint.ulpAcks.ulp.given = rest ∧
            d.target.endpoint.ulpAcks.interHostQueue = d.target.endpoint.interHostQueue ∧
            d.target.endpoint.ulpAcks.reorder.nextTargetRsn =
              d.target.endpoint.reorder.nextTargetRsn := by
          simp [Falcon.Endpoint.ulpAcks_eq hgiven, Falcon.Endpoint.reorderHandleAckFromUlp,
            hordered]
        obtain ⟨hgiven', hqueue', hnext'⟩ := hsame
        refine ⟨h.target.ulpAck, ?_, ⟨inRnr, hside, ?_⟩, h.accepted⟩
        · exact hlength'.trans (congrArg List.length hgiven'.symm)
        · simp only [channel, answered]
          rw [hgiven', hqueue', hnext']
          exact haligned.learnAccepted
      | rnrNak =>
        have hmem : r ∈ d.target.endpoint.inFlight := by
          rw [Falcon.Endpoint.inFlight_eq_cons hgiven]
          exact List.mem_cons_self
        obtain ⟨entry, hentry, -⟩ := (h.target.buffered.inFlight_iff r).mp hmem
        have hrefused := Falcon.Endpoint.ulpRefuses_refused hordered hgiven hentry rnrTimeout
        refine ⟨h.target.ulpRnrNack hnonneg, ?_, ⟨inRnr, hside, ?_⟩, h.accepted⟩
        · exact hlength'.trans (congrArg List.length hrefused.given.symm)
        · simp only [channel, answered]
          rw [hrefused.given, hrefused.queue, hrefused.next]
          exact haligned.learnRefused

lemma Inv.deliver (h : d.Inv q) {packet : Packet} {randomRnr : Bool}
    (hallowed : d.Allowed q (.deliver packet randomRnr)) :
    Ensures (fun _ => False) (Inv q) (d.next c (.deliver packet randomRnr)) := by
  obtain ⟨hhead, hqp, hopcode⟩ := hallowed
  obtain ⟨inRnr, hside, haligned⟩ := h.aligned
  obtain ⟨ctx, hctx, hctxSide⟩ := Option.map_eq_some_iff.mp hside
  simp only [QpContext.receiveSide, Prod.mk.injEq] at hctxSide
  obtain ⟨hmode, hexpected, hrnr⟩ := hctxSide
  cases hqueue : d.target.endpoint.interHostQueue with
  | nil => simp [channel, hqueue] at hhead
  | cons work queue =>
    have hrsn : work.rsn = packet.rsn := by simpa [channel, hqueue] using hhead
    have hchannel : d.channel = packet.rsn :: queue.map (·.rsn) := by
      rw [channel, hqueue, List.map_cons, hrsn]
    rw [hchannel] at haligned
    obtain ⟨rdma, hrdma, hanswered⟩ := RdmaModel.processRxTransaction_ordered (c := c)
      randomRnr (hqp.symm ▸ hctx) hmode hopcode
      (haligned.eq_expected.imp (hexpected ▸ ·) (hrnr ▸ ·))
    simp only [next]
    rw [hrdma]
    have hpass := Falcon.Endpoint.passToUlp_eq hqueue
    have hzip : ∀ a, List.zip (d.target.endpoint.ulp.given ++ [packet.rsn])
        ((d.answers ++ [a]).map Answer.isAck) = d.answered ++ [(packet.rsn, a.isAck)] := by
      intro a
      rw [List.map_append, List.zip_append (by rw [List.length_map, h.length])]
      rfl
    have hlength : ∀ a : Answer, (d.answers ++ [a]).length =
        d.target.endpoint.passToUlp.ulp.given.length := by
      simp [hpass, h.length]
    rw [hqp] at hanswered
    rcases hanswered with ⟨hrsn', hissues, hside'⟩ | ⟨hissues, hside'⟩
    · have hack : answerOf d.rdma rdma = .ack := if_pos (by omega)
      have hE : packet.rsn = d.accepted.length := hrsn'.trans hexpected
      refine ⟨h.target.interHostRx, hlength _, ⟨false, ?_, ?_⟩, ?_⟩
      · simp only [hack, if_true, List.length_append, List.length_singleton]
        rw [hside', hexpected]
      · simp only [hack, if_true, List.length_append, List.length_singleton, channel, answered]
        rw [hpass]
        rw [hrsn, hzip, hE]
        exact (hE ▸ haligned).accept
      · simp only [hack, if_true, List.length_append, List.length_singleton]
        rw [hE, List.range_succ, ← h.accepted]
    · have hnak : answerOf d.rdma rdma = .rnrNak := if_neg (by simp [hissues])
      refine ⟨h.target.interHostRx, hlength _, ⟨true, ?_, ?_⟩, ?_⟩
      · simp only [hnak, reduceCtorEq, if_false]
        rw [hside', hexpected]
      · simp only [hnak, reduceCtorEq, if_false, channel, answered]
        rw [hpass]
        rw [hrsn, hzip]
        exact haligned.refuse
      · simp only [hnak, reduceCtorEq, if_false]
        exact h.accepted

/-- The only aborts are those of Falcon. -/
theorem Inv.next (h : d.Inv q) (ev : DeliveryEvent) (hallowed : d.Allowed q ev) :
    Ensures (fun e => ∃ fatal, e = .falcon fatal) (Inv q) (d.next c ev) := by
  cases ev with
  | falcon event =>
    have hlocal := h.target.next_local hallowed.1 hallowed.2
    exact (Ensures.mapError (hlocal.mono (fun e _ => ⟨e, rfl⟩) fun _ ht => ht)).bind
      fun target htarget => h.handed htarget.1 htarget.2
  | deliver packet randomRnr =>
    exact (h.deliver hallowed).mono (fun _ hfalse => hfalse.elim) fun _ => id
  | answer rnrTimeout => exact (h.answer hallowed).mono (fun _ hfalse => hfalse.elim) fun _ => id
  | rdma rdma =>
    obtain ⟨inRnr, hside, haligned⟩ := h.aligned
    exact ⟨h.target, h.length, ⟨inRnr, hallowed.trans hside, haligned⟩, h.accepted⟩

/-- Requests reach an ordered queue pair in order, whatever it refuses and however late its answers
and the timers are: RDMA does not abort on a request that is out of order, it accepts the requests
in the order of their numbers and each of them once, and at most one copy of a request is in
flight. -/
theorem delivery_in_order (h : (system c q).Reachable (fun _ _ => True) d) :
    (∀ ev, (system c q).allowed d ev → (system c q).next d ev ≠ .error (.rdma .outOfOrderRsn)) ∧
    d.accepted = List.range d.accepted.length ∧
    ∀ r, d.target.endpoint.inFlight.count r ≤ 1 := by
  have hinv : d.Inv q := h.invariant (I := Inv q) (E := fun e => ∃ fatal, e = .falcon fatal)
    (fun _ hd => Initial.inv hd) fun _ ev hd hallowed _ => hd.next ev hallowed
  refine ⟨fun ev hallowed herror => ?_, hinv.accepted, fun r => ?_⟩
  · obtain ⟨fatal, hfatal⟩ := (hinv.next (c := c) ev hallowed).of_error herror
    cases hfatal
  · exact List.nodup_iff_count_le_one.mp hinv.target.buffered.nodup r

def fresh (c : RdmaConfig) (q : QpId) : Delivery where
  target := .fresh
  rdma := (initial c).setQp q { qpId := q, rcMode := .orderedRc, creditLimit := 0 }

/-- RDMA refuses the first of two requests and gets it again behind the second one. -/
theorem delivery_in_order_refused : ∃ d,
    (system defaultRdmaConfig 1).Reachable (fun _ _ => True) d ∧ d.accepted = [0] ∧
    d.target.endpoint.inFlight = [1, 0] ∧
    ((∀ ev, (system defaultRdmaConfig 1).allowed d ev →
        (system defaultRdmaConfig 1).next d ev ≠ .error (.rdma .outOfOrderRsn)) ∧
      d.accepted = List.range d.accepted.length ∧
      ∀ r, d.target.endpoint.inFlight.count r ≤ 1) := by
  obtain ⟨d, hd, haccepted, hflight⟩ := TransitionSystem.Reachable.exists_of_run
    (T := system defaultRdmaConfig 1) (C := fun _ _ => True)
    (P := fun d => d.accepted = [0] ∧ d.target.endpoint.inFlight = [1, 0])
    (s := fresh defaultRdmaConfig 1)
    [.falcon (.insert .pushUnsolicitedData 0 0), .falcon (.insert .pullRequest 1 0),
      .deliver { opcode := .writeOnly, destQpId := 1, rsn := 0 } true, .answer 3,
      .falcon (.advance 3), .falcon (.rnrTimeout 0),
      .deliver { opcode := .readRequest, destQpId := 1, rsn := 1 } false,
      .deliver { opcode := .writeOnly, destQpId := 1, rsn := 0 } false]
    ⟨⟨rfl, le_rfl, rfl, rfl, rfl, rfl⟩, rfl, rfl, rfl⟩ (by decide +kernel)
  exact ⟨d, hd, haccepted, hflight, delivery_in_order hd⟩

end Delivery

end Isekai.Rdma
