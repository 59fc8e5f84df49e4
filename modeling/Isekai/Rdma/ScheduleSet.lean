import Isekai.Rdma.Members

/-!
# The lists and sets of the work scheduler

Each of the two round-robin lists has no duplicates and the same members as its set, and every
member has an item in its work queue.
-/

namespace Isekai.Rdma

open Falcon (Time)
open Lib Function TransitionSystem RdmaModel

/-- Only the head of the served list is popped. -/
structure RdmaModel.PopsServed (s s' : RdmaModel) : Prop where
  served : s'.wqs s.currentWorkType = s.wqs s.currentWorkType ∨
    s'.wqs s.currentWorkType = (s.wqs s.currentWorkType).tail
  other : ∀ w, w ≠ s.currentWorkType → s'.wqs w = s.wqs w

/-- The step sends a response for a queue pair that is at the limit of outstanding reads and whose
next operation is a read. -/
def servesResponseAtOrdLimit (c : RdmaConfig) (s : RdmaModel) : Label → Bool
  | .fire index _ =>
    match s.pending[index]? with
    | some (_, .sendTransaction q) =>
      s.currentWorkType = .response ∧ (s.qps q).any (·.atOrdLimit c)
    | _ => false
  | .input _ _ => false

/-- The queue pair is in a list, once, exactly if it is in the set of the list, and it then has an
item in its work queue. -/
structure Placed (q : QpId) (s : RdmaModel) : Prop extends
    Guarded q (fun w ctx => ctx.hasWork w) s where
  inList : ∀ w, q ∈ s.qpSet w → q ∈ s.wqs w

section Steps

variable {c : RdmaConfig} {s s' : RdmaModel} {q : QpId} {l : Label} {ctx : QpContext} {w : WorkType}

lemma atOrdLimit_of_not_servesResponse {index : Nat} {randomRnr : Bool} {time : Time}
    (hevent : s.pending[index]? = some (time, .sendTransaction q))
    (h : servesResponseAtOrdLimit c s (.fire index randomRnr) = false)
    (hresponse : s.currentWorkType = .response) (ctx : QpContext) (hq : s.qps q = some ctx) :
    ctx.atOrdLimit c = false := by
  simpa [servesResponseAtOrdLimit, hevent, hresponse, hq] using h

lemma hasWork_write (hwork : ctx.hasWork w) (write : Write) : (write.apply ctx).hasWork w := by
  cases write with
  | posted op dest =>
    cases w with
    | request => exact List.append_ne_nil_of_right_ne_nil _ (List.cons_ne_nil _ _)
    | response => exact hwork
  | inbound request =>
    cases w with
    | request => exact hwork
    | response => exact List.append_ne_nil_of_right_ne_nil _ (List.cons_ne_nil _ _)
  | _ => cases w <;> exact hwork

lemma hasWork_rules (hord : servesResponseAtOrdLimit c s l = false) :
    Guarded.Rules c q (fun w ctx => ctx.hasWork w) s l where
  calm _ _ _ hwork hcalm := hcalm.hasWork hwork
  write _ _ write _ _ _ hwork := hasWork_write hwork write
  pushWrite _ _ _ _ _ _ hcredits _ := QpContext.hasWork_of_hasCredits hcredits
  pushEvent _ _ _ _ _ _ _ _ _ _ hcredits _ := QpContext.hasWork_of_hasCredits hcredits
  other w _ _ _ _ hw hpacket _ hwork := by
    have hwork₁ := createPacket_hasWork hpacket hw hwork
    cases w <;> exact hwork₁
  stays _ hcredits _ _ := QpContext.hasWork_of_hasCredits hcredits
  limit index randomRnr time ctx hl hevent hresponse hq hlimit := by
    subst hl
    have hbelow := atOrdLimit_of_not_servesResponse hevent hord hresponse ctx hq
    rw [hlimit] at hbelow
    cases hbelow

lemma currentWorkType_of_atOrdLimit {packet : Packet} {ctx₁ : QpContext} {now : Time}
    {credit : FalconCredit}
    (hord : s.currentWorkType = .response → ∀ ctx, s.qps q = some ctx → ctx.atOrdLimit c = false)
    (hq : s.qps q = some ctx)
    (hpacket : createPacket c ctx s.currentWorkType = .ok (packet, ctx₁))
    (hlimit : (chargeQp c now ctx₁ packet credit).atOrdLimit c = true) :
    s.currentWorkType = .request := by
  cases hw : s.currentWorkType with
  | request => rfl
  | response =>
    rw [hw] at hpacket
    rw [atOrdLimit_chargeQp_response now credit hpacket, hord hw ctx hq] at hlimit
    cases hlimit

/-- A transaction that is no response at the limit leaves its queue pair at the head of the list,
with quanta left, or pops it and uses up the quanta. -/
lemma Sends.stays_or_pops (h : Sends c q s s')
    (hord : s.currentWorkType = .response → ∀ ctx, s.qps q = some ctx → ctx.atOrdLimit c = false) :
    (s'.wqs = s.wqs ∧ s'.qpSet = s.qpSet ∧ 0 < s'.remainingQuantaBytes s.currentWorkType ∧
      0 < s'.remainingQuantaOps s.currentWorkType) ∨
    (Pops q s.currentWorkType s s' ∧ s'.Spent s.currentWorkType) := by
  obtain ⟨ctx, packet, ctx₁, hq, hpacket, hsent⟩ := h
  cases hsent.turn with
  | limit hlimit hpops hspent =>
    rw [currentWorkType_of_atOrdLimit hord hq hpacket hlimit] at hspent ⊢
    exact .inr ⟨hpops, hspent⟩
  | stays hlimit hcredits hxoff hwqs hset hbytes hops => exact .inl ⟨hwqs, hset, hbytes, hops⟩
  | ends hlimit hpops hspent => exact .inr ⟨hpops, hspent⟩

lemma Sends.popsServed (h : Sends c q s s')
    (hord : s.currentWorkType = .response → ∀ ctx, s.qps q = some ctx → ctx.atOrdLimit c = false) :
    RdmaModel.PopsServed s s' := by
  obtain ⟨hwqs, -⟩ | ⟨⟨head, rest, hqueue, hwqs, -⟩, -⟩ := h.stays_or_pops hord
  · exact ⟨.inl (by rw [hwqs]), fun w _ => by rw [hwqs]⟩
  · refine ⟨.inr ?_, fun w hw => ?_⟩
    · rw [hwqs, hqueue, update_self, List.tail_cons]
    · rw [hwqs, update_of_ne hw]

/-- Every step that serves no such response keeps the place of the queue pair. -/
theorem Placed.next (h : Placed q s) {F : Finding} (hchained : Chained F s) (hallowed : s.allowed l)
    (hord : servesResponseAtOrdLimit c s l = false) (hnext : s.next c l = .ok s') :
    Placed q s' := by
  have hstep := happens_of_next hallowed hnext
  refine ⟨h.toGuarded.happens hchained (hasWork_rules hord) hstep, fun w hmem => ?_⟩
  obtain ⟨q', index, randomRnr, time, -, rfl, hget, hsends⟩ | ⟨-, hgrown⟩ :=
    sends_or_grown hallowed hnext
  · have hbelow := atOrdLimit_of_not_servesResponse hget hord
    obtain ⟨hwqs, hset, -⟩ | ⟨⟨head, rest, hqueue, hwqs, hset⟩, -⟩ := hsends.stays_or_pops hbelow
    · rw [hset] at hmem
      rw [hwqs]
      exact h.inList w hmem
    · rw [hset] at hmem
      rw [hwqs]
      by_cases hw : w = s.currentWorkType
      · subst hw
        rw [update_self, Finset.mem_erase] at hmem
        rw [update_self]
        -- the head is the queue pair that was served, and it is not `q`
        have hhead := hchained.head (List.mem_of_getElem? hget)
        have hmem' := h.inList _ hmem.2
        rw [show s.wqs s.currentWorkType = head :: rest from hqueue] at hhead hmem'
        cases hhead
        exact (List.mem_cons.mp hmem').resolve_left hmem.1
      · rw [update_of_ne hw] at hmem ⊢
        exact h.inList w hmem
  · obtain ⟨new, hwqs, hset⟩ := hgrown.lists w
    rw [hset, Finset.mem_union, List.mem_toFinset] at hmem
    rw [hwqs, List.mem_append]
    exact hmem.imp_left (h.inList w)

/-- Such a step finds no empty list or queue. -/
lemma noQueueFault_of_next (h : ∀ q, Placed q s) {F : Finding} (hchained : Chained F s)
    (hallowed : s.allowed l) (hord : servesResponseAtOrdLimit c s l = false) :
    Ensures NoQueueFault (Happens c s l) (s.next c l) := by
  refine next_happens (fun _ he => he.1) hallowed
    fun index randomRnr time q hl hget => ?_
  subst hl
  have hhead := hchained.head (List.mem_of_getElem? hget)
  refine sendTransaction_sends (fun _ he => he.1) (fun ctx hq hnot => ?_)
    (fun _ _ _ _ _ _ => by decide) fun ctx packet ctx₁ now credit hq hpacket hnil => ?_
  · obtain ⟨ctx', hq', hwork⟩ := (h q).holds _ (List.mem_of_head? hhead)
    cases (show s.qps q = some ctx from hq).symm.trans hq'
    exact absurd hwork hnot
  · have hlist : s.wqs s.currentWorkType = [] := by
      split at hnil
      · rename_i hlimit
        have hrequest := currentWorkType_of_atOrdLimit
          (atOrdLimit_of_not_servesResponse hget hord) hq hpacket hlimit
        exact hrequest ▸ hnil
      · exact hnil
    rw [hlist] at hhead
    cases hhead

lemma placed_of_reachable {C : RdmaModel → Label → Prop} (h : (system c).Reachable C s)
    (hC : ∀ s l, C s l → servesResponseAtOrdLimit c s l = false) (q : QpId) : Placed q s :=
  h.invariant_of_ok
    (fun _ hs => hs ▸ ⟨.initial q _ c, fun _ hmem => absurd hmem (Finset.notMem_empty q)⟩)
    fun s l _ hreachable hs hallowed hCs hnext =>
      hs.next (chained_of_reachable hreachable) hallowed (hC s l hCs) hnext

end Steps

/-- In every run that never serves a response at the limit of outstanding reads: the lists have no
duplicates and the same members as the sets; a transaction is built for the queue pair at the head
of the list of its work type, which has work of that type, and pops at most that head; and no step
accesses an empty list or queue. -/
theorem schedule_lists_consistent (c : RdmaConfig) (s : RdmaModel)
    (h : (system c).Reachable (fun s l => servesResponseAtOrdLimit c s l = false) s) :
    (∀ w, (s.wqs w).Nodup ∧ (s.wqs w).toFinset = s.qpSet w) ∧
    (∀ index randomRnr time q, s.pending[index]? = some (time, .sendTransaction q) →
      s.allowed (.fire index randomRnr) →
      servesResponseAtOrdLimit c s (.fire index randomRnr) = false →
      (s.wqs s.currentWorkType).head? = some q ∧
      (∃ ctx, s.qps q = some ctx ∧ ctx.hasWork s.currentWorkType) ∧
      ∀ s', s.next c (.fire index randomRnr) = .ok s' → RdmaModel.PopsServed s s') ∧
    ∀ l e, s.allowed l → servesResponseAtOrdLimit c s l = false → s.next c l = .error e →
      NoQueueFault e := by
  have hplaced := placed_of_reachable h fun _ _ hord => hord
  have hchained := chained_of_reachable h
  refine ⟨fun w => ⟨List.nodup_iff_count_le_one.mpr fun q => (hplaced q).once w, ?_⟩,
    fun index randomRnr time q hget hallowed hord => ?_,
    fun l e hallowed hord herror =>
      (noQueueFault_of_next hplaced hchained hallowed hord).of_error herror⟩
  · ext q
    rw [List.mem_toFinset]
    exact ⟨(hplaced q).inSet w, (hplaced q).inList w⟩
  · have hhead := hchained.head (List.mem_of_getElem? hget)
    refine ⟨hhead, (hplaced q).holds _ (List.mem_of_head? hhead), fun s' hs' => ?_⟩
    have hbelow := atOrdLimit_of_not_servesResponse hget hord
    have hpops := (sends_of_next hget hs').popsServed hbelow
    exact ⟨hpops.served, hpops.other⟩

/-- A read beyond the limit waits in the send queue of queue pair 1, which then serves a read of its
peer while queue pair 2 waits for its first write. -/
def readLimitRun : List Label :=
  [.input 0 (.createRcQp 1 11 1 0 .orderedRc), .input 0 (.createRcQp 2 12 2 0 .orderedRc),
    .input 0 (.performOp 1 .read [8] false 0), .input 0 (.performOp 1 .read [8] false 0),
    .fire 0 false, .fire 0 false, .fire 0 false, .fire 0 false, .fire 0 false,
    .input 40 (.handleRxTransaction
      { opcode := .readRequest, destQpId := 1, rsn := 0, sgl := [8] }),
    .fire 1 false, .input 40 (.pcieIssue 0), .fire 2 false, .fire 2 false, .fire 0 false,
    .fire 0 false, .input 140 (.performOp 2 .write [8] false 0), .fire 0 false, .fire 0 false,
    .fire 0 false]

/-- The response of queue pair 1 pops queue pair 2 from the request list: it stays in the set, and
queue pair 1 stays at the head of the response list with an empty queue. -/
theorem response_pops_request_list :
    ∃ s, (system { defaultRdmaConfig with outboundReadQueueDepth := 1 }).Reachable
        (fun _ _ => True) s ∧
      (s.wqs .request = [] ∧ 2 ∈ s.qpSet .request) ∧ s.wqs .response = [1] ∧
      (s.qps 1).map (·.inboundReadRequestQueue) = some [] :=
  Reachable.exists_of_run readLimitRun rfl (by decide +kernel)

/-- The same run up to the response meets the condition, with both lists in use. -/
theorem schedule_lists_consistent_readLimitRun :
    ∃ s : RdmaModel, s.wqs .request = [2] ∧ s.wqs .response = [1] ∧
      ∀ w, (s.wqs w).Nodup ∧ (s.wqs w).toFinset = s.qpSet w := by
  have hrun := Reachable.exists_of_run
    (T := system { defaultRdmaConfig with outboundReadQueueDepth := 1 })
    (C := fun s l => servesResponseAtOrdLimit
      { defaultRdmaConfig with outboundReadQueueDepth := 1 } s l = false)
    (P := fun s => s.wqs .request = [2] ∧ s.wqs .response = [1])
    (readLimitRun.take 19) rfl (by decide +kernel)
  obtain ⟨s, hs, hrequest, hresponse⟩ := hrun
  exact ⟨s, hrequest, hresponse, (schedule_lists_consistent _ s hs).1⟩

end Isekai.Rdma
