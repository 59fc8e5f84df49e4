import Isekai.Rdma.RequestHistory

/-!
# The count of outstanding reads

`outbound_read_requests` goes up with every read request packet and down once per completed read.
-/

namespace Isekai.Rdma

open Falcon (Time)
open Lib Function TransitionSystem

/-- What the counting of reads relies on, for a context and the history of its queue pair: the heap
of operations is in order, and each outstanding read has an operation of its own. -/
structure CountsReads (c : RdmaConfig) (q : QpId) (requests : List (Rsn × PacketOpcode))
    (answered : List Rsn) (ctx : QpContext) : Prop where
  qpId : ctx.qpId = q
  heap : ∀ id op, ctx.ops id = some op → id < ctx.nextOp
  nodup : ctx.sendQueue.Nodup
  queued : ∀ id ∈ ctx.sendQueue, id < ctx.nextOp ∧ ∀ op, ctx.ops id = some op → op.nSeqs = 0
  allocated : ∀ rsn id, ctx.rsnToOp rsn = some id → id < ctx.nextOp
  completes : ∀ id op, ctx.ops id = some op → 0 < op.nSeqs →
    ctx.completionQueue op.endSeq = some id ∧ op.endSeq < ctx.nextRsn
  requestsSent : ∀ request ∈ requests, request.1 < ctx.nextRsn
  answeredSent : ∀ rsn ∈ answered, rsn < ctx.nextRsn
  unique : ∀ rsn opcode opcode', (rsn, opcode) ∈ requests → (rsn, opcode') ∈ requests →
    opcode = opcode'
  pointer : ∀ rsn id op, ctx.rsnToOp rsn = some id → ctx.ops id = some op →
    (rsn, op.opcode.packetOpcode) ∈ requests
  erased : ∀ rsn ∈ answered, ctx.rsnToOp rsn = none
  reads : ∀ rsn ∈ waitingReads requests answered, ∃ id op, ctx.rsnToOp rsn = some id ∧
    ctx.ops id = some op ∧ op.opcode = .read ∧ op.nSeqs = 1 ∧ op.nSeqsFinished = 0 ∧ op.endSeq = rsn
  queuedReads : ∀ id ∈ ctx.sendQueue, ∀ op, ctx.ops id = some op → op.opcode = .read →
    op.isScheduled = false ∧ op.nSeqsFinished = 0 ∧ QpContext.remainder c op = []
  count : ctx.outboundReadRequests = (waitingReads requests answered).card

/-- An operation as it is posted. -/
structure NewOp (c : RdmaConfig) (op : RdmaOp) : Prop where
  nSeqs : op.nSeqs = 0
  nSeqsFinished : op.nSeqsFinished = 0
  isScheduled : op.isScheduled = false
  read : op.opcode = .read → QpContext.remainder c op = []

namespace CountsReads

variable {c : RdmaConfig} {q : QpId} {requests : List (Rsn × PacketOpcode)} {answered : List Rsn}
  {ctx ctx' : QpContext} {rsn : Rsn} {op : RdmaOp} {id : OpId}

variable (h : CountsReads c q requests answered ctx)

include h

lemma receive (receiveQueue : List (OpId × RdmaOp))
    (inboundReadRequestQueue : List InboundReadRequest) :
    CountsReads c q requests answered { ctx with receiveQueue, inboundReadRequestQueue } :=
  ⟨h.qpId, h.heap, h.nodup, h.queued, h.allocated, h.completes, h.requestsSent, h.answeredSent,
    h.unique, h.pointer, h.erased, h.reads, h.queuedReads, h.count⟩

omit h in
lemma new (hqpId : ctx.qpId = q) (hops : ctx.ops = fun _ => none) (hsend : ctx.sendQueue = [])
    (hrsnToOp : ctx.rsnToOp = fun _ => none) (hreads : ctx.outboundReadRequests = 0) :
    CountsReads c q [] [] ctx := by
  constructor
  · exact hqpId
  all_goals simp [hops, hsend, hrsnToOp, hreads, waitingReads]

lemma allocate {queue : List (OpId × RdmaOp)} :
    CountsReads c q requests answered
      { ctx with nextOp := ctx.nextOp + 1, receiveQueue := queue } where
  qpId := h.qpId
  heap id op hid := Nat.lt_succ_of_lt (h.heap id op hid)
  nodup := h.nodup
  queued id hid := ⟨Nat.lt_succ_of_lt (h.queued id hid).1, (h.queued id hid).2⟩
  allocated rsn id hrsn := Nat.lt_succ_of_lt (h.allocated rsn id hrsn)
  completes := h.completes
  requestsSent := h.requestsSent
  answeredSent := h.answeredSent
  unique := h.unique
  pointer := h.pointer
  erased := h.erased
  reads := h.reads
  queuedReads := h.queuedReads
  count := h.count

lemma enqueue (hop : NewOp c op) :
    CountsReads c q requests answered
      { ctx with
        nextOp := ctx.nextOp + 1
        ops := update ctx.ops ctx.nextOp (some op)
        sendQueue := ctx.sendQueue ++ [ctx.nextOp] } := by
  have hold : ∀ id op', ctx.ops id = some op' →
      update ctx.ops ctx.nextOp (some op) id = some op' := by
    intro id op' hid
    rw [update_of_ne (h.heap id op' hid).ne]
    exact hid
  have hnotmem : ctx.nextOp ∉ ctx.sendQueue := fun hmem => lt_irrefl _ (h.queued _ hmem).1
  refine ⟨h.qpId, fun id op' hid => ?_, ?_, fun id hid => ⟨?_, fun op' hop' => ?_⟩,
    fun rsn id hrsn => Nat.lt_succ_of_lt (h.allocated rsn id hrsn), fun id op' hid hseqs => ?_,
    h.requestsSent, h.answeredSent, h.unique, fun rsn id op' hrsn hid => ?_, h.erased,
    fun rsn hrsn => ?_, fun id hid op' hop' hread => ?_, h.count⟩
  · obtain ⟨rfl, -⟩ | ⟨-, hid⟩ := update_eq_some_iff.mp hid
    · exact Nat.lt_succ_self _
    · exact Nat.lt_succ_of_lt (h.heap id op' hid)
  · simpa [List.nodup_append, h.nodup] using fun id hid => ne_of_mem_of_not_mem hid hnotmem
  · refine (List.mem_append.mp hid).elim (fun hid => Nat.lt_succ_of_lt (h.queued id hid).1) ?_
    intro hid
    rw [List.mem_singleton.mp hid]
    exact Nat.lt_succ_self _
  · obtain ⟨-, ⟨⟩⟩ | ⟨hne, hop'⟩ := update_eq_some_iff.mp hop'
    · exact hop.nSeqs
    · have hid : id ∈ ctx.sendQueue := by simpa [hne] using hid
      exact (h.queued id hid).2 op' hop'
  · obtain ⟨-, ⟨⟩⟩ | ⟨-, hid⟩ := update_eq_some_iff.mp hid
    · rw [hop.nSeqs] at hseqs
      exact absurd hseqs (lt_irrefl 0)
    · exact h.completes id op' hid hseqs
  · obtain ⟨rfl, -⟩ | ⟨-, hid⟩ := update_eq_some_iff.mp hid
    · exact absurd (h.allocated rsn _ hrsn) (lt_irrefl _)
    · exact h.pointer rsn id op' hrsn hid
  · obtain ⟨id, op', hpointer, hop', hrest⟩ := h.reads rsn hrsn
    exact ⟨id, op', hpointer, hold id op' hop', hrest⟩
  · obtain ⟨-, ⟨⟩⟩ | ⟨hne, hop'⟩ := update_eq_some_iff.mp hop'
    · exact ⟨hop.isScheduled, hop.nSeqsFinished, hop.read hread⟩
    · have hid : id ∈ ctx.sendQueue := by simpa [hne] using hid
      exact h.queuedReads id hid op' hop' hread

omit h in
lemma waitingReads_cons {opcode : PacketOpcode} (hrsn : rsn ∉ answered) :
    waitingReads ((rsn, opcode) :: requests) answered =
      if opcode = .readRequest then insert rsn (waitingReads requests answered)
      else waitingReads requests answered := by
  ext rsn'
  split
  · rename_i hread
    simp only [mem_waitingReads, Finset.mem_insert, List.mem_cons, Prod.mk.injEq, hread, and_true]
    constructor
    · rintro ⟨rfl | hmem, hans⟩
      · exact .inl rfl
      · exact .inr ⟨hmem, hans⟩
    · rintro (rfl | ⟨hmem, hans⟩)
      · exact ⟨.inl rfl, hrsn⟩
      · exact ⟨.inr hmem, hans⟩
  · rename_i hread
    simp only [mem_waitingReads, List.mem_cons, Prod.mk.injEq]
    refine and_congr_left fun _ => or_iff_right fun heq => hread heq.2.symm

lemma nextRsn_unsent (opcode : PacketOpcode) : (ctx.nextRsn, opcode) ∉ requests :=
  fun hmem => lt_irrefl _ (h.requestsSent _ hmem)

lemma nextRsn_unanswered : ctx.nextRsn ∉ answered :=
  fun hmem => lt_irrefl _ (h.answeredSent _ hmem)

lemma unique_request {opcode o o' : PacketOpcode}
    (ho : (rsn, o) ∈ (ctx.nextRsn, opcode) :: requests)
    (ho' : (rsn, o') ∈ (ctx.nextRsn, opcode) :: requests) : o = o' := by
  simp only [List.mem_cons, Prod.mk.injEq] at ho ho'
  rcases ho with ⟨rfl, rfl⟩ | ho <;> rcases ho' with ⟨hrsn, rfl⟩ | ho'
  · rfl
  · exact absurd ho' (h.nextRsn_unsent _)
  · exact absurd (hrsn ▸ ho) (h.nextRsn_unsent _)
  · exact h.unique rsn o o' ho ho'

lemma reads_request {op op' : RdmaOp} {rest : List Word} (hid : id ∈ ctx.sendQueue)
    (hop : ctx.ops id = some op) (hlastRead : op.opcode = .read → rest = [])
    (hcut : QpContext.Cut ctx op op' (rest = []))
    (hrsn : rsn ∈ waitingReads ((ctx.nextRsn, op.opcode.packetOpcode) :: requests) answered) :
    ∃ id' op'', update ctx.rsnToOp ctx.nextRsn (some id) rsn = some id' ∧
      update ctx.ops id (some op') id' = some op'' ∧ op''.opcode = .read ∧
      op''.nSeqs = 1 ∧ op''.nSeqsFinished = 0 ∧ op''.endSeq = rsn := by
  rw [mem_waitingReads] at hrsn
  obtain ⟨hmem, hunanswered⟩ := hrsn
  obtain heq | hmem := List.mem_cons.mp hmem
  · obtain ⟨rfl, hopcode⟩ := Prod.mk.inj heq
    have hread : op.opcode = .read := by
      cases hcase : op.opcode <;> simp_all [RdmaOpcode.packetOpcode]
    obtain ⟨hscheduled, hfinished, -⟩ := h.queuedReads id hid op hop hread
    have hlast := hlastRead hread
    exact ⟨id, op', update_self .., update_self .., hcut.opcode.trans hread,
      hcut.only hlast hscheduled, hcut.nSeqsFinished.trans hfinished, hcut.endSeq hlast⟩
  · obtain ⟨id', op'', hpointer, hop'', hread, hseqs, hrest⟩ :=
      h.reads rsn (mem_waitingReads.mpr ⟨hmem, hunanswered⟩)
    have hne : id' ≠ id := by
      rintro rfl
      rw [(h.queued id' hid).2 op'' hop''] at hseqs
      exact absurd hseqs (by decide)
    refine ⟨id', op'', ?_, ?_, hread, hseqs, hrest⟩
    · rw [update_of_ne (h.requestsSent _ hmem).ne]
      exact hpointer
    · rw [update_of_ne hne]
      exact hop''

lemma request {queue : List OpId} {packet : Packet} (hqueue : ctx.sendQueue = id :: queue)
    (hop : ctx.ops id = some op) (hopcode : packet.opcode = op.opcode.packetOpcode) :
    CountsReads c q ((ctx.nextRsn, packet.opcode) :: requests) answered
      ((ctx.recordRequest id op (QpContext.remainder c op)).countRequest packet) := by
  have hid : id ∈ ctx.sendQueue := by simp [hqueue]
  have hseqs₀ := (h.queued id hid).2 op hop
  have hlastRead : op.opcode = .read → QpContext.remainder c op = [] :=
    fun hread => (h.queuedReads id hid op hop hread).2.2
  obtain ⟨op', hcut, hrecord⟩ := QpContext.recordRequest_cut ctx id op (QpContext.remainder c op)
  rw [hrecord]
  generalize QpContext.remainder c op = rest at *
  -- an operation that is still queued was not cut for the last time
  have hqueued : ∀ id', id' ∈ (if rest = [] then ctx.sendQueue.tail else ctx.sendQueue) →
      id' ∈ ctx.sendQueue ∧ (id' = id → rest ≠ []) :=
    fun _ => (QpContext.mem_sendQueue_cut hqueue h.nodup).mp
  unfold QpContext.countRequest
  constructor
  all_goals try dsimp only
  case qpId => exact h.qpId
  case heap =>
    intro id' op'' hid'
    obtain ⟨rfl, -⟩ | ⟨-, hid'⟩ := update_eq_some_iff.mp hid'
    · exact (h.queued _ hid).1
    · exact h.heap id' op'' hid'
  case nodup => exact QpContext.nodup_sendQueue_cut h.nodup
  case queued =>
    intro id' hid'
    obtain ⟨hmem, hmore⟩ := hqueued id' hid'
    refine ⟨(h.queued id' hmem).1, fun op'' hop'' => ?_⟩
    obtain ⟨heq, ⟨⟩⟩ | ⟨-, hop''⟩ := update_eq_some_iff.mp hop''
    · rw [hcut.more (hmore heq)]
      exact hseqs₀
    · exact (h.queued id' hmem).2 op'' hop''
  case allocated =>
    intro rsn id' hrsn
    obtain ⟨-, ⟨⟩⟩ | ⟨-, hrsn⟩ := update_eq_some_iff.mp hrsn
    · exact (h.queued id hid).1
    · exact h.allocated rsn id' hrsn
  case completes =>
    intro id' op'' hid' hseqs
    obtain ⟨rfl, ⟨⟩⟩ | ⟨-, hid'⟩ := update_eq_some_iff.mp hid'
    · have hlast : rest = [] := by
        by_contra hmore
        rw [hcut.more hmore, hseqs₀] at hseqs
        exact lt_irrefl 0 hseqs
      rw [if_pos hlast, hcut.endSeq hlast, update_self]
      exact ⟨rfl, Nat.lt_succ_self _⟩
    · obtain ⟨hcompletion, hlt⟩ := h.completes id' op'' hid' hseqs
      rw [QpContext.completionQueue_cut hlt]
      exact ⟨hcompletion, Nat.lt_succ_of_lt hlt⟩
  case requestsSent =>
    intro request hmem
    obtain rfl | hmem := List.mem_cons.mp hmem
    · exact Nat.lt_succ_self _
    · exact Nat.lt_succ_of_lt (h.requestsSent request hmem)
  case answeredSent => exact fun rsn hrsn => Nat.lt_succ_of_lt (h.answeredSent rsn hrsn)
  case unique => exact fun rsn o o' => h.unique_request
  case pointer =>
    intro rsn id' op'' hrsn hid'
    obtain ⟨rfl, ⟨⟩⟩ | ⟨-, hpointer⟩ := update_eq_some_iff.mp hrsn
    · obtain ⟨-, ⟨⟩⟩ | ⟨hne, -⟩ := update_eq_some_iff.mp hid'
      · rw [hcut.opcode, ← hopcode]
        exact List.mem_cons_self
      · exact absurd rfl hne
    · refine List.mem_cons_of_mem _ ?_
      obtain ⟨rfl, ⟨⟩⟩ | ⟨-, hid'⟩ := update_eq_some_iff.mp hid'
      · rw [hcut.opcode]
        exact h.pointer rsn id' op hpointer hop
      · exact h.pointer rsn id' op'' hpointer hid'
  case erased =>
    intro rsn hrsn
    rw [update_of_ne (h.answeredSent rsn hrsn).ne]
    exact h.erased rsn hrsn
  case reads =>
    rw [hopcode]
    exact fun rsn => h.reads_request hid hop hlastRead hcut
  case queuedReads =>
    intro id' hid' op'' hop'' hread
    obtain ⟨heq, ⟨⟩⟩ | ⟨-, hop''⟩ := update_eq_some_iff.mp hop''
    · exact absurd (hlastRead (hcut.opcode ▸ hread)) ((hqueued id' hid').2 heq)
    · exact h.queuedReads id' (hqueued id' hid').1 op'' hop'' hread
  case count =>
    rw [waitingReads_cons h.nextRsn_unanswered]
    split
    · rw [Finset.card_insert_of_notMem, h.count]
      rw [mem_waitingReads]
      exact fun hmem => h.nextRsn_unsent _ hmem.1
    · exact h.count

lemma own {rsn rsn' : Rsn} (hid : ctx.rsnToOp rsn = some id) (hop : ctx.ops id = some op)
    (hwaiting : rsn' ∈ waitingReads requests answered) (hid' : ctx.rsnToOp rsn' = some id) :
    rsn' = rsn := by
  obtain ⟨id₁, op₁, hid₁, hop₁, hread, -, -, hend⟩ := h.reads rsn' hwaiting
  rw [hid'] at hid₁
  cases hid₁
  rw [hop] at hop₁
  cases hop₁
  have hrsn : rsn ∈ waitingReads requests answered := by
    have hmem := h.pointer rsn id op hid hop
    rw [hread] at hmem
    refine mem_waitingReads.mpr ⟨hmem, fun hanswered => ?_⟩
    rw [h.erased rsn hanswered] at hid
    cases hid
  obtain ⟨id₂, op₂, hid₂, hop₂, -, -, -, hend'⟩ := h.reads rsn hrsn
  rw [hid] at hid₂
  cases hid₂
  rw [hop] at hop₂
  cases hop₂
  exact hend.symm.trans hend'

lemma finish {answered' : List Rsn} {ops : OpId → Option RdmaOp}
    {completionQueue : Rsn → Option OpId} {reads : Nat} (hid : ctx.rsnToOp rsn = some id)
    (hop : ctx.ops id = some op) (hothers : ∀ i ≠ id, ops i = ctx.ops i)
    (hcounted : ∀ op', ops id = some op' → op.opcode ≠ .read ∧
      op' = { op with nSeqsFinished := op.nSeqsFinished + 1 })
    (hcompletion : ∀ r i, ctx.completionQueue r = some i → (i ≠ id ∨ (ops i).isSome) →
      completionQueue r = some i) (hanswered : ∀ r ∈ answered', r = rsn ∨ r ∈ answered)
    (hwaiting : waitingReads requests answered' = (waitingReads requests answered).erase rsn)
    (hcount : reads = (waitingReads requests answered').card) :
    CountsReads c q requests answered'
      { ctx with
        ops
        rsnToOp := update ctx.rsnToOp rsn none
        completionQueue
        outboundReadRequests := reads } := by
  have hold : ∀ i op', ops i = some op' → ∃ op₀, ctx.ops i = some op₀ ∧
      op'.opcode = op₀.opcode ∧ op'.nSeqs = op₀.nSeqs ∧ op'.endSeq = op₀.endSeq ∧
        (op'.opcode = .read → op' = op₀) := by
    intro i op' hi
    by_cases hne : i = id
    · subst hne
      obtain ⟨hread, rfl⟩ := hcounted op' hi
      exact ⟨op, hop, rfl, rfl, rfl, fun h => absurd h hread⟩
    · rw [hothers i hne] at hi
      exact ⟨op', hi, rfl, rfl, rfl, fun _ => rfl⟩
  have hpointers : ∀ r i, update ctx.rsnToOp rsn none r = some i →
      ctx.rsnToOp r = some i := by
    intro r i hr
    obtain ⟨-, ⟨⟩⟩ | ⟨-, hr⟩ := update_eq_some_iff.mp hr
    exact hr
  refine ⟨h.qpId, fun i op' hi => ?_, h.nodup, fun i hi => ⟨(h.queued i hi).1, fun op' hop' => ?_⟩,
    fun r i hr => h.allocated r i (hpointers r i hr), fun i op' hi hseqs => ?_, h.requestsSent,
    fun r hr => ?_, h.unique, fun r i op' hr hi => ?_, fun r hr => ?_, fun r hr => ?_,
    fun i hi op' hop' hread => ?_, hcount⟩
  · obtain ⟨op₀, hop₀, -⟩ := hold i op' hi
    exact h.heap i op₀ hop₀
  · obtain ⟨op₀, hop₀, -, hseqs, -⟩ := hold i op' hop'
    exact hseqs.trans ((h.queued i hi).2 op₀ hop₀)
  · obtain ⟨op₀, hop₀, -, hseqs', hend, -⟩ := hold i op' hi
    rw [hseqs'] at hseqs
    rw [hend]
    obtain ⟨hqueue, hlt⟩ := h.completes i op₀ hop₀ hseqs
    exact ⟨hcompletion _ i hqueue (.inr (Option.isSome_iff_exists.mpr ⟨op', hi⟩)), hlt⟩
  · obtain rfl | hr := hanswered r hr
    · exact h.requestsSent _ (h.pointer r id op hid hop)
    · exact h.answeredSent r hr
  · obtain ⟨op₀, hop₀, hopcode, -⟩ := hold i op' hi
    rw [hopcode]
    exact h.pointer r i op₀ (hpointers r i hr) hop₀
  · change update ctx.rsnToOp rsn none r = none
    by_cases hne : r = rsn
    · rw [hne, update_self]
    · rw [update_of_ne hne]
      exact h.erased r ((hanswered r hr).resolve_left hne)
  · rw [hwaiting, Finset.mem_erase] at hr
    obtain ⟨i, op', hi, hop', hrest⟩ := h.reads r hr.2
    have hne : i ≠ id := by
      rintro rfl
      exact hr.1 (h.own hid hop hr.2 hi)
    exact ⟨i, op', (update_of_ne hr.1 _ _).trans hi, (hothers i hne).trans hop', hrest⟩
  · obtain ⟨op₀, hop₀, -, -, -, hsame⟩ := hold i op' hop'
    obtain rfl := hsame hread
    exact h.queuedReads i hi op' hop₀ hread

lemma complete {id owned : OpId} {op op' : RdmaOp} {answered' : List Rsn} {reads : Nat}
    (hid : ctx.rsnToOp rsn = some id) (hop : ctx.ops id = some op)
    (hlast : 0 < op.nSeqs) (howned : ctx.completionQueue op.endSeq = some owned)
    (hanswered : ∀ r ∈ answered', r = rsn ∨ r ∈ answered)
    (hwaiting : waitingReads requests answered' = (waitingReads requests answered).erase rsn)
    (hcount : reads = (waitingReads requests answered').card) :
    CountsReads c q requests answered'
      { ctx with
        ops := update (update ctx.ops id (some op')) owned none
        rsnToOp := update ctx.rsnToOp rsn none
        completionQueue := update ctx.completionQueue op.endSeq none
        outboundReadRequests := reads } := by
  obtain ⟨hqueue, -⟩ := h.completes id op hop hlast
  rw [howned] at hqueue
  cases hqueue
  rw [update_idem]
  refine h.finish hid hop (fun i hne => update_of_ne hne _ _) (fun op'' hop'' => ?_)
    (fun r i hr hi => ?_) hanswered hwaiting hcount
  · rw [update_self] at hop''
    cases hop''
  · have hne : i ≠ id := by
      rintro rfl
      simp at hi
    have hr' : r ≠ op.endSeq := by
      rintro rfl
      rw [howned] at hr
      exact hne (Option.some.inj hr).symm
    rw [update_of_ne hr']
    exact hr

lemma finishRead {finished : Option OpId} (hmem : (rsn, PacketOpcode.readRequest) ∈ requests)
    (hfinish : ctx.finishRequest rsn = .ok (ctx', finished)) :
    finished.isSome ∧ CountsReads c q requests (rsn :: answered)
      { ctx' with outboundReadRequests := ctx'.outboundReadRequests - 1 } := by
  obtain ⟨id, op, hid, hop, hcases⟩ := QpContext.finishRequest_ok hfinish
  have hwaiting : rsn ∈ waitingReads requests answered := by
    refine mem_waitingReads.mpr ⟨hmem, fun hanswered => ?_⟩
    rw [h.erased rsn hanswered] at hid
    cases hid
  obtain ⟨id', op', hid', hop', -, hseqs, hfinished, -⟩ := h.reads rsn hwaiting
  rw [hid] at hid'
  cases hid'
  rw [hop] at hop'
  cases hop'
  obtain ⟨hlast, rfl, owned, howned, rfl⟩ | ⟨hmore, -⟩ := hcases
  · have herase : waitingReads requests (rsn :: answered) =
        (waitingReads requests answered).erase rsn := by
      ext r
      simp only [mem_waitingReads, List.mem_cons, Finset.mem_erase]
      tauto
    refine ⟨rfl, h.complete hid hop hlast.1 howned (fun r hr => List.mem_cons.mp hr) herase ?_⟩
    rw [herase, Finset.card_erase_of_mem hwaiting, h.count]
  · exact absurd (by simp [hseqs, hfinished]) hmore

lemma finishOther {finished : Option OpId} {opcode : PacketOpcode} (hmem : (rsn, opcode) ∈ requests)
    (hopcode : opcode ≠ .readRequest) (hfinish : ctx.finishRequest rsn = .ok (ctx', finished)) :
    CountsReads c q requests answered ctx' := by
  obtain ⟨id, op, hid, hop, hcases⟩ := QpContext.finishRequest_ok hfinish
  have hread : op.opcode ≠ .read := by
    intro hread
    have hpointer := h.pointer rsn id op hid hop
    rw [hread] at hpointer
    exact hopcode (h.unique rsn _ _ hmem hpointer)
  have herase : waitingReads requests answered = (waitingReads requests answered).erase rsn := by
    refine (Finset.erase_eq_of_notMem fun hwaiting => ?_).symm
    exact hopcode (h.unique rsn _ _ hmem (mem_waitingReads.mp hwaiting).1)
  obtain ⟨hlast, rfl, owned, howned, rfl⟩ | ⟨hmore, rfl, rfl⟩ := hcases
  · exact h.complete hid hop hlast.1 howned (fun r hr => .inr hr) herase h.count
  · refine h.finish hid hop (fun i hne => update_of_ne hne _ _) (fun op' hop' => ?_)
      (fun r i hr _ => hr) (fun r hr => .inr hr) herase h.count
    rw [update_self] at hop'
    exact ⟨hread, (Option.some.inj hop').symm⟩

end CountsReads

lemma countsReads_rules (c : RdmaConfig) : LedgerRules c (NewOp c) (CountsReads c) where
  qpId h := h.qpId
  create hnew := .new hnew.qpId hnew.ops hnew.sendQueue hnew.rsnToOp hnew.reads
  enqueue h hop henqueue := by
    cases henqueue with
    | recv recv _ => exact h.allocate
    | send dest _ => exact h.enqueue ⟨hop.nSeqs, hop.nSeqsFinished, hop.isScheduled, hop.read⟩
  receive receiveQueue inbound h := h.receive receiveQueue inbound
  request h hpacket := by
    obtain ⟨id, queue, op, hqueue, hop, -, hopcode, -, hrsn, rfl⟩ :=
      QpContext.createRequestPacket_ok hpacket
    rw [hrsn]
    exact h.request hqueue hop hopcode
  answer h hmem hfinish := by
    obtain ⟨hsome, hctx'⟩ := h.finishRead hmem hfinish
    obtain ⟨id, rfl⟩ := Option.isSome_iff_exists.mp hsome
    exact hctx'
  finish h hmem hopcode hfinish := h.finishOther hmem hopcode hfinish

def readsFitInPacket (c : RdmaConfig) : Label → Bool
  | .input _ (.performOp _ .read sgl _ _) => (cutPacketFromSgl sgl c.mtu).2 = []
  | _ => true

lemma Label.Posts.newOp {c : RdmaConfig} {l : Label} {q : QpId} {op : RdmaOp} (h : l.Posts q op)
    (hfits : readsFitInPacket c l = true) : NewOp c op := by
  obtain ⟨time, opcode, sgl, isInline, dest, rfl, rfl | ⟨hopcode, rfl⟩⟩ := h
  · refine ⟨rfl, rfl, rfl, fun hread => ?_⟩
    obtain rfl : opcode = .read := hread
    exact of_decide_eq_true hfits
  · exact ⟨rfl, rfl, rfl, fun hread => absurd hread hopcode⟩

/-- In a run in which every posted read fits in one packet, the counter of a queue pair is the
number of read requests that were sent and whose response was not yet processed. -/
theorem outboundReadRequests_eq_card (c : RdmaConfig) (s : RdmaModel)
    (h : (system c).Reachable (fun _ l => readsFitInPacket c l = true) s) (q : QpId)
    (ctx : QpContext) (hq : s.qps q = some ctx) :
    ctx.outboundReadRequests = (s.outstandingReads q).card ∧
      (s.outstandingReads q = ∅ → ctx.outboundReadRequests = 0) := by
  have hcounted : Keeps (NewOp c) (CountsReads c) s.core :=
    .of_reachable (countsReads_rules c) (fun s l q op hfits hposts => hposts.newOp hfits) h
  have hcount : ctx.outboundReadRequests = (s.outstandingReads q).card := by
    have hledger := (hcounted.contexts q _ (RdmaModel.core_qps hq)).count
    rw [requestsOf_core, answeredOf_core] at hledger
    exact hledger
  exact ⟨hcount, fun hnone => by rw [hcount, hnone, Finset.card_empty]⟩

def twoPacketReadRun : List Label :=
  [.input 0 (.createRcQp 1 11 1 0 .orderedRc), .input 0 (.performOp 1 .read [8192] false 0),
    .fire 0 false, .fire 0 false, .fire 0 false, .fire 0 false, .fire 0 false, .fire 0 false,
    .fire 0 false, .fire 0 false,
    .input 400 (.handleRxTransaction { opcode := .readResponseOnly, destQpId := 1, rsn := 0 }),
    .input 400 (.handleRxTransaction { opcode := .readResponseOnly, destQpId := 1, rsn := 1 }),
    .fire 0 false, .fire 0 false, .fire 0 false, .fire 0 false]

/-- A read of two packets leaves the counter at one when both responses were processed. -/
theorem outboundReadRequests_ne_card :
    ∃ s, (system defaultRdmaConfig).Reachable (fun _ _ => True) s ∧
      (requestsOf s.log 1 = [(1, .readRequest), (0, .readRequest)] ∧ answeredOf s.log 1 = [1, 0]) ∧
      s.outstandingReads 1 = ∅ ∧ (s.qps 1).map (·.outboundReadRequests) = some 1 := by
  rw [← tabulatedSystem_eq]
  exact Reachable.exists_of_run twoPacketReadRun rfl (by decide +kernel)

/-- A read of one packet that waits for its response. -/
theorem outboundReadRequests_eq_card_onePacket :
    ∃ s ctx, s.qps 1 = some ctx ∧ s.outstandingReads 1 = {0} ∧
      ctx.outboundReadRequests = (RdmaModel.outstandingReads s 1).card := by
  have hrun := Reachable.exists_of_run (T := system defaultRdmaConfig)
    (C := fun _ l => readsFitInPacket defaultRdmaConfig l = true)
    (P := fun s => (s.qps 1).isSome ∧ s.outstandingReads 1 = {0})
    [.input 0 (.createRcQp 1 11 1 0 .orderedRc), .input 0 (.performOp 1 .read [4096] false 0),
      .fire 0 false, .fire 0 false, .fire 0 false, .fire 0 false] rfl (by decide +kernel)
  obtain ⟨s, hs, hsome, hreads⟩ := hrun
  obtain ⟨ctx, hq⟩ := Option.isSome_iff_exists.mp hsome
  exact ⟨s, ctx, hq, hreads, (outboundReadRequests_eq_card _ s hs 1 ctx hq).1⟩

end Isekai.Rdma
