import Isekai.Rdma.ScheduleSet

/-!
# No queue pair is lost

A queue pair that is ready for a work type is in the schedule set of that type, or an event that
will add it is pending. The callback with which `SendTransaction` puts a queue pair back reads the
work type of the scheduler when it fires.
-/

namespace Isekai.Rdma

open Falcon (Time)
open Lib Function TransitionSystem QpContext RdmaModel

def Awaits (s : RdmaModel) (q : QpId) (w : WorkType) : Prop :=
  ∃ time, (time, .addQpToScheduleSet q w) ∈ s.pending ∨ (time, .requeue q w) ∈ s.pending

def CoveredBut (c : RdmaConfig) (P : QpId → WorkType → Prop) (s : RdmaModel) : Prop :=
  ∀ q w ctx, s.qps q = some ctx → ctx.ready c w → ¬P q w → q ∈ s.qpSet w ∨ Awaits s q w

/-- Every queue pair that is ready is in its set or awaits being added. -/
structure Covered (c : RdmaConfig) (s : RdmaModel) : Prop where
  covered : CoveredBut c (fun _ _ => False) s
  fresh : ∀ q ctx, s.qps q = some ctx → ctx.Fresh

/-- Queue pairs and events are added, none is removed. -/
structure Extends (s s' : RdmaModel) : Prop where
  qps : s'.qps = s.qps
  qpSet : ∀ w, s.qpSet w ⊆ s'.qpSet w
  pending : s.pending ⊆ s'.pending

section Basic

variable {c : RdmaConfig} {s s' s'' : RdmaModel} {q : QpId} {w : WorkType}
  {P P' : QpId → WorkType → Prop}

lemma Extends.of_eq (hqps : s'.qps = s.qps) (hset : s'.qpSet = s.qpSet)
    (hpending : s.pending ⊆ s'.pending) : Extends s s' :=
  ⟨hqps, fun w => by rw [hset], hpending⟩

lemma Extends.trans (h : Extends s s') (h' : Extends s' s'') : Extends s s'' :=
  ⟨h'.qps.trans h.qps, fun w _ hq => h'.qpSet w (h.qpSet w hq),
    fun _ he => h'.pending (h.pending he)⟩

lemma Awaits.mono (h : Awaits s q w) (hpending : s.pending ⊆ s'.pending) : Awaits s' q w := by
  obtain ⟨time, hmem⟩ := h
  exact ⟨time, hmem.imp (fun h => hpending h) (fun h => hpending h)⟩

lemma CoveredBut.extends (h : CoveredBut c P s) (hextends : Extends s s') : CoveredBut c P s' := by
  intro q w ctx hq hready hP
  rw [hextends.qps] at hq
  exact (h q w ctx hq hready hP).imp (fun h => hextends.qpSet w h) (·.mono hextends.pending)

lemma CoveredBut.mono (h : CoveredBut c P s) (hP : ∀ q w, P q w → P' q w) : CoveredBut c P' s :=
  fun q w ctx hq hready hnot => h q w ctx hq hready fun hp => hnot (hP q w hp)

lemma CoveredBut.still (h : CoveredBut c P s) (hstill : Still s s') : CoveredBut c P s' := by
  have hkept : ∀ event : Time × Callback, event.2.isScheduling = true →
      event ∈ s.pending → event ∈ s'.pending := by
    intro event hevent hmem
    have hfilter : event ∈ s.pending.filter fun event => event.2.isScheduling :=
      List.mem_filter.mpr ⟨hmem, hevent⟩
    rw [← hstill.pending] at hfilter
    exact List.mem_of_mem_filter hfilter
  intro q w ctx' hq' hready hP
  obtain ⟨-, hblank⟩ | ⟨ctx, hq, hcalm⟩ :=
    (hq' ▸ hstill.qps q : QpContext.Remains _ (some ctx')).to_some
  · -- a new queue pair has nothing to send
    have hwork := hasWork_of_hasCredits hready.credits
    cases w with
    | request => exact absurd hblank.sendQueue hwork
    | response => exact absurd hblank.inbound hwork
  · refine (h q w ctx hq (hcalm.ready hready) hP).imp (fun hmem => hstill.qpSet ▸ hmem)
      fun ⟨time, hmem⟩ => ⟨time, hmem.imp (hkept _ rfl) (hkept _ rfl)⟩

lemma CoveredBut.setQp {ctx ctx' : QpContext} (h : CoveredBut c (fun _ _ => False) s)
    (hq : s.qps q = some ctx) (hP : ∀ w, ctx'.ready c w → ctx.ready c w ∨ P q w) :
    CoveredBut c P (s.setQp q ctx') := by
  intro q' w ctx₀ hq' hready hnot
  by_cases hqq : q' = q
  · subst hqq
    simp only [RdmaModel.setQp, update_self, Option.some.injEq] at hq'
    subst hq'
    exact h q' w ctx hq ((hP w hready).resolve_right hnot) id
  · exact h q' w ctx₀ (by simpa [RdmaModel.setQp, hqq] using hq') hready id

lemma CoveredBut.pops (h : CoveredBut c (fun q' w' => q' = q ∧ w' = w) s) (hqps : s'.qps = s.qps)
    (hset : s'.qpSet = update s.qpSet w ((s.qpSet w).erase q)) (hpending : s.pending ⊆ s'.pending) :
    CoveredBut c (fun q' w' => q' = q ∧ w' = w) s' := by
  intro q' w' ctx hq' hready hnot
  rw [hqps] at hq'
  refine (h q' w' ctx hq' hready hnot).imp (fun hmem => ?_) (·.mono hpending)
  rw [hset]
  by_cases hw : w' = w
  · subst hw
    have hne : q' ≠ q := fun hqq => hnot ⟨hqq, rfl⟩
    simpa [hne] using hmem
  · simpa [hw] using hmem

lemma CoveredBut.close (h : CoveredBut c (fun q' w' => q' = q ∧ w' = w) s)
    (hclose : ∀ ctx, s.qps q = some ctx → ctx.ready c w → q ∈ s.qpSet w ∨ Awaits s q w) :
    CoveredBut c (fun _ _ => False) s := by
  intro q' w' ctx hq' hready _
  by_cases hqw : q' = q ∧ w' = w
  · obtain ⟨rfl, rfl⟩ := hqw
    exact hclose ctx hq' hready
  · exact h q' w' ctx hq' hready hqw

end Basic

section Additions

variable {c : RdmaConfig} {s s' : RdmaModel} {q : QpId} {w : WorkType} {P : QpId → WorkType → Prop}

lemma Runs.extends (h : Runs c s s') : Extends s s' := by
  cases h with
  | stops bucket => exact .of_eq rfl rfl (List.Subset.refl _)
  | _ => exact .of_eq rfl rfl (List.subset_append_left _ _)

lemma RunsIfIdle.extends (h : RunsIfIdle c s s') : Extends s s' := by
  obtain ⟨-, rfl⟩ | ⟨-, hruns⟩ := h
  · exact .of_eq rfl rfl (List.Subset.refl _)
  · exact hruns.extends

lemma Added.covers (h : Added c q w s s') : Extends s s' ∧ ∀ ctx, s.qps q = some ctx →
    ctx.hasCredits c w = true → ctx.xoff w = false → q ∈ s'.qpSet w ∨ Awaits s' q w := by
  cases h with
  | skipped hskip =>
    exact ⟨.of_eq rfl rfl (List.Subset.refl _), fun ctx hq hcredits hxoff =>
      .inl (hskip ctx hq hcredits hxoff)⟩
  | delayed delay =>
    exact ⟨.of_eq rfl rfl (List.subset_append_left _ _), fun _ _ _ _ =>
      .inr ⟨_, .inl (List.mem_append_right _ List.mem_cons_self)⟩⟩
  | pushed hq hcredits hxoff hnew hrun =>
    have hpush : Extends s (s.pushWorkQueue q w) := by
      refine ⟨rfl, fun w' => ?_, List.Subset.refl _⟩
      by_cases hw : w' = w
      · subst hw
        simp [pushWorkQueue]
      · simp [pushWorkQueue, hw]
    exact ⟨hpush.trans hrun.extends, fun _ _ _ _ =>
      .inl (hrun.extends.qpSet w (by simp [pushWorkQueue]))⟩

lemma CoveredBut.added (h : CoveredBut c P s) (hadded : Added c q w s s') :
    CoveredBut c (fun q' w' => P q' w' ∧ ¬(q' = q ∧ w' = w)) s' := by
  obtain ⟨hextends, hcovers⟩ := hadded.covers
  intro q' w' ctx hq' hready hnot
  by_cases hqw : q' = q ∧ w' = w
  · obtain ⟨rfl, rfl⟩ := hqw
    exact hcovers ctx (hextends.qps ▸ hq') hready.credits hready.noXoff
  · exact h.extends hextends q' w' ctx hq' hready fun hP => hnot ⟨hP, hqw⟩

lemma CoveredBut.adds {ws : List WorkType} (h : CoveredBut c P s) (hadds : Adds c q ws s s')
    (hP : ∀ q' w', P q' w' → q' = q ∧ w' ∈ ws) : CoveredBut c (fun _ _ => False) s' := by
  induction ws generalizing s P with
  | nil =>
    cases hadds
    exact h.mono fun q' w' hp => List.not_mem_nil (hP q' w' hp).2
  | cons w ws ih =>
    obtain ⟨s₁, hadded, hadds⟩ := hadds
    refine ih (h.added hadded) hadds fun q' w' ⟨hp, hne⟩ => ?_
    obtain ⟨hqq, hw⟩ := hP q' w' hp
    exact ⟨hqq, (List.mem_cons.mp hw).resolve_left fun heq => hne ⟨hqq, heq⟩⟩

end Additions

namespace RdmaModel

variable {c : RdmaConfig} {s s' : RdmaModel} {q : QpId} {w : WorkType} {ctx : QpContext} {l : Label}

lemma ready_of_creditLimit_le {limit : FalconCredit} (hlimit : limit ≤ ctx.creditLimit)
    (hready : ({ ctx with creditLimit := limit } : QpContext).ready c w) : ctx.ready c w := by
  obtain ⟨credit, hfront, hle⟩ := hasCredits_iff.mp hready.credits
  refine ⟨hasCredits_iff.mpr ⟨credit, hfront, fun pool => ?_⟩, hready.noXoff, hready.belowLimit⟩
  exact BitVec.le_trans (hle pool) (hlimit pool)

lemma frontOp_posted (hfresh : ctx.Fresh) (hwork : ctx.sendQueue ≠ []) (op : RdmaOp)
    (dest : QpId) : ((Write.posted op dest).apply ctx).frontOp = ctx.frontOp := by
  obtain ⟨id, queue, hqueue⟩ := List.exists_cons_of_ne_nil hwork
  have hid : id ≠ ctx.nextOp := (hfresh id (hqueue ▸ List.mem_cons_self)).ne
  simp [Write.apply, QpContext.frontOp, hqueue, update_of_ne hid]

lemma ready_of_posted {op : RdmaOp} {dest : QpId} (hfresh : ctx.Fresh) (hqueue : ctx.sendQueue ≠ [])
    (hready : ((Write.posted op dest).apply ctx).ready c w) : ctx.ready c w := by
  have hfront := frontOp_posted hfresh hqueue op dest
  refine ⟨?_, hready.noXoff, fun hw => ?_⟩
  · have hcredits := hready.credits
    cases w with
    | request =>
      simp only [hasCredits, frontCredit, hfront] at hcredits ⊢
      exact hcredits
    | response => exact hcredits
  · have hlimit := hready.belowLimit hw
    simp only [atOrdLimit, hfront] at hlimit ⊢
    exact hlimit

lemma ready_of_readResponse
    (hready : ({ ctx with outboundReadRequests := ctx.outboundReadRequests - 1 } : QpContext).ready
      c w) :
    ctx.ready c w ∨ (w = .request ∧ ctx.outboundReadRequests - 1 < c.outboundReadQueueDepth ∧
      ctx.frontOp.map (·.opcode) = some .read) := by
  cases w with
  | response => exact .inl ⟨hready.credits, hready.noXoff, nofun⟩
  | request =>
    have hlimit := hready.belowLimit rfl
    by_cases hread : ctx.frontOp.map (·.opcode) = some .read
    · refine .inr ⟨rfl, ?_, hread⟩
      change (decide (c.outboundReadQueueDepth ≤ ctx.outboundReadRequests - 1) &&
        (ctx.frontOp.map (·.opcode) == some .read)) = false at hlimit
      simpa [hread] using hlimit
    · refine .inl ⟨hready.credits, hready.noXoff, fun _ => ?_⟩
      simp [atOrdLimit, hread]

/-- A write that makes a queue pair ready is followed by an attempt to add it. -/
lemma ready_of_write (hfresh : ctx.Fresh) (write : Write) (hready : (write.apply ctx).ready c w) :
    ctx.ready c w ∨ w ∈ write.adds c ctx := by
  cases write with
  | posted op dest =>
    by_cases hqueue : ctx.sendQueue = []
    · cases w with
      | request => exact .inr (by simp [Write.adds, hqueue])
      | response => exact .inl ⟨hready.credits, hready.noXoff, by rintro ⟨⟩⟩
    · exact .inl (ready_of_posted hfresh hqueue hready)
  | postedRecv queue => exact .inl ⟨hready.credits, hready.noXoff, hready.belowLimit⟩
  | inbound request =>
    cases w with
    | request => exact .inl ⟨hready.credits, hready.noXoff, hready.belowLimit⟩
    | response =>
      cases hqueue : ctx.inboundReadRequestQueue with
      | nil => exact .inr (by simp [Write.adds, hqueue])
      | cons first rest =>
        obtain ⟨credit, hfront, hle⟩ := hasCredits_iff.mp hready.credits
        refine .inl ⟨hasCredits_iff.mpr ⟨credit, ?_, hle⟩, hready.noXoff, by rintro ⟨⟩⟩
        simpa [frontCredit, Write.apply, hqueue] using hfront
  | answered =>
    obtain hready | ⟨hw, hbelow⟩ := ready_of_readResponse hready
    · exact .inl hready
    · rw [Write.adds, if_pos hbelow, hw]
      exact .inr (List.mem_singleton_self _)
  | limit creditLimit =>
    by_cases hle : creditLimit ≤ ctx.creditLimit
    · exact .inl (ready_of_creditLimit_le hle hready)
    · exact .inr (by cases w <;> simp [Write.adds, hle])
  | _ => exact .inr (by cases w <;> simp [Write.adds])

lemma credit_pools_disjoint (op : RdmaOp) (request : InboundReadRequest) (pool : CreditPool) :
    computeRequestCredit c op pool = 0 ∨ computeResponseCredit c request pool = 0 := by
  cases pool with
  | responseTxPacket => exact .inl rfl
  | responseTxBuffer => exact .inl rfl
  | requestTxPacket => exact .inr rfl
  | requestTxBuffer => exact .inr rfl
  | requestRxPacket => exact .inr rfl
  | requestRxBuffer => exact .inr rfl

lemma add_le_of_charged {usage credit front limit : Word} (hno : usage ≤ usage + credit)
    (hpools : credit = 0 ∨ front = 0) (h : usage + credit + front ≤ limit) :
    usage + front ≤ limit := by
  obtain rfl | rfl := hpools
  · simpa using h
  · rw [add_zero] at h ⊢
    exact BitVec.le_trans hno h

lemma ready_of_charged {ctx ctx₁ : QpContext} {packet : Packet} {now : Time} {w' : WorkType}
    (h : createPacket c ctx w = .ok (packet, ctx₁)) (hw : w' ≠ w)
    (hno : ctx.creditUsage ≤ ctx.creditUsage + (ctx.frontCredit c w).getD 0)
    (hready : (chargeQp c now ctx₁ packet ((ctx.frontCredit c w).getD 0)).ready c w') :
    ctx.ready c w' := by
  obtain ⟨credit, hcredit, hle⟩ := hasCredits_iff.mp hready.credits
  cases w with
  | request =>
    obtain ⟨id, queue, op, hqueue, hop, -, -, -, -, rfl⟩ := createRequestPacket_ok h
    obtain ⟨ops, rsnToOp, completionQueue, nextRsn, sendQueue, hrecord⟩ :=
      recordRequest_eq ctx id op (remainder c op)
    rw [hrecord] at hready hcredit hle
    have hfront : ctx.frontCredit c .request = some (computeRequestCredit c op) := by
      simp [frontCredit, frontOp, hqueue, hop]
    rw [hfront] at hno hle
    cases w' with
    | request => exact absurd rfl hw
    | response =>
      obtain ⟨request, hrequest, rfl⟩ := Option.map_eq_some_iff.mp hcredit
      refine ⟨hasCredits_iff.mpr ⟨_, Option.map_eq_some_iff.mpr ⟨request, hrequest, rfl⟩,
        fun pool => ?_⟩, hready.noXoff, by rintro ⟨⟩⟩
      exact add_le_of_charged (hno pool) (credit_pools_disjoint op request pool) (hle pool)
  | response =>
    have hlimit := atOrdLimit_chargeQp_response now ((ctx.frontCredit c .response).getD 0) h
    simp only [createPacket] at h
    split at h
    · obtain ⟨request, queue, hqueue, -, -, rfl⟩ := createResponsePacket_ok h
      have hfront : ctx.frontCredit c .response = some (computeResponseCredit c request) := by
        simp [frontCredit, hqueue]
      rw [hfront] at hno hle
      cases w' with
      | response => exact absurd rfl hw
      | request =>
        obtain ⟨op, hop, rfl⟩ := Option.map_eq_some_iff.mp hcredit
        refine ⟨hasCredits_iff.mpr ⟨_, Option.map_eq_some_iff.mpr ⟨op, hop, rfl⟩, fun pool => ?_⟩,
          hready.noXoff, fun _ => hlimit ▸ hready.belowLimit rfl⟩
        exact add_le_of_charged (hno pool) (credit_pools_disjoint op request pool).symm (hle pool)
    · cases h

lemma fresh_of_createPacket {ctx ctx₁ : QpContext} {packet : Packet} (hfresh : ctx.Fresh)
    (h : createPacket c ctx w = .ok (packet, ctx₁)) : ctx₁.Fresh := by
  cases w with
  | request =>
    obtain ⟨id, queue, op, -, -, -, -, -, -, rfl⟩ := createRequestPacket_ok h
    obtain ⟨hsend, -⟩ := recordRequest_queues ctx id op (remainder c op)
    obtain ⟨_, _, _, _, _, hrecord⟩ :=
      recordRequest_eq ctx id op (remainder c op)
    have hnext : (ctx.recordRequest id op (remainder c op)).nextOp = ctx.nextOp := by
      rw [hrecord]
    intro id' hid'
    rw [hnext]
    obtain hsend | hsend := hsend
    · exact hfresh id' (hsend ▸ hid')
    · exact hfresh id' (List.mem_of_mem_tail (hsend ▸ hid'))
  | response =>
    simp only [createPacket] at h
    split at h
    · obtain ⟨request, queue, -, -, -, rfl⟩ := createResponsePacket_ok h
      exact hfresh
    · cases h

lemma fresh_happens (h : QpHolds q Fresh s) (hstep : Happens c s l s') : QpHolds q Fresh s' := by
  refine h.happens hstep (fun _ => Blank.fresh) (fun _ _ hfresh hcalm => hcalm.fresh hfresh) ?_ ?_
  · intro ctx write _ _ hfresh
    cases write with
    | posted op dest =>
      intro id hid
      rcases List.mem_append.mp hid with hid | hid
      · exact (hfresh id hid).trans (Nat.lt_succ_self _)
      · rw [List.mem_singleton.mp hid]
        exact Nat.lt_succ_self _
    | postedRecv queue => exact fun id hid => (hfresh id hid).trans (Nat.lt_succ_self _)
    | _ => exact hfresh
  · intro index randomRnr time now ctx packet ctx₁ _ _ _ hpacket hfresh
    have hfresh₁ : ctx₁.Fresh := fresh_of_createPacket hfresh hpacket
    exact hfresh₁

end RdmaModel

/-- A callback that puts a queue pair back fires while the scheduler is at the work type that the
queue pair was removed from. -/
def requeuesSameType (s : RdmaModel) : Label → Bool
  | .fire index _ =>
    match s.pending[index]? with
    | some (_, .requeue _ served) => s.currentWorkType = served
    | _ => true
  | .input _ _ => true

def chargeFits (c : RdmaConfig) (s : RdmaModel) : Label → Bool
  | .fire index _ =>
    match s.pending[index]? with
    | some (_, .sendTransaction q) => (s.qps q).all fun ctx =>
        ctx.creditUsage ≤ ctx.creditUsage + (ctx.frontCredit c s.currentWorkType).getD 0
    | _ => true
  | .input _ _ => true

def KeepsQueuePairs (c : RdmaConfig) (s : RdmaModel) (l : Label) : Prop :=
  servesResponseAtOrdLimit c s l = false ∧ requeuesSameType s l = true ∧ chargeFits c s l = true

instance (c : RdmaConfig) (s : RdmaModel) (l : Label) : Decidable (KeepsQueuePairs c s l) :=
  inferInstanceAs (Decidable (_ ∧ _))

section Steps

variable {c : RdmaConfig} {s s' : RdmaModel} {q : QpId}

lemma CoveredBut.sends (h : CoveredBut c (fun _ _ => False) s) (hsends : Sends c q s s')
    (hmem : q ∈ s.qpSet s.currentWorkType)
    (hord : s.currentWorkType = .response → ∀ ctx, s.qps q = some ctx → ctx.atOrdLimit c = false)
    (hno : ∀ ctx, s.qps q = some ctx →
      ctx.creditUsage ≤ ctx.creditUsage + (ctx.frontCredit c s.currentWorkType).getD 0) :
    CoveredBut c (fun _ _ => False) s' := by
  obtain ⟨ctx, packet, ctx₁, hq, hpacket, hsent⟩ := hsends
  generalize hctx₂ : chargeQp c s.now ctx₁ packet
    ((ctx.frontCredit c s.currentWorkType).getD 0) = ctx₂ at hsent
  have hset : CoveredBut c (fun q' w' => q' = q ∧ w' = s.currentWorkType) (s.setQp q ctx₂) := by
    refine h.setQp hq fun w hready => ?_
    by_cases hw : w = s.currentWorkType
    · exact .inr ⟨rfl, hw⟩
    · exact .inl (ready_of_charged hpacket hw (hno ctx hq) (hctx₂ ▸ hready))
  have hctx : ∀ ctx', s'.qps q = some ctx' → ctx' = ctx₂ := by
    intro ctx' hq'
    rw [hsent.qps, update_self] at hq'
    exact (Option.some.inj hq').symm
  cases hsent.turn with
  | limit hlimit hpops =>
    rw [currentWorkType_of_atOrdLimit hord hq hpacket (hctx₂ ▸ hlimit)] at hset
    obtain ⟨_, _, _, _, hqpSet⟩ := hpops
    refine (hset.pops hsent.qps hqpSet hsent.pending).close fun ctx' hq' hready => ?_
    -- the next read is over the limit
    have hbelow := hready.belowLimit rfl
    rw [hctx ctx' hq', hlimit] at hbelow
    cases hbelow
  | stays hlimit hcredits hxoff hwqs hqpSet =>
    refine (hset.extends ⟨hsent.qps, fun w => ?_, hsent.pending⟩).close fun _ _ _ => .inl ?_
    · rw [hqpSet]
      exact subset_rfl
    · rw [hqpSet]
      exact hmem
  | ends hlimit hpops hspent hback =>
    obtain ⟨_, _, _, _, hqpSet⟩ := hpops
    refine (hset.pops hsent.qps hqpSet hsent.pending).close fun ctx' hq' hready => .inr ?_
    rw [hctx ctx' hq'] at hready
    obtain ⟨time, hrequeue⟩ := hback hready.credits hready.noXoff
    exact ⟨time, .inr hrequeue⟩

lemma Covered.eraseIdx (h : Covered c s) {P : QpId → WorkType → Prop} {index : Nat} {time : Time}
    {callback : Callback} (hevent : s.pending[index]? = some (time, callback))
    (hP : ∀ q w, callback = .addQpToScheduleSet q w ∨ callback = .requeue q w → P q w) :
    CoveredBut c P { s with now := time, pending := s.pending.eraseIdx index } := by
  obtain ⟨before, after, hpending, herase⟩ := eraseIdx_perm hevent
  have hkeeps : ∀ event ∈ s.pending, event.2 ≠ callback → event ∈ s.pending.eraseIdx index := by
    intro event hmem hne
    rw [herase]
    rw [hpending] at hmem
    simp only [List.mem_append, List.mem_cons] at hmem ⊢
    rcases hmem with hmem | rfl | hmem
    · exact .inl hmem
    · exact absurd rfl hne
    · exact .inr hmem
  intro q w ctx hq hready hnot
  refine (h.covered q w ctx hq hready id).imp_right fun ⟨time', hmem⟩ => ⟨time', ?_⟩
  refine hmem.imp (fun hmem => hkeeps _ hmem fun heq => ?_) fun hmem => hkeeps _ hmem fun heq => ?_
  · exact hnot (hP q w (.inl heq.symm))
  · exact hnot (hP q w (.inr heq.symm))

theorem Covered.happens (h : Covered c s) {F : Finding} (hchained : Chained F s)
    (hplaced : ∀ q, Placed q s) {l : Label} (hkeeps : KeepsQueuePairs c s l)
    (hstep : Happens c s l s') : Covered c s' := by
  refine ⟨?_, fun q => fresh_happens (h.fresh q) hstep⟩
  obtain ⟨hord, htype, hfits⟩ := hkeeps
  have hwrites : ∀ (write : Write) {q ctx} {s₁ s₂ : RdmaModel}, Still s s₁ → s₁.qps q = some ctx →
      Adds c q (write.adds c ctx) (s₁.setQp q (write.apply ctx)) s₂ →
      CoveredBut c (fun _ _ => False) s₂ := by
    intro write q ctx s₁ s₂ h₁ hq hadds
    have hfresh : QpHolds q Fresh s₁ := QpHolds.still (h.fresh q) h₁ (fun _ => Blank.fresh)
      fun _ _ hfresh hcalm => hcalm.fresh hfresh
    have hset : CoveredBut c (fun q' w' => q' = q ∧ w' ∈ write.adds c ctx)
        (s₁.setQp q (write.apply ctx)) := (h.covered.still h₁).setQp hq fun w hready =>
      (ready_of_write (hfresh ctx hq) write hready).imp_right fun hw => ⟨rfl, hw⟩
    exact hset.adds hadds fun _ _ hP => hP
  cases hstep with
  | receives hreceives =>
    cases hreceives with
    | rests hstill => exact h.covered.still hstill
    | answers h₁ hq hadds h₂ => exact (hwrites _ h₁ hq hadds).still h₂
  | writes h₁ hqps hq hwrite hadds => exact hwrites _ h₁ (hqps ▸ hq) hadds
  | @returns q ctx credit s₁ s₂ _ h₁ hqps hq hwrite hadds hrun =>
    have hextends : Extends s₂ s' := ⟨hrun.extends.qps, hrun.extends.qpSet, hrun.extends.pending⟩
    exact (hwrites (.returned credit) h₁ (hqps ▸ hq) hadds).extends hextends
  | setsXoff h₁ hqps hrun => exact (h.covered.still h₁).extends hrun.extends
  | @adds q w index randomRnr time callback _ hl hevent hcallback hadded =>
    subst hl
    have hcallback : callback = .addQpToScheduleSet q w ∨ callback = .requeue q w := by
      refine hcallback.imp_right fun ⟨served, hserved, hw⟩ => ?_
      subst hserved
      have hsame : s.currentWorkType = served := by simpa [requeuesSameType, hevent] using htype
      rw [hw, hsame]
    have hbut := h.eraseIdx (P := fun q' w' => q' = q ∧ w' = w) hevent fun q' w' hor => by
      rcases hcallback with rfl | rfl <;> rcases hor with hor | hor <;> cases hor <;>
        exact ⟨rfl, rfl⟩
    exact (hbut.added hadded).mono fun q' w' ⟨hP, hne⟩ => hne hP
  | runs hevent hruns =>
    exact (h.eraseIdx hevent (by rintro q w (h | h) <;> cases h)).extends hruns.extends
  | @sends q index randomRnr time _ hl hevent hsends =>
    subst hl
    have hhead := hchained.head (List.mem_of_getElem? hevent)
    have hbelow := atOrdLimit_of_not_servesResponse hevent hord
    refine CoveredBut.sends (h.eraseIdx hevent (by rintro q w (h | h) <;> cases h)) hsends
      ((hplaced q).inSet _ (List.mem_of_head? hhead)) hbelow fun ctx hq => ?_
    simpa [chargeFits, hevent, show s.qps q = some ctx from hq] using hfits

end Steps

/-- In every run in which the callbacks that put queue pairs back find the work type they were
created for, no response is served at the limit of outstanding reads and no credit usage overflows,
a queue pair that is ready for a work type is scheduled for it, or an event that will add it is
pending. -/
theorem no_queue_pair_lost (c : RdmaConfig) (s : RdmaModel)
    (h : (system c).Reachable (KeepsQueuePairs c) s) (q : QpId) (w : WorkType) (ctx : QpContext)
    (hq : s.qps q = some ctx) (hready : ctx.ready c w) :
    (q ∈ s.qpSet w ∧ q ∈ s.wqs w) ∨ Awaits s q w := by
  have hplaced : ∀ s, (system c).Reachable (KeepsQueuePairs c) s → ∀ q, Placed q s :=
    fun _ h => placed_of_reachable h fun _ _ hkeeps => hkeeps.1
  have hcovered : Covered c s := h.invariant_of_ok (fun _ hs => hs ▸ ⟨nofun, nofun⟩)
    fun s l _ hreachable hs hallowed hkeeps hnext => hs.happens (chained_of_reachable hreachable)
      (hplaced s hreachable) hkeeps (happens_of_next hallowed hnext)
  exact (hcovered.covered q w ctx hq hready id).imp_left fun hmem =>
    ⟨hmem, (hplaced s h q).inList w hmem⟩

/-- Queue pair 1 sends the first of two writes and is to be put back on the request list after its
operation gap. Meanwhile queue pair 2 answers a read, which leaves the scheduler at responses. -/
def requeueRun : List Label :=
  [.input 0 (.createRcQp 1 11 1 0 .orderedRc), .input 0 (.createRcQp 2 12 2 0 .orderedRc),
    .input 0 (.handleRxTransaction { opcode := .readRequest, destQpId := 2, rsn := 0, sgl := [8] }),
    .input 0 (.performOp 1 .write [4096] false 0), .input 0 (.performOp 1 .write [4096] false 0),
    .fire 0 false, .fire 0 false, .fire 0 false, .input 40 (.pcieIssue 0), .fire 1 false,
    .fire 2 false, .fire 2 false, .fire 1 false, .fire 0 false, .fire 2 false, .fire 1 false,
    .fire 1 false, .fire 1 false, .fire 1 false, .fire 0 false]

/-- The callback adds queue pair 1 to the response set, where it has nothing to do: its second write
stays in the send queue, and no event is pending. -/
theorem requeue_loses_queue_pair :
    ∃ s ctx, (system defaultRdmaConfig).Reachable (fun _ _ => True) s ∧ s.qps 1 = some ctx ∧
      ctx.ready defaultRdmaConfig .request ∧ 1 ∉ s.qpSet .request ∧ s.pending = [] := by
  have hrun := Reachable.exists_of_run (T := system defaultRdmaConfig)
    (C := fun _ _ => True)
    (P := fun s => (s.qps 1).any (fun ctx => ctx.hasCredits defaultRdmaConfig .request &&
      !ctx.xoff .request && !ctx.atOrdLimit defaultRdmaConfig) = true ∧
      1 ∉ s.qpSet .request ∧ s.pending = []) requeueRun rfl (by decide +kernel)
  obtain ⟨s, hs, hready, hmem, hpending⟩ := hrun
  cases hq : s.qps 1 with
  | none => simp [hq] at hready
  | some ctx =>
    refine ⟨s, ctx, hs, hq, ?_, hmem, hpending⟩
    simp only [hq, Option.any_some, Bool.and_eq_true, Bool.not_eq_true'] at hready
    exact ⟨hready.1.1, hready.1.2, fun _ => hready.2⟩

/-- Before the callback fires, the same run meets the condition, and the pending callback is what
covers queue pair 1. -/
theorem no_queue_pair_lost_requeueRun :
    ∃ s ctx, s.qps 1 = some ctx ∧ ctx.ready defaultRdmaConfig .request ∧ 1 ∉ s.qpSet .request ∧
      Awaits s 1 .request := by
  have hrun := Reachable.exists_of_run (T := system defaultRdmaConfig)
    (C := KeepsQueuePairs defaultRdmaConfig)
    (P := fun s => (s.qps 1).any (fun ctx => ctx.hasCredits defaultRdmaConfig .request &&
      !ctx.xoff .request && !ctx.atOrdLimit defaultRdmaConfig) = true ∧
      1 ∉ s.qpSet .request) (requeueRun.take 19) rfl (by decide +kernel)
  obtain ⟨s, hs, hready, hmem⟩ := hrun
  cases hq : s.qps 1 with
  | none => simp [hq] at hready
  | some ctx =>
    simp only [hq, Option.any_some, Bool.and_eq_true, Bool.not_eq_true'] at hready
    have hready' : ctx.ready defaultRdmaConfig .request :=
      ⟨hready.1.1, hready.1.2, fun _ => hready.2⟩
    have hcovered := no_queue_pair_lost defaultRdmaConfig s hs 1 .request ctx hq hready'
    exact ⟨s, ctx, hq, hready', hmem, hcovered.resolve_left fun hin => hmem hin.1⟩

end Isekai.Rdma
