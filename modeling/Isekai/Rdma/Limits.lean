import Isekai.Rdma.Members
import Isekai.Rdma.Estimates
import Isekai.Rdma.Coverage

/-!
# The limits of a queue pair

Backpressure and credit limits are tested when a queue pair is put in a list and again after each of
its transactions, but not when it is served.
-/

namespace Isekai.Rdma

open Falcon (Time)
open Lib TransitionSystem RdmaModel

section Backpressure

variable {c : RdmaConfig} {s s' : RdmaModel} {l : Label}

def assertsXoffInList (s : RdmaModel) : Label → Bool
  | .input _ (.backpressureXoff q request response) =>
    (request && decide (q ∈ s.wqs .request)) || (response && decide (q ∈ s.wqs .response))
  | _ => false

abbrev NotXoffed (s : RdmaModel) : Prop := Listed (fun w ctx => ctx.xoff w = false) s

lemma NotXoffed.next (h : NotXoffed s) (hallowed : s.allowed l)
    (hxoff : assertsXoffInList s l = false) (hnext : s.next c l = .ok s') : NotXoffed s' := by
  refine h.happens (happens_of_next hallowed hnext) ?_ ?_ ?_ ?_
  · intro w ctx ctx' hP hcalm
    rw [hcalm.xoff]
    exact hP
  · intro w q ctx write hmem hwrite hP
    cases write with
    | xoff request response =>
      obtain ⟨time, rfl⟩ := hwrite
      simp only [assertsXoffInList, Bool.or_eq_false_iff, Bool.and_eq_false_iff,
        decide_eq_false_iff_not] at hxoff
      cases w with
      | request => exact hxoff.1.resolve_right fun hnot => hnot hmem
      | response => exact hxoff.2.resolve_right fun hnot => hnot hmem
    | _ => cases w <;> exact hP
  · exact fun w ctx _ hxoff => hxoff
  · intro w w' ctx packet ctx₁ now credit hpacket hP
    have hframe := (createPacket_frame hpacket).1
    rw [← hframe] at hP
    cases w' <;> exact hP

end Backpressure

/-- In every run in which xoff is asserted only for queue pairs that are not in the list of that
type, no lookup for a transaction of a type is pending while the xoff of that type is asserted. -/
theorem xoffed_qp_stays_quiet (c : RdmaConfig) (s : RdmaModel)
    (h : (system c).Reachable (fun s l => assertsXoffInList s l = false) s) (time : Time) (q : QpId)
    (ctx : QpContext) (hmem : (time, .sendTransaction q) ∈ s.pending) (hq : s.qps q = some ctx) :
    ctx.xoff s.currentWorkType = false := by
  have hlisted : NotXoffed s := h.invariant_of_ok
    (fun s hs => by
      cases hs
      exact fun w q hmem => absurd hmem List.not_mem_nil)
    fun s l s' _ hs hallowed hxoff hnext => hs.next hallowed hxoff hnext
  have hhead := (chained_of_reachable h).head hmem
  obtain ⟨ctx', hq', hxoff⟩ := hlisted _ q (List.mem_of_head? hhead)
  cases hq.symm.trans hq'
  exact hxoff

/-- Two writes are posted on queue pair 1, and Falcon asserts its request xoff before the scheduler
runs. -/
def xoffRun : List Label :=
  [.input 0 (.createRcQp 1 11 1 0 .orderedRc), .input 0 (.performOp 1 .write [8] false 0),
    .input 0 (.performOp 1 .write [8] false 0), .fire 0 false, .fire 0 false,
    .input 20 (.backpressureXoff 1 true false), .fire 0 false]

/-- The run of the scheduler after the xoff looks up the queue pair all the same. -/
theorem xoffed_qp_looked_up :
    ∃ s, (system defaultRdmaConfig).Reachable (fun _ _ => True) s ∧
      (s.qps 1).map (·.xoff s.currentWorkType) = some true ∧
      s.pending[0]? = some (40, .sendTransaction 1) :=
  Reachable.exists_of_run xoffRun rfl (by decide +kernel)

/-- Queue pair 2 is xoffed before its first write is posted, and queue pair 1 is looked up. -/
theorem xoffed_qp_stays_quiet_otherQp :
    ∃ (s : RdmaModel) (ctx : QpContext), s.qps 1 = some ctx ∧ ctx.xoff s.currentWorkType = false ∧
      (s.qps 2).map (·.xoff s.currentWorkType) = some true ∧ 2 ∉ s.wqs .request := by
  obtain ⟨s, hs, hget, hsome, hxoff, hnot⟩ := Reachable.exists_of_run
    (T := system defaultRdmaConfig) (C := fun s l => assertsXoffInList s l = false)
    (P := fun s => s.pending[0]? = some (40, .sendTransaction 1) ∧ (s.qps 1).isSome = true ∧
      (s.qps 2).map (·.xoff s.currentWorkType) = some true ∧ 2 ∉ s.wqs .request)
    [.input 0 (.createRcQp 1 11 1 0 .orderedRc), .input 0 (.createRcQp 2 12 2 0 .orderedRc),
      .input 0 (.backpressureXoff 2 true false), .input 0 (.performOp 1 .write [8] false 0),
      .input 0 (.performOp 2 .write [8] false 0), .fire 0 false, .fire 0 false, .fire 0 false]
    rfl (by decide +kernel)
  obtain ⟨ctx, hq⟩ := Option.isSome_iff_exists.mp hsome
  exact ⟨s, ctx, hq, xoffed_qp_stays_quiet _ s hs 40 1 ctx (List.mem_of_getElem? hget) hq, hxoff,
    hnot⟩

section CreditLimit

variable {c : RdmaConfig} {q : QpId} {s s' : RdmaModel} {l : Label} {ctx ctx' : QpContext}
  {w : WorkType} {credit : FalconCredit}

/-- The limits and the items at the heads of the work queues are small enough that no sum of credits
wraps around. -/
def QpContext.smallCredits (ctx : QpContext) : Bool :=
  decide (∀ pool, (ctx.creditLimit pool).toNat < 2 ^ 31) &&
    ctx.frontOp.all (fun op => op.sgl.length < 2 ^ 26 ∧ op.inlinePayloadLength.toNat < 2 ^ 29) &&
    ctx.inboundReadRequestQueue.head?.all (fun request => request.sgl.length < 2 ^ 26)

lemma QpContext.frontCredit_lt (htx : 0 < c.txBufferAllocationUnit.toInt)
    (hrx : 0 < c.rxBufferAllocationUnit.toInt) (hmtu : c.mtu.toNat < 2 ^ 30)
    (hsmall : ctx.smallCredits = true) (hcredit : ctx.frontCredit c w = some credit)
    (pool : CreditPool) : (credit pool).toNat < 2 ^ 31 := by
  simp only [smallCredits, Bool.and_eq_true, Option.all_eq_true, decide_eq_true_eq] at hsmall
  obtain ⟨⟨-, hop⟩, hrequest⟩ := hsmall
  have hfragments : ∀ n < 2 ^ 26, (BitVec.ofNat 32 (n * sglFragmentHeaderSize)).toNat < 2 ^ 30 := by
    intro n hn
    exact (Nat.mod_le _ _).trans_lt (by unfold sglFragmentHeaderSize; omega)
  have htxLt : ∀ header sgl : Word, header.toNat < 2 ^ 30 → sgl.toNat < 2 ^ 30 →
      (calculateFalconTxBufferCredits header sgl c.txBufferAllocationUnit).toNat < 2 ^ 31 := by
    intro header sgl hheader hsgl
    exact (txBufferCredits_le htx (by omega)).trans_lt (by omega)
  cases w with
  | response =>
    obtain ⟨request, hhead, rfl⟩ := Option.map_eq_some_iff.mp hcredit
    have hlength := hrequest request hhead
    cases pool with
    | responseTxBuffer => exact htxLt _ _ (by decide) (hfragments _ hlength)
    | _ => simp [computeResponseCredit]
  | request =>
    obtain ⟨op, hfront, rfl⟩ := Option.map_eq_some_iff.mp hcredit
    obtain ⟨hlength, hinline⟩ := hop op hfront
    have hheader : ∀ base : Word, base.toNat ≤ 28 →
        (base + op.inlinePayloadLength).toNat < 2 ^ 30 := by
      intro base hbase
      exact (Nat.mod_le _ _).trans_lt (by omega)
    cases pool with
    | requestTxBuffer =>
      refine htxLt _ _ ?_ (hfragments _ hlength)
      cases op.opcode with
      | send => exact hheader _ (by decide)
      | recv => exact hheader _ (by decide)
      | write => exact hheader _ (by decide)
      | read => exact (by decide : readHeaderSize.toNat < 2 ^ 30)
    | requestRxBuffer =>
      cases hopcode : op.opcode with
      | read =>
        simp only [computeRequestCredit, hopcode]
        have hmin : (minWord c.mtu op.sgl.sum).toNat ≤ c.mtu.toNat := by
          unfold minWord
          split
          · exact le_rfl
          · rename_i hnot
            exact (BitVec.not_le.mp hnot).le
        have hsum : (responseHeaderSize + minWord c.mtu op.sgl.sum).toNat < 2 ^ 31 := by
          rw [BitVec.toNat_add, show responseHeaderSize.toNat = 24 from rfl]
          exact (Nat.mod_le _ _).trans_lt (by omega)
        exact (rxBufferCredits_le hrx hsum).trans_lt hsum
      | _ =>
        simp only [computeRequestCredit, hopcode]
        decide
    | _ => simp [computeRequestCredit]

/-- There is work, and credit for its head. -/
structure CanPay (c : RdmaConfig) (w : WorkType) (ctx : QpContext) : Prop where
  hasWork : ctx.hasWork w
  fits : ∀ credit, ctx.frontCredit c w = some credit → ctx.creditUsage + credit ≤ ctx.creditLimit

namespace CanPay

lemma of_hasCredits (h : ctx.hasCredits c w = true) : CanPay c w ctx where
  hasWork := QpContext.hasWork_of_hasCredits h
  fits credit hcredit := by simpa [QpContext.hasCredits, hcredit] using h

lemma calm (h : CanPay c w ctx) (hcalm : ctx.Calm ctx') : CanPay c w ctx' where
  hasWork := hcalm.hasWork h.hasWork
  fits credit hcredit := by
    rw [hcalm.usage, hcalm.limit]
    apply h.fits
    cases w with
    | response =>
      simp only [QpContext.frontCredit, hcalm.inbound] at hcredit
      exact hcredit
    | request =>
      obtain ⟨op', hop', rfl⟩ := Option.map_eq_some_iff.mp hcredit
      obtain ⟨op, hop, hsame⟩ := hcalm.frontOp hop'
      simp only [QpContext.frontCredit, hop, Option.map_some,
        QpContext.computeRequestCredit_congr hsame]

end CanPay

lemma frontCredit_write (hfresh : ctx.Fresh) (hwork : ctx.hasWork w) (write : Write) :
    (write.apply ctx).frontCredit c w = ctx.frontCredit c w := by
  cases write with
  | posted op dest =>
    cases w with
    | request => simp only [QpContext.frontCredit, frontOp_posted hfresh hwork]
    | response => rfl
  | inbound request =>
    cases w with
    | request => rfl
    | response =>
      obtain ⟨head, queue, hqueue⟩ := List.exists_cons_of_ne_nil hwork
      simp [QpContext.frontCredit, Write.apply, hqueue]
  | _ => cases w <;> rfl

lemma sub_add_le {usage credit front limit : Word} (hcredit : credit ≤ usage)
    (husage : usage ≤ limit) (hlimit : limit.toNat < 2 ^ 31) (hfront : front.toNat < 2 ^ 31)
    (hfits : usage + front ≤ limit) : usage - credit + front ≤ limit := by
  bv_omega

def lowersCreditLimit (c : RdmaConfig) (q : QpId) (s : RdmaModel) : Label → Bool
  | .input _ (.backpressureDynamicCredit q' credit) =>
    decide (q' = q) && (s.qps q).any fun ctx =>
      !decide (ctx.creditLimit ≤ clampCredit c credit)
  | _ => false

def returnsLargeCredit (q : QpId) (s : RdmaModel) : Label → Bool
  | .input _ (.returnFalconCredit q' _) =>
    decide (q' = q) && (s.qps q).any fun ctx => !ctx.smallCredits
  | _ => false

def KeepsCreditLimit (c : RdmaConfig) (q : QpId) (s : RdmaModel) (l : Label) : Prop :=
  servesResponseAtOrdLimit c s l = false ∧ lowersCreditLimit c q s l = false ∧
    returnsLargeCredit q s l = false

instance (c : RdmaConfig) (q : QpId) (s : RdmaModel) (l : Label) :
    Decidable (KeepsCreditLimit c q s l) :=
  inferInstanceAs (Decidable (_ ∧ _))

/-- What is carried along the steps: the usage is within the limit, and so is what the queue pair is
charged when it is served. -/
structure WithinLimit (c : RdmaConfig) (q : QpId) (s : RdmaModel) : Prop where
  fresh : QpHolds q QpContext.Fresh s
  usage : QpHolds q (fun ctx => ctx.creditUsage ≤ ctx.creditLimit) s
  canPay : Guarded q (CanPay c) s

namespace WithinLimit

lemma write_usage (hlowers : lowersCreditLimit c q s l = false) (write : Write)
    (hq : s.qps q = some ctx ∨ write = .answered) (hmade : write.MadeBy c s l q ctx)
    (h : ctx.creditUsage ≤ ctx.creditLimit) :
    (write.apply ctx).creditUsage ≤ (write.apply ctx).creditLimit := by
  cases write with
  | returned credit =>
    intro pool
    have hle : credit pool ≤ ctx.creditUsage pool := hmade.1 pool
    have husage : ctx.creditUsage pool ≤ ctx.creditLimit pool := h pool
    change ctx.creditUsage pool - credit pool ≤ ctx.creditLimit pool
    bv_omega
  | limit creditLimit =>
    obtain ⟨time, requested, rfl, rfl⟩ := hmade
    have hq : s.qps q = some ctx := hq.resolve_right nofun
    have hle : ctx.creditLimit ≤ clampCredit c requested := by
      simpa [lowersCreditLimit, hq] using hlowers
    exact fun pool => BitVec.le_trans (h pool) (hle pool)
  | _ => exact h

lemma write_canPay (htx : 0 < c.txBufferAllocationUnit.toInt)
    (hrx : 0 < c.rxBufferAllocationUnit.toInt) (hmtu : c.mtu.toNat < 2 ^ 30)
    (hlowers : lowersCreditLimit c q s l = false) (hlarge : returnsLargeCredit q s l = false)
    (hfresh : ctx.Fresh) (husage : ctx.creditUsage ≤ ctx.creditLimit) (write : Write)
    (hq : s.qps q = some ctx) (hmade : write.MadeBy c s l q ctx)
    (h : CanPay c w ctx) : CanPay c w (write.apply ctx) where
  hasWork := hasWork_write h.hasWork write
  fits credit hcredit := by
    rw [frontCredit_write hfresh h.hasWork write] at hcredit
    have hfits := h.fits credit hcredit
    cases write with
    | returned returned =>
      obtain ⟨hle, time, rfl⟩ := hmade
      have hsmall : ctx.smallCredits = true := by simpa [returnsLargeCredit, hq] using hlarge
      have hlimit : ∀ pool, (ctx.creditLimit pool).toNat < 2 ^ 31 := by
        simp only [QpContext.smallCredits, Bool.and_eq_true, decide_eq_true_eq] at hsmall
        exact hsmall.1.1
      intro pool
      exact sub_add_le (hle pool) (husage pool) (hlimit pool)
        (QpContext.frontCredit_lt htx hrx hmtu hsmall hcredit pool) (hfits pool)
    | limit creditLimit =>
      obtain ⟨time, requested, rfl, rfl⟩ := hmade
      have hle : ctx.creditLimit ≤ clampCredit c requested := by
        simpa [lowersCreditLimit, hq] using hlowers
      exact fun pool => BitVec.le_trans (hfits pool) (hle pool)
    | _ => exact hfits

lemma canPay_other {packet : Packet} {ctx₁ : QpContext} {now : Time} {served : WorkType}
    (hw : w ≠ served) (hpacket : createPacket c ctx served = .ok (packet, ctx₁))
    (hserved : CanPay c served ctx) (h : CanPay c w ctx) :
    CanPay c w (chargeQp c now ctx₁ packet ((ctx.frontCredit c served).getD 0)) := by
  obtain ⟨-, husage, hlimit, -, -, hrequest, hresponse⟩ := createPacket_frame hpacket
  have hwork := createPacket_hasWork hpacket hw h.hasWork
  refine ⟨by cases w <;> exact hwork, fun front hfront => ?_⟩
  have hfront : ctx.frontCredit c w = some front := by
    cases served with
    | request =>
      cases w with
      | request => exact absurd rfl hw
      | response => simpa [QpContext.frontCredit, chargeQp, hrequest rfl] using hfront
    | response =>
      cases w with
      | response => exact absurd rfl hw
      | request =>
        obtain ⟨hsend, hops⟩ := hresponse rfl
        simpa [QpContext.frontCredit, QpContext.frontOp, chargeQp, hsend, hops]
          using hfront
  intro pool
  change ctx₁.creditUsage pool + (ctx.frontCredit c served).getD 0 pool + front pool ≤
    ctx₁.creditLimit pool
  rw [husage, hlimit]
  have hfits : ctx.creditUsage pool + front pool ≤ ctx.creditLimit pool := h.fits front hfront pool
  cases hcredit : ctx.frontCredit c served with
  | none => simpa using hfits
  | some credit =>
    have hpaid : ctx.creditUsage pool + credit pool ≤ ctx.creditLimit pool :=
      hserved.fits credit hcredit pool
    have hpools : credit pool = 0 ∨ front pool = 0 := by
      cases served with
      | request =>
        cases w with
        | request => exact absurd rfl hw
        | response =>
          obtain ⟨op, -, rfl⟩ := Option.map_eq_some_iff.mp hcredit
          obtain ⟨request, -, rfl⟩ := Option.map_eq_some_iff.mp hfront
          exact credit_pools_disjoint op request pool
      | response =>
        cases w with
        | response => exact absurd rfl hw
        | request =>
          obtain ⟨request, -, rfl⟩ := Option.map_eq_some_iff.mp hcredit
          obtain ⟨op, -, rfl⟩ := Option.map_eq_some_iff.mp hfront
          exact (credit_pools_disjoint op request pool).symm
    rcases hpools with hzero | hzero
    · simpa [hzero] using hfits
    · simpa [hzero] using hpaid

theorem next (h : WithinLimit c q s) {F : Finding} (hchained : Chained F s)
    (htx : 0 < c.txBufferAllocationUnit.toInt) (hrx : 0 < c.rxBufferAllocationUnit.toInt)
    (hmtu : c.mtu.toNat < 2 ^ 30) (hkeeps : KeepsCreditLimit c q s l)
    (hstep : Happens c s l s') : WithinLimit c q s' := by
  obtain ⟨hord, hlowers, hlarge⟩ := hkeeps
  refine ⟨fresh_happens h.fresh hstep, ?_, ?_⟩
  · refine h.usage.happens hstep (fun ctx hblank => hblank.usage) ?_ ?_ ?_
    · intro ctx ctx' husage hcalm
      rw [hcalm.usage, hcalm.limit]
      exact husage
    · exact fun ctx write hq hmade => write_usage hlowers write hq hmade
    · intro index randomRnr time now ctx packet ctx₁ hl hevent hq hpacket husage
      have hhead := hchained.head (List.mem_of_getElem? hevent)
      obtain ⟨ctx', hq', hpay⟩ := h.canPay.holds _ (List.mem_of_head? hhead)
      cases hq.symm.trans hq'
      obtain ⟨-, husage₁, hlimit₁, -⟩ := createPacket_frame hpacket
      change ctx₁.creditUsage + (ctx.frontCredit c s.currentWorkType).getD 0 ≤ ctx₁.creditLimit
      rw [husage₁, hlimit₁]
      cases hcredit : ctx.frontCredit c s.currentWorkType with
      | none => simpa using husage
      | some credit => exact hpay.fits credit hcredit
  · refine h.canPay.happens hchained ?_ hstep
    refine
      { calm := fun w ctx ctx' hpay hcalm => hpay.calm hcalm
        write := ?_
        pushWrite := fun w ctx write _ _ _ hcredits _ => .of_hasCredits hcredits
        pushEvent := fun w ctx _ _ _ _ _ _ _ _ hcredits _ => .of_hasCredits hcredits
        other := fun w ctx packet ctx₁ now hw hpacket hserved hpay =>
          canPay_other hw hpacket hserved hpay
        stays := fun ctx hcredits _ _ => .of_hasCredits hcredits
        limit := ?_ }
    · intro w ctx write hmem hq hmade hpay
      rcases hq with hq | rfl
      · exact write_canPay htx hrx hmtu hlowers hlarge (h.fresh ctx hq) (h.usage ctx hq) write hq
          hmade hpay
      · cases w <;> exact ⟨hpay.hasWork, hpay.fits⟩
    · intro index randomRnr time ctx hl hevent hresponse hq hlimit
      subst hl
      have hbelow := atOrdLimit_of_not_servesResponse hevent hord hresponse ctx hq
      rw [hlimit] at hbelow
      cases hbelow

end WithinLimit

end CreditLimit

/-- In every run that never serves a response at the limit of outstanding reads, never lowers the
credit limit of the queue pair, and returns credit to it only while its credits are small enough to
be added up, the credit usage of the queue pair stays within its limit. -/
theorem creditUsage_le_creditLimit (c : RdmaConfig) (htx : 0 < c.txBufferAllocationUnit.toInt)
    (hrx : 0 < c.rxBufferAllocationUnit.toInt) (hmtu : c.mtu.toNat < 2 ^ 30) (q : QpId)
    (s : RdmaModel) (h : (system c).Reachable (KeepsCreditLimit c q) s) (ctx : QpContext)
    (hq : s.qps q = some ctx) : ctx.creditUsage ≤ ctx.creditLimit := by
  have hwithin : WithinLimit c q s := h.invariant_of_ok
    (fun s hs => by
      cases hs
      exact ⟨nofun, nofun, .initial q _ c⟩)
    fun s l s' hreachable hs hallowed hkeeps hnext => hs.next (chained_of_reachable hreachable)
      htx hrx hmtu hkeeps (happens_of_next hallowed hnext)
  exact hwithin.usage ctx hq

/-- Queue pair 1 has a credit limit of one response and one read outstanding. Its two responses are
served while requests are xoffed and queue pairs 2 and 3 wait in the request list. -/
def chargeTwiceRun : List Label :=
  [.input 0 (.createRcQp 1 11 1 0 .orderedRc), .input 0 (.createRcQp 2 12 2 0 .orderedRc),
    .input 0 (.createRcQp 3 13 3 0 .orderedRc), .input 0 (.performOp 1 .read [8] false 0),
    .input 0 (.performOp 1 .read [8] false 0), .fire 0 false, .fire 0 false, .fire 0 false,
    .fire 0 false, .fire 0 false,
    .input 40 (.handleRxTransaction
      { opcode := .readRequest, destQpId := 1, rsn := 0, sgl := [8] }),
    .input 40 (.handleRxTransaction
      { opcode := .readRequest, destQpId := 1, rsn := 1, sgl := [8] }),
    .fire 1 false, .fire 1 false, .input 40 (.pcieIssue 0), .fire 2 false, .fire 2 false,
    .fire 0 false, .fire 0 false, .input 80 (.pcieIssue 0), .fire 2 false, .fire 2 false,
    .fire 1 false, .input 120 (.setXoff true false), .input 120 (.performOp 2 .write [8] false 0),
    .input 120 (.performOp 3 .write [8] false 0), .fire 1 false, .fire 1 false, .fire 0 false,
    .fire 0 false, .fire 0 false, .fire 0 false, .fire 0 false]

def oneResponseConfig : RdmaConfig :=
  { defaultRdmaConfig with
    outboundReadQueueDepth := 1
    perQpCredits := fun pool => if pool = .responseTxPacket then 1 else 0x7fffffff }

/-- Serving a response at the limit of outstanding reads pops the request list, so the queue pair
stays in the response list without the credits for its second response. -/
theorem creditUsage_exceeds_creditLimit :
    ∃ s, (system oneResponseConfig).Reachable
        (fun s l => lowersCreditLimit oneResponseConfig 1 s l = false) s ∧
      (s.qps 1).map (·.creditUsage .responseTxPacket) = some 2 ∧
      (s.qps 1).map (·.creditLimit .responseTxPacket) = some 1 := by
  exact Reachable.exists_of_run chargeTwiceRun rfl (by decide +kernel)

theorem creditUsage_le_creditLimit_readRun :
    ∃ (s : RdmaModel) (ctx : QpContext), s.qps 1 = some ctx ∧
      ctx.creditUsage .requestTxPacket = 1 ∧ ctx.creditUsage ≤ ctx.creditLimit := by
  obtain ⟨s, hs, husage⟩ := Reachable.exists_of_run
    (T := system defaultRdmaConfig) (C := KeepsCreditLimit defaultRdmaConfig 1)
    (P := fun s => (s.qps 1).map (·.creditUsage .requestTxPacket) = some 1)
    (readRun 8 ++ [.fire 0 false]) rfl (by decide +kernel)
  obtain ⟨ctx, hq, husage⟩ := Option.map_eq_some_iff.mp husage
  exact ⟨s, ctx, hq, husage, creditUsage_le_creditLimit defaultRdmaConfig (by decide) (by decide)
    (by decide) 1 s hs ctx hq⟩

end Isekai.Rdma
