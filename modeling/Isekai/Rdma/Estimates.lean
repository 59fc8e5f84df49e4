import Isekai.Rdma.Chain

/-!
# What a run checks and what the transaction takes

A run of the scheduler makes sure of tokens for a packet of the MTU and of a minimal global credit
before it looks up a queue pair. They cover what the transaction takes only if the item at the head
of the work queue is small enough.
-/

namespace Isekai.Rdma

open Falcon (Time)
open Lib TransitionSystem

lemma cutPacketLoop_sum_le (mtu : Word) (sgl : List Word) {accumulated : Word}
    (h : accumulated ≤ mtu) : accumulated + (cutPacketLoop mtu accumulated sgl).1.sum ≤ mtu := by
  induction sgl generalizing accumulated with
  | nil => simpa [cutPacketLoop] using h
  | cons segment rest ih =>
    unfold cutPacketLoop
    split
    · split
      · rename_i hfits
        have hrest := ih hfits
        rwa [List.sum_cons, ← add_assoc]
      · dsimp only
        rw [List.sum_singleton, add_sub_cancel]
        exact BitVec.le_refl mtu
    · simpa using h

namespace QpContext

variable {c : RdmaConfig} {ctx ctx' : QpContext} {packet : Packet} {w : WorkType}

def oversized (c : RdmaConfig) (ctx : QpContext) : WorkType → Bool
  | .request => ctx.frontOp.any fun op => c.mtu < op.inlinePayloadLength
  | .response => ctx.inboundReadRequestQueue.head?.any fun request => c.mtu < request.sgl.sum

/-- The tokens of a request: those of the header of a read, and otherwise those of a header and of a
payload that is inline or was cut from the list. -/
lemma requestPayload_tokens {op : RdmaOp} {header : Packet} {rest : List Word}
    (hheader : requestHeader op = .ok header)
    (hpayload : requestPayload c op header = .ok (packet, rest)) :
    tokensConsumed packet = readHeaderSize ∨
      ∃ base length, base ≤ rdmaHeader ∧ tokensConsumed packet = base + length ∧
        (length = op.inlinePayloadLength ∨ length ≤ c.mtu) := by
  have hcut : (cutPacketFromSgl op.sgl c.mtu).1.sum ≤ c.mtu := by
    have hle := cutPacketLoop_sum_le c.mtu op.sgl (BitVec.le_def.mpr (Nat.zero_le _) : 0 ≤ c.mtu)
    rwa [zero_add] at hle
  unfold requestPayload at hpayload
  split at hpayload
  · split at hpayload
    · cases hpayload
      unfold requestHeader at hheader
      split at hheader <;> cases hheader
      · exact .inl rfl
      · exact .inr ⟨sendHeaderSize, _, by decide, rfl, .inl rfl⟩
      · exact .inr ⟨writeHeaderSize, _, by decide, rfl, .inl rfl⟩
    · cases hpayload
  · rename_i hinline
    have hinline : op.inlinePayloadLength = 0 := by simpa using hinline
    dsimp only at hpayload
    split at hpayload
    · cases hpayload
    · cases hpayload
      unfold requestHeader at hheader
      split at hheader <;> cases hheader
      · exact .inl rfl
      · refine .inr ⟨sendHeaderSize, _, by decide, ?_, .inr hcut⟩
        simp only [tokensConsumed, hinline, add_zero]
      · refine .inr ⟨writeHeaderSize, _, by decide, ?_, .inr hcut⟩
        simp only [tokensConsumed, hinline, add_zero]

lemma tokensConsumed_le (hmtu : 16 ≤ c.mtu.toNat) (hfits : c.mtu.toNat + 28 < 2 ^ 32)
    (hpacket : RdmaModel.createPacket c ctx w = .ok (packet, ctx'))
    (hsize : ctx.oversized c w = false) :
    (tokensConsumed packet).toNat ≤ (c.mtu + rdmaHeader).toNat := by
  have hsum : ∀ base length : Word, base ≤ rdmaHeader → length ≤ c.mtu →
      (base + length).toNat ≤ (c.mtu + rdmaHeader).toNat := by
    intro base length hbase hlength
    have hbase : base.toNat ≤ 28 := hbase
    have hlength : length.toNat ≤ c.mtu.toNat := hlength
    rw [BitVec.toNat_add, BitVec.toNat_add, show rdmaHeader.toNat = 28 from rfl,
      Nat.mod_eq_of_lt (by omega), Nat.mod_eq_of_lt (by omega)]
    omega
  cases w with
  | response =>
    simp only [RdmaModel.createPacket] at hpacket
    split at hpacket
    · unfold createResponsePacket at hpacket
      split at hpacket
      · cases hpacket
      · rename_i request queue hqueue
        split at hpacket
        · cases hpacket
        · cases hpacket
          have hlength : request.sgl.sum ≤ c.mtu := by
            simpa [oversized, hqueue] using hsize
          exact hsum responseHeaderSize _ (by decide) hlength
    · cases hpacket
  | request =>
    simp only [RdmaModel.createPacket, createRequestPacket] at hpacket
    split at hpacket
    · cases hpacket
    · rename_i id queue hqueue
      split at hpacket
      · cases hpacket
      · rename_i op hop
        obtain ⟨header, hheader, hpacket⟩ := exists_of_bind_eq_ok hpacket
        obtain ⟨⟨packet', rest⟩, hpayload, hpacket⟩ := exists_of_bind_eq_ok hpacket
        cases hpacket
        have hinline : op.inlinePayloadLength ≤ c.mtu := by
          simpa [oversized, frontOp, hqueue, hop] using hsize
        change (tokensConsumed packet').toNat ≤ _
        obtain hread | ⟨base, length, hbase, htokens, hlength⟩ :=
          requestPayload_tokens hheader hpayload
        · rw [hread, BitVec.toNat_add, show rdmaHeader.toNat = 28 from rfl,
            show readHeaderSize.toNat = 44 from rfl, Nat.mod_eq_of_lt hfits]
          omega
        · rw [htokens]
          exact hsum base length hbase (hlength.elim (fun h => h ▸ hinline) fun h => h)

end QpContext

def servesOversized (c : RdmaConfig) (s : RdmaModel) : Label → Bool
  | .fire index _ =>
    match s.pending[index]? with
    | some (_, .sendTransaction q) => (s.qps q).any (·.oversized c s.currentWorkType)
    | _ => false
  | .input _ _ => false

def tokensForMtu (c : RdmaConfig) : Finding :=
  fun _ bucket _ => (c.mtu + rdmaHeader).toNat ≤ bucket.availableTokens

section Tokens

variable {c : RdmaConfig} {s s' : RdmaModel} {l : Label}

lemma tokensForMtu_found (c : RdmaConfig) : (tokensForMtu c).Found c :=
  fun _ _ _ _ htokens => htokens

lemma Chained.next_tokens (h : Chained (tokensForMtu c) s) (hallowed : s.allowed l)
    (hnext : s.next c l = .ok s') : Chained (tokensForMtu c) s' :=
  h.happens (tokensForMtu_found c) (RdmaModel.happens_of_next hallowed hnext)
    fun _ _ _ _ _ _ htokens => htokens

lemma chained_tokens_of_reachable {C : RdmaModel → Label → Prop} (h : (system c).Reachable C s) :
    Chained (tokensForMtu c) s := by
  refine h.invariant (E := fun _ => True) (fun s hs => hs ▸ .initial _ c)
    fun s l hs hallowed _ => ?_
  exact .of_forall (fun s' hnext => hs.next_tokens hallowed hnext) fun _ _ => trivial

lemma Chained.tokens (h : Chained (tokensForMtu c) s) (hmtu : 16 ≤ c.mtu.toNat)
    (hfits : c.mtu.toNat + 28 < 2 ^ 32) (hallowed : s.allowed l)
    (hsize : servesOversized c s l = false) :
    Ensures (· ≠ .insufficientTokens) (Happens c s l) (s.next c l) := by
  refine RdmaModel.next_happens (fun _ he => he.2) hallowed fun index randomRnr time q hl hget => ?_
  refine RdmaModel.sendTransaction_sends (fun _ he => he.2) (fun _ _ _ => by decide)
    (fun ctx packet ctx₁ hq hpacket hlt => ?_) fun _ _ _ _ _ _ _ _ => by decide
  have hmem : (time, Callback.sendTransaction q) ∈ s.chain :=
    List.mem_filter.mpr ⟨List.mem_of_getElem? hget, rfl⟩
  have hfound : (c.mtu + rdmaHeader).toNat ≤ s.txTokenBucket.availableTokens :=
    (h.serves time q hmem).2.2
  have hq : s.qps q = some ctx := hq
  have hsmall : ctx.oversized c s.currentWorkType = false := by
    subst hl
    simpa [servesOversized, hget, hq] using hsize
  exact absurd hlt (Nat.not_lt.mpr
    ((QpContext.tokensConsumed_le hmtu hfits hpacket hsmall).trans hfound))

end Tokens

/-- In every run, at most one run of the scheduler or lookup is pending, and the scheduler is idle
exactly when none is. If the header of a read fits in the tokens for an MTU and every packet that is
sent carries at most the MTU, the rate limiter never runs out of tokens. -/
theorem one_scheduler_chain (c : RdmaConfig) :
    (∀ s, (system c).Reachable (fun _ _ => True) s →
      s.chain.length ≤ 1 ∧ (s.isIdle = true ↔ s.chain = [])) ∧
    (16 ≤ c.mtu.toNat → c.mtu.toNat + 28 < 2 ^ 32 →
      ∀ s, (system c).Reachable (fun s l => servesOversized c s l = false) s →
        ∀ l, s.allowed l → servesOversized c s l = false →
          s.next c l ≠ .error .insufficientTokens) := by
  refine ⟨fun s hs => ?_, fun hmtu hfits s hs l hallowed hsize herror => ?_⟩
  · have hchained := chained_of_reachable hs
    cases hidle : s.isIdle with
    | true => simp [hchained.idle hidle]
    | false =>
      obtain ⟨event, hevent⟩ := hchained.busy hidle
      simp [hevent]
  · exact ((chained_tokens_of_reachable hs).tokens hmtu hfits hallowed hsize).of_error herror rfl

def readRun (length : Word) : List Label :=
  [.input 0 (.createRcQp 1 11 1 0 .orderedRc), .input 0 (.performOp 1 .read [length] false 0),
    .fire 0 false, .fire 0 false]

def largeResponseRun : List Label :=
  [.input 0 (.createRcQp 1 11 1 0 .orderedRc),
    .input 0 (.handleRxTransaction
      { opcode := .readRequest, destQpId := 1, rsn := 0, sgl := [20000] }),
    .fire 0 false, .input 0 (.pcieIssue 0), .fire 1 false, .fire 1 false, .fire 1 false]

/-- An MTU of eight bytes, and tokens for seven bytes more than a packet of that length. -/
def sevenByteBurstConfig : RdmaConfig :=
  { defaultRdmaConfig with mtu := 8, txBurstSize := 7, txTokensPerRefillInterval := 7 }

/-- Tokens run out for a read, whose header is longer than the MTU with the header that the run
accounts for, and for a response that is longer than the MTU. -/
theorem tokens_run_out :
    (∃ s, (system sevenByteBurstConfig).Reachable (fun _ _ => True) s ∧ s.allowed (.fire 0 false) ∧
      s.next sevenByteBurstConfig (.fire 0 false) = .error .insufficientTokens) ∧
    (∃ s, (system defaultRdmaConfig).Reachable (fun _ _ => True) s ∧ s.allowed (.fire 1 false) ∧
      s.next defaultRdmaConfig (.fire 1 false) = .error .insufficientTokens) := by
  refine ⟨?_, ?_⟩
  · obtain ⟨s, hs, hallowed, haborts⟩ := Reachable.exists_of_run
      (T := system sevenByteBurstConfig) (C := fun _ _ => True)
      (P := fun s => s.allowed (.fire 0 false) ∧
        (system sevenByteBurstConfig).aborts s (.fire 0 false) .insufficientTokens = true)
      (readRun 8) rfl (by decide +kernel)
    exact ⟨s, hs, hallowed, TransitionSystem.next_of_aborts haborts⟩
  · obtain ⟨s, hs, hallowed, haborts⟩ := Reachable.exists_of_run
      (T := system defaultRdmaConfig) (C := fun _ _ => True)
      (P := fun s => s.allowed (.fire 1 false) ∧
        (system defaultRdmaConfig).aborts s (.fire 1 false) .insufficientTokens = true)
      largeResponseRun rfl (by decide +kernel)
    exact ⟨s, hs, hallowed, TransitionSystem.next_of_aborts haborts⟩

/-- The same read with the default configuration finds its tokens. -/
theorem one_scheduler_chain_readRun :
    ∃ s : RdmaModel, s.chain.length = 1 ∧ (s.isIdle = true ↔ s.chain = []) ∧
      s.allowed (.fire 0 false) ∧
      s.next defaultRdmaConfig (.fire 0 false) ≠ .error .insufficientTokens := by
  obtain ⟨s, hs, hchain, hallowed, hsize⟩ := Reachable.exists_of_run
    (T := system defaultRdmaConfig) (C := fun s l => servesOversized defaultRdmaConfig s l = false)
    (P := fun s => s.chain.length = 1 ∧ s.allowed (.fire 0 false) ∧
      servesOversized defaultRdmaConfig s (.fire 0 false) = false)
    (readRun 8) rfl (by decide +kernel)
  have hchains := (one_scheduler_chain defaultRdmaConfig).1 s (hs.mono fun _ _ _ => trivial)
  have htokens := (one_scheduler_chain defaultRdmaConfig).2 (by decide) (by decide) s hs
  exact ⟨s, hchain, hchains.2, hallowed, htokens _ hallowed hsize⟩

section Rounding

variable {m n unit : Int}

lemma ceilDiv_mono (hm : 0 ≤ m) (hmn : m ≤ n) (hunit : 0 < unit) :
    ceilDiv m unit ≤ ceilDiv n unit := by
  unfold ceilDiv
  rw [Int.tdiv_eq_ediv_of_nonneg (by omega), Int.tdiv_eq_ediv_of_nonneg (by omega)]
  exact Int.ediv_le_ediv hunit (by omega)

lemma ceilDiv_nonneg (hn : 0 ≤ n) (hunit : 0 < unit) : 0 ≤ ceilDiv n unit := by
  exact Int.tdiv_nonneg (by omega) hunit.le

lemma ceilDiv_le (hn : 0 ≤ n) (hunit : 0 < unit) : ceilDiv n unit ≤ n := by
  unfold ceilDiv
  rw [Int.tdiv_eq_ediv_of_nonneg (by omega)]
  obtain rfl | hpos := hn.eq_or_lt
  · exact (Int.ediv_eq_zero_of_lt (by omega) (by omega)).le
  · have hle : n + unit - 1 ≤ n * unit := by nlinarith
    exact Int.ediv_le_of_le_mul hunit hle

lemma subtract_mono {x y z : Int} (hxy : x ≤ y) : subtract x z ≤ subtract y z := by
  unfold subtract
  split <;> split <;> omega

lemma subtract_nonneg (x z : Int) : 0 ≤ subtract x z := by
  unfold subtract
  split <;> omega

lemma subtract_le {x z : Int} (hx : 0 ≤ x) (hz : 0 ≤ z) : subtract x z ≤ x := by
  unfold subtract
  split <;> omega

lemma ofInt_le_ofInt {x y : Int} (hx : 0 ≤ x) (hxy : x ≤ y) (hy : y < 2 ^ 32) :
    BitVec.ofInt 32 x ≤ BitVec.ofInt 32 y := by
  rw [BitVec.le_def, BitVec.toNat_ofInt, BitVec.toNat_ofInt,
    Int.emod_eq_of_lt hx (by norm_num; omega), Int.emod_eq_of_lt (by omega) (by norm_num; omega)]
  omega

end Rounding

section Credits

variable {c : RdmaConfig} {s s' : RdmaModel} {l : Label}

lemma txBufferCredits_mono {header header' sgl sgl' unit : Word} (hunit : 0 < unit.toInt)
    (hheader : header.toInt ≤ header'.toInt) (hsgl : sgl.toInt ≤ sgl'.toInt)
    (hheader' : 0 ≤ header'.toInt) (hsgl' : 0 ≤ sgl'.toInt) :
    calculateFalconTxBufferCredits header sgl unit ≤
      calculateFalconTxBufferCredits header' sgl' unit := by
  have hfirst := ceilDiv_mono (subtract_nonneg _ _)
    (subtract_mono hheader (z := fixedTxContextSize)) hunit
  have hsecond := ceilDiv_mono (subtract_nonneg _ _)
    (subtract_mono hsgl (z := fixedTxMetadataSize)) hunit
  have hpositive := ceilDiv_nonneg (subtract_nonneg header.toInt fixedTxContextSize) hunit
  have hpositive' := ceilDiv_nonneg (subtract_nonneg sgl.toInt fixedTxMetadataSize) hunit
  have hbound := (ceilDiv_le (subtract_nonneg header'.toInt fixedTxContextSize) hunit).trans
    (subtract_le hheader' (by decide))
  have hbound' := (ceilDiv_le (subtract_nonneg sgl'.toInt fixedTxMetadataSize) hunit).trans
    (subtract_le hsgl' (by decide))
  have hlt := BitVec.toInt_lt (x := header')
  have hlt' := BitVec.toInt_lt (x := sgl')
  exact ofInt_le_ofInt (by omega) (by omega) (by omega)

lemma rxBufferCredits_mono {length length' unit : Word} (hunit : 0 < unit.toInt)
    (hlength : length.toInt ≤ length'.toInt) (hlength' : 0 ≤ length'.toInt) :
    calculateFalconRxBufferCredits length unit ≤ calculateFalconRxBufferCredits length' unit := by
  have hmono := ceilDiv_mono (subtract_nonneg _ _)
    (subtract_mono hlength (z := fixedRxContextSize)) hunit
  have hpositive := ceilDiv_nonneg (subtract_nonneg length.toInt fixedRxContextSize) hunit
  have hbound := (ceilDiv_le (subtract_nonneg length'.toInt fixedRxContextSize) hunit).trans
    (subtract_le hlength' (by decide))
  have hlt := BitVec.toInt_lt (x := length')
  have hzero : fixedRxMetadataSize = 0 := rfl
  exact ofInt_le_ofInt (by omega) (by omega) (by omega)

lemma txBufferCredits_le {header sgl unit : Word} (hunit : 0 < unit.toInt)
    (hsum : header.toNat + sgl.toNat < 2 ^ 31) :
    (calculateFalconTxBufferCredits header sgl unit).toNat ≤ header.toNat + sgl.toNat := by
  have hheader : header.toInt = header.toNat := BitVec.toInt_eq_toNat_of_lt (by omega)
  have hsgl : sgl.toInt = sgl.toNat := BitVec.toInt_eq_toNat_of_lt (by omega)
  have hpositive := ceilDiv_nonneg (subtract_nonneg header.toInt fixedTxContextSize) hunit
  have hpositive' := ceilDiv_nonneg (subtract_nonneg sgl.toInt fixedTxMetadataSize) hunit
  have hbound := (ceilDiv_le (subtract_nonneg header.toInt fixedTxContextSize) hunit).trans
    (subtract_le (by omega) (by decide))
  have hbound' := (ceilDiv_le (subtract_nonneg sgl.toInt fixedTxMetadataSize) hunit).trans
    (subtract_le (by omega) (by decide))
  unfold calculateFalconTxBufferCredits
  rw [BitVec.toNat_ofInt, Int.emod_eq_of_lt (by omega) (by norm_num; omega)]
  omega

lemma rxBufferCredits_le {length unit : Word} (hunit : 0 < unit.toInt)
    (hlength : length.toNat < 2 ^ 31) :
    (calculateFalconRxBufferCredits length unit).toNat ≤ length.toNat := by
  have hlength' : length.toInt = length.toNat := BitVec.toInt_eq_toNat_of_lt (by omega)
  have hpositive := ceilDiv_nonneg (subtract_nonneg length.toInt fixedRxContextSize) hunit
  have hbound := (ceilDiv_le (subtract_nonneg length.toInt fixedRxContextSize) hunit).trans
    (subtract_le (by omega) (by decide))
  have hzero : fixedRxMetadataSize = 0 := rfl
  unfold calculateFalconRxBufferCredits
  rw [BitVec.toNat_ofInt, Int.emod_eq_of_lt (by omega) (by norm_num; omega)]
  omega

/-- The item at the head of the work queue is within the sizes that the minimal credit stands for:
at most 40 fragments, at most 256 bytes of header and inline payload, and a read whose response fits
in one MTU together with its header. -/
def QpContext.withinEstimate (c : RdmaConfig) (ctx : QpContext) : WorkType → Bool
  | .request => ctx.frontOp.all fun op => op.sgl.length ≤ 40 ∧
      op.inlinePayloadLength.toNat ≤ 228 ∧
      (op.opcode ≠ .read ∨ op.sgl.sum.toNat + 24 ≤ c.mtu.toNat)
  | .response => ctx.inboundReadRequestQueue.head?.all fun request => request.sgl.length ≤ 40

lemma QpContext.frontCredit_le_minimumCredit {ctx : QpContext} {w : WorkType}
    (htx : 0 < c.txBufferAllocationUnit.toInt) (hrx : 0 < c.rxBufferAllocationUnit.toInt)
    (hmtu : c.mtu.toNat < 2 ^ 31) (hsize : ctx.withinEstimate c w = true) :
    (ctx.frontCredit c w).getD 0 ≤ minimumCredit c w := by
  have hzero : ∀ word : Word, (0 : Word) ≤ word := fun word => BitVec.le_def.mpr (Nat.zero_le _)
  have hsmall : ∀ (word : Word) (n : Nat), word.toNat ≤ n → n < 2 ^ 31 → word.toInt ≤ n := by
    intro word n hword hn
    rw [BitVec.toInt_eq_toNat_of_lt (by omega)]
    exact_mod_cast hword
  have hfragments : ∀ n ≤ 40, (BitVec.ofNat 32 (n * sglFragmentHeaderSize)).toInt ≤ 650 := by
    intro n hn
    refine hsmall _ 650 ?_ (by norm_num)
    exact (Nat.mod_le _ _).trans (by unfold sglFragmentHeaderSize; omega)
  have hheader : ∀ base length : Word, base.toNat ≤ 28 → length.toNat ≤ 228 →
      (base + length).toInt ≤ 256 := by
    intro base length hbase hlength
    refine hsmall _ 256 ?_ (by norm_num)
    exact (Nat.mod_le _ _).trans (by omega)
  cases w with
  | response =>
    cases hhead : ctx.inboundReadRequestQueue.head? with
    | none =>
      intro pool
      simp only [frontCredit, hhead, Option.map_none, Option.getD_none]
      exact hzero _
    | some request =>
      have hlength : request.sgl.length ≤ 40 := by simpa [withinEstimate, hhead] using hsize
      intro pool
      simp only [frontCredit, hhead, Option.map_some, Option.getD_some]
      cases pool with
      | responseTxPacket => exact BitVec.le_refl _
      | responseTxBuffer =>
        exact txBufferCredits_mono htx (by decide) (hfragments _ hlength) (by decide) (by decide)
      | _ => exact BitVec.le_refl _
  | request =>
    cases hop : ctx.frontOp with
    | none =>
      intro pool
      simp only [frontCredit, hop, Option.map_none, Option.getD_none]
      exact hzero _
    | some op =>
      obtain ⟨hlength, hinline, hread⟩ : op.sgl.length ≤ 40 ∧ op.inlinePayloadLength.toNat ≤ 228 ∧
          (op.opcode ≠ .read ∨ op.sgl.sum.toNat + 24 ≤ c.mtu.toNat) := by
        simpa [withinEstimate, hop] using hsize
      intro pool
      simp only [frontCredit, hop, Option.map_some, Option.getD_some]
      cases pool with
      | requestTxPacket => exact BitVec.le_refl _
      | requestRxPacket => exact BitVec.le_refl _
      | requestTxBuffer =>
        refine txBufferCredits_mono htx ?_ (hfragments _ hlength) (by decide) (by decide)
        cases op.opcode with
        | send => exact hheader _ _ (by decide) hinline
        | recv => exact hheader _ _ (by decide) hinline
        | write => exact hheader _ _ (by decide) hinline
        | read => exact hsmall readHeaderSize 256 (by decide) (by norm_num)
      | requestRxBuffer =>
        cases hopcode : op.opcode with
        | read =>
          have hfits := hread.resolve_left (fun hne => hne hopcode)
          simp only [computeRequestCredit, minimumCredit, hopcode]
          have hmin : minWord c.mtu op.sgl.sum = op.sgl.sum := by
            unfold minWord
            split
            · rename_i hle
              have hle : c.mtu.toNat ≤ op.sgl.sum.toNat := hle
              omega
            · rfl
          have hmtu' : c.mtu.toInt = c.mtu.toNat := BitVec.toInt_eq_toNat_of_lt (by omega)
          rw [hmin]
          refine rxBufferCredits_mono hrx ?_ (by omega)
          rw [hmtu']
          refine hsmall _ _ ?_ hmtu
          rw [BitVec.toNat_add, show responseHeaderSize.toNat = 24 from rfl]
          exact (Nat.mod_le _ _).trans (by omega)
        | _ =>
          simp only [computeRequestCredit, hopcode]
          exact hzero _
      | _ => exact BitVec.le_refl _

def minimumCreditCovered (c : RdmaConfig) : Finding :=
  fun w _ credits => minimumCredit c w ≤ credits

lemma minimumCreditCovered_found (c : RdmaConfig) : (minimumCreditCovered c).Found c := by
  intro s w bucket hsend _
  cases w with
  | request =>
    have hcovered := (Bool.and_eq_true_iff.mp hsend).2
    rwa [decide_eq_true_eq] at hcovered
  | response =>
    have hcovered := (Bool.and_eq_true_iff.mp hsend).2
    rwa [decide_eq_true_eq] at hcovered

def exceedsEstimate (c : RdmaConfig) (s : RdmaModel) : Label → Bool
  | .fire index _ =>
    match s.pending[index]? with
    | some (_, .sendTransaction q) =>
      (s.qps q).any fun ctx => !ctx.withinEstimate c s.currentWorkType
    | _ => false
  | .input _ _ => false

def overflowsCredits (s : RdmaModel) : Label → Bool
  | .input _ (.returnFalconCredit _ credit) =>
    !decide (s.remainingGlobalCredits ≤ s.remainingGlobalCredits + credit)
  | _ => false

lemma Chained.next_credits (h : Chained (minimumCreditCovered c) s) (hallowed : s.allowed l)
    (hfits : overflowsCredits s l = false) (hnext : s.next c l = .ok s') :
    Chained (minimumCreditCovered c) s' := by
  refine h.happens (minimumCreditCovered_found c) (RdmaModel.happens_of_next hallowed hnext)
    fun time q credit hl w bucket hcovered => ?_
  subst hl
  have hle : s.remainingGlobalCredits ≤ s.remainingGlobalCredits + credit := by
    simpa [overflowsCredits] using hfits
  exact fun pool => BitVec.le_trans (hcovered pool) (hle pool)

end Credits

/-- In every run whose credit returns do not overflow the counters: what a transaction is charged is
covered by the global credits, if the item at the head of its work queue is within the sizes that
the minimal credit stands for, so the global credits do not wrap around. -/
theorem global_credits_covered (c : RdmaConfig) (htx : 0 < c.txBufferAllocationUnit.toInt)
    (hrx : 0 < c.rxBufferAllocationUnit.toInt) (hmtu : c.mtu.toNat < 2 ^ 31) (s : RdmaModel)
    (h : (system c).Reachable
      (fun s l => exceedsEstimate c s l = false ∧ overflowsCredits s l = false) s)
    (index : Nat) (randomRnr : Bool) (time : Time) (q : QpId) (ctx : QpContext)
    (hget : s.pending[index]? = some (time, .sendTransaction q))
    (hsize : exceedsEstimate c s (.fire index randomRnr) = false) (hq : s.qps q = some ctx) :
    (ctx.frontCredit c s.currentWorkType).getD 0 ≤ s.remainingGlobalCredits ∧
    ∀ s', s.next c (.fire index randomRnr) = .ok s' → ∀ pool,
      (s'.remainingGlobalCredits pool).toNat +
        ((ctx.frontCredit c s.currentWorkType).getD 0 pool).toNat =
          (s.remainingGlobalCredits pool).toNat := by
  have hchained : Chained (minimumCreditCovered c) s :=
    h.invariant (E := fun _ => True) (fun s hs => hs ▸ .initial _ c) fun s l hs hallowed hC =>
      .of_forall (fun s' hnext => hs.next_credits hallowed hC.2 hnext) fun _ _ => trivial
  have hmem : (time, Callback.sendTransaction q) ∈ s.chain :=
    List.mem_filter.mpr ⟨List.mem_of_getElem? hget, rfl⟩
  have hwithin : ctx.withinEstimate c s.currentWorkType = true := by
    simpa [exceedsEstimate, hget, hq] using hsize
  have hcovered : (ctx.frontCredit c s.currentWorkType).getD 0 ≤ s.remainingGlobalCredits :=
    fun pool => BitVec.le_trans
      (QpContext.frontCredit_le_minimumCredit htx hrx hmtu hwithin pool)
      ((hchained.serves time q hmem).2.2 pool)
  refine ⟨hcovered, fun s' hnext pool => ?_⟩
  obtain ⟨ctx', packet, ctx₁, hq', hpacket, hsent⟩ := RdmaModel.sends_of_next hget hnext
  have hctx : ctx' = ctx := Option.some.inj (hq'.symm.trans hq)
  subst hctx
  have hle : ((ctx'.frontCredit c s.currentWorkType).getD 0 pool).toNat ≤
    (s.remainingGlobalCredits pool).toNat := hcovered pool
  rw [hsent.credits]
  change (s.remainingGlobalCredits pool - (ctx'.frontCredit c s.currentWorkType).getD 0 pool).toNat
    + _ = _
  rw [BitVec.toNat_sub_of_le (hcovered pool)]
  omega

/-- The default configuration with global receive buffer credits for one MTU. -/
def oneMtuConfig : RdmaConfig :=
  { defaultRdmaConfig with
    globalCredits := fun pool => if pool = .requestRxBuffer then 4096 else 0x7fffffff }

/-- A read of one MTU is charged for the header of its response as well, which the run has not
accounted for: the global credits wrap around. -/
theorem global_credits_wrap :
    ∃ s, (system oneMtuConfig).Reachable (fun _ _ => True) s ∧
      s.remainingGlobalCredits .requestRxBuffer = 0xffffffe8 :=
  Reachable.exists_of_run (readRun 4096 ++ [.fire 0 false]) rfl (by decide +kernel)

/-- A read that leaves room for the header is covered. -/
theorem global_credits_covered_readRun :
    ∃ (s : RdmaModel) (ctx : QpContext), s.qps 1 = some ctx ∧
      (ctx.frontCredit oneMtuConfig .request).map (· .requestRxBuffer) = some 4096 ∧
      (ctx.frontCredit oneMtuConfig s.currentWorkType).getD 0 ≤ s.remainingGlobalCredits := by
  obtain ⟨s, hs, hget, hsize, hcredit⟩ := Reachable.exists_of_run
    (T := system oneMtuConfig)
    (C := fun s l => exceedsEstimate oneMtuConfig s l = false ∧ overflowsCredits s l = false)
    (P := fun s => s.pending[0]? = some (40, .sendTransaction 1) ∧
      exceedsEstimate oneMtuConfig s (.fire 0 false) = false ∧
      (s.qps 1).bind (fun ctx => (ctx.frontCredit oneMtuConfig .request).map (· .requestRxBuffer)) =
        some 4096)
    (readRun 4072) rfl (by decide +kernel)
  obtain ⟨ctx, hq, hcredit⟩ := Option.bind_eq_some_iff.mp hcredit
  have hcovered := global_credits_covered oneMtuConfig (by decide) (by decide) (by decide) s hs
    0 false 40 1 ctx hget hsize hq
  exact ⟨s, ctx, hq, hcredit, hcovered.1⟩

end Isekai.Rdma
