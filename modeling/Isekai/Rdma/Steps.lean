import Isekai.Rdma.Requests

/-!
# What a step of the RDMA model does

`Happens` lists what one step can do to the work scheduler and to the contexts it reads. The
invariants of the scheduler are proved by cases on it.
-/

namespace Isekai.Rdma

open Falcon (Time)
open Lib Function

def Callback.isChain : Callback → Bool
  | .runWorkScheduler | .sendTransaction _ => true
  | _ => false

def RdmaModel.chain (s : RdmaModel) : List (Time × Callback) :=
  s.pending.filter fun event => event.2.isChain

section Chain

variable {s s' : RdmaModel} {callback : Callback}

lemma RdmaModel.chain_schedule_of_not_chain {delay : Time} (h : callback.isChain = false) :
    (s.schedule delay callback).chain = s.chain := by
  simp [chain, schedule, List.filter_append, h]

lemma RdmaModel.chain_schedule_of_chain {delay : Time} (h : callback.isChain = true) :
    (s.schedule delay callback).chain = s.chain ++ [(s.now + delay, callback)] := by
  simp [chain, schedule, List.filter_append, h]

lemma Still.chain (h : Still s s') : s'.chain = s.chain := by
  have hfilter : ∀ s : RdmaModel, s.chain =
    (s.pending.filter fun event => event.2.isScheduling).filter
      fun event => event.2.isChain := by
    intro s
    rw [List.filter_filter, RdmaModel.chain]
    refine List.filter_congr fun event _ => ?_
    cases event.2 <;> rfl
  rw [hfilter, h.pending, ← hfilter]

end Chain

inductive Write where
  | posted (op : RdmaOp) (dest : QpId)
  | postedRecv (receiveQueue : List (OpId × RdmaOp))
  | inbound (request : InboundReadRequest)
  | answered
  | returned (credit : FalconCredit)
  | xoff (request response : Bool)
  | limit (creditLimit : FalconCredit)

namespace Write

def apply (ctx : QpContext) : Write → QpContext
  | .posted op dest =>
    { ctx with
      nextOp := ctx.nextOp + 1
      ops := update ctx.ops ctx.nextOp (some { op with destQpId := dest })
      sendQueue := ctx.sendQueue ++ [ctx.nextOp] }
  | .postedRecv receiveQueue => { ctx with nextOp := ctx.nextOp + 1, receiveQueue }
  | .inbound request =>
    { ctx with inboundReadRequestQueue := ctx.inboundReadRequestQueue ++ [request] }
  | .answered => { ctx with outboundReadRequests := ctx.outboundReadRequests - 1 }
  | .returned credit => { ctx with creditUsage := ctx.creditUsage - credit }
  | .xoff request response => { ctx with qpRequestXoff := request, qpResponseXoff := response }
  | .limit creditLimit => { ctx with creditLimit }

def adds (c : RdmaConfig) (ctx : QpContext) : Write → List WorkType
  | .posted _ _ => if ctx.sendQueue = [] then [.request] else []
  | .postedRecv _ => if ctx.sendQueue.length = 1 then [.request] else []
  | .inbound _ => if ctx.inboundReadRequestQueue = [] then [.response] else []
  | .answered =>
    if ctx.outboundReadRequests - 1 < c.outboundReadQueueDepth ∧
        ctx.frontOp.map (·.opcode) = some .read then [.request]
    else []
  | .limit creditLimit => if creditLimit ≤ ctx.creditLimit then [] else [.request, .response]
  | .returned _ | .xoff _ _ => [.request, .response]

/-- The step makes this write to the context of the queue pair. A read response may come with any
step that serves the receive pipeline. -/
def MadeBy (c : RdmaConfig) (s : RdmaModel) (l : Label) (q : QpId) (ctx : QpContext) :
    Write → Prop
  | .posted op _ => op.opcode ≠ .recv ∧
      ∃ index randomRnr time, l = .fire index randomRnr ∧
        s.pending[index]? = some (time, .postOp q op)
  | .postedRecv _ => ∃ index randomRnr time op, l = .fire index randomRnr ∧
      s.pending[index]? = some (time, .postOp q op) ∧ op.opcode = .recv
  | .inbound request => ∃ index randomRnr time, l = .fire index randomRnr ∧
      s.pending[index]? = some (time, .enqueueReadRequest q request)
  | .answered => True
  | .returned credit => credit ≤ ctx.creditUsage ∧
      ∃ time, l = .input time (.returnFalconCredit q credit)
  | .xoff request response => ∃ time, l = .input time (.backpressureXoff q request response)
  | .limit creditLimit => ∃ time requested,
      l = .input time (.backpressureDynamicCredit q requested) ∧
        creditLimit = RdmaModel.clampCredit c requested

end Write

/-- A run of the scheduler: it is put off, finds nothing to send, or looks up the queue pair at the
head of a list, with the tokens and the minimal credit for a transaction at hand. -/
inductive Runs (c : RdmaConfig) (s : RdmaModel) : RdmaModel → Prop
  | waits (time : Time) (bucket : Common.TokenBucket) : Runs c s
      { s with
        isIdle := false
        txTokenBucket := bucket
        pending := s.pending ++ [(time, .runWorkScheduler)] }
  | stops (bucket : Common.TokenBucket) :
      Runs c s { s with isIdle := true, txTokenBucket := bucket }
  | looksUp {q : QpId} {rest : List QpId} {w : WorkType} (time : Time) (bytes ops : WorkType → Int)
      (bucket : Common.TokenBucket) (hsend : s.canSend c w = true) (hqueue : s.wqs w = q :: rest)
      (htokens : (c.mtu + rdmaHeader).toNat ≤ bucket.availableTokens)
      (hquanta : s.Refills c w bytes ops) : Runs c s
      { s with
        isIdle := false
        txTokenBucket := bucket
        currentWorkType := w
        remainingQuantaBytes := bytes
        remainingQuantaOps := ops
        pending := s.pending ++ [(time, .sendTransaction q)] }

def RunsIfIdle (c : RdmaConfig) (s s' : RdmaModel) : Prop :=
  (s.isIdle = false ∧ s' = s) ∨ (s.isIdle = true ∧ Runs c s s')

inductive Added (c : RdmaConfig) (q : QpId) (w : WorkType) (s : RdmaModel) : RdmaModel → Prop
  | skipped (hskip : ∀ ctx, s.qps q = some ctx → ctx.hasCredits c w = true → ctx.xoff w = false →
      q ∈ s.qpSet w) : Added c q w s s
  | delayed (delay : Time) : Added c q w s (s.schedule delay (.addQpToScheduleSet q w))
  | pushed {ctx : QpContext} {s' : RdmaModel} (hq : s.qps q = some ctx)
      (hcredits : ctx.hasCredits c w = true) (hxoff : ctx.xoff w = false) (hnew : q ∉ s.qpSet w)
      (hrun : RunsIfIdle c (s.pushWorkQueue q w) s') : Added c q w s s'

def Adds (c : RdmaConfig) (q : QpId) : List WorkType → RdmaModel → RdmaModel → Prop
  | [], s, s' => s' = s
  | w :: ws, s, s' => ∃ s₁, Added c q w s s₁ ∧ Adds c q ws s₁ s'

def Pops (q : QpId) (w : WorkType) (s s' : RdmaModel) : Prop :=
  ∃ head rest, s.wqs w = head :: rest ∧ s'.wqs = update s.wqs w rest ∧
    s'.qpSet = update s.qpSet w ((s.qpSet w).erase q)

/-- How a transaction leaves the lists and the quanta of its type: `ctx` is the context of its queue
pair after it. -/
inductive Turn (c : RdmaConfig) (q : QpId) (ctx : QpContext) (s s' : RdmaModel) : Prop
  | limit (hlimit : ctx.atOrdLimit c = true) (hpops : Pops q .request s s')
      (hspent : s'.Spent s.currentWorkType)
  | stays (hlimit : ctx.atOrdLimit c = false) (hcredits : ctx.hasCredits c s.currentWorkType = true)
      (hxoff : ctx.xoff s.currentWorkType = false) (hwqs : s'.wqs = s.wqs)
      (hset : s'.qpSet = s.qpSet) (hbytes : 0 < s'.remainingQuantaBytes s.currentWorkType)
      (hops : 0 < s'.remainingQuantaOps s.currentWorkType)
  | ends (hlimit : ctx.atOrdLimit c = false) (hpops : Pops q s.currentWorkType s s')
      (hspent : s'.Spent s.currentWorkType)
      (hback : ctx.hasCredits c s.currentWorkType = true → ctx.xoff s.currentWorkType = false →
        ∃ time, (time, .requeue q s.currentWorkType) ∈ s'.pending)

/-- The end of a transaction, after it was charged. -/
structure Continues (c : RdmaConfig) (q : QpId) (ctx : QpContext) (s s' : RdmaModel) : Prop where
  isIdle : s'.isIdle = s.isIdle
  qps : s'.qps = s.qps
  credits : s'.remainingGlobalCredits = s.remainingGlobalCredits
  pending : s.pending ⊆ s'.pending
  chain : s'.chain = s.chain ++ [(s.now + c.chipCycleTime, .runWorkScheduler)]
  log : s'.log = s.log
  quanta : ∀ w, (s'.remainingQuantaBytes w = s.remainingQuantaBytes w ∧
    s'.remainingQuantaOps w = s.remainingQuantaOps w) ∨ (w = s.currentWorkType ∧ s'.Spent w)
  turn : Turn c q ctx s s'

/-- A transaction that was sent: `ctx` and `ctx'` are the contexts of its queue pair before and
after it. -/
structure Sent (c : RdmaConfig) (q : QpId) (ctx ctx' : QpContext) (packet : Packet)
    (s s' : RdmaModel) : Prop where
  isIdle : s'.isIdle = s.isIdle
  qps : s'.qps = update s.qps q (some ctx')
  credits : s'.remainingGlobalCredits =
    s.remainingGlobalCredits - (ctx.frontCredit c s.currentWorkType).getD 0
  pending : s.pending ⊆ s'.pending
  chain : s'.chain = s.chain ++ [(s.now + c.chipCycleTime, .runWorkScheduler)]
  log : s'.log = .transaction packet :: s.log
  ops : s'.remainingQuantaOps s.currentWorkType = s.remainingQuantaOps s.currentWorkType - 1 ∨
    s'.Spent s.currentWorkType
  otherQuanta : ∀ w, w ≠ s.currentWorkType →
    s'.remainingQuantaBytes w = s.remainingQuantaBytes w ∧
      s'.remainingQuantaOps w = s.remainingQuantaOps w
  turn : Turn c q ctx' s s'

def Sends (c : RdmaConfig) (q : QpId) (s s' : RdmaModel) : Prop :=
  ∃ ctx packet ctx₁, s.qps q = some ctx ∧
    RdmaModel.createPacket c ctx s.currentWorkType = .ok (packet, ctx₁) ∧
    Sent c q ctx (RdmaModel.chargeQp c s.now ctx₁ packet
      ((ctx.frontCredit c s.currentWorkType).getD 0)) packet s s'

inductive Receives (c : RdmaConfig) (s : RdmaModel) : RdmaModel → Prop
  | rests {s' : RdmaModel} (h : Still s s') : Receives c s s'
  | answers {q : QpId} {ctx : QpContext} {s₁ s₂ s' : RdmaModel} (h₁ : Still s s₁)
      (hq : s₁.qps q = some ctx)
      (hadds : Adds c q (Write.answered.adds c ctx) (s₁.setQp q (Write.answered.apply ctx)) s₂)
      (h₂ : Still s₂ s') : Receives c s s'

inductive Happens (c : RdmaConfig) (s : RdmaModel) (l : Label) : RdmaModel → Prop
  | receives {s' : RdmaModel} (h : Receives c s s') : Happens c s l s'
  | writes {q : QpId} {ctx : QpContext} {write : Write} {s₁ s' : RdmaModel} (h₁ : Still s s₁)
      (hqps : s₁.qps = s.qps) (hq : s.qps q = some ctx) (hwrite : write.MadeBy c s l q ctx)
      (hadds : Adds c q (write.adds c ctx) (s₁.setQp q (write.apply ctx)) s') : Happens c s l s'
  | returns {q : QpId} {ctx : QpContext} {credit : FalconCredit} {s₁ s₂ s' : RdmaModel}
      (h₁ : Still s s₁) (hqps : s₁.qps = s.qps) (hq : s.qps q = some ctx)
      (hwrite : (Write.returned credit).MadeBy c s l q ctx)
      (hadds : Adds c q [.request, .response]
        (s₁.setQp q ((Write.returned credit).apply ctx)) s₂)
      (hrun : RunsIfIdle c { s₂ with remainingGlobalCredits := s₂.remainingGlobalCredits + credit }
        s') : Happens c s l s'
  | setsXoff {s₁ s' : RdmaModel} (h₁ : Still s s₁) (hqps : s₁.qps = s.qps)
      (hrun : RunsIfIdle c s₁ s') : Happens c s l s'
  | adds {q : QpId} {w : WorkType} {index : Nat} {randomRnr : Bool} {time : Time}
      {callback : Callback} {s' : RdmaModel} (hl : l = .fire index randomRnr)
      (hevent : s.pending[index]? = some (time, callback))
      (hcallback : callback = .addQpToScheduleSet q w ∨
        ∃ served, callback = .requeue q served ∧ w = s.currentWorkType)
      (hadded : Added c q w { s with now := time, pending := s.pending.eraseIdx index } s') :
      Happens c s l s'
  | runs {index : Nat} {time : Time} {s' : RdmaModel}
      (hevent : s.pending[index]? = some (time, .runWorkScheduler))
      (hruns : Runs c { s with now := time, pending := s.pending.eraseIdx index } s') :
      Happens c s l s'
  | sends {q : QpId} {index : Nat} {randomRnr : Bool} {time : Time} {s' : RdmaModel}
      (hl : l = .fire index randomRnr)
      (hevent : s.pending[index]? = some (time, .sendTransaction q))
      (hsends : Sends c q { s with now := time, pending := s.pending.eraseIdx index } s') :
      Happens c s l s'

/-- The queue pair of which the step sends a transaction. -/
def RdmaModel.sentBy (s : RdmaModel) : Label → Option QpId
  | .fire index _ =>
    match s.pending[index]? with
    | some (_, .sendTransaction q) => some q
    | _ => none
  | .input _ _ => none

section Receives

variable {c : RdmaConfig} {s s' s'' : RdmaModel}

lemma Receives.after (h : Still s s') (h' : Receives c s' s'') : Receives c s s'' := by
  cases h' with
  | rests h' => exact .rests (h.trans h')
  | answers h₁ hq hadds h₂ => exact .answers (h.trans h₁) hq hadds h₂

lemma Receives.before (h : Receives c s s') (h' : Still s' s'') : Receives c s s'' := by
  cases h with
  | rests h => exact .rests (h.trans h')
  | answers h₁ hq hadds h₂ => exact .answers h₁ hq hadds (h₂.trans h')

end Receives

namespace RdmaModel

variable {c : RdmaConfig} {s s' : RdmaModel} {q : QpId} {w : WorkType} {E : Fatal → Prop}

lemma wqs_ne_nil_of_canSend (h : s.canSend c w = true) : s.wqs w ≠ [] := by
  intro hnil
  cases w <;> simp [canSend, hnil] at h

lemma canSend_workTypeToServe (h : (!s.canSend c .request && !s.canSend c .response) ≠ true) :
    s.canSend c (s.workTypeToServe c) = true := by
  unfold workTypeToServe
  cases hrequest : s.canSend c .request <;> cases hresponse : s.canSend c .response <;>
    cases s.currentWorkType <;> simp_all

lemma selectWorkQueue_runs {bucket : Common.TokenBucket}
    (htokens : (c.mtu + rdmaHeader).toNat ≤ bucket.availableTokens) :
    Ensures E (Runs c s)
      (({ s with isIdle := false, txTokenBucket := bucket } : RdmaModel).selectWorkQueue c) := by
  refine .ite (fun _ => .stops bucket) fun hsend => ?_
  have hserve := canSend_workTypeToServe hsend
  have hwqs := wqs_ne_nil_of_canSend hserve
  generalize workTypeToServe c _ = serve at hserve hwqs ⊢
  obtain ⟨bytes, ops, hreplenish, hquanta⟩ := replenishQuanta_eq
    { s with isIdle := false, txTokenBucket := bucket, currentWorkType := serve } c
  rw [hreplenish]
  dsimp only
  split
  · rename_i q rest hqueue
    exact .looksUp _ bytes ops bucket hserve hqueue htokens hquanta
  · exact absurd ‹_› hwqs

lemma runWorkScheduler_runs : Ensures E (Runs c s) (s.runWorkScheduler c) := by
  refine .ite (fun _ => .waits _ _) fun _ => ?_
  refine .ite (fun htokens => ?_) fun _ => .waits _ _
  exact selectWorkQueue_runs (of_decide_eq_true htokens)

lemma runIfIdle_runs : Ensures E (RunsIfIdle c s) (s.runIfIdle c) :=
  .ite (fun hidle => runWorkScheduler_runs.imp fun _ hruns => .inr ⟨hidle, hruns⟩)
    fun hidle => .inl ⟨Bool.eq_false_iff.mpr hidle, rfl⟩

section Errors

variable (hE : ∀ e, Ordinary e → E e) {randomRnr : Bool}
include hE

lemma addQpToScheduleSet_added : Ensures E (Added c q w s) (s.addQpToScheduleSet c q w) := by
  refine (getQp_spec (hE _ (by decide))).bind fun ctx hq => ?_
  refine .ite (fun _ => .delayed _) fun _ => .ite (fun hskip => .skipped ?_) fun hadd => ?_
  · intro ctx' hq' hcredits hxoff
    cases hq.symm.trans hq'
    simpa [hcredits, hxoff] using hskip
  simp only [Bool.or_eq_true, Bool.not_eq_true', decide_eq_true_eq, not_or,
    Bool.not_eq_false, Bool.not_eq_true] at hadd
  obtain ⟨⟨hcredits, hxoff⟩, hnew⟩ := hadd
  exact runIfIdle_runs.imp fun s' hrun => .pushed hq hcredits hxoff hnew hrun

lemma addQpToScheduleSet_adds : Ensures E (Adds c q [w] s) (s.addQpToScheduleSet c q w) :=
  (addQpToScheduleSet_added hE).imp fun s' hadded => ⟨s', hadded, rfl⟩

lemma notify_added : Ensures E (Added c q w s) (s.notify c q w) := by
  refine (getQp_spec (hE _ (by decide))).bind fun ctx hq =>
    .ite (fun _ => addQpToScheduleSet_added hE) fun hskip => .skipped ?_
  intro ctx' hq' hcredits hxoff
  cases hq.symm.trans hq'
  simp [hcredits, hxoff] at hskip

lemma notify_adds : Ensures E (Adds c q [w] s) (s.notify c q w) :=
  (notify_added hE).imp fun s' hadded => ⟨s', hadded, rfl⟩

lemma notify_if {p : Prop} [Decidable p] {ws : List WorkType} (hws : ws = if p then [w] else []) :
    Ensures E (Adds c q ws s) (if p then s.notify c q w else pure s) := by
  subst hws
  refine .ite (fun hp => ?_) fun hp => ?_
  · rw [if_pos hp]
    exact notify_adds hE
  · rw [if_neg hp]
    rfl

lemma notify_both_adds : Ensures E (Adds c q [.request, .response] s)
    (s.notify c q .request >>= fun s => s.notify c q .response) :=
  (notify_added hE).bind fun s₁ h₁ => (notify_adds hE).imp fun _ h₂ => ⟨s₁, h₁, h₂⟩

omit hE

lemma quanta_endTurn (hbytes : s'.remainingQuantaBytes =
      update s.remainingQuantaBytes s.currentWorkType 0)
    (hops : s'.remainingQuantaOps = update s.remainingQuantaOps s.currentWorkType 0)
    (w : WorkType) : (s'.remainingQuantaBytes w = s.remainingQuantaBytes w ∧
      s'.remainingQuantaOps w = s.remainingQuantaOps w) ∨ (w = s.currentWorkType ∧ s'.Spent w) := by
  by_cases hw : w = s.currentWorkType
  · subst hw
    exact .inr ⟨rfl, by rw [hbytes, update_self], by rw [hops, update_self]⟩
  · rw [hbytes, hops, update_of_ne hw, update_of_ne hw]
    exact .inl ⟨rfl, rfl⟩

lemma popWorkQueue_pops (hempty : s.wqs w = [] → E .popFrontOfEmptyList) :
    Ensures E (fun s' => ∃ wqs set, s' = { s with wqs := wqs, qpSet := set } ∧ Pops q w s s')
      (s.popWorkQueue q w) := by
  unfold popWorkQueue
  split
  · exact hempty ‹_›
  · exact ⟨_, _, rfl, _, _, ‹_›, rfl, rfl⟩

lemma scheduleNext_continues {ctx : QpContext}
    (hempty : s.wqs (if ctx.atOrdLimit c then .request else s.currentWorkType) = [] →
      E .popFrontOfEmptyList) :
    Ensures E (Continues c q ctx s) (s.scheduleNext c q ctx) := by
  have hchain : ∀ s₁ : RdmaModel, s₁.now = s.now → s₁.chain = s.chain →
      (s₁.schedule c.chipCycleTime .runWorkScheduler).chain =
        s.chain ++ [(s.now + c.chipCycleTime, .runWorkScheduler)] := by
    intro s₁ hnow hs₁
    rw [chain_schedule_of_chain rfl, hnow, hs₁]
  refine .ite (fun hlimit => ?_) fun hlimit => .ite (fun hstay => ?_) fun _ => ?_
  · rw [if_pos hlimit] at hempty
    refine (popWorkQueue_pops hempty).bind fun s₁ ⟨wqs, set, hs₁, hpops⟩ => ?_
    subst hs₁
    obtain ⟨w', hend⟩ := ({ s with wqs := wqs, qpSet := set }.schedule
      c.chipCycleTime .runWorkScheduler).endTurn_eq c
    rw [hend]
    exact ⟨rfl, rfl, rfl, List.subset_append_left _ _,
      hchain { s with wqs := wqs, qpSet := set } rfl rfl, rfl, quanta_endTurn rfl rfl,
      .limit hlimit hpops ⟨update_self .., update_self ..⟩⟩
  · obtain ⟨hbytes, hops, hcredits, hxoff⟩ := hstay
    exact ⟨rfl, rfl, rfl, List.subset_append_left _ _, hchain s rfl rfl, rfl,
      fun _ => .inl ⟨rfl, rfl⟩, .stays (Bool.eq_false_iff.mpr hlimit) hcredits
        (by simpa using hxoff)
        rfl rfl hbytes hops⟩
  · rw [if_neg hlimit] at hempty
    refine (popWorkQueue_pops hempty).bind fun s₁ ⟨wqs, set, hs₁, hpops⟩ => ?_
    subst hs₁
    -- the requeue is no run of the scheduler, so the chain does not see it
    obtain ⟨extra, hs₂, hnone, hback⟩ : ∃ extra : List (Time × Callback),
        (if ctx.hasCredits c s.currentWorkType = true ∧ (!ctx.xoff s.currentWorkType) = true then
          schedule { s with wqs := wqs, qpSet := set } (ctx.nextScheduleTime - s.now)
            (.requeue q s.currentWorkType)
        else { s with wqs := wqs, qpSet := set }) =
          { s with wqs := wqs, qpSet := set, pending := s.pending ++ extra } ∧
        extra.filter (fun event => event.2.isChain) = [] ∧
        (ctx.hasCredits c s.currentWorkType = true → ctx.xoff s.currentWorkType = false →
          ∃ time, (time, .requeue q s.currentWorkType) ∈ extra) := by
      split
      · exact ⟨[_], rfl, rfl, fun _ _ => ⟨_, List.mem_singleton_self _⟩⟩
      · rename_i hskip
        refine ⟨[], by rw [List.append_nil], rfl, fun hcredits hxoff => ?_⟩
        exact absurd ⟨hcredits, by rw [hxoff]; rfl⟩ hskip
    dsimp only
    rw [hs₂]
    obtain ⟨w', hend⟩ := endTurn_eq
      { s with wqs := wqs, qpSet := set, pending := s.pending ++ extra } c
    rw [hend]
    refine ⟨rfl, rfl, rfl, fun event hmem => ?_, hchain _ rfl ?_, rfl, quanta_endTurn rfl rfl,
      .ends (Bool.eq_false_iff.mpr hlimit) hpops ⟨update_self .., update_self ..⟩
        fun hcredits hxoff => ?_⟩
    · exact List.mem_append_left _ (List.mem_append_left _ hmem)
    · exact (List.filter_append _ _).trans (by rw [hnone, List.append_nil]; rfl)
    · obtain ⟨time, hmem⟩ := hback hcredits hxoff
      exact ⟨time, List.mem_append_left _ (List.mem_append_right _ hmem)⟩

include hE

lemma sendTransaction_sends
    (hwork : ∀ ctx, s.qps q = some ctx → ¬ctx.hasWork s.currentWorkType →
      E .emptySendQueue ∧ E .emptyInboundReadRequestQueue)
    (htokens : ∀ ctx packet ctx₁, s.qps q = some ctx →
      createPacket c ctx s.currentWorkType = .ok (packet, ctx₁) →
      s.txTokenBucket.availableTokens < (tokensConsumed packet).toNat → E .insufficientTokens)
    (hempty : ∀ ctx packet ctx₁ now credit, s.qps q = some ctx →
      createPacket c ctx s.currentWorkType = .ok (packet, ctx₁) →
      s.wqs (if (chargeQp c now ctx₁ packet credit).atOrdLimit c then .request
        else s.currentWorkType) = [] → E .popFrontOfEmptyList) :
    Ensures E (Sends c q s) (s.sendTransaction c q) := by
  refine (getQp_spec (hE _ (by decide))).bind fun ctx hq => ?_
  refine (createPacket_spec hE (hwork ctx hq)).bind fun ⟨packet, ctx₁⟩ hpacket => ?_
  dsimp only
  have hempty := hempty ctx packet ctx₁ s.now
    ((ctx.frontCredit c s.currentWorkType).getD 0) hq hpacket
  generalize hcharge : chargeQp c s.now ctx₁ packet
    ((ctx.frontCredit c s.currentWorkType).getD 0) = ctx' at hempty ⊢
  unfold chargeScheduler
  cases hbucket : s.txTokenBucket.requestTokens (tokensConsumed packet).toNat with
  | none =>
    refine htokens ctx packet ctx₁ hq hpacket ?_
    simpa [Common.TokenBucket.requestTokens] using hbucket
  | some bucket =>
    refine Ensures.imp (scheduleNext_continues hempty) fun s' h => ⟨ctx, packet, ctx₁, hq, hpacket,
      hcharge ▸ ⟨h.isIdle, h.qps, h.credits, fun event hmem => ?_, h.chain.trans ?_, h.log, ?_, ?_,
        ?_⟩⟩
    · exact h.pending (List.mem_append_left _ hmem)
    · exact congrArg (· ++ _) (chain_schedule_of_not_chain (s := s) rfl)
    · exact (h.quanta s.currentWorkType).imp (fun hsame => hsame.2.trans (update_self ..)) And.right
    · intro w hw
      obtain ⟨hbytes, hops⟩ := (h.quanta w).resolve_right fun hspent => hw hspent.1
      exact ⟨hbytes.trans (update_of_ne hw ..), hops.trans (update_of_ne hw ..)⟩
    · cases h.turn with
      | limit hlimit hpops hspent => exact .limit hlimit hpops hspent
      | stays hlimit hcredits hxoff hwqs hset hbytes hops =>
        exact .stays hlimit hcredits hxoff hwqs hset hbytes hops
      | ends hlimit hpops hspent hback => exact .ends hlimit hpops hspent hback

lemma of_still {x : Except Fatal RdmaModel} (hx : Ensures Ordinary (Still s) x) :
    Ensures E (Still s) x :=
  hx.mono hE fun _ hstill => hstill

lemma processIncomingReadResponse_receives {ctx : QpContext} (hq : s.qps q = some ctx)
    {rsn : Rsn} : Ensures E (Receives c s) (s.processIncomingReadResponse c q ctx rsn) := by
  refine (finishRequest_spec (hE _ (by decide)) (hE _ (by decide))).bind
    fun ⟨ctx', finished⟩ hfinish => ?_
  have hstill : Still s (s.setQp q ctx') :=
    .setQp_calm hq (QpContext.calm_finishRequest hfinish)
  cases finished with
  | none =>
    refine .rests (hstill.trans ?_)
    exact .of_eq rfl rfl rfl rfl rfl rfl rfl rfl rfl rfl
  | some id =>
    -- the finished request is erased first, and the read then counted as answered
    let s₁ : RdmaModel :=
      { s.setQp q ctx' with
        log := .readResponse q rsn :: s.log
        pcieCompletions := s.pcieCompletions ++ [(q, id)] }
    have h₁ : Still s s₁ := hstill.trans (.of_eq rfl rfl rfl rfl rfl rfl rfl rfl rfl rfl)
    have hq₁ : s₁.qps q = some ctx' := update_self ..
    have hset : ({ ({ s with log := .readResponse q rsn :: s.log } : RdmaModel).setQp q
          { ctx' with outboundReadRequests := ctx'.outboundReadRequests - 1 } with
        pcieCompletions := s.pcieCompletions ++ [(q, id)] } : RdmaModel) =
        s₁.setQp q (Write.answered.apply ctx') := by
      simp only [s₁, setQp, Write.apply, update_idem]
    dsimp only
    rw [hset]
    refine .ite (fun hbelow => ?_) fun habove => ?_
    · have hadds : Write.answered.adds c ctx' = [.request] := if_pos hbelow
      exact (addQpToScheduleSet_adds hE).imp fun s₂ h₂ => .answers h₁ hq₁ (hadds ▸ h₂) (.refl s₂)
    · have hadds : Write.answered.adds c ctx' = [] := if_neg habove
      exact .answers h₁ hq₁ (hadds ▸ rfl) (.refl _)

lemma processWork_receives {work : PipelineWork} :
    Ensures E (Receives c s) (s.processWork c work randomRnr) := by
  cases work with
  | completion q rsn =>
    exact (getQp_spec (hE _ (by decide))).bind fun ctx hq =>
      (of_still hE (processCompletion_still hq)).imp fun _ => .rests
  | transaction packet =>
    refine (getQp_spec (hE _ (by decide))).bind fun ctx hq => ?_
    cases packet.opcode with
    | invalid => exact hE _ (by decide)
    | ack => exact hE _ (by decide)
    | sendOnly => exact (of_still hE (processIncomingSend_still hq)).imp fun _ => .rests
    | writeOnly => exact (of_still hE (processIncomingWrite_still hq)).imp fun _ => .rests
    | readRequest => exact (of_still hE (processIncomingReadRequest_still hq)).imp fun _ => .rests
    | readResponseOnly => exact processIncomingReadResponse_receives hE hq

lemma pipelineDequeue_receives : Ensures E (Receives c s) (s.pipelineDequeue c randomRnr) := by
  unfold pipelineDequeue
  split
  · exact .rests (.of_eq rfl rfl rfl rfl rfl rfl rfl rfl rfl rfl)
  · rename_i work rest _
    refine .ite (fun _ => .rests (.schedule rfl)) fun _ => ?_
    have h₁ : Still s { s with pipeline := rest, pipelineLastRunTime := some s.now } :=
      .of_eq rfl rfl rfl rfl rfl rfl rfl rfl rfl rfl
    exact (processWork_receives hE).bind fun s' h' =>
      (Receives.after h₁ h').before (.schedule rfl)

lemma enterPipeline_receives {work : PipelineWork} :
    Ensures E (Receives c s) (s.enterPipeline c work randomRnr) := by
  refine (getQp_spec (hE _ (by decide))).bind fun _ _ => .ite (fun _ => ?_) fun _ => ?_
  · exact .rests (.of_eq rfl rfl rfl rfl rfl rfl rfl rfl rfl rfl)
  · have h₁ : Still s { s with pipeline := s.pipeline ++ [work], pipelineActive := true } :=
      .of_eq rfl rfl rfl rfl rfl rfl rfl rfl rfl rfl
    exact (pipelineDequeue_receives hE).imp fun s' h' => .after h₁ h'

lemma handleInput_happens (time : Time) (input : Input) :
    Ensures E (Happens c s (.input time input))
      (({ s with now := time } : RdmaModel).handleInput c input) := by
  have htick : Still s { s with now := time } := .of_eq rfl rfl rfl rfl rfl rfl rfl rfl rfl rfl
  have hrests : ∀ {x : Except Fatal RdmaModel},
      Ensures Ordinary (Still { s with now := time }) x →
      Ensures E (Happens c s (.input time input)) x := fun hx =>
    (of_still hE hx).imp fun _ h => .receives (.rests (htick.trans h))
  cases input with
  | createRcQp localQpId remoteQpId scid initialCredit rcMode => exact hrests createRcQp_still
  | performOp qpId opcode sgl isInline destQpId => exact hrests performOp_still
  | handleRxTransaction packet => exact .receives (.rests (htick.trans (.schedule rfl)))
  | handleCompletion qpId rsn => exact .receives (.rests (htick.trans (.schedule rfl)))
  | returnFalconCredit q credit =>
    refine (getQp_spec (hE _ (by decide))).bind fun ctx hq => ?_
    refine .ite (fun hle => ?_) fun _ => .fail (hE _ (by decide))
    refine (notify_added hE).bind fun s₁ h₁ => (notify_adds hE).bind fun s₂ h₂ => ?_
    exact runIfIdle_runs.imp fun s' hrun =>
      .returns htick rfl hq ⟨hle, time, rfl⟩ ⟨s₁, h₁, h₂⟩ hrun
  | setXoff requestXoff globalXoff =>
    have h₁ : Still s { s with now := time, requestXoff, globalXoff } :=
      .of_eq rfl rfl rfl rfl rfl rfl rfl rfl rfl rfl
    exact runIfIdle_runs.imp fun s' hrun => .setsXoff h₁ rfl hrun
  | backpressureXoff q request response =>
    refine (getQp_spec (hE _ (by decide))).bind fun ctx hq => ?_
    have hwrite : (Write.xoff request response).MadeBy c s
      (.input time (.backpressureXoff q request response)) q ctx := ⟨time, rfl⟩
    exact (notify_both_adds hE).imp fun s' hadds => .writes htick rfl hq hwrite hadds
  | backpressureDynamicCredit q creditLimit =>
    refine (getQp_spec (hE _ (by decide))).bind fun ctx hq => ?_
    have hwrite : (Write.limit (clampCredit c creditLimit)).MadeBy c s
      (.input time (.backpressureDynamicCredit q creditLimit)) q ctx := ⟨time, _, rfl, rfl⟩
    refine .ite (fun hle => ?_) fun hgt => ?_
    · have hadds : (Write.limit (clampCredit c creditLimit)).adds c ctx = [] := if_pos hle
      exact .writes htick rfl hq hwrite (hadds ▸ rfl)
    · have hadds : (Write.limit (clampCredit c creditLimit)).adds c ctx = [.request, .response] :=
        if_neg hgt
      exact (notify_both_adds hE).imp fun s' h => .writes htick rfl hq hwrite (hadds ▸ h)
  | pcieIssue index =>
    unfold handleInput
    dsimp only
    split
    · have h₁ : Still s { s with now := time, pcieIssues := s.pcieIssues.eraseIdx index } :=
        .of_eq rfl rfl rfl rfl rfl rfl rfl rfl rfl rfl
      exact .receives (.rests (h₁.trans issue_still))
    · exact .receives (.rests htick)
  | pcieComplete index =>
    unfold handleInput
    dsimp only
    split
    · exact .receives (.rests (.of_eq rfl rfl rfl rfl rfl rfl rfl rfl rfl rfl))
    · exact .receives (.rests htick)

lemma runCallback_happens {index : Nat} {time : Time} {callback : Callback}
    (hget : s.pending[index]? = some (time, callback)) (hchain : callback.isChain = false) :
    Ensures E (Happens c s (.fire index randomRnr))
      (({ s with now := time, pending := s.pending.eraseIdx index } : RdmaModel).runCallback c
        randomRnr callback) := by
  have hfire : callback.isScheduling = false →
      Still s { s with now := time, pending := s.pending.eraseIdx index } := .eraseIdx hget
  cases callback with
  | runWorkScheduler => cases hchain
  | sendTransaction q => cases hchain
  | addQpToScheduleSet q w =>
    exact (addQpToScheduleSet_added hE).imp fun s' hadded => .adds rfl hget (.inl rfl) hadded
  | requeue q served =>
    exact (addQpToScheduleSet_added hE).imp fun s' hadded =>
      .adds rfl hget (.inr ⟨served, rfl, rfl⟩) hadded
  | initiateTransaction packet =>
    exact .receives (.rests ((hfire rfl).trans (.of_eq rfl rfl rfl rfl rfl rfl rfl rfl rfl rfl)))
  | postOp q op =>
    refine (getQp_spec (hE _ (by decide))).bind fun ctx hq => ?_
    refine (enqueueOp_spec (hE _ (by decide))).bind fun ctx' hctx' => ?_
    obtain ⟨recv, hrecv⟩ | ⟨dest, hrecv⟩ := hctx'
    · let queue := ctx.receiveQueue ++ [(ctx.nextOp, recv)]
      have hwrite : (Write.postedRecv queue).MadeBy c s (.fire index randomRnr) q ctx :=
        ⟨index, randomRnr, time, op, rfl, hget, hrecv⟩
      exact (notify_if hE rfl).imp fun s' h => .writes (hfire rfl) rfl hq hwrite h
    · have hwrite : (Write.posted op dest).MadeBy c s (.fire index randomRnr) q ctx :=
        ⟨hrecv, index, randomRnr, time, rfl, hget⟩
      have hadds : (Write.posted op dest).adds c ctx =
          if (ctx.sendQueue ++ [ctx.nextOp]).length = 1 then [.request]
            else [] := by simp [Write.adds]
      exact (notify_if hE hadds).imp fun s' h => .writes (hfire rfl) rfl hq hwrite h
  | enterPipeline work =>
    exact (enterPipeline_receives hE).imp fun s' h' => .receives (.after (hfire rfl) h')
  | pipelineDequeue =>
    exact (pipelineDequeue_receives hE).imp fun s' h' => .receives (.after (hfire rfl) h')
  | ackTransaction scid rsn syndrome recv =>
    exact .receives (.rests ((hfire rfl).trans (.of_eq rfl rfl rfl rfl rfl rfl rfl rfl rfl rfl)))
  | ackReadRequest q request =>
    exact (of_still hE ackReadRequest_still).imp fun s' h' =>
      .receives (.rests ((hfire rfl).trans h'))
  | enqueueReadRequest q request =>
    refine (getQp_spec (hE _ (by decide))).bind fun ctx hq => ?_
    have hwrite : (Write.inbound request).MadeBy c s (.fire index randomRnr) q ctx :=
      ⟨index, randomRnr, time, rfl, hget⟩
    have hadds : (Write.inbound request).adds c ctx =
        if (ctx.inboundReadRequestQueue ++ [request]).length = 1 then [.response] else [] := by
      simp [Write.adds]
    exact (notify_if hE hadds).imp fun s' h => .writes (hfire rfl) rfl hq hwrite h

/-- What a step does. -/
theorem next_happens {l : Label} (hallowed : s.allowed l)
    (hsends : ∀ index randomRnr time q, l = .fire index randomRnr →
      s.pending[index]? = some (time, .sendTransaction q) →
      Ensures E (Sends c q { s with now := time, pending := s.pending.eraseIdx index })
        (({ s with now := time, pending := s.pending.eraseIdx index } : RdmaModel).sendTransaction
          c q)) :
    Ensures E (Happens c s l) (s.next c l) := by
  cases l with
  | input time input => exact handleInput_happens hE time input
  | fire index randomRnr =>
    obtain ⟨⟨time, callback⟩, hevent, -⟩ := hallowed
    have hget : s.pending[index]? = some (time, callback) := hevent
    simp only [RdmaModel.next, hget]
    cases hchain : callback.isChain with
    | false => exact runCallback_happens hE hget hchain
    | true =>
      cases callback with
      | runWorkScheduler => exact runWorkScheduler_runs.imp fun s' hruns => .runs hget hruns
      | sendTransaction q =>
        exact (hsends index randomRnr time q rfl hget).imp fun s' hsent => .sends rfl hget hsent
      | _ => cases hchain

end Errors

lemma sendTransaction_sends_of_ok (h : s.sendTransaction c q = .ok s') : Sends c q s s' :=
  (sendTransaction_sends (E := fun _ => True) (fun _ _ => trivial) (fun _ _ _ => ⟨trivial, trivial⟩)
    (fun _ _ _ _ _ _ => trivial) fun _ _ _ _ _ _ _ _ => trivial).of_ok h

/-- What a step does that returns. -/
theorem happens_of_next {l : Label} (hallowed : s.allowed l) (hnext : s.next c l = .ok s') :
    Happens c s l s' :=
  (next_happens (E := fun _ => True) (fun _ _ => trivial) hallowed fun _ _ _ _ _ _ =>
    .of_forall (fun _ h => sendTransaction_sends_of_ok h) fun _ _ => trivial).of_ok hnext

lemma sends_of_next {index : Nat} {randomRnr : Bool} {time : Time}
    (hget : s.pending[index]? = some (time, .sendTransaction q))
    (hnext : s.next c (.fire index randomRnr) = .ok s') :
    Sends c q { s with now := time, pending := s.pending.eraseIdx index } s' := by
  simp only [RdmaModel.next, hget] at hnext
  exact sendTransaction_sends_of_ok hnext

end RdmaModel

section Frames

variable {c : RdmaConfig} {s s' s'' : RdmaModel} {q : QpId} {w : WorkType} {ws : List WorkType}

lemma Runs.frame (h : Runs c s s') : s'.qps = s.qps ∧ s'.wqs = s.wqs ∧ s'.qpSet = s.qpSet ∧
    s'.remainingGlobalCredits = s.remainingGlobalCredits := by
  cases h <;> exact ⟨rfl, rfl, rfl, rfl⟩

lemma RunsIfIdle.frame (h : RunsIfIdle c s s') : s'.qps = s.qps ∧ s'.wqs = s.wqs ∧
    s'.qpSet = s.qpSet ∧ s'.remainingGlobalCredits = s.remainingGlobalCredits := by
  obtain ⟨-, rfl⟩ | ⟨-, hruns⟩ := h
  · exact ⟨rfl, rfl, rfl, rfl⟩
  · exact hruns.frame

lemma Added.frame (h : Added c q w s s') : s'.qps = s.qps ∧
    s'.remainingGlobalCredits = s.remainingGlobalCredits := by
  cases h with
  | skipped => exact ⟨rfl, rfl⟩
  | delayed delay => exact ⟨rfl, rfl⟩
  | pushed hq hcredits hxoff hnew hrun =>
    obtain ⟨hqps, -, -, hcredits⟩ := hrun.frame
    exact ⟨hqps, hcredits⟩

lemma Adds.invariant {I : RdmaModel → Prop} (h : Adds c q ws s s') (hs : I s)
    (step : ∀ w ∈ ws, ∀ s₁ s₂, s₁.qps = s.qps → I s₁ → Added c q w s₁ s₂ → I s₂) : I s' := by
  induction ws generalizing s with
  | nil =>
    cases h
    exact hs
  | cons w ws ih =>
    obtain ⟨s₁, hadded, hadds⟩ := h
    refine ih hadds (step w List.mem_cons_self s s₁ rfl hs hadded) fun w' hw' s₂ s₃ hqps => ?_
    exact step w' (List.mem_cons_of_mem w hw') s₂ s₃ (hqps.trans hadded.frame.1)

lemma Adds.frame (h : Adds c q ws s s') : s'.qps = s.qps ∧
    s'.remainingGlobalCredits = s.remainingGlobalCredits :=
  h.invariant (I := fun s' => s'.qps = s.qps ∧
    s'.remainingGlobalCredits = s.remainingGlobalCredits) ⟨rfl, rfl⟩
    fun _ _ _ _ _ h₁ hadded => ⟨hadded.frame.1.trans h₁.1, hadded.frame.2.trans h₁.2⟩

/-- Queue pairs may have been added at the ends of the lists, and quanta that were used up may have
been refilled. -/
structure Grown (c : RdmaConfig) (s s' : RdmaModel) : Prop where
  lists : ∀ w, ∃ new, s'.wqs w = s.wqs w ++ new ∧ s'.qpSet w = s.qpSet w ∪ new.toFinset
  quanta : ∀ w, (s'.remainingQuantaBytes w = s.remainingQuantaBytes w ∧
      s'.remainingQuantaOps w = s.remainingQuantaOps w) ∨
    (s.Spent w ∧ s'.remainingQuantaBytes w = c.workSchedulerQuanta ∧
      s'.remainingQuantaOps w = maxRdmaOpsPerQuanta)

lemma Grown.of_eq (hwqs : s'.wqs = s.wqs) (hset : s'.qpSet = s.qpSet)
    (hbytes : s'.remainingQuantaBytes = s.remainingQuantaBytes)
    (hops : s'.remainingQuantaOps = s.remainingQuantaOps) : Grown c s s' where
  lists w := ⟨[], by simp [hwqs], by simp [hset]⟩
  quanta w := .inl ⟨congrFun hbytes w, congrFun hops w⟩

lemma Grown.trans (h : Grown c s s') (h' : Grown c s' s'') : Grown c s s'' where
  lists w := by
    obtain ⟨new, hwqs, hset⟩ := h.lists w
    obtain ⟨new', hwqs', hset'⟩ := h'.lists w
    refine ⟨new ++ new', by rw [hwqs', hwqs, List.append_assoc], ?_⟩
    rw [hset', hset, List.toFinset_append, Finset.union_assoc]
  quanta w := by
    obtain ⟨hbytes, hops⟩ | ⟨hspent, hbytes, hops⟩ := h.quanta w
    · simpa only [RdmaModel.Spent, hbytes, hops] using h'.quanta w
    · obtain ⟨hbytes', hops'⟩ | ⟨hspent', -⟩ := h'.quanta w
      · exact .inr ⟨hspent, hbytes'.trans hbytes, hops'.trans hops⟩
      · exact absurd (hops.symm.trans hspent'.2) (by decide)

lemma Still.grown (h : Still s s') : Grown c s s' := .of_eq h.wqs h.qpSet h.quantaBytes h.quantaOps

lemma Runs.grown (h : Runs c s s') : Grown c s s' := by
  cases h with
  | waits time bucket => exact .of_eq rfl rfl rfl rfl
  | stops bucket => exact .of_eq rfl rfl rfl rfl
  | @looksUp q rest w time bytes ops bucket hsend hqueue htokens hquanta =>
    refine ⟨fun w' => ⟨[], by simp, by simp⟩, fun w' => ?_⟩
    obtain ⟨hspent, rfl, rfl⟩ | ⟨-, rfl, rfl⟩ := hquanta
    · by_cases hw : w' = w
      · subst hw
        exact .inr ⟨hspent, update_self .., update_self ..⟩
      · exact .inl ⟨update_of_ne hw .., update_of_ne hw ..⟩
    · exact .inl ⟨rfl, rfl⟩

lemma RunsIfIdle.grown (h : RunsIfIdle c s s') : Grown c s s' := by
  obtain ⟨-, rfl⟩ | ⟨-, hruns⟩ := h
  · exact .of_eq rfl rfl rfl rfl
  · exact hruns.grown

lemma Added.grown (h : Added c q w s s') : Grown c s s' := by
  cases h with
  | skipped hskip => exact .of_eq rfl rfl rfl rfl
  | delayed delay => exact .of_eq rfl rfl rfl rfl
  | pushed hq hcredits hxoff hnew hrun =>
    have hpush : Grown c s (s.pushWorkQueue q w) := by
      refine ⟨fun w' => ?_, fun _ => .inl ⟨rfl, rfl⟩⟩
      by_cases hw : w' = w
      · subst hw
        exact ⟨[q], update_self .., by simp [RdmaModel.pushWorkQueue, Finset.union_comm]⟩
      · exact ⟨[], by simp [RdmaModel.pushWorkQueue, hw], by simp [RdmaModel.pushWorkQueue, hw]⟩
    exact hpush.trans hrun.grown

lemma Happens.grown {l : Label} (h : Happens c s l s') (hnone : s.sentBy l = none) :
    Grown c s s' := by
  have hadds : ∀ {q ws ctx} {s₁ s₂ : RdmaModel}, Still s s₁ → Adds c q ws (s₁.setQp q ctx) s₂ →
      Grown c s s₂ := fun h₁ hadds =>
    hadds.invariant (h₁.grown.trans (.of_eq rfl rfl rfl rfl)) fun _ _ _ _ _ h₂ hadded =>
      h₂.trans hadded.grown
  cases h with
  | receives hreceives =>
    cases hreceives with
    | rests hstill => exact hstill.grown
    | answers h₁ hq hadded h₂ => exact (hadds h₁ hadded).trans h₂.grown
  | writes h₁ hqps hq hwrite hadded => exact hadds h₁ hadded
  | returns h₁ hqps hq hwrite hadded hrun =>
    exact (hadds h₁ hadded).trans ⟨hrun.grown.lists, hrun.grown.quanta⟩
  | setsXoff h₁ hqps hrun => exact h₁.grown.trans hrun.grown
  | adds hl hevent hcallback hadded => exact ⟨hadded.grown.lists, hadded.grown.quanta⟩
  | runs hevent hruns => exact ⟨hruns.grown.lists, hruns.grown.quanta⟩
  | sends hl hevent hsends => simp [hl, RdmaModel.sentBy, hevent] at hnone

/-- A step sends a transaction, or it only adds to the lists and refills quanta. -/
theorem RdmaModel.sends_or_grown {l : Label} (hallowed : s.allowed l)
    (hnext : s.next c l = .ok s') :
    (∃ q index randomRnr time, s.sentBy l = some q ∧ l = .fire index randomRnr ∧
      s.pending[index]? = some (time, .sendTransaction q) ∧
      Sends c q { s with now := time, pending := s.pending.eraseIdx index } s') ∨
    (s.sentBy l = none ∧ Grown c s s') := by
  cases hsent : s.sentBy l with
  | none => exact .inr ⟨rfl, (happens_of_next hallowed hnext).grown hsent⟩
  | some q =>
    left
    cases l with
    | input time input => cases hsent
    | fire index randomRnr =>
      simp only [sentBy] at hsent
      split at hsent
      · rename_i time q' hget
        cases hsent
        exact ⟨q, index, randomRnr, time, rfl, rfl, hget, sends_of_next hget hnext⟩
      · cases hsent

end Frames

end Isekai.Rdma
