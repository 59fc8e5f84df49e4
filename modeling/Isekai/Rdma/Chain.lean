import Isekai.Rdma.Steps

/-!
# The chain of runs and lookups

At most one run of the scheduler or lookup of a queue pair is pending, and what a run found still
holds when the transaction is sent.
-/

namespace Isekai.Rdma

open Falcon (Time)
open Lib RdmaModel

/-- What a run finds out about the rate limiter and the global credits for the type that it
serves. -/
abbrev Finding := WorkType → Common.TokenBucket → FalconCredit → Prop

/-- A run looks up a queue pair only if it finds this. -/
def Finding.Found (c : RdmaConfig) (P : Finding) : Prop :=
  ∀ (s : RdmaModel) (w : WorkType) (bucket : Common.TokenBucket), s.canSend c w = true →
    (c.mtu + rdmaHeader).toNat ≤ bucket.availableTokens → P w bucket s.remainingGlobalCredits

/-- One scheduler event is pending, or the scheduler is idle. -/
structure Chained (P : Finding) (s : RdmaModel) : Prop where
  idle : s.isIdle = true → s.chain = []
  busy : s.isIdle = false → ∃ event, s.chain = [event]
  serves : ∀ time q, (time, .sendTransaction q) ∈ s.chain →
    (s.wqs s.currentWorkType).head? = some q ∧ ¬s.Spent s.currentWorkType ∧
      P s.currentWorkType s.txTokenBucket s.remainingGlobalCredits

namespace Chained

variable {c : RdmaConfig} {P : Finding} {s s' : RdmaModel} {q : QpId} {w : WorkType}

lemma of_singleton (event : Time × Callback) (hidle : s.isIdle = false) (hchain : s.chain = [event])
    (hserves : ∀ q, event.2 = .sendTransaction q → (s.wqs s.currentWorkType).head? = some q ∧
      ¬s.Spent s.currentWorkType ∧ P s.currentWorkType s.txTokenBucket s.remainingGlobalCredits) :
    Chained P s where
  idle hidle' := by
    rw [hidle] at hidle'
    cases hidle'
  busy _ := ⟨event, hchain⟩
  serves time q hmem := by
    rw [hchain, List.mem_singleton] at hmem
    exact hserves q (by rw [← hmem])

lemma still (h : Chained P s) (hstill : Still s s') : Chained P s' where
  idle hidle := by
    rw [hstill.isIdle] at hidle
    rw [hstill.chain, h.idle hidle]
  busy hbusy := by
    rw [hstill.isIdle] at hbusy
    rw [hstill.chain]
    exact h.busy hbusy
  serves time q hmem := by
    rw [hstill.chain] at hmem
    rw [hstill.wqs, hstill.currentWorkType, hstill.bucket, hstill.credits, RdmaModel.Spent,
      hstill.quantaBytes, hstill.quantaOps]
    exact h.serves time q hmem

lemma pushWorkQueue (h : Chained P s) : Chained P (s.pushWorkQueue q w) where
  idle := h.idle
  busy := h.busy
  serves time q' hmem := by
    obtain ⟨hhead, hP⟩ := h.serves time q' hmem
    refine ⟨?_, hP⟩
    by_cases hw : s.currentWorkType = w
    · subst hw
      simp [RdmaModel.pushWorkQueue, List.head?_append, hhead]
    · simpa [RdmaModel.pushWorkQueue, hw] using hhead

lemma of_runs (hruns : Runs c s s') (hfound : P.Found c) (hchain : s.chain = []) :
    Chained P s' := by
  have hgrows : ∀ event : Time × Callback, event.2.isChain = true →
      (s.pending ++ [event]).filter (fun event => event.2.isChain) = [event] := by
    intro event hevent
    rw [List.filter_append, show s.pending.filter _ = [] from hchain]
    simp [hevent]
  cases hruns with
  | waits time bucket => exact of_singleton (time, .runWorkScheduler) rfl (hgrows _ rfl) nofun
  | stops bucket =>
    refine ⟨fun _ => hchain, nofun, fun time q hmem => ?_⟩
    have hmem : (time, Callback.sendTransaction q) ∈ s.chain := hmem
    rw [hchain] at hmem
    cases hmem
  | @looksUp q rest w time bytes ops bucket hsend hqueue htokens hquanta =>
    refine of_singleton (time, .sendTransaction q) rfl (hgrows _ rfl) fun q' hq' => ?_
    cases hq'
    exact ⟨congrArg List.head? hqueue, hquanta.not_spent, hfound s w bucket hsend htokens⟩

lemma runsIfIdle (h : Chained P s) (hfound : P.Found c) (hruns : RunsIfIdle c s s') :
    Chained P s' := by
  obtain ⟨-, rfl⟩ | ⟨hidle, hruns⟩ := hruns
  · exact h
  · exact of_runs hruns hfound (h.idle hidle)

lemma added (h : Chained P s) (hfound : P.Found c) (hadded : Added c q w s s') : Chained P s' := by
  cases hadded with
  | skipped hskip => exact h
  | delayed delay =>
    have hchain : (s.schedule delay (.addQpToScheduleSet q w)).chain = s.chain :=
      chain_schedule_of_not_chain rfl
    refine ⟨fun hidle => hchain.trans (h.idle hidle), fun hbusy => hchain ▸ h.busy hbusy, ?_⟩
    rw [hchain]
    exact h.serves
  | pushed hq hcredits hxoff hnew hrun => exact h.pushWorkQueue.runsIfIdle hfound hrun

lemma adds {ws : List WorkType} (h : Chained P s) (hfound : P.Found c) (hadds : Adds c q ws s s') :
    Chained P s' :=
  hadds.invariant h fun _ _ _ _ _ h₁ hadded => h₁.added hfound hadded

lemma setQp (h : Chained P s) {ctx : QpContext} : Chained P (s.setQp q ctx) :=
  ⟨h.idle, h.busy, h.serves⟩

lemma of_sends (hsends : Sends c q s s') (hidle : s.isIdle = false) (hchain : s.chain = []) :
    Chained P s' := by
  obtain ⟨ctx, packet, ctx₁, -, -, hsent⟩ := hsends
  refine of_singleton (s.now + c.chipCycleTime, .runWorkScheduler) (hsent.isIdle.trans hidle) ?_
    nofun
  rw [hsent.chain, hchain, List.nil_append]

lemma chain_eraseIdx (h : Chained P s) {index : Nat} {time : Time} {callback : Callback}
    (hchain : callback.isChain = true) (hevent : s.pending[index]? = some (time, callback)) :
    s.isIdle = false ∧ (s.pending.eraseIdx index).filter (fun event => event.2.isChain) = [] := by
  obtain ⟨before, after, hpending, herase⟩ := eraseIdx_perm hevent
  have hfilter : s.chain = before.filter (fun event => event.2.isChain) ++
      (time, callback) :: after.filter (fun event => event.2.isChain) := by
    simp [chain, hpending, List.filter_append, hchain]
  have hbusy : s.isIdle = false := by
    by_contra hidle
    rw [h.idle (Bool.eq_true_of_not_eq_false hidle)] at hfilter
    simp at hfilter
  refine ⟨hbusy, ?_⟩
  obtain ⟨event, hone⟩ := h.busy hbusy
  have hlength := congrArg List.length (hfilter.symm.trans hone)
  simp only [List.length_append, List.length_cons, List.length_nil] at hlength
  rw [herase, List.filter_append, List.append_eq_nil_iff]
  exact ⟨List.length_eq_zero_iff.mp (by omega), List.length_eq_zero_iff.mp (by omega)⟩

/-- Every step keeps the chain, if what a run finds is not lost when credits are returned. -/
theorem happens (h : Chained P s) (hfound : P.Found c) {l : Label} (hstep : Happens c s l s')
    (hreturn : ∀ time q credit, l = .input time (.returnFalconCredit q credit) →
      ∀ w bucket, P w bucket s.remainingGlobalCredits →
        P w bucket (s.remainingGlobalCredits + credit)) : Chained P s' := by
  cases hstep with
  | receives hreceives =>
    cases hreceives with
    | rests hstill => exact h.still hstill
    | answers h₁ hq hadds h₂ => exact (((h.still h₁).setQp).adds hfound hadds).still h₂
  | writes h₁ hqps hq hwrite hadds => exact ((h.still h₁).setQp).adds hfound hadds
  | returns h₁ hqps hq hwrite hadds hrun =>
    rename_i q ctx credit s₁ s₂
    have h₂ : Chained P s₂ := ((h.still h₁).setQp).adds hfound hadds
    have hcredits : s₂.remainingGlobalCredits = s.remainingGlobalCredits :=
      hadds.frame.2.trans h₁.credits
    obtain ⟨-, time, hl⟩ := hwrite
    have hreturned : Chained P
        { s₂ with remainingGlobalCredits := s₂.remainingGlobalCredits + credit } := by
      refine ⟨h₂.idle, h₂.busy, fun time' q' hmem => ?_⟩
      obtain ⟨hhead, hspent, hP⟩ := h₂.serves time' q' hmem
      rw [hcredits] at hP ⊢
      exact ⟨hhead, hspent, hreturn time q credit hl _ _ hP⟩
    exact hreturned.runsIfIdle hfound hrun
  | setsXoff h₁ hqps hrun => exact (h.still h₁).runsIfIdle hfound hrun
  | adds hl hevent hcallback hadded =>
    refine added ?_ hfound hadded
    obtain ⟨before, after, hpending, herase⟩ := eraseIdx_perm hevent
    have hchain : (before ++ after).filter (fun event => event.2.isChain) = s.chain := by
      obtain rfl | ⟨served, rfl, -⟩ := hcallback <;>
        simp [chain, hpending, List.filter_append, Callback.isChain]
    rw [herase]
    refine ⟨fun hidle => hchain.trans (h.idle hidle), fun hbusy => ?_,
      fun time q hmem => h.serves time q (hchain ▸ hmem)⟩
    obtain ⟨event, hone⟩ := h.busy hbusy
    exact ⟨event, hchain.trans hone⟩
  | runs hevent hruns => exact of_runs hruns hfound (h.chain_eraseIdx rfl hevent).2
  | sends hl hevent hsends =>
    obtain ⟨hidle, hchain⟩ := h.chain_eraseIdx rfl hevent
    exact of_sends hsends hidle hchain

lemma initial (P : Finding) (c : RdmaConfig) : Chained P (initial c) :=
  ⟨fun _ => rfl, nofun, nofun⟩

end Chained

section Reachable

variable {c : RdmaConfig} {C : RdmaModel → Label → Prop} {s : RdmaModel}

lemma chained_of_reachable (h : (system c).Reachable C s) : Chained (fun _ _ _ => True) s :=
  h.invariant (E := fun _ => True) (fun _ hs => hs ▸ .initial _ c) fun _ _ hs hallowed _ =>
    .of_forall (fun _ hnext => hs.happens (fun _ _ _ _ _ => trivial)
      (happens_of_next hallowed hnext) fun _ _ _ _ _ _ _ => trivial) fun _ _ => trivial

lemma Chained.head {P : Finding} (h : Chained P s) {time : Time} {q : QpId}
    (hmem : (time, .sendTransaction q) ∈ s.pending) :
    (s.wqs s.currentWorkType).head? = some q :=
  (h.serves time q (List.mem_filter.mpr ⟨hmem, rfl⟩)).1

end Reachable

end Isekai.Rdma
