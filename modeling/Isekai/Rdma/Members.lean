import Isekai.Rdma.Chain

/-!
# The members of the lists

What holds of every queue pair in a list of the scheduler: `Listed` is for conditions that its
transactions do not touch, `Guarded` for conditions that they do.
-/

namespace Isekai.Rdma

open Falcon (Time)
open Lib Function

lemma RdmaModel.createPacket_frame {c : RdmaConfig} {ctx ctx₁ : QpContext} {w : WorkType}
    {packet : Packet} (h : createPacket c ctx w = .ok (packet, ctx₁)) :
    ctx₁.xoff = ctx.xoff ∧ ctx₁.creditUsage = ctx.creditUsage ∧
      ctx₁.creditLimit = ctx.creditLimit ∧
      ctx₁.outboundReadRequests = ctx.outboundReadRequests ∧ ctx₁.nextOp = ctx.nextOp ∧
      (w = .request → ctx₁.inboundReadRequestQueue = ctx.inboundReadRequestQueue) ∧
      (w = .response → ctx₁.sendQueue = ctx.sendQueue ∧ ctx₁.ops = ctx.ops) := by
  cases w with
  | request =>
    obtain ⟨id, queue, op, -, -, -, -, -, -, rfl⟩ := QpContext.createRequestPacket_ok h
    obtain ⟨ops, rsnToOp, completionQueue, nextRsn, sendQueue, heq⟩ :=
      QpContext.recordRequest_eq ctx id op (QpContext.remainder c op)
    rw [heq]
    exact ⟨rfl, rfl, rfl, rfl, rfl, fun _ => rfl, by rintro ⟨⟩⟩
  | response =>
    simp only [createPacket] at h
    split at h
    · obtain ⟨request, queue, -, -, -, rfl⟩ := QpContext.createResponsePacket_ok h
      exact ⟨rfl, rfl, rfl, rfl, rfl, by rintro ⟨⟩, fun _ => ⟨rfl, rfl⟩⟩
    · cases h

section Lists

variable {c : RdmaConfig} {s s' : RdmaModel} {q q' : QpId} {w w' : WorkType}

lemma Pops.subset (h : Pops q w s s') (w' : WorkType) : s'.wqs w' ⊆ s.wqs w' := by
  obtain ⟨head, rest, hqueue, hwqs, -⟩ := h
  rw [hwqs]
  by_cases hw : w' = w
  · subst hw
    rw [update_self, hqueue]
    exact List.subset_cons_self head rest
  · rw [update_of_ne hw]
    exact List.Subset.refl _

lemma Turn.subset {ctx : QpContext} (h : Turn c q ctx s s') (w' : WorkType) :
    s'.wqs w' ⊆ s.wqs w' := by
  cases h with
  | limit hlimit hpops => exact hpops.subset w'
  | stays hlimit hcredits hxoff hwqs hset => rw [hwqs]; exact List.Subset.refl _
  | ends hlimit hpops => exact hpops.subset w'

lemma RdmaModel.setQp_self (s : RdmaModel) (q : QpId) (ctx : QpContext) :
    (s.setQp q ctx).qps q = some ctx :=
  update_self ..

lemma mem_pushWorkQueue :
    q' ∈ (s.pushWorkQueue q w).wqs w' ↔ q' ∈ s.wqs w' ∨ (q' = q ∧ w' = w) := by
  by_cases hw : w' = w
  · subst hw
    simp [RdmaModel.pushWorkQueue]
  · simp [RdmaModel.pushWorkQueue, hw]

end Lists

def QpHolds (q : QpId) (J : QpContext → Prop) (s : RdmaModel) : Prop :=
  ∀ ctx, s.qps q = some ctx → J ctx

namespace QpHolds

variable {c : RdmaConfig} {q : QpId} {J : QpContext → Prop} {s s' : RdmaModel} {l : Label}

lemma still (h : QpHolds q J s) (hstill : Still s s') (blank : ∀ ctx, ctx.Blank → J ctx)
    (calm : ∀ ctx ctx', J ctx → ctx.Calm ctx' → J ctx') : QpHolds q J s' := by
  intro ctx' hq'
  obtain ⟨-, hblank⟩ | ⟨ctx, hq, hcalm⟩ :=
    (hq' ▸ hstill.qps q : QpContext.Remains _ (some ctx')).to_some
  · exact blank ctx' hblank
  · exact calm ctx ctx' (h ctx hq) hcalm

lemma of_update {q' : QpId} {ctx ctx' : QpContext} (h : QpHolds q J s) (hq : s.qps q' = some ctx)
    (hqps : s'.qps = update s.qps q' (some ctx')) (hctx' : q' = q → J ctx → J ctx') :
    QpHolds q J s' := by
  intro ctx₀ hq₀
  rw [hqps] at hq₀
  by_cases hqq : q = q'
  · subst hqq
    rw [update_self, Option.some.injEq] at hq₀
    exact hq₀ ▸ hctx' rfl (h ctx hq)
  · rw [update_of_ne hqq] at hq₀
    exact h ctx₀ hq₀

/-- A condition on a context that its writes and its transactions keep. -/
theorem happens (h : QpHolds q J s) (hstep : Happens c s l s') (blank : ∀ ctx, ctx.Blank → J ctx)
    (calm : ∀ ctx ctx', J ctx → ctx.Calm ctx' → J ctx')
    (write : ∀ ctx (write : Write), s.qps q = some ctx ∨ write = .answered →
      write.MadeBy c s l q ctx → J ctx → J (write.apply ctx))
    (send : ∀ index randomRnr time now ctx packet ctx₁, l = .fire index randomRnr →
      s.pending[index]? = some (time, .sendTransaction q) → s.qps q = some ctx →
      RdmaModel.createPacket c ctx s.currentWorkType = .ok (packet, ctx₁) → J ctx →
      J (RdmaModel.chargeQp c now ctx₁ packet ((ctx.frontCredit c s.currentWorkType).getD 0))) :
    QpHolds q J s' := by
  have hwrites : ∀ {q' ctx} {w : Write} {s₁ : RdmaModel}, Still s s₁ → s₁.qps q' = some ctx →
      s.qps q' = some ctx ∨ w = .answered → w.MadeBy c s l q' ctx →
      QpHolds q J (s₁.setQp q' (w.apply ctx)) := by
    intro q' ctx w s₁ h₁ hq hq₀ hwrite
    refine (h.still h₁ blank calm).of_update hq rfl fun hqq hJ => ?_
    subst hqq
    exact write ctx w hq₀ hwrite hJ
  have hsame : ∀ {s₁ s₂ : RdmaModel}, QpHolds q J s₁ → s₂.qps = s₁.qps → QpHolds q J s₂ :=
    fun h₁ hqps ctx hq => h₁ ctx (hqps ▸ hq)
  cases hstep with
  | receives hreceives =>
    cases hreceives with
    | rests hstill => exact h.still hstill blank calm
    | @answers q' ctx _ _ _ h₁ hq hadds h₂ =>
      have hwrite : Write.answered.MadeBy c s l q' ctx := trivial
      exact (hsame (hwrites h₁ hq (.inr rfl) hwrite) hadds.frame.1).still h₂ blank calm
  | writes h₁ hqps hq hwrite hadds =>
    exact hsame (hwrites h₁ (hqps ▸ hq) (.inl hq) hwrite) hadds.frame.1
  | returns h₁ hqps hq hwrite hadds hrun =>
    exact hsame (hwrites h₁ (hqps ▸ hq) (.inl hq) hwrite) (hrun.frame.1.trans hadds.frame.1)
  | setsXoff h₁ hqps hrun => exact hsame h (hrun.frame.1.trans hqps)
  | adds hl hevent hcallback hadded => exact hsame h hadded.frame.1
  | runs hevent hruns => exact hsame h hruns.frame.1
  | @sends q' index randomRnr time _ hl hevent hsends =>
    obtain ⟨ctx, packet, ctx₁, hq, hpacket, hsent⟩ := hsends
    have hq : s.qps q' = some ctx := hq
    refine h.of_update hq hsent.qps fun hqq hJ => ?_
    subst hqq
    exact send index randomRnr time time ctx packet ctx₁ hl hevent hq hpacket hJ

end QpHolds

def Listed (P : WorkType → QpContext → Prop) (s : RdmaModel) : Prop :=
  ∀ w, ∀ q ∈ s.wqs w, ∃ ctx, s.qps q = some ctx ∧ P w ctx

namespace Listed

variable {c : RdmaConfig} {P : WorkType → QpContext → Prop} {s s' : RdmaModel} {l : Label}

lemma still (h : Listed P s) (hstill : Still s s')
    (calm : ∀ w ctx ctx', P w ctx → ctx.Calm ctx' → P w ctx') : Listed P s' := by
  intro w q hmem
  rw [hstill.wqs] at hmem
  obtain ⟨ctx, hq, hP⟩ := h w q hmem
  obtain ⟨ctx', hq', hcalm⟩ := (hq ▸ hstill.qps q : QpContext.Remains (some ctx) _).of_some
  exact ⟨ctx', hq', calm w ctx ctx' hP hcalm⟩

lemma setQp {q : QpId} {ctx ctx' : QpContext} (h : Listed P s) (hq : s.qps q = some ctx)
    (hctx' : ∀ w, q ∈ s.wqs w → P w ctx → P w ctx') : Listed P (s.setQp q ctx') := by
  intro w q' hmem
  obtain ⟨ctx₀, hq', hP⟩ := h w q' hmem
  by_cases hqq : q' = q
  · subst hqq
    cases hq.symm.trans hq'
    exact ⟨ctx', by simp [RdmaModel.setQp], hctx' w hmem hP⟩
  · exact ⟨ctx₀, by simpa [RdmaModel.setQp, hqq] using hq', hP⟩

lemma of_eq (h : Listed P s) (hqps : s'.qps = s.qps) (hwqs : s'.wqs = s.wqs) : Listed P s' := by
  intro w q hmem
  rw [hwqs] at hmem
  rw [hqps]
  exact h w q hmem

lemma runsIfIdle (h : Listed P s) (hrun : RunsIfIdle c s s') : Listed P s' :=
  h.of_eq hrun.frame.1 hrun.frame.2.1

lemma added {q : QpId} {w : WorkType} (h : Listed P s) (hadded : Added c q w s s')
    (push : ∀ w ctx, ctx.hasCredits c w = true → ctx.xoff w = false → P w ctx) : Listed P s' := by
  cases hadded with
  | skipped hskip => exact h
  | delayed delay => exact h
  | pushed hq hcredits hxoff hnew hrun =>
    refine runsIfIdle (fun w' q' hmem => ?_) hrun
    rcases mem_pushWorkQueue.mp hmem with hmem | ⟨rfl, rfl⟩
    · exact h w' q' hmem
    · exact ⟨_, hq, push _ _ hcredits hxoff⟩

/-- A condition that the tests of `AddQpToScheduleSet` imply and that transactions do not touch
holds of every member after a step, if the writes to the contexts of members keep it. -/
theorem happens (h : Listed P s) (hstep : Happens c s l s')
    (calm : ∀ w ctx ctx', P w ctx → ctx.Calm ctx' → P w ctx')
    (write : ∀ w q ctx (write : Write), q ∈ s.wqs w → write.MadeBy c s l q ctx → P w ctx →
      P w (write.apply ctx))
    (push : ∀ w ctx, ctx.hasCredits c w = true → ctx.xoff w = false → P w ctx)
    (send : ∀ w w' ctx packet ctx₁ now credit,
      RdmaModel.createPacket c ctx w = .ok (packet, ctx₁) → P w' ctx →
      P w' (RdmaModel.chargeQp c now ctx₁ packet credit)) : Listed P s' := by
  have hadds : ∀ {q ws} {s₁ s₂ : RdmaModel}, Listed P s₁ → Adds c q ws s₁ s₂ → Listed P s₂ :=
    fun h₁ hadds => hadds.invariant h₁ fun _ _ _ _ _ h₂ hadded => h₂.added hadded push
  have hwrites : ∀ {q ctx} {w : Write} {s₁ : RdmaModel}, Still s s₁ → s₁.qps q = some ctx →
      w.MadeBy c s l q ctx → Listed P (s₁.setQp q (w.apply ctx)) := by
    intro q ctx w s₁ h₁ hq hwrite
    exact (h.still h₁ calm).setQp hq fun w' hmem hP => write w' q ctx w (h₁.wqs ▸ hmem) hwrite hP
  cases hstep with
  | receives hreceives =>
    cases hreceives with
    | rests hstill => exact h.still hstill calm
    | @answers q ctx _ _ _ h₁ hq hadded h₂ =>
      have hwrite : Write.answered.MadeBy c s l q ctx := trivial
      exact (hadds (hwrites h₁ hq hwrite) hadded).still h₂ calm
  | writes h₁ hqps hq hwrite hadded => exact hadds (hwrites h₁ (hqps ▸ hq) hwrite) hadded
  | returns h₁ hqps hq hwrite hadded hrun =>
    have h₂ := hadds (hwrites h₁ (hqps ▸ hq) hwrite) hadded
    exact h₂.of_eq hrun.frame.1 hrun.frame.2.1
  | setsXoff h₁ hqps hrun => exact (h.still h₁ calm).runsIfIdle hrun
  | adds hl hevent hcallback hadded =>
    refine added ?_ hadded push
    exact h.of_eq rfl rfl
  | runs hevent hruns => exact h.of_eq hruns.frame.1 hruns.frame.2.1
  | sends hl hevent hsends =>
    rename_i q index randomRnr time
    obtain ⟨ctx, packet, ctx₁, hq, hpacket, hsent⟩ := hsends
    intro w q' hmem
    obtain ⟨ctx₀, hq', hP⟩ := h w q' (hsent.turn.subset w hmem)
    rw [hsent.qps]
    by_cases hqq : q' = q
    · subst hqq
      cases hq.symm.trans hq'
      exact ⟨_, update_self .., send _ w ctx packet ctx₁ _ _ hpacket hP⟩
    · exact ⟨ctx₀, by rw [update_of_ne hqq]; exact hq', hP⟩

end Listed

/-- The queue pair `q` is at most once in each list, it is then in the set of the list, and its
context meets the condition of the type. -/
structure Guarded (q : QpId) (P : WorkType → QpContext → Prop) (s : RdmaModel) : Prop where
  once : ∀ w, (s.wqs w).count q ≤ 1
  inSet : ∀ w, q ∈ s.wqs w → q ∈ s.qpSet w
  holds : ∀ w, q ∈ s.wqs w → ∃ ctx, s.qps q = some ctx ∧ P w ctx

/-- What a label must keep of `P` for the listed queue pairs. -/
structure Guarded.Rules (c : RdmaConfig) (q : QpId) (P : WorkType → QpContext → Prop)
    (s : RdmaModel)
    (l : Label) : Prop where
  calm : ∀ w ctx ctx', P w ctx → ctx.Calm ctx' → P w ctx'
  write : ∀ w ctx (write : Write), q ∈ s.wqs w → s.qps q = some ctx ∨ write = .answered →
    write.MadeBy c s l q ctx → P w ctx → P w (write.apply ctx)
  pushWrite : ∀ w ctx (write : Write), s.qps q = some ctx ∨ write = .answered →
    write.MadeBy c s l q ctx → w ∈ write.adds c ctx → (write.apply ctx).hasCredits c w = true →
    (write.apply ctx).xoff w = false → P w (write.apply ctx)
  pushEvent : ∀ w ctx index randomRnr time callback, l = .fire index randomRnr →
    s.pending[index]? = some (time, callback) →
    (callback = .addQpToScheduleSet q w ∨
      ∃ served, callback = .requeue q served ∧ w = s.currentWorkType) →
    s.qps q = some ctx → ctx.hasCredits c w = true → ctx.xoff w = false → P w ctx
  other : ∀ w ctx packet ctx₁ now, w ≠ s.currentWorkType →
    RdmaModel.createPacket c ctx s.currentWorkType = .ok (packet, ctx₁) →
    P s.currentWorkType ctx → P w ctx →
    P w (RdmaModel.chargeQp c now ctx₁ packet ((ctx.frontCredit c s.currentWorkType).getD 0))
  stays : ∀ ctx, ctx.hasCredits c s.currentWorkType = true → ctx.xoff s.currentWorkType = false →
    ctx.atOrdLimit c = false → P s.currentWorkType ctx
  limit : ∀ index randomRnr time ctx, l = .fire index randomRnr →
    s.pending[index]? = some (time, .sendTransaction q) → s.currentWorkType = .response →
    s.qps q = some ctx → ctx.atOrdLimit c = true →
    ¬P .request ctx ∧ ∀ packet ctx₁ now, P .response ctx →
      RdmaModel.createPacket c ctx .response = .ok (packet, ctx₁) →
      P .response (RdmaModel.chargeQp c now ctx₁ packet ((ctx.frontCredit c .response).getD 0))

namespace Guarded

variable {c : RdmaConfig} {q : QpId} {P : WorkType → QpContext → Prop} {s s' : RdmaModel}
  {l : Label}
  {q' : QpId} {w : WorkType}

variable (h : Guarded q P s)

include h

lemma of_eq (hqps : s'.qps = s.qps) (hwqs : s'.wqs = s.wqs) (hset : s'.qpSet = s.qpSet) :
    Guarded q P s' where
  once w := hwqs ▸ h.once w
  inSet w hmem := by
    rw [hwqs] at hmem
    rw [hset]
    exact h.inSet w hmem
  holds w hmem := by
    rw [hwqs] at hmem
    rw [hqps]
    exact h.holds w hmem

lemma still (hstill : Still s s') (calm : ∀ w ctx ctx', P w ctx → ctx.Calm ctx' → P w ctx') :
    Guarded q P s' where
  once w := hstill.wqs ▸ h.once w
  inSet w hmem := by
    rw [hstill.wqs] at hmem
    rw [hstill.qpSet]
    exact h.inSet w hmem
  holds w hmem := by
    rw [hstill.wqs] at hmem
    obtain ⟨ctx, hq, hP⟩ := h.holds w hmem
    obtain ⟨ctx', hq', hcalm⟩ := (hq ▸ hstill.qps q : QpContext.Remains (some ctx) _).of_some
    exact ⟨ctx', hq', calm w ctx ctx' hP hcalm⟩

lemma setQp {ctx ctx' : QpContext} (hq : s.qps q' = some ctx)
    (hctx' : q' = q → ∀ w, q ∈ s.wqs w → P w ctx → P w ctx') : Guarded q P (s.setQp q' ctx') where
  once := h.once
  inSet := h.inSet
  holds w hmem := by
    obtain ⟨ctx₀, hq₀, hP⟩ := h.holds w hmem
    by_cases hqq : q = q'
    · subst hqq
      cases hq.symm.trans hq₀
      exact ⟨ctx', by simp [RdmaModel.setQp], hctx' rfl w hmem hP⟩
    · exact ⟨ctx₀, by simpa [RdmaModel.setQp, hqq] using hq₀, hP⟩

lemma pushWorkQueue (hnew : q' ∉ s.qpSet w) (hctx : q' = q → ∃ ctx, s.qps q = some ctx ∧ P w ctx) :
    Guarded q P (s.pushWorkQueue q' w) where
  once w' := by
    by_cases hw : w' = w
    · subst hw
      simp only [RdmaModel.pushWorkQueue, update_self, List.count_append]
      by_cases hqq : q' = q
      · subst hqq
        have hnot : q' ∉ s.wqs w' := fun hmem => hnew (h.inSet w' hmem)
        rw [List.count_eq_zero_of_not_mem hnot]
        simp
      · simpa [List.count_singleton, hqq] using h.once w'
    · simpa [RdmaModel.pushWorkQueue, hw] using h.once w'
  inSet w' hmem := by
    rcases mem_pushWorkQueue.mp hmem with hmem | ⟨rfl, rfl⟩
    · have hset := h.inSet w' hmem
      by_cases hw : w' = w
      · subst hw
        simp [RdmaModel.pushWorkQueue, hset]
      · simpa [RdmaModel.pushWorkQueue, hw] using hset
    · simp [RdmaModel.pushWorkQueue]
  holds w' hmem := by
    rcases mem_pushWorkQueue.mp hmem with hmem | ⟨rfl, rfl⟩
    · exact h.holds w' hmem
    · exact hctx rfl

lemma added (hadded : Added c q' w s s')
    (push : q' = q → ∀ ctx, s.qps q = some ctx → ctx.hasCredits c w = true → ctx.xoff w = false →
      P w ctx) : Guarded q P s' := by
  cases hadded with
  | skipped hskip => exact h
  | delayed delay => exact ⟨h.once, h.inSet, h.holds⟩
  | pushed hq hcredits hxoff hnew hrun =>
    obtain ⟨hqps, hwqs, hset, -⟩ := hrun.frame
    refine (h.pushWorkQueue hnew fun hqq => ?_).of_eq hqps hwqs hset
    subst hqq
    exact ⟨_, hq, push rfl _ hq hcredits hxoff⟩

lemma pops (hpops : Pops q' w s s') (hgone : q' = q → q ∉ s.wqs w ∨ (s.wqs w).head? = some q) :
    (∀ w', (s'.wqs w').count q ≤ 1) ∧ (∀ w', q ∈ s'.wqs w' → q ∈ s'.qpSet w') ∧
      (q' = q → q ∉ s'.wqs w) ∧ ∀ w', q ∈ s'.wqs w' → q ∈ s.wqs w' := by
  have hsubset := fun w' => hpops.subset w' (a := q)
  obtain ⟨head, rest, hqueue, hwqs, hset⟩ := hpops
  have hnot : q' = q → q ∉ rest := by
    intro hqq hmem
    rcases hgone hqq with hnot | hhead
    · exact hnot (hqueue ▸ List.mem_cons_of_mem head hmem)
    · rw [hqueue, List.head?_cons, Option.some.injEq] at hhead
      have honce := h.once w
      rw [hqueue, hhead, List.count_cons_self] at honce
      have hpositive := List.count_pos_iff.mpr hmem
      omega
  have hgone' : q' = q → q ∉ s'.wqs w := by
    intro hqq
    rw [hwqs, update_self]
    exact hnot hqq
  refine ⟨fun w' => ?_, fun w' hmem => ?_, hgone', fun w' => hsubset w'⟩
  · rw [hwqs]
    by_cases hw : w' = w
    · subst hw
      rw [update_self]
      have honce := h.once w'
      rw [hqueue] at honce
      exact (List.count_le_count_cons).trans honce
    · rw [update_of_ne hw]
      exact h.once w'
  · have hmem' := h.inSet w' (hsubset w' hmem)
    rw [hset]
    by_cases hw : w' = w
    · subst hw
      rw [update_self]
      refine Finset.mem_erase.mpr ⟨fun hqq => ?_, hmem'⟩
      exact hgone' hqq.symm hmem
    · rw [update_of_ne hw]
      exact hmem'

lemma sends_other (hne : q' ≠ q) (hsends : Sends c q' s s') : Guarded q P s' := by
  obtain ⟨ctx, packet, ctx₁, -, -, hsent⟩ := hsends
  have hqps : s'.qps q = s.qps q := by
    rw [hsent.qps, update_of_ne (Ne.symm hne)]
  have hpops : ∀ w, Pops q' w s s' → Guarded q P s' := by
    intro w hpops
    obtain ⟨honce, hinSet, -, hsubset⟩ := h.pops hpops fun hqq => absurd hqq hne
    refine ⟨honce, hinSet, fun w' hmem => ?_⟩
    rw [hqps]
    exact h.holds w' (hsubset w' hmem)
  cases hsent.turn with
  | limit hlimit hpop => exact hpops _ hpop
  | ends hlimit hpop => exact hpops _ hpop
  | stays hlimit hcredits hxoff hwqs hset =>
    refine ⟨fun w => hwqs ▸ h.once w, fun w hmem => ?_, fun w hmem => ?_⟩
    · rw [hwqs] at hmem
      rw [hset]
      exact h.inSet w hmem
    · rw [hwqs] at hmem
      rw [hqps]
      exact h.holds w hmem

lemma sends_self (rules : Rules c q P s l) (hhead : (s.wqs s.currentWorkType).head? = some q)
    (hevent : ∃ index randomRnr time, l = .fire index randomRnr ∧
      s.pending[index]? = some (time, .sendTransaction q)) {time : Time}
    {pending : List (Time × Callback)} (hsends : Sends c q { s with now := time, pending } s') :
    Guarded q P s' := by
  obtain ⟨ctx, packet, ctx₁, hq, hpacket, hsent⟩ := hsends
  have hq : s.qps q = some ctx := hq
  have hpacket : RdmaModel.createPacket c ctx s.currentWorkType = .ok (packet, ctx₁) := hpacket
  have h₁ : Guarded q P { s with now := time, pending } := ⟨h.once, h.inSet, h.holds⟩
  have hholds : ∀ w, q ∈ s.wqs w → P w ctx := by
    intro w hmem
    obtain ⟨ctx', hq', hP⟩ := h.holds w hmem
    cases hq.symm.trans hq'
    exact hP
  have hserved : P s.currentWorkType ctx := hholds _ (List.mem_of_head? hhead)
  have hqps := congrFun hsent.qps q
  rw [update_self] at hqps
  have hother : ∀ w, w ≠ s.currentWorkType → q ∈ s.wqs w → P w (RdmaModel.chargeQp c time ctx₁
      packet ((ctx.frontCredit c s.currentWorkType).getD 0)) :=
    fun w hw hmem => rules.other w ctx packet ctx₁ time hw hpacket hserved (hholds w hmem)
  have hturn := hsent.turn
  cases hturn with
  | stays hlimit hcredits hxoff hwqs hset =>
    refine ⟨fun w => hwqs ▸ h.once w, fun w hmem => ?_, fun w hmem => ⟨_, hqps, ?_⟩⟩
    · rw [hwqs] at hmem
      rw [hset]
      exact h.inSet w hmem
    · rw [hwqs] at hmem
      by_cases hw : w = s.currentWorkType
      · subst hw
        exact rules.stays _ hcredits hxoff hlimit
      · exact hother w hw hmem
  | ends hlimit hpops =>
    obtain ⟨honce, hinSet, hgone, hsubset⟩ := h₁.pops hpops fun _ => .inr hhead
    refine ⟨honce, hinSet, fun w hmem => ⟨_, hqps, hother w ?_ (hsubset w hmem)⟩⟩
    rintro rfl
    exact hgone rfl hmem
  | limit hlimit hpops =>
    cases hw : s.currentWorkType with
    | request =>
      rw [hw] at hhead
      obtain ⟨honce, hinSet, hgone, hsubset⟩ := h₁.pops hpops fun _ => .inr hhead
      refine ⟨honce, hinSet, fun w hmem => ⟨_, hqps, hother w ?_ (hsubset w hmem)⟩⟩
      rw [hw]
      rintro rfl
      exact hgone rfl hmem
    | response =>
      obtain ⟨index, randomRnr, time', hl, hget⟩ := hevent
      rw [hw] at hpacket
      have hctx : ctx.atOrdLimit c = true := by
        rw [← hlimit]
        exact (RdmaModel.atOrdLimit_chargeQp_response _ _ hpacket).symm
      obtain ⟨hrequest, hresponse⟩ := rules.limit index randomRnr time' ctx hl hget hw hq hctx
      have hnot : q ∉ s.wqs .request := fun hmem => hrequest (hholds .request hmem)
      obtain ⟨honce, hinSet, hgone, hsubset⟩ := h₁.pops hpops fun _ => .inl hnot
      refine ⟨honce, hinSet, fun w hmem => ⟨_, hqps, ?_⟩⟩
      cases w with
      | request => exact absurd hmem (hgone rfl)
      | response =>
        change P .response (RdmaModel.chargeQp c time ctx₁ packet
          ((ctx.frontCredit c s.currentWorkType).getD 0))
        rw [hw]
        exact hresponse packet ctx₁ time (hholds _ (hsubset .response hmem)) hpacket

/-- A condition that follows the rules holds after the step, if the queue pair is in a list. -/
theorem happens {F : Finding} (hchained : Chained F s) (rules : Rules c q P s l)
    (hstep : Happens c s l s') : Guarded q P s' := by
  have hwrites : ∀ {q' ctx} {write : Write} {s₁ s₂ : RdmaModel}, Still s s₁ →
      s₁.qps q' = some ctx → (s.qps q' = some ctx ∨ write = .answered) →
      write.MadeBy c s l q' ctx →
      Adds c q' (write.adds c ctx) (s₁.setQp q' (write.apply ctx)) s₂ → Guarded q P s₂ := by
    intro q' ctx write s₁ s₂ h₁ hq hq₀ hwrite hadds
    have hset : Guarded q P (s₁.setQp q' (write.apply ctx)) := by
      refine (h.still h₁ rules.calm).setQp hq fun hqq w hmem hP => ?_
      subst hqq
      exact rules.write w ctx write (h₁.wqs ▸ hmem) hq₀ hwrite hP
    refine hadds.invariant hset fun w hw s₃ s₄ hqps h₃ hadded =>
      h₃.added hadded fun hqq ctx' hq' => ?_
    subst hqq
    rw [hqps, RdmaModel.setQp_self, Option.some.injEq] at hq'
    subst hq'
    exact rules.pushWrite w ctx write hq₀ hwrite hw
  cases hstep with
  | receives hreceives =>
    cases hreceives with
    | rests hstill => exact h.still hstill rules.calm
    | @answers q' ctx _ _ _ h₁ hq hadds h₂ =>
      have hwrite : Write.answered.MadeBy c s l q' ctx := trivial
      exact (hwrites h₁ hq (.inr rfl) hwrite hadds).still h₂ rules.calm
  | writes h₁ hqps hq hwrite hadds => exact hwrites h₁ (hqps ▸ hq) (.inl hq) hwrite hadds
  | returns h₁ hqps hq hwrite hadds hrun =>
    have h₂ := hwrites h₁ (hqps ▸ hq) (.inl hq) hwrite hadds
    exact h₂.of_eq hrun.frame.1 hrun.frame.2.1 hrun.frame.2.2.1
  | setsXoff h₁ hqps hrun =>
    exact (h.still h₁ rules.calm).of_eq hrun.frame.1 hrun.frame.2.1 hrun.frame.2.2.1
  | @adds q' w index randomRnr time callback _ hl hevent hcallback hadded =>
    have h₁ : Guarded q P { s with now := time, pending := s.pending.eraseIdx index } :=
      h.of_eq rfl rfl rfl
    refine h₁.added hadded fun hqq ctx hq => ?_
    subst hqq
    exact rules.pushEvent w ctx index randomRnr time callback hl hevent hcallback hq
  | runs hevent hruns => exact h.of_eq hruns.frame.1 hruns.frame.2.1 hruns.frame.2.2.1
  | @sends q' index randomRnr time _ hl hevent hsends =>
    have hhead := hchained.head (List.mem_of_getElem? hevent)
    by_cases hqq : q' = q
    · subst hqq
      exact h.sends_self rules hhead ⟨index, randomRnr, time, hl, hevent⟩ hsends
    · refine sends_other ?_ hqq hsends
      exact h.of_eq rfl rfl rfl

omit h

lemma initial (q : QpId) (P : WorkType → QpContext → Prop) (c : RdmaConfig) :
    Guarded q P (initial c) :=
  ⟨fun _ => Nat.zero_le _, fun _ hmem => absurd hmem List.not_mem_nil,
    fun _ hmem => absurd hmem List.not_mem_nil⟩

end Guarded

end Isekai.Rdma
