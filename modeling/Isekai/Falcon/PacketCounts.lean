import Isekai.Falcon.ConnectionScheduler

/-!
# The counts of the packet types

In every run the count of a packet type is the number of its packets that wait in the queues of all
connections, except for solicited data that waits for its grant.
-/

namespace Isekai.Falcon

open Lib Function

namespace SchedulerConnection

variable {c c' : SchedulerConnection} {rsn : Rsn} {queue : PacketTypeQueue} {work : WorkId}
  {tr : TransactionMetadata} {pm : PacketMetadata} {rest : List WorkId} {type : PacketType}
  {stage : TransactionStage}

def dataEligible (c : SchedulerConnection) (rsn : Rsn) : Option Bool :=
  (c.transactions rsn).bind fun tr => (tr.packets .pushSolicitedData).map (·.isTransmissionEligible)

lemma isWaitingForGrant_iff : c.isWaitingForGrant work = true ↔
    c.ordered = true ∧ work.type = .pushSolicitedData ∧ c.dataEligible work.rsn = some false := by
  obtain ⟨rsn, type⟩ := work
  unfold isWaitingForGrant getPacketMetadata getTransaction dataEligible
  by_cases htype : type = .pushSolicitedData
  · subst htype
    cases htr : c.transactions rsn with
    | none => simp [throw, throwThe, MonadExceptOf.throw, bind, Except.bind]
    | some tr =>
      cases hpm : tr.packets .pushSolicitedData with
      | none =>
        simp [hpm, TransactionMetadata.getPacketMetadata, throw, throwThe, MonadExceptOf.throw,
          bind, Except.bind, pure, Except.pure]
      | some pm =>
        simp [hpm, TransactionMetadata.getPacketMetadata, bind, Except.bind, pure, Except.pure]
  · simp [htype]

lemma isWaitingForGrant_of_type (h : work.type ≠ .pushSolicitedData) :
    c.isWaitingForGrant work = false :=
  Bool.eq_false_of_not_eq_true fun hw => h (isWaitingForGrant_iff.mp hw).2.1

def counted (c : SchedulerConnection) (queue : PacketTypeQueue) : Nat :=
  (c.queues queue).countP fun work => !c.isWaitingForGrant work

lemma counted_enqueue (c : SchedulerConnection) (queue : PacketTypeQueue) (work : WorkId)
    (q : PacketTypeQueue) : (c.enqueue queue work).counted q =
      c.counted q + if q = queue ∧ c.isWaitingForGrant work = false then 1 else 0 := by
  have hsame : (c.enqueue queue work).isWaitingForGrant = c.isWaitingForGrant := rfl
  unfold counted
  rw [hsame]
  by_cases hq : q = queue
  · subst hq
    simp [enqueue]
  · simp [enqueue, hq]

lemma counted_pop (h : c.queues queue = work :: rest) (q : PacketTypeQueue) :
    c.counted q =
      (c.pop queue).counted q + if q = queue ∧ c.isWaitingForGrant work = false then 1 else 0 := by
  have hsame : (c.pop queue).isWaitingForGrant = c.isWaitingForGrant := rfl
  unfold counted
  rw [hsame]
  by_cases hq : q = queue
  · subst hq
    simp [pop, h, List.countP_cons]
  · simp [pop, hq]

lemma counted_congr (hordered : c'.ordered = c.ordered) (hqueues : c'.queues = c.queues)
    (heligible : c.ordered = true → ∀ q rsn, ⟨rsn, .pushSolicitedData⟩ ∈ c.queues q →
      c'.dataEligible rsn = c.dataEligible rsn) (q : PacketTypeQueue) :
    c'.counted q = c.counted q := by
  unfold counted
  rw [hqueues]
  refine List.countP_congr fun work hwork => ?_
  have hiff : c'.isWaitingForGrant work = true ↔ c.isWaitingForGrant work = true := by
    rw [isWaitingForGrant_iff, isWaitingForGrant_iff, hordered]
    refine and_congr_right fun ho => and_congr_right fun htype => ?_
    rw [heligible ho q work.rsn (by rw [← htype]; exact hwork)]
  rw [Bool.eq_iff_iff.mpr hiff]

/-- Where solicited data may stand: the state of its transaction, how often it is queued, whether it
was released and how many grants for it are at hand. -/
def DataPhase (state : Option TransactionState) (queued : Nat) (eligible : Option Bool)
    (grants : Nat) : Prop :=
  match state with
  | some .pushSolicitedReqUlpRx | some .pushReqNtwkTx =>
    queued = 1 ∧ eligible = some false ∧ grants = 0
  | some .pushGrantNtwkRx =>
    queued = 1 ∧ (eligible = some false ∧ grants = 1 ∨ eligible = some true ∧ grants = 0)
  | _ => queued = 0 ∧ grants = 0

def queuedData (c : SchedulerConnection) (rsn : Rsn) : Nat :=
  (c.queues .pushData).count ⟨rsn, .pushSolicitedData⟩

def state (c : SchedulerConnection) (rsn : Rsn) : Option TransactionState :=
  (c.transactions rsn).map (·.state)

/-- The queues agree with the transactions. -/
structure Valid (c : SchedulerConnection) : Prop where
  fresh : ∀ rsn, c.nextRequestSequenceNumber ≤ rsn → c.transactions rsn = none
  only : ∀ queue rsn, ⟨rsn, .pushSolicitedData⟩ ∈ c.queues queue → queue = .pushData
  phase : ∀ rsn, DataPhase (c.state rsn) (c.queuedData rsn) (c.dataEligible rsn)
    (c.grants.count rsn)

lemma Valid.update (h : c.Valid) (rsn : Rsn)
    (hnext : c.nextRequestSequenceNumber ≤ c'.nextRequestSequenceNumber)
    (hrsn : rsn < c'.nextRequestSequenceNumber ∨ c'.transactions rsn = none)
    (hothers : ∀ other, other ≠ rsn → c'.transactions other = c.transactions other ∧
      c'.queuedData other = c.queuedData other ∧ c'.grants.count other = c.grants.count other)
    (honly : ∀ queue rsn, ⟨rsn, .pushSolicitedData⟩ ∈ c'.queues queue → queue = .pushData)
    (hphase : DataPhase (c'.state rsn) (c'.queuedData rsn) (c'.dataEligible rsn)
      (c'.grants.count rsn)) : c'.Valid := by
  refine ⟨fun n hn => ?_, honly, fun n => ?_⟩
  · by_cases hne : n = rsn
    · subst hne
      exact hrsn.resolve_left (Nat.not_lt.mpr hn)
    · rw [(hothers n hne).1]
      exact h.fresh n (hnext.trans hn)
  · by_cases hne : n = rsn
    · subst hne
      exact hphase
    · obtain ⟨htransaction, hqueued, hgrants⟩ := hothers n hne
      have hold := h.phase n
      unfold state dataEligible at hold ⊢
      rw [htransaction, hqueued, hgrants]
      exact hold

/-- What one event does to a connection, with the change of the counts. -/
structure Moves (c c' : SchedulerConnection) (delta : PacketTypeQueue → Int) : Prop where
  ordered : c'.ordered = c.ordered
  valid : (c.ordered = true → c.Valid) → c.ordered = true → c'.Valid
  counted : (c.ordered = true → c.Valid) → ∀ q, (c'.counted q : Int) = c.counted q + delta q

lemma Valid.queuedData_ne_zero (h : c.Valid)
    (hmem : (⟨rsn, .pushSolicitedData⟩ : WorkId) ∈ c.queues queue) : c.queuedData rsn ≠ 0 := by
  obtain rfl := h.only queue rsn hmem
  exact (List.count_pos_iff.mpr hmem).ne'

lemma Valid.lt_of_transaction (h : c.Valid) (htr : c.transactions rsn = some tr) :
    rsn < c.nextRequestSequenceNumber := by
  by_contra hge
  exact absurd (h.fresh rsn (Nat.le_of_not_lt hge)) (by rw [htr]; exact Option.some_ne_none _)

lemma state_of_transaction (h : c.transactions rsn = some tr) : c.state rsn = some tr.state := by
  rw [state, h, Option.map_some]

lemma dataEligible_of_transaction (h : c.transactions rsn = some tr) :
    c.dataEligible rsn = (tr.packets .pushSolicitedData).map (·.isTransmissionEligible) := by
  rw [dataEligible, h, Option.bind_some]

lemma transactions_setTransaction (c : SchedulerConnection) (rsn : Rsn) (tr : TransactionMetadata) :
    (c.setTransaction rsn tr).transactions rsn = some tr :=
  update_self ..

lemma Moves.of_transaction (rsn : Rsn) (hordered : c'.ordered = c.ordered)
    (hqueues : c'.queues = c.queues)
    (hnext : c.nextRequestSequenceNumber ≤ c'.nextRequestSequenceNumber)
    (hrsn : c.Valid → rsn < c'.nextRequestSequenceNumber ∨ c'.transactions rsn = none)
    (hothers : ∀ other, other ≠ rsn → c'.transactions other = c.transactions other ∧
      c'.grants.count other = c.grants.count other)
    (heligible : c.Valid → c.queuedData rsn ≠ 0 → c'.dataEligible rsn = c.dataEligible rsn)
    (hphase : c.Valid → DataPhase (c'.state rsn) (c.queuedData rsn) (c'.dataEligible rsn)
      (c'.grants.count rsn)) : Moves c c' fun _ => 0 := by
  have hqueued : ∀ n, c'.queuedData n = c.queuedData n := by
    intro n
    rw [queuedData, queuedData, hqueues]
  refine ⟨hordered, fun hc ho => ?_, fun hc q => ?_⟩
  · refine (hc ho).update rsn hnext (hrsn (hc ho)) (fun other hne => ?_) ?_ ?_
    · exact ⟨(hothers other hne).1, hqueued other, (hothers other hne).2⟩
    · rw [hqueues]
      exact (hc ho).only
    · rw [hqueued]
      exact hphase (hc ho)
  · rw [Int.add_zero]
    refine congrArg _ (counted_congr hordered hqueues (fun ho q n hmem => ?_) q)
    by_cases hne : n = rsn
    · subst hne
      exact heligible (hc ho) ((hc ho).queuedData_ne_zero hmem)
    · rw [dataEligible, dataEligible, (hothers n hne).1]

lemma getTransaction_ok (h : c.getTransaction rsn = .ok tr) :
    c.transactions rsn = some tr := by
  unfold getTransaction at h
  split at h
  · cases h
    assumption
  · cases h

lemma updateState_ok (h : c.updateState rsn type stage = .ok c') :
    ∃ tr state, c.transactions rsn = some tr ∧ nextState tr.state type stage = .ok state ∧
      c' = c.setTransaction rsn { tr with state := state } := by
  obtain ⟨tr, htr, h⟩ := exists_of_bind_eq_ok h
  obtain ⟨tr', htr', h⟩ := exists_of_bind_eq_ok h
  obtain ⟨state, hstate, htr'⟩ := exists_of_bind_eq_ok htr'
  cases htr'
  cases h
  exact ⟨tr, state, getTransaction_ok htr, hstate, rfl⟩

lemma Moves.trans {c'' : SchedulerConnection} {delta delta' : PacketTypeQueue → Int}
    (h : Moves c c' delta) (h' : Moves c' c'' delta') :
    Moves c c'' fun q => delta q + delta' q := by
  have hvalid : (c.ordered = true → c.Valid) → c'.ordered = true → c'.Valid := fun hc ho =>
    h.valid hc (h.ordered ▸ ho)
  refine ⟨h'.ordered.trans h.ordered, fun hc ho => ?_, fun hc q => ?_⟩
  · exact h'.valid (hvalid hc) (h.ordered.symm ▸ ho)
  · rw [h'.counted (hvalid hc), h.counted hc, Int.add_assoc]

lemma Valid.enqueue (h : c.Valid) (hwork : work.type ≠ .pushSolicitedData) :
    (c.enqueue queue work).Valid := by
  have hne : ∀ rsn, (⟨rsn, .pushSolicitedData⟩ : WorkId) ≠ work := by
    rintro rsn rfl
    exact hwork rfl
  refine ⟨h.fresh, fun q rsn hmem => h.only q rsn ?_, fun rsn => ?_⟩
  · by_cases hq : q = queue
    · subst hq
      simpa [SchedulerConnection.enqueue, hne] using hmem
    · simpa [SchedulerConnection.enqueue, hq] using hmem
  · have hqueued : (c.enqueue queue work).queuedData rsn = c.queuedData rsn := by
      unfold queuedData SchedulerConnection.enqueue
      by_cases hq : PacketTypeQueue.pushData = queue
      · subst hq
        simp [List.count_append, (hne rsn).symm]
      · simp [hq]
    rw [hqueued]
    exact h.phase rsn

lemma Moves.enqueue (c : SchedulerConnection) (queue : PacketTypeQueue) (work : WorkId)
    (hwork : c.ordered = true → work.type ≠ .pushSolicitedData) :
    Moves c (c.enqueue queue work) fun q => if q = queue then 1 else 0 := by
  have hwait : c.isWaitingForGrant work = false := by
    refine Bool.eq_false_of_not_eq_true fun hw => ?_
    obtain ⟨ho, htype, -⟩ := isWaitingForGrant_iff.mp hw
    exact hwork ho htype
  refine ⟨rfl, fun hc ho => (hc ho).enqueue (hwork ho), fun hc q => ?_⟩
  rw [counted_enqueue, hwait]
  by_cases hq : q = queue <;> simp [hq]

lemma Moves.of_eq (hordered : c'.ordered = c.ordered) (hqueues : c'.queues = c.queues)
    (htransactions : c'.transactions = c.transactions)
    (hnext : c'.nextRequestSequenceNumber = c.nextRequestSequenceNumber)
    (hgrants : c'.grants = c.grants) : Moves c c' fun _ => 0 := by
  have hsame : c'.dataEligible 0 = c.dataEligible 0 := by
    rw [dataEligible, dataEligible, htransactions]
  refine .of_transaction 0 hordered hqueues hnext.ge (fun hc => ?_)
    (fun other _ => ⟨by rw [htransactions], by rw [hgrants]⟩) (fun _ _ => hsame) fun hc => ?_
  · rw [hnext, htransactions]
    exact (Nat.lt_or_ge _ _).imp_right (hc.fresh 0)
  · rw [hsame, hgrants, state, htransactions]
    exact hc.phase 0

lemma dataPhase_of_initiatorStage {st st' : TransactionState}
    (hstage : (type, stage) ∈ ConnectionScheduler.initiatorStages)
    (h : nextState st type stage = .ok st') {queued grants : Nat} {eligible : Option Bool}
    (hphase : DataPhase (some st) queued eligible grants) :
    DataPhase (some st') queued eligible grants := by
  simp only [ConnectionScheduler.initiatorStages, List.mem_cons, Prod.mk.injEq, List.not_mem_nil,
    or_false] at hstage
  rcases hstage with ⟨rfl, rfl⟩ | ⟨rfl, rfl⟩ | ⟨rfl, rfl⟩ | ⟨rfl, rfl⟩ | ⟨rfl, rfl⟩ | ⟨rfl, rfl⟩ |
    ⟨rfl, rfl⟩ | ⟨rfl, rfl⟩
  all_goals
    simp only [nextState] at h
    first
    | (cases h
       exact hphase)
    | (split at h
       · rename_i hst
         rw [List.mem_singleton.mp hst] at hphase
         cases h
         exact hphase
       · cases h)

lemma Moves.updateState (hstage : (type, stage) ∈ ConnectionScheduler.initiatorStages)
    (h : c.updateState rsn type stage = .ok c') : Moves c c' fun _ => 0 := by
  obtain ⟨tr, st, htr, hst, rfl⟩ := updateState_ok h
  have hsame : (c.setTransaction rsn { tr with state := st }).dataEligible rsn =
      c.dataEligible rsn := by
    rw [dataEligible_of_transaction (transactions_setTransaction ..),
      dataEligible_of_transaction htr]
  refine .of_transaction rsn rfl rfl le_rfl (fun hc => .inl (hc.lt_of_transaction htr))
    (fun other hne => ⟨update_of_ne hne .., rfl⟩) (fun _ _ => hsame) fun hc => ?_
  rw [state_of_transaction (transactions_setTransaction ..), hsame]
  have hold := hc.phase rsn
  rw [state_of_transaction htr] at hold
  exact dataPhase_of_initiatorStage hstage hst hold

lemma Moves.complete (htr : c.transactions rsn = some tr)
    (hstate : tr.state = .pushCompletionUlpTx ∨ tr.state = .pullDataUlpTx) :
    Moves c { c with transactions := update c.transactions rsn none } fun _ => 0 := by
  have hdone : c.Valid → c.queuedData rsn = 0 ∧ c.grants.count rsn = 0 := by
    intro hc
    have hphase := hc.phase rsn
    rw [state_of_transaction htr] at hphase
    rcases hstate with hstate | hstate
    · simpa [DataPhase, hstate] using hphase
    · simpa [DataPhase, hstate] using hphase
  refine .of_transaction rsn rfl rfl le_rfl (fun _ => .inr (update_self ..))
    (fun other hne => ⟨update_of_ne hne .., rfl⟩)
    (fun hc hqueued => absurd (hdone hc).1 hqueued) fun hc => ?_
  have hnone : state { c with transactions := update c.transactions rsn none } rsn = none := by
    simp [state]
  rw [hnone]
  exact hdone hc

lemma makeEligible_ok (h : c.makeEligible rsn type = .ok c') :
    ∃ tr pm, c.transactions rsn = some tr ∧ tr.packets type = some pm ∧
      c' = c.setTransaction rsn (tr.createPacket type
        { pm with isTransmissionEligible := true }) := by
  obtain ⟨tr, htr, h⟩ := exists_of_bind_eq_ok h
  obtain ⟨pm, hpm, h⟩ := exists_of_bind_eq_ok h
  cases h
  refine ⟨tr, pm, getTransaction_ok htr, ?_, rfl⟩
  unfold TransactionMetadata.getPacketMetadata at hpm
  split at hpm
  · cases hpm
    assumption
  · cases hpm

lemma queuedData_pop (h : c.queues queue = work :: rest) (rsn : Rsn) :
    c.queuedData rsn = (c.pop queue).queuedData rsn +
      if queue = .pushData ∧ work = ⟨rsn, .pushSolicitedData⟩ then 1 else 0 := by
  unfold queuedData pop
  by_cases hq : queue = .pushData
  · subst hq
    simp [h, List.count_cons]
  · simp [hq, update_of_ne (Ne.symm hq)]

lemma mem_of_mem_pop {q : PacketTypeQueue} (h : work ∈ (c.pop queue).queues q) :
    work ∈ c.queues q := by
  unfold pop at h
  dsimp only at h
  by_cases hq : q = queue
  · subst hq
    rw [update_self] at h
    exact List.mem_of_mem_tail h
  · rwa [update_of_ne hq] at h

lemma Moves.pop {c₁ : SchedulerConnection} (h : c.queues queue = work :: rest)
    (hordered : c₁.ordered = c.ordered) (hqueues : c₁.queues = c.queues)
    (hgrants : c₁.grants = c.grants)
    (hnext : c₁.nextRequestSequenceNumber = c.nextRequestSequenceNumber)
    (hothers : ∀ other, other ≠ work.rsn → c₁.transactions other = c.transactions other)
    (hfresh : c.transactions work.rsn = none → c₁.transactions work.rsn = none)
    (heligible : c₁.dataEligible work.rsn = c.dataEligible work.rsn)
    (hwait : c.isWaitingForGrant work = false)
    (hphase : c.Valid → DataPhase (c₁.state work.rsn) ((c₁.pop queue).queuedData work.rsn)
      (c.dataEligible work.rsn) (c.grants.count work.rsn)) :
    Moves c (c₁.pop queue) fun q => if q = queue then -1 else 0 := by
  have hhead : c₁.queues queue = work :: rest := by rw [hqueues, h]
  have hsame : ∀ rsn, c₁.dataEligible rsn = c.dataEligible rsn := by
    intro rsn
    by_cases hne : rsn = work.rsn
    · rw [hne, heligible]
    · unfold dataEligible
      rw [hothers rsn hne]
  have hwait₁ : c₁.isWaitingForGrant work = false := by
    refine Bool.eq_false_of_not_eq_true fun hw => ?_
    rw [isWaitingForGrant_iff, hordered, hsame, ← isWaitingForGrant_iff, hwait] at hw
    cases hw
  refine ⟨hordered, fun hc ho => ?_, fun hc q => ?_⟩
  · refine (hc ho).update work.rsn hnext.ge ?_ (fun other hne => ⟨hothers other hne, ?_, ?_⟩) ?_ ?_
    · by_cases hlt : work.rsn < c₁.nextRequestSequenceNumber
      · exact .inl hlt
      · exact .inr (hfresh ((hc ho).fresh _ (by rw [← hnext]; exact Nat.le_of_not_lt hlt)))
    · have hpop := queuedData_pop hhead other
      rw [if_neg (fun hw => hne (by rw [hw.2])), Nat.add_zero] at hpop
      rw [← hpop]
      unfold queuedData
      rw [hqueues]
    · exact congrArg (List.count other) hgrants
    · intro q rsn hmem
      exact (hc ho).only q rsn (hqueues ▸ mem_of_mem_pop hmem)
    · have hold := hphase (hc ho)
      have hcount : (c₁.pop queue).grants.count work.rsn = c.grants.count work.rsn :=
        congrArg (List.count work.rsn) hgrants
      rw [hcount]
      exact heligible.symm ▸ hold
  · have hpop := counted_pop hhead q
    rw [hwait₁, counted_congr hordered hqueues fun _ _ rsn _ => hsame rsn] at hpop
    by_cases hq : q = queue
    · simp [hq] at hpop ⊢
      omega
    · simp [hq] at hpop ⊢
      omega

lemma Moves.handlePhantomRequest (h : c.queues queue = work :: rest)
    (hwork : work.type = .invalid)
    (heligible : c.makeEligible work.rsn .pushUnsolicitedData = .ok c') :
    Moves c (c'.pop queue) fun q => if q = queue then -1 else 0 := by
  obtain ⟨tr, pm, htr, -, rfl⟩ := makeEligible_ok heligible
  have htype : work.type ≠ .pushSolicitedData := by
    rw [hwork]
    decide
  refine Moves.pop h rfl rfl rfl rfl (fun other hne => update_of_ne hne ..) ?_ ?_
    (isWaitingForGrant_of_type htype) fun hc => ?_
  · intro hnone
    rw [htr] at hnone
    cases hnone
  · simp [dataEligible, setTransaction, htr, TransactionMetadata.createPacket]
  · have hold := hc.phase work.rsn
    have hstate : (c.setTransaction work.rsn (tr.createPacket .pushUnsolicitedData
        { pm with isTransmissionEligible := true })).state work.rsn = c.state work.rsn := by
      simp [state, setTransaction, htr, TransactionMetadata.createPacket]
    have hpop := queuedData_pop h work.rsn
    rw [if_neg (fun hw => htype (by rw [hw.2])), Nat.add_zero] at hpop
    rw [hstate]
    rw [hpop] at hold
    exact hold

lemma dataPhase_of_ntwkTx {st st' : TransactionState} (h : nextState st type .ntwkTx = .ok st')
    {queued grants : Nat} {eligible : Option Bool}
    (hphase : DataPhase (some st) queued eligible grants) :
    (type = .pushSolicitedData ∧ eligible = some true →
      DataPhase (some st') (queued - 1) eligible grants) ∧
    (type ≠ .pushSolicitedData → DataPhase (some st') queued eligible grants) := by
  cases type
  all_goals
    simp only [nextState] at h
    first
    | (cases h)
    | (split at h
       · rename_i hst
         cases h
         refine ⟨?_, ?_⟩
         · rintro ⟨htype, rfl⟩
           simp_all [DataPhase]
         · intro htype
           simp_all [DataPhase]
       · cases h)

lemma getPacketMetadata_ok (h : c.getPacketMetadata work = .ok pm)
    (hwork : work.type = .pushSolicitedData) :
    c.dataEligible work.rsn = some pm.isTransmissionEligible := by
  unfold getPacketMetadata at h
  rw [hwork] at h
  obtain ⟨tr, htr, h⟩ := exists_of_bind_eq_ok h
  unfold dataEligible
  rw [getTransaction_ok htr]
  unfold TransactionMetadata.getPacketMetadata at h
  split at h
  · rename_i hpacket
    cases h
    simp [hpacket]
  · cases h

lemma transmitPacket_ok (h : c.transmitPacket work = .ok c') :
    c' = c ∧ work.type ≠ .pushSolicitedData ∨
    ∃ tr state, c.transactions work.rsn = some tr ∧
      nextState tr.state work.type .ntwkTx = .ok state ∧
      c' = c.setTransaction work.rsn { tr with state := state } := by
  unfold transmitPacket at h
  split at h
  · rename_i htype
    cases h
    exact .inl ⟨rfl, by rw [htype]; decide⟩
  · rename_i htype
    cases h
    exact .inl ⟨rfl, by rw [htype]; decide⟩
  · exact .inr (updateState_ok h)

lemma Moves.schedulePacket (h : c.queues queue = work :: rest)
    (hpm : c.getPacketMetadata work = .ok pm)
    (heligible : pm.isTransmissionEligible = true)
    (htransmit : { c with isOpRateLimited := true }.transmitPacket work = .ok c') :
    Moves c (c'.pop queue) fun q => if q = queue then -1 else 0 := by
  have hwait : c.isWaitingForGrant work = false := by
    unfold isWaitingForGrant
    rw [hpm]
    simp [heligible]
  rcases transmitPacket_ok htransmit with ⟨rfl, htype⟩ | ⟨tr, st, htr, hst, rfl⟩
  · refine Moves.pop h rfl rfl rfl rfl (fun _ _ => rfl) id rfl hwait fun hc => ?_
    have hold := hc.phase work.rsn
    rw [queuedData_pop h, if_neg (fun hw => htype (by rw [hw.2])), Nat.add_zero] at hold
    exact hold
  · dsimp only at htr
    refine Moves.pop h rfl rfl rfl rfl (fun other hne => update_of_ne hne ..) ?_ ?_ hwait
      fun hc => ?_
    · intro hnone
      rw [htr] at hnone
      cases hnone
    · simp [dataEligible, setTransaction, htr]
    · have hold := hc.phase work.rsn
      rw [state, htr] at hold
      obtain ⟨hdata, hother⟩ := dataPhase_of_ntwkTx hst hold
      have hstate : (({ c with isOpRateLimited := true } : SchedulerConnection).setTransaction
          work.rsn { tr with state := st }).state work.rsn = some st := by
        simp [state, setTransaction]
      have hpop := queuedData_pop h work.rsn
      rw [hstate]
      by_cases htype : work.type = .pushSolicitedData
      · have hwork : work = ⟨work.rsn, .pushSolicitedData⟩ := by rw [← htype]
        have hqueue : queue = .pushData := by
          refine hc.only queue work.rsn ?_
          rw [← hwork, h]
          exact List.mem_cons_self
        have heq := hdata ⟨htype, by rw [getPacketMetadata_ok hpm htype, heligible]⟩
        rw [if_pos ⟨hqueue, hwork⟩] at hpop
        rw [hpop, Nat.add_sub_cancel] at heq
        exact heq
      · rw [if_neg (fun hw => htype (by rw [hw.2])), Nat.add_zero] at hpop
        have heq := hother htype
        rw [hpop] at heq
        exact heq

lemma Moves.receiveGrant (htr : c.transactions rsn = some tr) {st : TransactionState}
    (hst : nextState tr.state .pushGrant .ntwkRx = .ok st) :
    Moves c { c.setTransaction rsn { tr.createPacket .pushGrant pm with state := st } with
      grants := rsn :: c.grants } fun _ => 0 := by
  generalize hc' : ({ c.setTransaction rsn { tr.createPacket .pushGrant pm with state := st } with
    grants := rsn :: c.grants } : SchedulerConnection) = c'
  have htr' : c'.transactions rsn = some { tr.createPacket .pushGrant pm with state := st } :=
    hc' ▸ transactions_setTransaction ..
  have hsame : c'.dataEligible rsn = c.dataEligible rsn := by
    rw [dataEligible_of_transaction htr', dataEligible_of_transaction htr]
    rfl
  subst hc'
  refine .of_transaction rsn rfl rfl le_rfl (fun hc => .inl (hc.lt_of_transaction htr))
    (fun other hne => ⟨update_of_ne hne .., List.count_cons_of_ne (Ne.symm hne)⟩)
    (fun _ _ => hsame) fun hc => ?_
  have hold := hc.phase rsn
  rw [state_of_transaction htr', hsame]
  rw [state_of_transaction htr] at hold
  simp only [nextState] at hst
  split at hst
  · rename_i hmem
    cases hst
    obtain ⟨hqueued, heligible, hgrants⟩ : c.queuedData rsn = 1 ∧
        c.dataEligible rsn = some false ∧ c.grants.count rsn = 0 := by
      simpa [DataPhase, List.mem_singleton.mp hmem] using hold
    refine ⟨hqueued, .inl ⟨heligible, ?_⟩⟩
    rw [List.count_cons_self, hgrants]
  · cases hst

lemma countP_release {p p' : WorkId → Bool} (h : p work = false) (h' : p' work = true)
    (hother : ∀ other, other ≠ work → p' other = p other) (l : List WorkId) :
    l.countP p' = l.countP p + l.count work := by
  induction l with
  | nil => rfl
  | cons head l ih =>
    rw [List.countP_cons, List.countP_cons, List.count_cons, ih]
    by_cases hhead : head = work
    · simp [hhead, h, h']
      omega
    · simp [hhead, hother head hhead]
      omega

lemma counted_release (ho : c.ordered = true) (hordered : c'.ordered = c.ordered)
    (hqueues : c'.queues = c.queues) (hself : c.dataEligible rsn = some false)
    (hself' : c'.dataEligible rsn = some true)
    (hothers : ∀ n, n ≠ rsn → c'.dataEligible n = c.dataEligible n) (q : PacketTypeQueue) :
    c'.counted q = c.counted q + (c.queues q).count ⟨rsn, .pushSolicitedData⟩ := by
  unfold counted
  rw [hqueues]
  refine countP_release ?_ ?_ (fun other hother => ?_) _
  · rw [isWaitingForGrant_iff.mpr ⟨ho, rfl, hself⟩]
    rfl
  · have hnot : ¬c'.isWaitingForGrant ⟨rsn, .pushSolicitedData⟩ = true := by
      rw [isWaitingForGrant_iff, hself']
      exact fun hw => absurd hw.2.2 (by decide)
    rw [Bool.eq_false_of_not_eq_true hnot]
    rfl
  · have hiff : c'.isWaitingForGrant other = true ↔ c.isWaitingForGrant other = true := by
      rw [isWaitingForGrant_iff, isWaitingForGrant_iff, hordered]
      refine and_congr_right fun _ => and_congr_right fun htype => ?_
      rw [hothers other.rsn]
      rintro rfl
      exact hother (by rw [← htype])
    rw [Bool.eq_iff_iff.mpr hiff]

lemma Moves.release (ho : c.ordered = true) (hgrant : rsn ∈ c.grants)
    (h : { c with grants := c.grants.erase rsn }.makeEligible rsn .pushSolicitedData = .ok c') :
    Moves c c' fun q => if q = .pushData then 1 else 0 := by
  obtain ⟨tr, pm, htr, hpm, rfl⟩ := makeEligible_ok h
  dsimp only at htr
  have hphase : c.Valid → c.state rsn = some .pushGrantNtwkRx ∧ c.queuedData rsn = 1 ∧
      c.dataEligible rsn = some false ∧ c.grants.count rsn = 1 := by
    intro hc
    have hold := hc.phase rsn
    have hpos : 0 < c.grants.count rsn := List.count_pos_iff.mpr hgrant
    unfold DataPhase at hold
    split at hold
    · omega
    · omega
    · rename_i hst
      rcases hold with ⟨hqueued, ⟨heligible, hone⟩ | ⟨-, hzero⟩⟩
      · exact ⟨hst, hqueued, heligible, hone⟩
      · omega
    · omega
  let c' := setTransaction { c with grants := c.grants.erase rsn } rsn
    (tr.createPacket .pushSolicitedData { pm with isTransmissionEligible := true })
  have hothers : ∀ n, n ≠ rsn → c'.dataEligible n = c.dataEligible n := by
    intro n hne
    simp [c', dataEligible, setTransaction, update_of_ne hne]
  have hself : c'.dataEligible rsn = some true := by
    simp [c', dataEligible, setTransaction, TransactionMetadata.createPacket]
  refine ⟨rfl, fun hc _ => ?_, fun hc q => ?_⟩
  · obtain ⟨hstate, hqueued, -, hone⟩ := hphase (hc ho)
    refine (hc ho).update rsn le_rfl (.inl ((hc ho).lt_of_transaction htr))
      (fun other hne => ⟨update_of_ne hne .., rfl, List.count_erase_of_ne hne⟩)
      (hc ho).only ?_
    have hst : c'.state rsn = some .pushGrantNtwkRx := by
      rw [← hstate]
      simp [c', state, setTransaction, htr, TransactionMetadata.createPacket]
    rw [hst, hself]
    refine ⟨hqueued, .inr ⟨rfl, ?_⟩⟩
    exact (List.count_erase_self ..).trans (by rw [hone])
  · obtain ⟨-, hqueued, heligible, -⟩ := hphase (hc ho)
    have hcount := counted_release ho (by rfl) (by rfl) heligible hself hothers q
    rw [hcount]
    by_cases hq : q = .pushData
    · rw [hq] at hcount ⊢
      exact congrArg (fun n : Nat => ((c.counted .pushData + n : Nat) : Int)) hqueued
    · rw [if_neg hq, List.count_eq_zero_of_not_mem fun hmem => hq ((hc ho).only q rsn hmem)]
      rfl

def withTransaction (c : SchedulerConnection) (tr : TransactionMetadata) : SchedulerConnection :=
  { c.setTransaction c.nextRequestSequenceNumber tr with
    nextRequestSequenceNumber := c.nextRequestSequenceNumber + 1 }

lemma Valid.unused (h : c.Valid) : c.queuedData c.nextRequestSequenceNumber = 0 ∧
    c.grants.count c.nextRequestSequenceNumber = 0 := by
  have hphase := h.phase c.nextRequestSequenceNumber
  rw [state, h.fresh _ le_rfl] at hphase
  exact hphase

lemma counted_withTransaction (hc : c.ordered = true → c.Valid) (tr : TransactionMetadata)
    (q : PacketTypeQueue) : (c.withTransaction tr).counted q = c.counted q := by
  refine counted_congr (c := c) (by rfl) (by rfl) (fun ho q rsn hmem => ?_) q
  have hne : rsn ≠ c.nextRequestSequenceNumber := by
    rintro rfl
    exact (hc ho).queuedData_ne_zero hmem (hc ho).unused.1
  simp [dataEligible, withTransaction, setTransaction, update_of_ne hne]

lemma state_withTransaction (c : SchedulerConnection) (tr : TransactionMetadata) :
    (c.withTransaction tr).state c.nextRequestSequenceNumber = some tr.state := by
  simp [state, withTransaction, setTransaction]

lemma Moves.withTransaction
    (htr : c.ordered = true → ∀ eligible, DataPhase (some tr.state) 0 eligible 0) :
    Moves c (c.withTransaction tr) fun _ => 0 := by
  refine ⟨rfl, fun hc ho => ?_, fun hc q => ?_⟩
  · refine (hc ho).update c.nextRequestSequenceNumber (Nat.le_succ _) (.inl (Nat.lt_succ_self _))
      (fun other hne => ⟨update_of_ne hne .., rfl, rfl⟩) (hc ho).only ?_
    obtain ⟨hqueued, hgrants⟩ := (hc ho).unused
    have hqueued' : (c.withTransaction tr).queuedData c.nextRequestSequenceNumber = 0 := hqueued
    have hgrants' : (c.withTransaction tr).grants.count c.nextRequestSequenceNumber = 0 := hgrants
    rw [state_withTransaction, hqueued', hgrants']
    exact htr ho _
  · rw [counted_withTransaction hc, Int.add_zero]

lemma Moves.request
    (hstate : tr.state = .pushSolicitedReqUlpRx) (hpm : tr.packets .pushSolicitedData = some pm)
    (heligible : pm.isTransmissionEligible = false) (hwork : work.type ≠ .pushSolicitedData)
    (ho : c.ordered = true) :
    Moves c (((c.withTransaction tr).enqueue queue work).enqueue .pushData
      ⟨c.nextRequestSequenceNumber, .pushSolicitedData⟩) fun q => if q = queue then 1 else 0 := by
  have hdata : (c.withTransaction tr).dataEligible c.nextRequestSequenceNumber = some false := by
    simp [dataEligible, SchedulerConnection.withTransaction, setTransaction, hpm, heligible]
  have hwaits : ((c.withTransaction tr).enqueue queue work).isWaitingForGrant
      ⟨c.nextRequestSequenceNumber, .pushSolicitedData⟩ = true :=
    isWaitingForGrant_iff.mpr ⟨ho, rfl, hdata⟩
  refine ⟨rfl, fun hc _ => ?_, fun hc q => ?_⟩
  · have henqueued : (c.enqueue queue work).Valid := (hc ho).enqueue hwork
    have hqueued : ∀ rsn, (((c.withTransaction tr).enqueue queue work).enqueue .pushData
        ⟨c.nextRequestSequenceNumber, .pushSolicitedData⟩).queuedData rsn =
        (c.enqueue queue work).queuedData rsn +
          if rsn = c.nextRequestSequenceNumber then 1 else 0 := by
      intro rsn
      have hqueues : ((c.withTransaction tr).enqueue queue work).queues =
          (c.enqueue queue work).queues := rfl
      unfold queuedData
      rw [SchedulerConnection.enqueue, hqueues]
      by_cases hrsn : rsn = c.nextRequestSequenceNumber
      · simp [hrsn, List.count_append]
      · have hne : (⟨c.nextRequestSequenceNumber, .pushSolicitedData⟩ : WorkId) ≠
            ⟨rsn, .pushSolicitedData⟩ := fun h => hrsn (congrArg WorkId.rsn h).symm
        simp [hrsn, hne, List.count_append]
    obtain ⟨hnone, hgrants⟩ := henqueued.unused
    refine henqueued.update c.nextRequestSequenceNumber (Nat.le_succ _) (.inl (Nat.lt_succ_self _))
      (fun other hne => ⟨update_of_ne hne .., ?_, rfl⟩) (fun q rsn hmem => ?_) ?_
    · rw [hqueued, if_neg hne, Nat.add_zero]
    · by_cases hq : q = .pushData
      · exact hq
      · refine henqueued.only q rsn ?_
        simpa [SchedulerConnection.enqueue, hq, SchedulerConnection.withTransaction, setTransaction]
          using hmem
    · have hst : (((c.withTransaction tr).enqueue queue work).enqueue .pushData
          ⟨c.nextRequestSequenceNumber, .pushSolicitedData⟩).state c.nextRequestSequenceNumber =
          some .pushSolicitedReqUlpRx := by
        rw [← hstate]
        exact state_withTransaction c tr
      rw [hst, hqueued, if_pos rfl]
      refine ⟨?_, hdata, hgrants⟩
      exact congrArg (· + 1) hnone
  · rw [counted_enqueue, counted_enqueue, counted_withTransaction hc, hwaits,
      isWaitingForGrant_of_type hwork]
    by_cases hq : q = queue <;> simp [hq]

end SchedulerConnection

namespace ConnectionScheduler

open SchedulerConnection

variable {s s' : ConnectionScheduler} {scid : Nat} {c : SchedulerConnection} {rsn : Rsn}
  {type : PacketType} {C : ConnectionScheduler → Label → Prop}

lemma count_update (s : ConnectionScheduler) (queue q : PacketTypeQueue) (isDequed : Bool) :
    (s.updateOutstandingPacketCount queue isDequed).packetQueueWisePktCount q =
      s.packetQueueWisePktCount q + if q = queue then (if isDequed then -1 else 1) else 0 := by
  unfold updateOutstandingPacketCount
  by_cases hq : q = queue
  · subst hq
    cases isDequed <;> simp [Int.sub_eq_add_neg]
  · simp [hq]

def Steps (s : ConnectionScheduler) (scid : Nat) (s' : ConnectionScheduler) : Prop :=
  ∃ c' delta, Moves (s.connection scid) c' delta ∧ s'.scids = s.scids ∧
    s'.connection = update s.connection scid c' ∧
    ∀ q, s'.packetQueueWisePktCount q = s.packetQueueWisePktCount q + delta q

lemma Steps.setConnection {c' : SchedulerConnection} (h : Moves (s.connection scid) c' fun _ => 0) :
    Steps s scid (s.setConnection scid c') :=
  ⟨c', _, h, rfl, rfl, fun _ => (Int.add_zero _).symm⟩

lemma addPacketToQueue_ok (h : s.addPacketToQueue scid c rsn type = .ok s') :
    ∃ queue, c.queueOf type = .ok queue ∧
      if c.ordered = true ∧ type = .pushSolicitedData then
        ∃ c', c.makeEligible rsn type = .ok c' ∧
          s' = (s.updateOutstandingPacketCount queue false).setConnection scid c'
      else if c.ordered = true ∧ type = .pushUnsolicitedData then
        s' = ((s.updateOutstandingPacketCount queue false).updateOutstandingPacketCount
          .pullAndOrderedPushRequest false).setConnection scid
          ((c.enqueue queue ⟨rsn, type⟩).enqueue .pullAndOrderedPushRequest ⟨rsn, .invalid⟩)
      else if c.ordered = true ∧ type = .pushRequest then
        s' = (s.updateOutstandingPacketCount queue false).setConnection scid
          ((c.enqueue queue ⟨rsn, type⟩).enqueue .pushData ⟨rsn, .pushSolicitedData⟩)
      else s' = (s.updateOutstandingPacketCount queue false).setConnection scid
        (c.enqueue queue ⟨rsn, type⟩) := by
  obtain ⟨_, -, h⟩ := exists_of_bind_eq_ok h
  obtain ⟨queue, hqueue, h⟩ := exists_of_bind_eq_ok h
  refine ⟨queue, hqueue, ?_⟩
  split at h
  · rename_i hdata
    rw [if_pos hdata]
    obtain ⟨c', hc', h⟩ := exists_of_bind_eq_ok h
    cases h
    exact ⟨c', hc', rfl⟩
  · rename_i hdata
    have hordered : (c.enqueue queue ⟨rsn, type⟩).ordered = c.ordered := rfl
    rw [if_neg hdata]
    simp only [hordered] at h
    split at h
    · rename_i hunsolicited
      rw [if_pos hunsolicited]
      obtain ⟨_, -, h⟩ := exists_of_bind_eq_ok h
      cases h
      rfl
    · rename_i hunsolicited
      rw [if_neg hunsolicited]
      split at h
      · rename_i hrequest
        rw [if_pos hrequest]
        obtain ⟨_, -, h⟩ := exists_of_bind_eq_ok h
        cases h
        rfl
      · rename_i hrequest
        rw [if_neg hrequest]
        cases h
        rfl

lemma Steps.addPacketToQueue (hm : Moves (s.connection scid) c fun _ => 0)
    (hdata : ¬(c.ordered = true ∧ type = .pushSolicitedData))
    (hrequest : ¬(c.ordered = true ∧ type = .pushRequest))
    (h : s.addPacketToQueue scid c rsn type = .ok s') : Steps s scid s' := by
  obtain ⟨queue, -, h⟩ := addPacketToQueue_ok h
  have hone : Moves (s.connection scid) (c.enqueue queue ⟨rsn, type⟩) _ :=
    hm.trans (.enqueue c queue ⟨rsn, type⟩ fun ho htype => hdata ⟨ho, htype⟩)
  rw [if_neg hdata] at h
  split at h
  · subst h
    have htwo := hone.trans (.enqueue (c.enqueue queue ⟨rsn, type⟩) .pullAndOrderedPushRequest
      ⟨rsn, .invalid⟩ fun _ => nofun)
    refine ⟨_, _, htwo, rfl, rfl, fun q => ?_⟩
    refine (count_update _ _ _ _).trans ?_
    rw [count_update]
    simp [Int.add_assoc]
  · subst h
    refine ⟨_, _, hone, rfl, rfl, fun q => ?_⟩
    refine (count_update _ _ _ _).trans ?_
    simp

lemma createTransaction_ok {c' : SchedulerConnection} {t : TransactionType}
    {packets : List (PacketType × PacketMetadata)} {first : PacketType}
    (h : c.createTransaction t packets first = .ok c') :
    ∃ tr : TransactionMetadata, (∃ st, nextState st first .ulpRx = .ok tr.state) ∧
      tr.packets = (packets.foldl (fun tr p => tr.createPacket p.1 p.2)
        ({ rsn := c.nextRequestSequenceNumber
           type := t
           location := .initiator } : TransactionMetadata)).packets ∧
      c' = c.withTransaction tr := by
  obtain ⟨tr, htr, h⟩ := exists_of_bind_eq_ok h
  obtain ⟨st, hst, htr⟩ := exists_of_bind_eq_ok htr
  cases htr
  cases h
  refine ⟨_, ?_, ?_, rfl⟩
  · exact ⟨_, hst⟩
  · rfl

lemma Steps.initiateTransaction {op : UlpOp} (h : s.initiateTransaction scid op = .ok s') :
    Steps s scid s' := by
  cases op with
  | read =>
    obtain ⟨c, hc, h⟩ := exists_of_bind_eq_ok h
    obtain ⟨tr, ⟨st, hst⟩, -, rfl⟩ := createTransaction_ok hc
    have hstate : TransactionState.pullReqUlpRx = tr.state := Except.ok.inj hst
    refine Steps.addPacketToQueue (.withTransaction fun _ _ => ?_) (by simp) (by simp) h
    rw [← hstate]
    exact ⟨rfl, rfl⟩
  | solicitedWrite =>
    obtain ⟨c, hc, h⟩ := exists_of_bind_eq_ok h
    obtain ⟨tr, ⟨st, hst⟩, hpackets, rfl⟩ := createTransaction_ok hc
    have hstate : TransactionState.pushSolicitedReqUlpRx = tr.state := Except.ok.inj hst
    cases ho : (s.connection scid).ordered with
    | false =>
      have hno : ((s.connection scid).withTransaction tr).ordered = false := ho
      refine Steps.addPacketToQueue (.withTransaction fun h => ?_) (by simp) (by simp [hno]) h
      rw [ho] at h
      cases h
    | true =>
      have hyes : ((s.connection scid).withTransaction tr).ordered = true := ho
      obtain ⟨queue, -, h⟩ := addPacketToQueue_ok h
      rw [if_neg (by simp), if_neg (by simp), if_pos ⟨hyes, rfl⟩] at h
      subst h
      have hpm : tr.packets .pushSolicitedData = some { isTransmissionEligible := false } := by
        rw [hpackets]
        simp [TransactionMetadata.createPacket, ho]
      refine ⟨_, _, Moves.request hstate.symm hpm rfl ?_ ho, rfl, rfl, fun q => ?_⟩
      · exact nofun
      · refine (count_update _ _ _ _).trans ?_
        simp
  | unsolicitedWrite =>
    obtain ⟨c, hc, h⟩ := exists_of_bind_eq_ok h
    obtain ⟨tr, ⟨st, hst⟩, -, rfl⟩ := createTransaction_ok hc
    have hstate : TransactionState.pushUnsolicitedReqUlpRx = tr.state := Except.ok.inj hst
    refine Steps.addPacketToQueue (.withTransaction fun _ _ => ?_) (by simp) (by simp) h
    rw [← hstate]
    exact ⟨rfl, rfl⟩
  | readResponse rsn =>
    have hadd : s.addPacketToQueue scid (s.connection scid) rsn .pullData = .ok s' := h
    exact Steps.addPacketToQueue (.of_eq rfl rfl rfl rfl rfl) (by simp) (by simp) hadd

lemma Steps.receiveGrant (h : s.receiveGrant scid rsn = .ok s') : Steps s scid s' := by
  obtain ⟨tr, htr, h⟩ := exists_of_bind_eq_ok h
  obtain ⟨tr', htr', h⟩ := exists_of_bind_eq_ok h
  obtain ⟨st, hst, htr'⟩ := exists_of_bind_eq_ok htr'
  cases htr'
  cases h
  exact Steps.setConnection (.receiveGrant (getTransaction_ok htr) hst)

lemma Steps.reorderCallback {isGrant : Bool}
    (hgrant : isGrant = true → rsn ∈ (s.connection scid).grants)
    (h : s.reorderCallback scid rsn isGrant = .ok s') : Steps s scid s' := by
  unfold ConnectionScheduler.reorderCallback at h
  cases isGrant with
  | false =>
    have hadd : s.addPacketToQueue scid (s.connection scid) rsn .pushGrant = .ok s' := h
    exact Steps.addPacketToQueue (.of_eq rfl rfl rfl rfl rfl) (by simp) (by simp) hadd
  | true =>
    cases ho : (s.connection scid).ordered with
    | false =>
      have hmoves : Moves (s.connection scid)
          { s.connection scid with grants := (s.connection scid).grants.erase rsn } fun _ => 0 := by
        refine ⟨rfl, fun _ hyes => ?_, fun _ q => (Int.add_zero _).symm⟩
        rw [ho] at hyes
        cases hyes
      exact Steps.addPacketToQueue hmoves (by simp [ho]) (by simp) h
    | true =>
      obtain ⟨queue, hqueue, h⟩ := addPacketToQueue_ok h
      cases hqueue
      rw [if_pos ⟨ho, rfl⟩] at h
      obtain ⟨c', hc', rfl⟩ := h
      refine ⟨c', _, Moves.release ho (hgrant rfl) hc', rfl, rfl, fun q => ?_⟩
      refine (count_update _ _ _ _).trans ?_
      simp

lemma Steps.scheduleWork {queue : PacketTypeQueue} {meetsCriteria : Bool}
    (h : s.scheduleWork scid queue meetsCriteria = .ok s') : Steps s scid s' := by
  unfold ConnectionScheduler.scheduleWork at h
  dsimp only at h
  split at h
  · cases h
  · rename_i work rest hqueue
    split at h
    · rename_i hphantom
      obtain ⟨c, hc, h⟩ := exists_of_bind_eq_ok h
      obtain ⟨_, -, h⟩ := exists_of_bind_eq_ok h
      cases h
      refine ⟨_, _, Moves.handlePhantomRequest hqueue hphantom hc, rfl, rfl, fun q => ?_⟩
      refine (count_update _ _ _ _).trans ?_
      simp [ConnectionScheduler.setConnection]
    · obtain ⟨pm, hpm, h⟩ := exists_of_bind_eq_ok h
      split at h
      · rename_i hsend
        rw [Bool.and_eq_true, Bool.and_eq_true] at hsend
        obtain ⟨c, hc, h⟩ := exists_of_bind_eq_ok h
        cases h
        refine ⟨_, _, Moves.schedulePacket hqueue hpm hsend.1.1 hc, rfl, rfl, fun q => ?_⟩
        refine (count_update _ _ _ _).trans ?_
        simp
      · cases h

def Inv (s : ConnectionScheduler) : Prop :=
  (∀ scid ∈ s.scids, (s.connection scid).ordered = true → (s.connection scid).Valid) ∧
  ∀ queue, s.packetQueueWisePktCount queue = ∑ scid ∈ s.scids,
    ((s.connection scid).counted queue : Int)

lemma Inv.steps (h : Inv s) (hscid : scid ∈ s.scids) (hsteps : Steps s scid s') : Inv s' := by
  obtain ⟨c', delta, hmoves, hscids, hconnection, hcount⟩ := hsteps
  refine ⟨fun other hother ho => ?_, fun queue => ?_⟩
  · rw [hscids] at hother
    rw [hconnection] at ho ⊢
    by_cases hne : other = scid
    · subst hne
      rw [update_self] at ho ⊢
      exact hmoves.valid (h.1 other hother) (hmoves.ordered ▸ ho)
    · rw [update_of_ne hne] at ho ⊢
      exact h.1 other hother ho
  · have hrest : ∑ other ∈ s.scids.erase scid, ((s'.connection other).counted queue : Int) =
        ∑ other ∈ s.scids.erase scid, ((s.connection other).counted queue : Int) := by
      refine Finset.sum_congr rfl fun other hother => ?_
      rw [hconnection, update_of_ne (Finset.ne_of_mem_erase hother)]
    have hself : ((s'.connection scid).counted queue : Int) =
        (s.connection scid).counted queue + delta queue := by
      rw [hconnection, update_self, hmoves.counted (h.1 scid hscid)]
    have hold := Finset.add_sum_erase s.scids
      (fun other => ((s.connection other).counted queue : Int)) hscid
    have hnew := Finset.add_sum_erase s.scids
      (fun other => ((s'.connection other).counted queue : Int)) hscid
    rw [hcount, h.2, hscids, ← hnew, ← hold, hrest, hself]
    omega

lemma Inv.init (h : Inv s) (scid : Nat) (ordered : Bool) :
    Inv (s.initConnectionSchedulerQueues scid ordered) := by
  unfold initConnectionSchedulerQueues
  split
  · exact h
  · rename_i hnew
    have hne : ∀ other ∈ s.scids, other ≠ scid := by
      rintro other hother rfl
      exact hnew hother
    refine ⟨fun other hother ho => ?_, fun queue => ?_⟩
    · rcases Finset.mem_insert.mp hother with rfl | hother
      · dsimp only [setConnection]
        rw [update_self]
        exact ⟨fun _ _ => rfl, nofun, fun rsn => ⟨rfl, rfl⟩⟩
      · dsimp only [setConnection] at ho ⊢
        rw [update_of_ne (hne other hother)] at ho ⊢
        exact h.1 other hother ho
    · dsimp only [setConnection]
      rw [Finset.sum_insert hnew, update_self, h.2]
      have hzero : counted { ordered := ordered } queue = 0 := rfl
      rw [hzero, Nat.cast_zero, Int.zero_add]
      refine Finset.sum_congr rfl fun other hother => ?_
      rw [update_of_ne (hne other hother)]

lemma reachable_inv (hr : runs.Reachable C s) : Inv s := by
  refine hr.invariant_of_ok (I := Inv) ?_ ?_
  · rintro _ rfl
    exact ⟨nofun, fun _ => rfl⟩
  · intro s l s' _ h hallowed _ hnext
    cases l with
    | initConnectionSchedulerQueues scid ordered =>
      cases hnext
      exact h.init scid ordered
    | initiateTransaction scid op => exact h.steps hallowed (.initiateTransaction hnext)
    | receiveGrant scid rsn => exact h.steps hallowed (.receiveGrant hnext)
    | reorderCallback scid rsn isGrant =>
      exact h.steps hallowed.1 (.reorderCallback hallowed.2 hnext)
    | updateState scid rsn type stage =>
      obtain ⟨c, hc, hnext⟩ := exists_of_bind_eq_ok hnext
      cases hnext
      exact h.steps hallowed.1 (.setConnection (.updateState hallowed.2 hc))
    | complete scid rsn =>
      obtain ⟨hscid, tr, htr, hstate⟩ := hallowed
      cases hnext
      exact h.steps hscid (.setConnection (.complete htr hstate))
    | opRate scid isOpRateLimited =>
      cases hnext
      exact h.steps hallowed (.setConnection (.of_eq rfl rfl rfl rfl rfl))
    | scheduleWork scid queue meetsCriteria => exact h.steps hallowed (.scheduleWork hnext)

lemma one_le_counted {queue : PacketTypeQueue} {meetsCc meetsOow : PacketType → Bool}
    (hvalid : c.ordered = true → c.Valid)
    (h : c.isHeadEligible queue meetsCc meetsOow = true) : 1 ≤ c.counted queue := by
  unfold isHeadEligible at h
  split at h
  · cases h
  · rename_i work rest hqueue
    have hwait : c.isWaitingForGrant work = false := by
      refine Bool.eq_false_of_not_eq_true fun hw => ?_
      obtain ⟨ho, htype, hdata⟩ := isWaitingForGrant_iff.mp hw
      have hpushData : queue = .pushData := by
        refine (hvalid ho).only queue work.rsn ?_
        rw [← htype, hqueue]
        exact List.mem_cons_self
      rw [if_neg (fun hphantom => absurd (htype.symm.trans hphantom.2) (by decide)),
        hpushData] at h
      split at h
      · cases h
      · cases hpm : c.getPacketMetadata work with
        | error e =>
          simp [hpm] at h
        | ok pm =>
          rw [getPacketMetadata_ok hpm htype] at hdata
          simp [hpm, Option.some.inj hdata] at h
    unfold counted
    rw [hqueue, List.countP_cons, hwait]
    simp

/-- The count of a packet type is the number of its packets that wait in any queue, but for
solicited data that waits for its grant; so a packet type with an eligible head has a positive
weight. -/
theorem packet_counts_exact (hr : runs.Reachable (fun _ _ => True) s) (queue : PacketTypeQueue) :
    s.packetQueueWisePktCount queue = ∑ scid ∈ s.scids,
      (((s.connection scid).queues queue).countP fun work =>
        !(s.connection scid).isWaitingForGrant work : Int) ∧
    0 ≤ s.packetQueueWisePktCount queue ∧
    ∀ scid ∈ s.scids, ∀ meetsCc meetsOow,
      (s.connection scid).isHeadEligible queue meetsCc meetsOow = true →
        1 ≤ s.packetQueueWisePktCount queue ∧ 1 ≤ s.computePacketTypeWeight queue := by
  obtain ⟨hvalid, hcount⟩ := reachable_inv hr
  have hnonneg : ∀ scid ∈ s.scids, (0 : Int) ≤ (s.connection scid).counted queue := fun _ _ =>
    Int.natCast_nonneg _
  refine ⟨hcount queue, ?_, fun scid hscid meetsCc meetsOow heligible => ?_⟩
  · rw [hcount]
    exact Finset.sum_nonneg hnonneg
  · have hone : 1 ≤ s.packetQueueWisePktCount queue := by
      rw [hcount]
      calc (1 : Int) ≤ (s.connection scid).counted queue := by
            exact_mod_cast one_le_counted (hvalid scid hscid) heligible
        _ ≤ _ := Finset.single_le_sum hnonneg hscid
    refine ⟨hone, ?_⟩
    unfold computePacketTypeWeight
    rw [Int.one_le_ceil_iff]
    positivity

/-- A solicited and an unsolicited write on an ordered connection; the grant has arrived and the
phantom request has been served. -/
theorem packet_counts_exact_granted :
    ∃ s, runs.Reachable (fun _ _ => True) s ∧ s.packetQueueWisePktCount .pushData = 2 ∧
      1 ≤ s.computePacketTypeWeight .pushData := by
  obtain ⟨s, hr, hcount, hscid, heligible⟩ := TransitionSystem.Reachable.exists_of_run
    (T := runs) (C := fun _ _ => True) (s := {})
    (P := fun s => s.packetQueueWisePktCount .pushData = 2 ∧ 7 ∈ s.scids ∧
      (s.connection 7).isHeadEligible .pushData (fun _ => true) (fun _ => true) = true)
    [.initConnectionSchedulerQueues 7 true, .initiateTransaction 7 .solicitedWrite,
      .initiateTransaction 7 .unsolicitedWrite, .scheduleWork 7 .pullAndOrderedPushRequest true,
      .opRate 7 false, .receiveGrant 7 0, .scheduleWork 7 .pullAndOrderedPushRequest true,
      .reorderCallback 7 0 true]
    rfl (by decide +kernel)
  exact ⟨s, hr, hcount,
    ((packet_counts_exact hr .pushData).2.2 7 hscid (fun _ => true) (fun _ => true) heligible).2⟩

end ConnectionScheduler

end Isekai.Falcon
