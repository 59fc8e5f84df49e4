import Isekai.Rdma.ScheduleSet
import Mathlib.Data.List.TakeWhile

/-!
# The turns of the work scheduler

A turn is the transactions of a work type between two refills of its quanta. The state does not
record turns, so the runs are observed.
-/

namespace Isekai.Rdma

open Falcon (Time)
open Lib Function TransitionSystem RdmaModel

/-- A run up to a state: the queue pairs of the transactions since the last refill of each type, the
latest first, and for each queue pair those that were in the list when its last turn ended and have
not been served since. -/
structure TurnRun where
  model : RdmaModel
  turn : WorkType → List QpId := fun _ => []
  owed : WorkType → QpId → Finset QpId := fun _ _ => ∅

/-- A transaction ends the turn if it leaves no quanta. Other steps may refill quanta. -/
def TurnRun.observe (r : TurnRun) (s' : RdmaModel) : Option QpId → TurnRun
  | some q =>
    let w := r.model.currentWorkType
    { model := s'
      turn := update r.turn w (q :: r.turn w)
      owed := update r.owed w fun q' =>
        if q' = q ∧ s'.Spent w then (s'.wqs w).toFinset.erase q else (r.owed w q').erase q }
  | none =>
    { r with
      model := s'
      turn := fun w => if r.model.Spent w ∧ ¬s'.Spent w then [] else r.turn w }

def turnSystem (c : RdmaConfig) : TransitionSystem TurnRun Label Fatal where
  init r := r = { model := initial c }
  allowed r := r.model.allowed
  next r l := (r.model.next c l).map fun s' => r.observe s' (r.model.sentBy l)

instance (c : RdmaConfig) (r : TurnRun) (l : Label) : Decidable ((turnSystem c).allowed r l) :=
  inferInstanceAs (Decidable (r.model.allowed l))

/-- A turn for which there are quanta left. -/
structure UnderWay (c : RdmaConfig) (list : List QpId) (bytes ops : Int) (turn : List QpId) :
    Prop where
  bytesLeft : 0 < bytes
  opsLeft : 0 < ops
  count : ops + turn.length = maxRdmaOpsPerQuanta
  full : turn = [] → bytes = c.workSchedulerQuanta
  head : ∀ q ∈ turn, list.head? = some q

/-- The list and the quanta of a type with what was observed of it: a queue pair has to wait only
for queue pairs that are before it in the list. -/
structure InTurn (c : RdmaConfig) (list : List QpId) (bytes ops : Int) (turn : List QpId)
    (owed : QpId → Finset QpId) : Prop where
  same : ∀ q ∈ turn, ∀ q' ∈ turn, q = q'
  length : (turn.length : Int) ≤ maxRdmaOpsPerQuanta
  quanta : (bytes = 0 ∧ ops = 0) ∨ UnderWay c list bytes ops turn
  owed : ∀ q, ∀ q' ∈ owed q, q' ∈ list.takeWhile (· ≠ q)

namespace InTurn

variable {c : RdmaConfig} {list rest : List QpId} {bytes ops : Int} {turn : List QpId}
  {owed : QpId → Finset QpId} {q : QpId}

lemma append (h : InTurn c list bytes ops turn owed) (new : List QpId) :
    InTurn c (list ++ new) bytes ops turn owed where
  same := h.same
  length := h.length
  quanta := h.quanta.imp_right fun hturn => ⟨hturn.bytesLeft, hturn.opsLeft, hturn.count,
    hturn.full, fun q hq => by rw [List.head?_append, hturn.head q hq]; rfl⟩
  owed q q' hq' := by
    have hmem := h.owed q q' hq'
    rw [List.takeWhile_append]
    split
    · exact List.mem_append_left _ ((List.takeWhile_sublist _).subset hmem)
    · exact hmem

lemma refill (h : InTurn c list bytes ops turn owed) (hquanta : 0 < c.workSchedulerQuanta) :
    InTurn c list c.workSchedulerQuanta maxRdmaOpsPerQuanta [] owed where
  same := nofun
  length := by decide
  quanta := .inr ⟨hquanta, by decide, rfl, fun _ => rfl, nofun⟩
  owed := h.owed

/-- The turn under way is one of the queue pair at the head and has room for its transaction. -/
lemma serves (h : InTurn c (q :: rest) bytes ops turn owed) (hleft : ¬(bytes = 0 ∧ ops = 0)) :
    (∀ q' ∈ q :: turn, q' = q) ∧ 0 < ops ∧ ops + turn.length = maxRdmaOpsPerQuanta ∧
      (turn = [] → bytes = c.workSchedulerQuanta) ∧ owed q = ∅ := by
  have hturn := h.quanta.resolve_left hleft
  refine ⟨fun q' hq' => ?_, hturn.opsLeft, hturn.count, hturn.full, ?_⟩
  · obtain rfl | hq' := List.mem_cons.mp hq'
    · rfl
    · exact (Option.some.inj (hturn.head q' hq')).symm
  · refine Finset.eq_empty_of_forall_notMem fun q' hq' => ?_
    simpa using h.owed q q' hq'

lemma stay (h : InTurn c (q :: rest) bytes ops turn owed) (hleft : ¬(bytes = 0 ∧ ops = 0))
    {bytes' : Int} (hbytes : 0 < bytes') (hops : 0 < ops - 1) :
    InTurn c (q :: rest) bytes' (ops - 1) (q :: turn) (fun q' => (owed q').erase q) := by
  obtain ⟨hall, -, hcount, -, -⟩ := h.serves hleft
  have hlength : ((q :: turn).length : Int) = turn.length + 1 := by simp
  refine ⟨fun a ha b hb => (hall a ha).trans (hall b hb).symm, by omega,
    .inr ⟨hbytes, hops, by omega, nofun, fun q' hq' => by rw [hall q' hq']; rfl⟩, ?_⟩
  exact fun q' x hx => h.owed q' x (Finset.mem_of_mem_erase hx)

lemma finish (h : InTurn c (q :: rest) bytes ops turn owed) (hleft : ¬(bytes = 0 ∧ ops = 0))
    (hnodup : (q :: rest).Nodup) : InTurn c rest 0 0 (q :: turn)
      (fun q' => if q' = q then rest.toFinset.erase q else (owed q').erase q) := by
  obtain ⟨hall, hops, hcount, -, -⟩ := h.serves hleft
  have hlength : ((q :: turn).length : Int) = turn.length + 1 := by simp
  refine ⟨fun a ha b hb => (hall a ha).trans (hall b hb).symm, by omega, .inl ⟨rfl, rfl⟩,
    fun q' x hx => ?_⟩
  by_cases hqq : q' = q
  · rw [if_pos hqq, Finset.mem_erase, List.mem_toFinset] at hx
    have hnot : ∀ y ∈ rest, y ≠ q' := fun y hy =>
      hqq ▸ ne_of_mem_of_not_mem hy (List.nodup_cons.mp hnodup).1
    rw [List.takeWhile_eq_self_iff.mpr fun y hy => decide_eq_true (hnot y hy)]
    exact hx.2
  · rw [if_neg hqq, Finset.mem_erase] at hx
    have hmem := h.owed q' x hx.2
    rw [List.takeWhile_cons, if_pos (decide_eq_true (Ne.symm hqq))] at hmem
    exact (List.mem_cons.mp hmem).resolve_left hx.1

end InTurn

abbrev TurnRun.InTurn (c : RdmaConfig) (r : TurnRun) (w : WorkType) : Prop :=
  Rdma.InTurn c (r.model.wqs w) (r.model.remainingQuantaBytes w) (r.model.remainingQuantaOps w)
    (r.turn w) (r.owed w)

section Runs

variable {c : RdmaConfig} {r r' : TurnRun} {s' : RdmaModel} {l : Label} {q : QpId} {w : WorkType}

lemma turnSystem_next (h : (turnSystem c).next r l = .ok r') :
    ∃ s', r.model.next c l = .ok s' ∧ r' = r.observe s' (r.model.sentBy l) := by
  simp only [turnSystem] at h
  cases hnext : r.model.next c l with
  | error e =>
    rw [hnext] at h
    cases h
  | ok s' =>
    rw [hnext] at h
    cases h
    exact ⟨s', rfl, rfl⟩

lemma reachable_model
    (h : (turnSystem c).Reachable (fun r l => servesResponseAtOrdLimit c r.model l = false) r) :
    (system c).Reachable (fun s l => servesResponseAtOrdLimit c s l = false) r.model := by
  induction h with
  | init hs =>
    cases hs
    exact .init rfl
  | @step r _ l _ hallowed hC hnext ih =>
    obtain ⟨s', hs', rfl⟩ := turnSystem_next hnext
    have hmodel : (r.observe s' (r.model.sentBy l)).model = s' := by cases r.model.sentBy l <;> rfl
    rw [hmodel]
    exact .step ih hallowed hC hs'

lemma TurnRun.InTurn.grown (h : r.InTurn c w) (hquanta : 0 < c.workSchedulerQuanta)
    (hgrown : Grown c r.model s') : (r.observe s' none).InTurn c w := by
  obtain ⟨new, hwqs, -⟩ := hgrown.lists w
  obtain ⟨hbytes, hops⟩ | ⟨hspent, hbytes, hops⟩ := hgrown.quanta w
  · have hturn : (r.observe s' none).turn w = r.turn w :=
      if_neg fun hrefill => hrefill.2 ⟨hbytes.trans hrefill.1.1, hops.trans hrefill.1.2⟩
    rw [TurnRun.InTurn, hturn]
    change Rdma.InTurn c (s'.wqs w) (s'.remainingQuantaBytes w) (s'.remainingQuantaOps w) _ _
    rw [hwqs, hbytes, hops]
    exact h.append new
  · have hturn : (r.observe s' none).turn w = [] :=
      if_pos ⟨hspent, fun hspent' => absurd (hops.symm.trans hspent'.2) (by decide)⟩
    rw [TurnRun.InTurn, hturn]
    change Rdma.InTurn c (s'.wqs w) (s'.remainingQuantaBytes w) (s'.remainingQuantaOps w) _ _
    rw [hwqs, hbytes, hops]
    exact (h.append new).refill hquanta

/-- A transaction of the queue pair at the head of the list of the current type. -/
lemma TurnRun.InTurn.sends {time : Time} {pending : List (Time × Callback)}
    (h : r.InTurn c w) (hsends : Sends c q { r.model with now := time, pending } s')
    (hhead : (r.model.wqs r.model.currentWorkType).head? = some q)
    (hleft : ¬r.model.Spent r.model.currentWorkType) (hnodup : (r.model.wqs w).Nodup)
    (hbelow : r.model.currentWorkType = .response → ∀ ctx, r.model.qps q = some ctx →
      ctx.atOrdLimit c = false) : (r.observe s' (some q)).InTurn c w := by
  have hturn := hsends.stays_or_pops hbelow
  obtain ⟨ctx, packet, ctx₁, -, -, hsent⟩ := hsends
  by_cases hw : w = r.model.currentWorkType
  · subst hw
    obtain ⟨rest, hrest⟩ := List.head?_eq_some_iff.mp hhead
    rw [TurnRun.InTurn, hrest] at h
    rw [hrest] at hnodup
    simp only [TurnRun.InTurn, TurnRun.observe, update_self]
    obtain ⟨hwqs, -, hbytes, hops⟩ | ⟨⟨head, rest', hqueue, hwqs, -⟩, hspent⟩ := hturn
    · have hnot : ¬s'.Spent r.model.currentWorkType := fun hspent => hops.ne' hspent.2
      have hone : s'.remainingQuantaOps r.model.currentWorkType = _ :=
        hsent.ops.resolve_right hnot
      rw [hwqs, hone]
      simp only [hnot, and_false, if_false]
      rw [hrest]
      exact h.stay hleft hbytes (hone ▸ hops)
    · have hqueue : r.model.wqs r.model.currentWorkType = head :: rest' := hqueue
      cases hrest.symm.trans hqueue
      have hlist : s'.wqs r.model.currentWorkType = rest := by
        rw [hwqs]
        exact update_self ..
      rw [hlist, hspent.1, hspent.2]
      simp only [show s'.Spent r.model.currentWorkType from hspent, and_true]
      exact h.finish hleft hnodup
  · have hlist : s'.wqs w = r.model.wqs w := by
      obtain ⟨hwqs, -⟩ | ⟨⟨_, _, _, hwqs, -⟩, -⟩ := hturn
      · rw [hwqs]
      · rw [hwqs, update_of_ne hw]
    obtain ⟨hbytes, hops⟩ := hsent.otherQuanta w hw
    simp only [TurnRun.InTurn, TurnRun.observe, update_of_ne hw, hlist]
    rw [hbytes, hops]
    exact h

theorem inTurn_of_reachable (hquanta : 0 < c.workSchedulerQuanta)
    (h : (turnSystem c).Reachable
      (fun r l => servesResponseAtOrdLimit c r.model l = false) r) (w : WorkType) :
    r.InTurn c w := by
  refine h.invariant_of_ok (I := fun r => r.InTurn c w) (fun r hr => ?_)
    fun r l r' hreachable hr hallowed hord hnext => ?_
  · cases hr
    exact ⟨nofun, (by decide : (0 : Int) ≤ maxRdmaOpsPerQuanta), .inl ⟨rfl, rfl⟩,
      fun _ q' hq' => absurd hq' (Finset.notMem_empty q')⟩
  · obtain ⟨s', hs', rfl⟩ := turnSystem_next hnext
    have hmodel := reachable_model hreachable
    have hchained := chained_of_reachable hmodel
    have hplaced := placed_of_reachable hmodel fun _ _ hord => hord
    obtain ⟨q, index, randomRnr, time, hsent, rfl, hget, hsends⟩ | ⟨hnone, hgrown⟩ :=
      sends_or_grown hallowed hs'
    · rw [hsent]
      have hmem := List.mem_of_getElem? hget
      obtain ⟨hhead, hleft, -⟩ := hchained.serves time q (List.mem_filter.mpr ⟨hmem, rfl⟩)
      exact hr.sends hsends hhead hleft
        (List.nodup_iff_count_le_one.mpr fun q => (hplaced q).once w)
        (atOrdLimit_of_not_servesResponse hget hord)
    · rw [hnone]
      exact hr.grown hquanta hgrown

end Runs

/-- In every run with positive byte quanta that never serves a response at the limit of outstanding
reads: a turn serves a single queue pair, with at most as many transactions as there are op quanta,
which never underflow; the first transaction of a turn finds full quanta; and a queue pair is looked
up only when every other one that was in the list at the end of its last turn has been served
since. -/
theorem turns_round_robin (c : RdmaConfig) (hquanta : 0 < c.workSchedulerQuanta) (r : TurnRun)
    (h : (turnSystem c).Reachable (fun r l => servesResponseAtOrdLimit c r.model l = false) r) :
    (∀ w, (∀ q ∈ r.turn w, ∀ q' ∈ r.turn w, q = q') ∧
      ((r.turn w).length : Int) ≤ maxRdmaOpsPerQuanta ∧ 0 ≤ r.model.remainingQuantaOps w) ∧
    ∀ w time q, r.model.currentWorkType = w → (time, .sendTransaction q) ∈ r.model.pending →
      (∀ q' ∈ r.turn w, q' = q) ∧ 0 < r.model.remainingQuantaOps w ∧
      (r.turn w = [] → r.model.remainingQuantaBytes w = c.workSchedulerQuanta ∧
        r.model.remainingQuantaOps w = maxRdmaOpsPerQuanta) ∧ r.owed w q = ∅ := by
  have hturns := inTurn_of_reachable hquanta h
  refine ⟨fun w => ⟨(hturns w).same, (hturns w).length, ?_⟩, fun w time q hw hmem => ?_⟩
  · exact (hturns w).quanta.elim (fun hspent => hspent.2.ge) fun hturn => hturn.opsLeft.le
  · subst hw
    obtain ⟨hhead, hleft, -⟩ := (chained_of_reachable (reachable_model h)).serves time q
      (List.mem_filter.mpr ⟨hmem, rfl⟩)
    obtain ⟨rest, hrest⟩ := List.head?_eq_some_iff.mp hhead
    have hturn := hturns r.model.currentWorkType
    rw [TurnRun.InTurn, hrest] at hturn
    obtain ⟨hall, hops, hcount, hfull, howed⟩ := hturn.serves hleft
    refine ⟨fun q' hq' => hall q' (List.mem_cons_of_mem q hq'), hops, fun hnil => ⟨hfull hnil, ?_⟩,
      howed⟩
    rw [hnil] at hcount
    simpa using hcount

/-- Queue pair 1 has a read beyond the limit in its send queue, and like queue pair 2 responses to
send when the global xoff ends. The requests of queue pairs 2 and 3 stay under the request xoff. -/
def responsesAtLimitRun : List Label :=
  [.input 0 (.createRcQp 1 11 1 0 .orderedRc), .input 0 (.createRcQp 2 12 2 0 .orderedRc),
    .input 0 (.createRcQp 3 13 3 0 .orderedRc), .input 0 (.performOp 1 .read [8] false 0),
    .input 0 (.performOp 1 .read [8] false 0), .fire 0 false, .fire 0 false, .fire 0 false,
    .fire 0 false, .fire 0 false, .input 40 (.setXoff true true),
    .input 40 (.handleRxTransaction
      { opcode := .readRequest, destQpId := 1, rsn := 0, sgl := [8] }),
    .input 40 (.handleRxTransaction
      { opcode := .readRequest, destQpId := 1, rsn := 1, sgl := [8] }),
    .input 40 (.performOp 2 .write [8] false 0), .input 40 (.performOp 3 .write [8] false 0),
    .fire 1 false, .input 40 (.pcieIssue 0), .fire 1 false, .fire 1 false, .fire 1 false,
    .fire 2 false, .fire 2 false, .fire 0 false, .fire 0 false, .input 80 (.pcieIssue 0),
    .fire 2 false, .fire 2 false, .fire 1 false, .fire 0 false,
    .input 140 (.handleRxTransaction
      { opcode := .readRequest, destQpId := 2, rsn := 0, sgl := [8] }),
    .fire 0 false, .input 140 (.pcieIssue 0), .fire 1 false, .fire 1 false, .fire 0 false,
    .input 180 (.setXoff true false), .fire 0 false, .fire 0 false, .fire 0 false]

/-- Queue pair 2 was in the response list at the end of a turn of queue pair 1 and has not been
served, and the next transaction begins another response turn of queue pair 1. -/
theorem response_turn_repeats :
    ∃ r, (turnSystem { defaultRdmaConfig with outboundReadQueueDepth := 1 }).Reachable
        (fun _ _ => True) r ∧
      r.model.currentWorkType = .response ∧ r.turn .response = [] ∧ r.owed .response 1 = {2} ∧
      ((turnSystem { defaultRdmaConfig with outboundReadQueueDepth := 1 }).next r
        (.fire 0 false)).toOption.map (·.turn .response) = some [1] :=
  Reachable.exists_of_run responsesAtLimitRun rfl (by decide +kernel)

/-- The same run up to the first response meets the condition. -/
theorem turns_round_robin_responsesAtLimitRun :
    ∃ r : TurnRun, r.model.wqs .response = [1, 2] ∧ r.turn .response = [] ∧
      r.model.remainingQuantaOps .response = maxRdmaOpsPerQuanta ∧ r.owed .response 1 = ∅ := by
  have hrun := Reachable.exists_of_run
    (T := turnSystem { defaultRdmaConfig with outboundReadQueueDepth := 1 })
    (C := fun r l => servesResponseAtOrdLimit
      { defaultRdmaConfig with outboundReadQueueDepth := 1 } r.model l = false)
    (P := fun r => r.model.wqs .response = [1, 2] ∧ r.turn .response = [] ∧
      r.model.currentWorkType = .response ∧
      r.model.pending[0]? = some (180, .sendTransaction 1))
    (responsesAtLimitRun.take 36) rfl (by decide +kernel)
  obtain ⟨r, hr, hlist, hnil, hcurrent, hget⟩ := hrun
  have hturn := (turns_round_robin _ (by decide) r hr).2 _ 180 1 hcurrent
    (List.mem_of_getElem? hget)
  exact ⟨r, hlist, hnil, (hturn.2.2.1 hnil).2, hturn.2.2.2⟩

end Isekai.Rdma
