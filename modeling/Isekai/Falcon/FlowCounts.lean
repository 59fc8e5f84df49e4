import Isekai.Falcon.SenderAcks
import Mathlib.Algebra.BigOperators.Group.Finset.Basic
import Mathlib.Algebra.BigOperators.Group.Finset.Piecewise

/-!
# The outstanding packets of each flow

`gen3_outstanding_count` counts the packets in flight by the flows of their latest transmissions.
-/

namespace Isekai.Falcon

open Lib

def inFlight : List SenderAction → List (WorkId × Nat)
  | [] => []
  | .transmit work flow :: log => (work, flow) :: (inFlight log).filter (·.1 ≠ work)
  | .ack work :: log => (inFlight log).filter (·.1 ≠ work)
  | _ :: log => inFlight log

lemma inFlight_nodup (log : List SenderAction) : ((inFlight log).map Prod.fst).Nodup := by
  induction log with
  | nil => exact List.nodup_nil
  | cons a log ih =>
    have hfilter : ∀ work, (((inFlight log).filter (·.1 ≠ work)).map Prod.fst).Nodup := fun work =>
      ih.sublist (List.filter_sublist.map _)
    cases a with
    | transmit work flow =>
      rw [inFlight, List.map_cons, List.nodup_cons]
      refine ⟨fun hmem => ?_, hfilter work⟩
      obtain ⟨y, hy, hwork⟩ := List.mem_map.mp hmem
      exact of_decide_eq_true (List.mem_filter.mp hy).2 hwork
    | ack work => exact hfilter work
    | accept work => exact ih
    | count retransmitted work => exact ih
    | uncount retransmitted work counter => exact ih

lemma inFlight_filter (log : List SenderAction) :
    inFlight (log.filter (·.isPacket)) = inFlight log := by
  induction log with
  | nil => rfl
  | cons a log ih =>
    cases a with
    | transmit work flow => exact congrArg (fun l => (work, flow) :: l.filter (·.1 ≠ work)) ih
    | ack work => exact congrArg (List.filter (·.1 ≠ work)) ih
    | accept work => exact ih
    | count retransmitted work => exact ih
    | uncount retransmitted work counter => exact ih

lemma inFlight_perm {log : List SenderAction} {work : WorkId} {flow : Nat}
    (hmem : (work, flow) ∈ inFlight log) :
    (inFlight log).Perm ((work, flow) :: (inFlight log).filter (·.1 ≠ work)) := by
  have hnodup := inFlight_nodup log
  obtain ⟨l₁, l₂, hsplit⟩ := List.append_of_mem hmem
  rw [hsplit, List.map_append, List.map_cons, List.nodup_append] at hnodup
  obtain ⟨-, hright, hdisjoint⟩ := hnodup
  have hl₁ : l₁.filter (·.1 ≠ work) = l₁ := by
    refine List.filter_eq_self.mpr fun y hy => decide_eq_true ?_
    exact hdisjoint _ (List.mem_map_of_mem hy) _ List.mem_cons_self
  have hl₂ : l₂.filter (·.1 ≠ work) = l₂ := by
    refine List.filter_eq_self.mpr fun y hy => decide_eq_true fun hwork => ?_
    exact (List.nodup_cons.mp hright).1 (List.mem_map.mpr ⟨y, hy, hwork⟩)
  rw [hsplit, List.filter_append, List.filter_cons_of_neg (by simp), hl₁, hl₂]
  exact List.perm_middle

namespace Sender

variable {s s' : Sender} {w : WindowType} {psn : Psn} {work : WorkId}

def flowOf (s : Sender) (work : WorkId) : Nat := s.flowId (s.packets work).flowLabel

/-- The counter of a flow is its number of packets in flight. -/
structure Flows (s : Sender) : Prop where
  context : ∀ work, s.Waits work →
    s.flowIds (windowOf work.type) (s.packets work).psn = s.flowOf work
  mem_iff : ∀ work flow, (work, flow) ∈ inFlight s.log ↔ s.Waits work ∧ flow = s.flowOf work
  count : ∀ flow, s.outstandingCount flow =
    BitVec.ofNat 32 ((inFlight s.log).countP (·.2 = flow))

lemma Flows.keeps (h : s.Flows) (hkeeps : s.Keeps s') : s'.Flows := by
  have hlog : inFlight s'.log = inFlight s.log := by
    rw [← inFlight_filter, hkeeps.log, inFlight_filter]
  have hflowOf : ∀ work, s'.flowOf work = s.flowOf work := fun work => by
    rw [flowOf, flowOf, flowId, flowId, hkeeps.packets, hkeeps.numFlows]
  refine ⟨fun work hwork => ?_, fun work flow => ?_, fun flow => ?_⟩
  · rw [hkeeps.flowIds, hkeeps.packets, hflowOf]
    exact h.context work ((hkeeps.waits work).mp hwork)
  · rw [hlog, hkeeps.waits, hflowOf]
    exact h.mem_iff work flow
  · rw [hlog, hkeeps.outstandingCount]
    exact h.count flow

/-! ## Transmissions -/

lemma countP_moved {l l' : List (WorkId × Nat)} {old : WorkId × Nat} (hl : l.Perm (old :: l'))
    (flow : Nat) :
    BitVec.ofNat 32 (l'.countP (·.2 = flow)) =
      BitVec.ofNat 32 (l.countP (·.2 = flow)) + if old.2 = flow then -1 else 0 := by
  rw [hl.countP_eq, List.countP_cons]
  by_cases hflow : old.2 = flow
  · rw [if_pos hflow, if_pos (decide_eq_true hflow), BitVec.ofNat_add]
    simp [BitVec.add_assoc]
  · simp [hflow]

lemma updateOutstandingCounter_apply (s : Sender) (changed : Nat) (delta : BitVec 32) (flow : Nat) :
    (s.updateOutstandingCounter changed delta).outstandingCount flow =
      s.outstandingCount flow + if changed = flow then delta else 0 := by
  unfold updateOutstandingCounter
  dsimp only
  rw [Function.update_apply]
  by_cases hflow : flow = changed
  · rw [if_pos hflow, if_pos hflow.symm, hflow]
  · rw [if_neg hflow, if_neg (Ne.symm hflow), add_zero]

lemma transmitted_flowOf (s : Sender) (work : WorkId) (chosen : Nat) (work' : WorkId) :
    (s.transmitted work chosen).flowOf work' =
      if work' = work then s.flowId (s.nextLabel work chosen) else s.flowOf work' := by
  change s.flowId ((s.transmitted work chosen).packets work').flowLabel = _
  rw [transmitted_packets]
  split
  · rfl
  · rfl

lemma Flows.transmitted_context (h : s.Flows) (hinv : s.Inv)
    (hwork : (s.packets work).transmitAttempts = 0 ∨ s.Waits work) (chosen : Nat) (work' : WorkId)
    (hwaits : (s.transmitted work chosen).Waits work') :
    (s.transmitted work chosen).flowIds (windowOf work'.type)
      ((s.transmitted work chosen).packets work').psn =
        (s.transmitted work chosen).flowOf work' := by
  rw [transmitted_flowOf]
  change setAt s.flowIds (windowOf work.type) (s.nextPsn work) _ _ _ = _
  by_cases hsame : work' = work
  · rw [if_pos hsame, hsame, transmitted_packets, if_pos rfl, setAt_self]
  · rw [if_neg hsame]
    have hself : (s.transmitted work chosen).Waits work :=
      (transmitted_waits_iff hinv hwork chosen work).mpr (.inl rfl)
    rw [setAt_of_ne, transmitted_packets, if_neg hsame]
    · exact h.context work' (((transmitted_waits_iff hinv hwork chosen work').mp
        hwaits).resolve_left hsame)
    · rintro ⟨hwindow, hpsn⟩
      unfold Waits at hwaits hself
      rw [hwindow, hpsn] at hwaits
      rw [transmitted_packets, if_pos rfl] at hself
      exact hsame (Option.some.inj (hwaits.symm.trans hself))

lemma transmitted_count (s : Sender) (work : WorkId) (chosen flow : Nat) :
    (s.transmitted work chosen).outstandingCount flow =
      s.outstandingCount flow +
        (if 0 < (s.packets work).transmitAttempts ∧ s.flowOf work = flow then -1 else 0) +
        if s.flowId (s.nextLabel work chosen) = flow then 1 else 0 := by
  change (updateOutstandingCounterAfterNewFlowLabel s _ _ _).outstandingCount flow = _
  unfold updateOutstandingCounterAfterNewFlowLabel
  rw [updateOutstandingCounter_apply]
  by_cases hattempts : 0 < (s.packets work).transmitAttempts
  · rw [if_pos (decide_eq_true hattempts), updateOutstandingCounter_apply]
    simp only [hattempts, true_and]
    rfl
  · rw [if_neg (by simpa using hattempts)]
    simp [hattempts]

lemma Flows.transmitted (h : s.Flows) (hinv : s.Inv)
    (hwork : (s.packets work).transmitAttempts = 0 ∨ s.Waits work) (chosen : Nat) :
    ((s.transmitted work chosen).emit
      (.transmit work (s.flowId (s.nextLabel work chosen)))).Flows := by
  refine ⟨h.transmitted_context hinv hwork chosen, fun work' flow => ?_, fun flow => ?_⟩
  · change (work', flow) ∈ (work, s.flowId (s.nextLabel work chosen)) ::
      (inFlight s.log).filter (·.1 ≠ work) ↔
        (s.transmitted work chosen).Waits work' ∧ flow = (s.transmitted work chosen).flowOf work'
    rw [List.mem_cons, List.mem_filter, h.mem_iff, transmitted_waits_iff hinv hwork,
      transmitted_flowOf]
    by_cases hsame : work' = work
    · simp [hsame]
    · simp [hsame]
  · change (s.transmitted work chosen).outstandingCount flow = BitVec.ofNat 32
      (((work, s.flowId (s.nextLabel work chosen)) ::
        (inFlight s.log).filter (·.1 ≠ work)).countP (·.2 = flow))
    rw [transmitted_count, h.count, List.countP_cons, BitVec.ofNat_add]
    congr 1
    · rcases hwork with hfirst | hwaits
      · -- a packet that was never sent is not in flight
        have hnot : ¬ s.Waits work := fun hwaits => (hinv.entries.attempts_pos hwaits).ne' hfirst
        have hfilter : (inFlight s.log).filter (·.1 ≠ work) = inFlight s.log := by
          refine List.filter_eq_self.mpr fun y hy => decide_eq_true ?_
          rintro rfl
          exact hnot ((h.mem_iff y.1 y.2).mp hy).1
        rw [hfilter, if_neg (fun hboth => hboth.1.ne' hfirst), add_zero]
      · have hmem := (h.mem_iff work (s.flowOf work)).mpr ⟨hwaits, rfl⟩
        rw [countP_moved (inFlight_perm hmem) flow]
        simp only [hinv.entries.attempts_pos hwaits, true_and]
    · by_cases hflow : s.flowId (s.nextLabel work chosen) = flow <;> simp [hflow]

lemma Flows.acked (h : s.Flows) (hentries : s.Entries)
    (hcontext : (s.tx w).outstandingPacketContexts psn = some work) :
    ((s.acked w psn work).emit (.ack work)).Flows := by
  obtain ⟨hwindow, hpsn, -⟩ := hentries.context w psn work hcontext
  have hwaits := hentries.waits hcontext
  have hflowIds : (s.acked w psn work).flowIds = s.flowIds := removed_flowIds s w psn work
  have hflowOf : ∀ work', (s.acked w psn work).flowOf work' = s.flowOf work' := by
    intro work'
    have hpackets := congrFun (s.acked_packets w psn work) work'
    unfold flowOf
    unfold Sender.acked removed
    dsimp only
    split <;> rfl
  have hcount : (s.acked w psn work).outstandingCount =
      (s.updateOutstandingCounter (s.flowIds w psn) (-1)).outstandingCount := by
    unfold Sender.acked removed
    dsimp only
    split <;> rfl
  have hlog : inFlight ((s.acked w psn work).emit (.ack work)).log =
      (inFlight s.log).filter (·.1 ≠ work) := by
    unfold Sender.acked removed
    dsimp only
    split <;> rfl
  refine ⟨fun work' hwaits' => ?_, fun work' flow => ?_, fun flow => ?_⟩
  · have hwas := ((acked_waits_iff hentries hcontext work').mp hwaits').1
    change (s.acked w psn work).flowIds _ ((s.acked w psn work).packets work').psn =
      (s.acked w psn work).flowOf work'
    rw [hflowIds, acked_packets, hflowOf]
    exact h.context work' hwas
  · rw [hlog]
    change _ ↔ (s.acked w psn work).Waits work' ∧ flow = (s.acked w psn work).flowOf work'
    rw [List.mem_filter, h.mem_iff, acked_waits_iff hentries hcontext, hflowOf, decide_eq_true_iff]
    exact and_right_comm
  · rw [hlog]
    change (s.acked w psn work).outstandingCount flow = _
    have hmem := (h.mem_iff work (s.flowOf work)).mpr ⟨hwaits, rfl⟩
    have hflow : s.flowIds w psn = s.flowOf work := by
      rw [← hwindow, ← hpsn]
      exact h.context work hwaits
    rw [hcount, updateOutstandingCounter_apply, h.count,
      countP_moved (inFlight_perm hmem) flow, hflow]

/-! ## Runs -/

lemma reachable_flows {decrementOrcOnPullResponse : Bool} {numFlows : Nat}
    {C : Sender → Label → Prop} (h : (runs decrementOrcOnPullResponse numFlows).Reachable C s) :
    s.Flows := by
  refine StepRules.of_reachable ⟨Flows.keeps, Flows.transmitted, Flows.acked⟩ (fun s hs => ?_) h
  obtain ⟨psn, fcwnd, ncwnd, flowLabels, rfl⟩ := hs
  exact ⟨nofun, fun work flow => iff_of_false List.not_mem_nil nofun, fun flow => rfl⟩

lemma acked_numFlows (s : Sender) (w : WindowType) (psn : Psn) (work : WorkId) :
    (s.acked w psn work).numFlows = s.numFlows := by
  unfold acked removed
  dsimp only
  split <;> rfl

lemma reachable_numFlows {decrementOrcOnPullResponse : Bool} {numFlows : Nat}
    {C : Sender → Label → Prop} (h : (runs decrementOrcOnPullResponse numFlows).Reachable C s) :
    s.numFlows = numFlows := by
  have rules : StepRules fun s => s.numFlows = numFlows := by
    refine ⟨fun hs hkeeps => hkeeps.numFlows.trans hs, fun hs _ _ _ => hs, fun hs _ _ => ?_⟩
    exact (acked_numFlows _ _ _ _).trans hs
  refine rules.of_reachable (fun s hs => ?_) h
  obtain ⟨psn, fcwnd, ncwnd, flowLabels, rfl⟩ := hs
  rfl

/-! ## The counts of the flows -/

def slot (s : Sender) (work : WorkId) : Nat :=
  (if windowOf work.type = .request then 0 else txWindowSize) +
    Serial.dist (s.tx (windowOf work.type)).base (s.packets work).psn

lemma Flows.length_le (h : s.Flows) (hinv : s.Inv) :
    (inFlight s.log).length ≤ 2 * txWindowSize := by
  have hwaits : ∀ work ∈ (inFlight s.log).map Prod.fst, s.Waits work ∧
      Serial.dist (s.tx (windowOf work.type)).base (s.packets work).psn < txWindowSize := by
    intro work hwork
    obtain ⟨y, hy, rfl⟩ := List.mem_map.mp hwork
    have hwaits := ((h.mem_iff y.1 y.2).mp hy).1
    exact ⟨hwaits, ((hinv.ranged _).context _ _ hwaits).2.1.trans_le (hinv.ranged _).le⟩
  have hinj : ∀ a ∈ (inFlight s.log).map Prod.fst, ∀ b ∈ (inFlight s.log).map Prod.fst,
      s.slot a = s.slot b → a = b := by
    intro a ha b hb heq
    obtain ⟨hwaitsA, hltA⟩ := hwaits a ha
    obtain ⟨hwaitsB, hltB⟩ := hwaits b hb
    unfold slot at heq
    have hwindow : windowOf a.type = windowOf b.type := by
      cases hwA : windowOf a.type <;> cases hwB : windowOf b.type <;>
        simp only [hwA, hwB, reduceCtorEq, if_true, if_false] at heq hltA hltB ⊢ <;> omega
    rw [hwindow] at heq
    have hpsn := Serial.dist_inj (Nat.add_left_cancel heq)
    unfold Waits at hwaitsA hwaitsB
    rw [hwindow, hpsn, hwaitsB] at hwaitsA
    exact (Option.some.inj hwaitsA).symm
  have hsubset : ((inFlight s.log).map Prod.fst).map s.slot ⊆ List.range (2 * txWindowSize) := by
    intro n hn
    obtain ⟨work, hwork, rfl⟩ := List.mem_map.mp hn
    have hlt := (hwaits work hwork).2
    rw [List.mem_range]
    unfold slot
    split <;> omega
  have hle := ((inFlight_nodup s.log).map_on hinj).subperm hsubset |>.length_le
  simpa using hle

lemma sum_countP {n : Nat} {l : List (WorkId × Nat)} (hl : ∀ y ∈ l, y.2 < n) :
    ∑ flow ∈ Finset.range n, l.countP (·.2 = flow) = l.length := by
  induction l with
  | nil => simp
  | cons y l ih =>
    have hy : y.2 < n := hl y List.mem_cons_self
    have hrest := ih fun z hz => hl z (List.mem_cons_of_mem _ hz)
    simp only [List.countP_cons, Finset.sum_add_distrib, hrest, decide_eq_true_eq,
      List.length_cons]
    rw [Finset.sum_ite_eq, if_pos (Finset.mem_range.mpr hy)]

/-- In every state the count of a flow is the number of packets in flight whose latest transmission
was on the flow. -/
theorem outstanding_count_per_flow {decrementOrcOnPullResponse : Bool} {numFlows : Nat}
    (hflows : 0 < numFlows)
    (h : (runs decrementOrcOnPullResponse numFlows).Reachable (fun _ _ => True) s) :
    (∀ flow, (s.outstandingCount flow).toNat = (inFlight s.log).countP (·.2 = flow)) ∧
      ∑ flow ∈ Finset.range numFlows, (s.outstandingCount flow).toNat =
        (inFlight s.log).length := by
  have hinv := reachable_inv h
  have hcounts := reachable_flows h
  have hnat : ∀ flow, (s.outstandingCount flow).toNat = (inFlight s.log).countP (·.2 = flow) := by
    intro flow
    have hle := hcounts.length_le hinv
    have hcount : (inFlight s.log).countP (·.2 = flow) ≤ (inFlight s.log).length :=
      List.countP_le_length
    rw [hcounts.count, BitVec.toNat_ofNat, Nat.mod_eq_of_lt]
    unfold txWindowSize at hle
    omega
  refine ⟨hnat, ?_⟩
  rw [Finset.sum_congr rfl fun flow _ => hnat flow]
  refine sum_countP fun y hy => ?_
  rw [((hcounts.mem_iff y.1 y.2).mp hy).2, flowOf, flowId, reachable_numFlows h]
  exact Nat.mod_lt _ hflows

/-- Two packets are sent, one is sent again after its flow got another label, and one is
acknowledged. -/
theorem outstanding_count_per_flow_relabelled :
    ∃ s, (runs true 4).Reachable (fun _ _ => True) s ∧ inFlight s.log = [(⟨0, .pullRequest⟩, 3)] ∧
      (s.outstandingCount 3).toNat = 1 ∧ (s.outstandingCount 1).toNat = 0 := by
  obtain ⟨s, hs, hlog⟩ := TransitionSystem.Reachable.exists_of_run
    (T := runs true 4) (C := fun _ _ => True)
    (s := initial true 4 (fun _ => 0) (16 <<< 10) 16 fun flow => BitVec.ofNat 20 flow)
    (P := fun s => inFlight s.log = [(⟨0, .pullRequest⟩, 3)])
    [.transmit ⟨0, .pullRequest⟩ 1, .transmit ⟨1, .pushUnsolicitedData⟩ 1,
      .rue (fun flow => BitVec.ofNat 20 (flow + 2)) (16 <<< 10) 16,
      .retransmitOutstanding false ⟨0, 0, .pullRequest⟩,
      .scheduleRetransmission ⟨0, 0, .pullRequest⟩,
      .piggyback fun w => if w = .data then 1 else 0]
    ⟨_, _, _, _, rfl⟩ (by decide +kernel)
  obtain ⟨hcount, -⟩ := outstanding_count_per_flow (by decide) hs
  refine ⟨s, hs, hlog, ?_, ?_⟩
  · rw [hcount, hlog]
    rfl
  · rw [hcount, hlog]
    rfl

end Sender

end Isekai.Falcon
