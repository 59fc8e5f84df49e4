import Isekai.Falcon.SenderAcks

/-!
# Where the packets of a sender are

Every packet that was sent and is not acknowledged waits in one place, and every other packet in
none.
-/

namespace Isekai.Falcon

open Lib TransitionSystem

namespace Sender

variable {s s' : Sender} {w : WindowType} {work : WorkId}

instance : Decidable (s.Waits work) :=
  inferInstanceAs (Decidable (_ = some work))

/-! ## Acknowledgements to the ULP -/

def AckedOnce (s : Sender) : Prop :=
  ∀ work, s.log.count (.ack work) =
    if 0 < (s.packets work).transmitAttempts ∧ ¬s.Waits work then 1 else 0

lemma AckedOnce.keeps (h : s.AckedOnce) (hkeeps : s.Keeps s') : s'.AckedOnce := by
  intro work
  have hcount := congrArg (List.count (.ack work)) hkeeps.log
  rw [List.count_filter rfl, List.count_filter rfl] at hcount
  rw [hcount, h work, hkeeps.packets]
  simp only [hkeeps.waits]

lemma AckedOnce.transmitted (h : s.AckedOnce) (hinv : s.Inv)
    (hwork : (s.packets work).transmitAttempts = 0 ∨ s.Waits work) (chosen : Nat) :
    ((s.transmitted work chosen).emit
      (.transmit work (s.flowId (s.nextLabel work chosen)))).AckedOnce := by
  intro work'
  change (SenderAction.transmit _ _ :: s.log).count _ =
    if 0 < ((s.transmitted work chosen).packets work').transmitAttempts ∧
      ¬(s.transmitted work chosen).Waits work' then 1 else 0
  rw [List.count_cons_of_ne SenderAction.noConfusion, h work']
  simp only [transmitted_waits_iff hinv hwork, transmitted_packets]
  by_cases hsame : work' = work
  · subst hsame
    have hnone : ¬(0 < (s.packets work').transmitAttempts ∧ ¬s.Waits work') := by
      rintro ⟨hpos, hnot⟩
      exact hwork.elim hpos.ne' hnot
    simp [hnone]
  · simp [hsame]

lemma AckedOnce.acked {psn : Psn} (h : s.AckedOnce) (hentries : s.Entries)
    (hcontext : (s.tx w).outstandingPacketContexts psn = some work) :
    ((s.acked w psn work).emit (.ack work)).AckedOnce := by
  have hlog : (s.acked w psn work).log = s.log := by
    unfold Sender.acked removed
    dsimp only
    split <;> rfl
  intro work'
  change (SenderAction.ack work :: (s.acked w psn work).log).count (.ack work') =
    if 0 < ((s.acked w psn work).packets work').transmitAttempts ∧
      ¬(s.acked w psn work).Waits work' then 1 else 0
  rw [hlog, List.count_cons, h work']
  simp only [acked_waits_iff hentries hcontext, acked_packets]
  by_cases hsame : work' = work
  · subst hsame
    have hwaits := hentries.waits hcontext
    simp [hwaits, hentries.attempts_pos hwaits]
  · have hne : work ≠ work' := fun heq => hsame heq.symm
    simp [hsame, hne]

lemma reachable_ackedOnce {decrementOrcOnPullResponse : Bool} {numFlows : Nat}
    {C : Sender → Label → Prop} (h : (runs decrementOrcOnPullResponse numFlows).Reachable C s) :
    s.AckedOnce := by
  refine StepRules.of_reachable ⟨AckedOnce.keeps, AckedOnce.transmitted, AckedOnce.acked⟩
    (fun s hs => ?_) h
  obtain ⟨psn, fcwnd, ncwnd, flowLabels, rfl⟩ := hs
  exact fun work => rfl

/-! ## The early retransmission loop -/

/-- The loop of `InitiateNackBasedEarlyRetransmission`. It takes up the first outstanding packet in
every round, and does not move on from one whose window bit is set. `eligible` has the packets that
pass the tests of their last transmission and of their attempts. -/
def nackBasedEarlyRetransmission (limit : Nat) (eligible : RetransmissionWorkId → Bool)
    (w : WindowType) : Nat → Sender → Option Sender
  | 0, _ => none
  | fuel + 1, s =>
    match (s.tx w).outstandingPackets with
    | [] => some s
    | x :: _ =>
      let index := txBitmapIndex (s.tx w) x.psn
      if index ≥ limit then some s
      else if Bitmap.get (s.tx w).window index then
        nackBasedEarlyRetransmission limit eligible w fuel s
      else if eligible x then
        nackBasedEarlyRetransmission limit eligible w fuel (s.retransmitOutstanding false x)
      else some s

lemma Inv.length_retransmitOutstanding {x : RetransmissionWorkId} (h : s.Inv)
    (hx : x ∈ (s.tx (windowOf x.type)).outstandingPackets) :
    ((s.retransmitOutstanding false x).tx (windowOf x.type)).outstandingPackets.length + 1 =
      (s.tx (windowOf x.type)).outstandingPackets.length := by
  have hmem : x ∈ s.entries (windowOf x.type) := List.mem_append_left _ hx
  have hcounts : (s.requeued x).Recounts (s.retransmitOutstanding false x) :=
    retransmitOutstanding_recounts (h.entries.entry_eq hmem) (h.entries.disjoint hx)
      (h.bit_clear hmem)
  rw [hcounts.outstandingPackets, requeued_tx, if_pos rfl]
  exact (OrderedSet.erase_perm RetransmissionWorkId.equiv_lt_iff hx
    (h.entries.nodup_outstanding _)).length_eq

/-- The loop ends after as many rounds as there are outstanding packets. -/
lemma Inv.nackBasedEarlyRetransmission (h : s.Inv) (limit : Nat)
    (eligible : RetransmissionWorkId → Bool) {fuel : Nat}
    (hfuel : (s.tx w).outstandingPackets.length < fuel) :
    ∃ s', nackBasedEarlyRetransmission limit eligible w fuel s = some s' := by
  induction fuel generalizing s with
  | zero => exact absurd hfuel (Nat.not_lt_zero _)
  | succ fuel ih =>
    unfold Sender.nackBasedEarlyRetransmission
    split
    · exact ⟨s, rfl⟩
    · rename_i x l hl
      have hx : x ∈ (s.tx w).outstandingPackets := hl ▸ List.mem_cons_self
      have hmem : x ∈ s.entries w := List.mem_append_left _ hx
      obtain rfl := h.entries.window_eq hmem
      dsimp only
      rw [h.bit_clear hmem]
      split
      · exact ⟨s, rfl⟩
      · rw [if_neg Bool.false_ne_true]
        split
        · have hlength := h.length_retransmitOutstanding hx
          exact ih (h.retransmitOutstanding false hx) (by omega)
        · exact ⟨s, rfl⟩

/-! ## Results -/

def Unacknowledged (s : Sender) (w : WindowType) (psn : Psn) : Prop :=
  Serial.dist (s.tx w).base psn < Serial.dist (s.tx w).base (s.tx w).next ∧
    Bitmap.get (s.tx w).window (txBitmapIndex (s.tx w) psn) = false

lemma Inv.index_eq (h : s.Inv) {psn : Psn}
    (hlt : Serial.dist (s.tx w).base psn < Serial.dist (s.tx w).base (s.tx w).next) :
    txBitmapIndex (s.tx w) psn = Serial.dist (s.tx w).base psn :=
  Nat.mod_eq_of_lt (hlt.trans_le (h.ranged w).le)

lemma Inv.context_iff (h : s.Inv) (psn : Psn) :
    (∃ work, (s.tx w).outstandingPacketContexts psn = some work) ↔ s.Unacknowledged w psn := by
  have hranged := h.ranged w
  constructor
  · rintro ⟨work, hcontext⟩
    obtain ⟨-, hlt, hclear⟩ := hranged.context _ _ hcontext
    exact ⟨hlt, by rwa [h.index_eq hlt]⟩
  · rintro ⟨hlt, hclear⟩
    rw [h.index_eq hlt] at hclear
    obtain ⟨work, hcontext⟩ := hranged.covered _ (Nat.zero_le _) hlt hclear
    rw [Serial.shift_dist] at hcontext
    exact ⟨work, hcontext⟩

/-- A sequence number that waits to be acknowledged has a context and is in one of the set of
outstanding packets and the queue of the retransmission scheduler, and any other is in neither.
Every packet that was sent is acknowledged to the ULP once, when it loses its context. So the loop
of early retransmissions ends. -/
theorem sent_packets_partitioned {decrementOrcOnPullResponse : Bool} {numFlows : Nat}
    (h : (runs decrementOrcOnPullResponse numFlows).Reachable (fun _ _ => True) s) :
    (∀ w psn, s.Unacknowledged w psn →
      (∃ work, (s.tx w).outstandingPacketContexts psn = some work) ∧
      Xor (psn ∈ (s.tx w).outstandingPackets.map (·.psn))
        (psn ∈ (s.retransmissionQueues w).map (·.psn))) ∧
    (∀ w psn, ¬s.Unacknowledged w psn →
      (s.tx w).outstandingPacketContexts psn = none ∧
      psn ∉ (s.tx w).outstandingPackets.map (·.psn) ∧
      psn ∉ (s.retransmissionQueues w).map (·.psn)) ∧
    (∀ work, s.log.count (.ack work) =
      if 0 < (s.packets work).transmitAttempts ∧ ¬s.Waits work then 1 else 0) ∧
    ∀ w limit eligible, ∃ s', nackBasedEarlyRetransmission limit eligible w
      ((s.tx w).outstandingPackets.length + 1) s = some s' := by
  have hinv := reachable_inv h
  refine ⟨fun w psn hun => ?_, fun w psn hnot => ?_, reachable_ackedOnce h,
    fun w limit eligible => ?_⟩
  · obtain ⟨work, hcontext⟩ := (hinv.context_iff psn).mpr hun
    refine ⟨⟨work, hcontext⟩, ?_⟩
    rcases List.mem_append.mp (hinv.entries.mem_of_context hcontext) with hout | hqueue
    · exact .inl ⟨List.mem_map_of_mem hout, hinv.entries.disjoint hout⟩
    · refine .inr ⟨List.mem_map_of_mem hqueue, fun hmem => ?_⟩
      obtain ⟨x, hx, hpsn⟩ := List.mem_map.mp hmem
      exact hinv.entries.disjoint hx (hpsn ▸ List.mem_map_of_mem hqueue)
  · have hnone : ∀ x ∈ s.entries w, x.psn ≠ psn := by
      rintro x hx rfl
      exact hnot ((hinv.context_iff _).mp ⟨_, (hinv.entries.mem_iff w x).mp hx⟩)
    refine ⟨?_, fun hmem => ?_, fun hmem => ?_⟩
    · cases hcontext : (s.tx w).outstandingPacketContexts psn with
      | none => rfl
      | some work => exact absurd ((hinv.context_iff psn).mp ⟨work, hcontext⟩) hnot
    · obtain ⟨x, hx, hpsn⟩ := List.mem_map.mp hmem
      exact hnone x (List.mem_append_left _ hx) hpsn
    · obtain ⟨x, hx, hpsn⟩ := List.mem_map.mp hmem
      exact hnone x (List.mem_append_right _ hx) hpsn
  · exact hinv.nackBasedEarlyRetransmission limit eligible (Nat.lt_succ_self _)

/-- Of two packets the second one is acknowledged and the first one waits to be retransmitted. -/
theorem sent_packets_partitioned_requeued :
    ∃ s, (runs false 1).Reachable (fun _ _ => True) s ∧
      s.log.count (.ack ⟨1, .pullRequest⟩) = 1 ∧ s.log.count (.ack ⟨0, .pullRequest⟩) = 0 ∧
      Xor (7 ∈ (s.tx .request).outstandingPackets.map (·.psn))
        (7 ∈ (s.retransmissionQueues .request).map (·.psn)) := by
  obtain ⟨s, hs, hwaiting, hacked, hfirst⟩ := Reachable.exists_of_run
    (T := runs false 1) (C := fun _ _ => True)
    (s := initial false 1 (fun _ => 7) (16 <<< 10) 16 fun flow => BitVec.ofNat 20 flow)
    (P := fun s => (Serial.dist (s.tx .request).base 7 <
        Serial.dist (s.tx .request).base (s.tx .request).next ∧
        Bitmap.get (s.tx .request).window (txBitmapIndex (s.tx .request) 7) = false) ∧
      (0 < (s.packets ⟨1, .pullRequest⟩).transmitAttempts ∧ ¬s.Waits ⟨1, .pullRequest⟩) ∧
      s.Waits ⟨0, .pullRequest⟩)
    [.transmit ⟨0, .pullRequest⟩ 0, .transmit ⟨1, .pullRequest⟩ 0,
      .retransmitOutstanding false ⟨0, 7, .pullRequest⟩,
      .ack { bpsn := fun _ => 7, isEack := true, own := fun _ => false,
             ackBitmap := fun w => if w = .request then 2 else 0, receivedBitmap := 0,
             timestamp1 := 0 }]
    ⟨_, _, _, _, rfl⟩ (by decide +kernel)
  obtain ⟨hpartition, -, hcount, -⟩ := sent_packets_partitioned hs
  refine ⟨s, hs, ?_, ?_, (hpartition .request 7 hwaiting).2⟩
  · rw [hcount, if_pos hacked]
  · rw [hcount, if_neg fun hnot => hnot.2 hfirst]

/-! ## The open window -/

lemma transmitPacket_window (s : Sender) (chosen : Nat)
    (hfirst : (s.packets work).transmitAttempts = 0) :
    (s.transmitPacket work chosen).fabricCongestionWindow = s.fabricCongestionWindow ∧
      ((s.transmitPacket work chosen).tx (windowOf work.type)).base =
        (s.tx (windowOf work.type)).base ∧
      ((s.transmitPacket work chosen).tx (windowOf work.type)).next =
        (s.tx (windowOf work.type)).next + 1 := by
  have hcounts := incrementRequestCount_recounts (s.transmitted work chosen)
    (0 < (s.packets work).transmitAttempts) work
  have hcore := hcounts.core (windowOf work.type)
  rw [transmitted_tx] at hcore
  have hbase := congrArg TransmitterReliabilityWindowMetadata.base hcore
  have hnext := congrArg TransmitterReliabilityWindowMetadata.next hcore
  rw [transmitPacket_eq]
  refine ⟨?_, hbase, hnext.trans (if_pos hfirst)⟩
  obtain ⟨tx, l, heq, -⟩ := hcounts
  rw [heq]
  rfl

lemma transmitPacket_packets_of_ne (s : Sender) (chosen : Nat) {work' : WorkId}
    (hne : work' ≠ work) :
    (s.transmitPacket work chosen).packets work' = s.packets work' := by
  have hpackets := (incrementRequestCount_recounts (s.transmitted work chosen)
    (0 < (s.packets work).transmitAttempts) work).packets
  rw [transmitPacket_eq]
  exact (congrFun hpackets work').trans (Function.update_of_ne hne _ _)

lemma getOpenFcwnd_transmitPacket {n : Nat}
    (hopen : s.getOpenFcwnd (windowOf work.type) = .ok (n + 1))
    (hfirst : (s.packets work).transmitAttempts = 0) (chosen : Nat) :
    (s.transmitPacket work chosen).getOpenFcwnd (windowOf work.type) = .ok n := by
  obtain ⟨hfcwnd, hbase, hnext⟩ := s.transmitPacket_window chosen hfirst
  unfold getOpenFcwnd at hopen ⊢
  dsimp only at hopen ⊢
  rw [hfcwnd, hbase, hnext]
  split at hopen
  · rename_i hrounded
    rw [if_pos hrounded]
    set bound := Serial.shift (s.tx (windowOf work.type)).base
      (roundedFcwnd s.fabricCongestionWindow)
    set next := (s.tx (windowOf work.type)).next
    split at hopen
    · cases Except.ok.inj hopen
    · rename_i hlt
      have hdist : Serial.dist next bound = n + 1 := Except.ok.inj hopen
      have hmoved : Serial.dist (next + 1) bound = n := by
        have hshift := Serial.dist_shift_base next bound (d := 1) (by omega)
        rw [hdist] at hshift
        exact hshift
      have hhalf : 2 * n < 2 ^ 32 := by
        have hwrap := Serial.dist_shift_base_of_lt next next (d := n + 1) (by simp)
          (hdist ▸ Serial.dist_lt next bound)
        rw [← hdist, Serial.shift_dist, Serial.dist_self, hdist] at hwrap
        have hseq : seqLT next bound = true := by simpa using hlt
        rw [seqLT, Serial.lt_iff, hwrap] at hseq
        omega
      by_cases hn : n = 0
      · have heq : bound = next + 1 := Serial.dist_eq_zero.mp (hmoved.trans hn)
        rw [heq, if_pos (by simp [seqLT]), hn]
        rfl
      · have hseq : seqLT (next + 1) bound = true := by
          rw [seqLT, Serial.lt_iff_dist (next + 1) (by simp) (by omega), hmoved, Serial.dist_self]
          omega
        rw [hseq, if_neg (by simp), hmoved]
        rfl
  · cases hopen

/-- The sequence numbers in use fit into the transmit window, so that their bitmap indices differ;
and an open window of `n` packets takes `n` transmissions before it is closed. -/
theorem tx_window_occupancy {decrementOrcOnPullResponse : Bool} {numFlows : Nat}
    (h : (runs decrementOrcOnPullResponse numFlows).Reachable (fun _ _ => True) s)
    (w : WindowType) :
    Serial.dist (s.tx w).base (s.tx w).next ≤ txWindowSize ∧
    (∀ psn psn', Serial.dist (s.tx w).base psn < Serial.dist (s.tx w).base (s.tx w).next →
      Serial.dist (s.tx w).base psn' < Serial.dist (s.tx w).base (s.tx w).next →
      txBitmapIndex (s.tx w) psn = txBitmapIndex (s.tx w) psn' → psn = psn') ∧
    ∀ n, s.getOpenFcwnd w = .ok n → ∀ packets : List (WorkId × Nat),
      (∀ p ∈ packets, windowOf p.1.type = w ∧ (s.packets p.1).transmitAttempts = 0) →
      (packets.map Prod.fst).Nodup → packets.length ≤ n →
      (packets.foldl (fun s p => s.transmitPacket p.1 p.2) s).getOpenFcwnd w =
        .ok (n - packets.length) := by
  have hinv := reachable_inv h
  refine ⟨(hinv.ranged w).le, fun psn psn' hpsn hpsn' hindex => ?_,
    fun n hopen packets hpackets hnodup hlength => ?_⟩
  · rw [hinv.index_eq hpsn, hinv.index_eq hpsn'] at hindex
    exact Serial.dist_inj hindex
  · clear h hinv
    induction packets generalizing s n with
    | nil => exact hopen
    | cons p packets ih =>
      obtain ⟨⟨rfl, hfirst⟩, hrest⟩ := List.forall_mem_cons.mp hpackets
      obtain ⟨hnew, hnodup⟩ := List.nodup_cons.mp hnodup
      obtain ⟨n, rfl⟩ := Nat.exists_eq_add_one_of_ne_zero (Nat.ne_zero_of_lt hlength)
      rw [List.length_cons, Nat.add_sub_add_right]
      refine ih n (getOpenFcwnd_transmitPacket hopen hfirst p.2) (fun q hq => ?_) hnodup
        (Nat.le_of_succ_le_succ hlength)
      obtain ⟨hwindow, hunsent⟩ := hrest q hq
      have hne : q.1 ≠ p.1 := fun heq => hnew (heq ▸ List.mem_map_of_mem hq)
      exact ⟨hwindow, s.transmitPacket_packets_of_ne p.2 hne ▸ hunsent⟩

/-- A window below one packet that wraps around admits one packet. -/
theorem tx_window_occupancy_wrapped :
    ∃ s, (runs false 1).Reachable (fun _ _ => True) s ∧
      (s.tx .request).next = 0 ∧ (s.tx .request).base = 0 ∧
      (s.transmitPacket ⟨1, .pullRequest⟩ 0).getOpenFcwnd .request = .ok 0 := by
  obtain ⟨s, hs, hnext, hbase, hfcwnd, hunsent⟩ := Reachable.exists_of_run
    (T := runs false 1) (C := fun _ _ => True)
    (s := initial false 1 (fun _ => -1) 1 16 fun flow => BitVec.ofNat 20 flow)
    (P := fun s => (s.tx .request).next = 0 ∧ (s.tx .request).base = 0 ∧
      s.fabricCongestionWindow = 1 ∧ (s.packets ⟨1, .pullRequest⟩).transmitAttempts = 0)
    [.transmit ⟨0, .pullRequest⟩ 0, .piggyback fun w => if w = .request then 0 else -1]
    ⟨_, _, _, _, rfl⟩ (by decide +kernel)
  refine ⟨s, hs, hnext, hbase, ?_⟩
  have hopen : s.getOpenFcwnd .request = .ok 1 := by
    unfold getOpenFcwnd
    rw [hnext, hbase, hfcwnd]
    rfl
  exact (tx_window_occupancy hs .request).2.2 1 hopen [(⟨1, .pullRequest⟩, 0)]
    (by simpa using ⟨rfl, hunsent⟩) (by simp) (by simp)

end Sender

end Isekai.Falcon
