import Isekai.Falcon.SenderFrames

/-!
# The transmit windows of a sender

Every sequence number between the base and the next one has either its window bit set or a context.
-/

namespace Isekai.Falcon

open Lib Function

lemma seqGT_iff (a b : Psn) : seqGT a b = true ↔
    0 < Serial.dist b a ∧ Serial.dist b a < 2 ^ 31 := by
  have hpos : (a - b).toInt > 0 ↔ 0 < (a - b).toNat ∧ 2 * (a - b).toNat < 2 ^ 32 := by
    rw [BitVec.toInt_eq_toNat_cond]
    split <;> omega
  rw [seqGT, decide_eq_true_iff, hpos, Serial.dist]
  omega

namespace TransmitterReliabilityWindowMetadata

variable {tx tx' : TransmitterReliabilityWindowMetadata} {k i : Nat} {psn : Psn} {work : WorkId}

/-- Bits and contexts are between `base + k` and `next`. -/
structure Ranged (tx : TransmitterReliabilityWindowMetadata) (k : Nat) : Prop where
  le : Serial.dist tx.base tx.next ≤ txWindowSize
  bit : ∀ i, Bitmap.get tx.window i = true → i < Serial.dist tx.base tx.next
  context : ∀ psn work, tx.outstandingPacketContexts psn = some work →
    k ≤ Serial.dist tx.base psn ∧ Serial.dist tx.base psn < Serial.dist tx.base tx.next ∧
      Bitmap.get tx.window (Serial.dist tx.base psn) = false
  covered : ∀ i, k ≤ i → i < Serial.dist tx.base tx.next → Bitmap.get tx.window i = false →
    ∃ work, tx.outstandingPacketContexts (Serial.shift tx.base i) = some work

lemma Ranged.congr (h : tx.Ranged k) (hbase : tx'.base = tx.base) (hnext : tx'.next = tx.next)
    (hwindow : tx'.window = tx.window)
    (hcontexts : tx'.outstandingPacketContexts = tx.outstandingPacketContexts) : tx'.Ranged k := by
  constructor
  · rw [hbase, hnext]
    exact h.le
  · rw [hbase, hnext, hwindow]
    exact h.bit
  · rw [hbase, hnext, hwindow, hcontexts]
    exact h.context
  · rw [hbase, hnext, hwindow, hcontexts]
    exact h.covered

lemma Ranged.core (h : tx.Ranged k) (hcore : tx'.core = tx.core) : tx'.Ranged k := by
  have hbase := congrArg TransmitterReliabilityWindowMetadata.base hcore
  have hnext := congrArg TransmitterReliabilityWindowMetadata.next hcore
  have hwindow := congrArg TransmitterReliabilityWindowMetadata.window hcore
  have hcontexts := congrArg TransmitterReliabilityWindowMetadata.outstandingPacketContexts hcore
  exact h.congr hbase hnext hwindow hcontexts

lemma Ranged.lt (h : tx.Ranged k) : Serial.dist tx.base tx.next + 1 < 2 ^ 32 := by
  have hle := h.le
  unfold txWindowSize at hle
  omega

lemma Ranged.next_free (h : tx.Ranged k) : tx.outstandingPacketContexts tx.next = none := by
  cases hcontext : tx.outstandingPacketContexts tx.next with
  | none => rfl
  | some work => exact absurd (h.context _ _ hcontext).2.1 (lt_irrefl _)

lemma Ranged.send (h : tx.Ranged 0) (hopen : Serial.dist tx.base tx.next < txWindowSize)
    {l : List RetransmissionWorkId} :
    Ranged { tx with
      next := tx.next + 1
      outstandingPackets := l
      outstandingPacketContexts :=
        update tx.outstandingPacketContexts tx.next (some work) } 0 := by
  have hsucc : Serial.dist tx.base (tx.next + 1) = Serial.dist tx.base tx.next + 1 :=
    Serial.dist_succ h.lt
  have hclear : Bitmap.get tx.window (Serial.dist tx.base tx.next) = false := by
    by_contra hset
    exact absurd (h.bit _ (Bool.eq_true_of_not_eq_false hset)) (lt_irrefl _)
  refine ⟨hsucc ▸ hopen, fun i hi => ?_, fun psn' work' hcontext => ?_, fun i _ hi hbit => ?_⟩
  · rw [hsucc]
    exact Nat.lt_succ_of_lt (h.bit i hi)
  · dsimp only at hcontext ⊢
    rw [hsucc]
    by_cases hpsn : psn' = tx.next
    · rw [hpsn]
      exact ⟨Nat.zero_le _, Nat.lt_succ_self _, hclear⟩
    · rw [update_of_ne hpsn] at hcontext
      obtain ⟨-, hlt, hbit⟩ := h.context _ _ hcontext
      exact ⟨Nat.zero_le _, Nat.lt_succ_of_lt hlt, hbit⟩
  · dsimp only at hi hbit ⊢
    rw [hsucc] at hi
    rcases Nat.lt_succ_iff_lt_or_eq.mp hi with hi | rfl
    · have hne : Serial.shift tx.base i ≠ tx.next := by
        intro heq
        rw [← heq, Serial.dist_shift _ (by have := h.lt; omega)] at hi
        exact lt_irrefl _ hi
      rw [update_of_ne hne]
      exact h.covered i (Nat.zero_le _) hi hbit
    · rw [Serial.shift_dist, update_self]
      exact ⟨work, rfl⟩

lemma Ranged.pass (h : tx.Ranged k) (hk : k < Serial.dist tx.base tx.next)
    {l : List RetransmissionWorkId} :
    Ranged { tx with
      outstandingPackets := l
      outstandingPacketContexts :=
        update tx.outstandingPacketContexts (Serial.shift tx.base k) none } (k + 1) := by
  have hlt := h.lt
  refine ⟨h.le, h.bit, fun psn' work' hcontext => ?_, fun i hki hi hbit => ?_⟩
  · dsimp only at hcontext ⊢
    by_cases hpsn : psn' = Serial.shift tx.base k
    · rw [hpsn, update_self] at hcontext
      exact absurd hcontext nofun
    · rw [update_of_ne hpsn] at hcontext
      obtain ⟨hle, hrest⟩ := h.context _ _ hcontext
      refine ⟨Nat.lt_of_le_of_ne hle fun heq => hpsn ?_, hrest⟩
      rw [heq, Serial.shift_dist]
  · dsimp only at hi hbit ⊢
    have hne : Serial.shift tx.base i ≠ Serial.shift tx.base k := by
      intro heq
      have hik := Serial.shift_injOn tx.base (by omega) (by omega) heq
      omega
    rw [update_of_ne hne]
    exact h.covered i (by omega) hi hbit

lemma Ranged.skip (h : tx.Ranged k) (hbit : Bitmap.get tx.window k = true) : tx.Ranged (k + 1) := by
  refine ⟨h.le, h.bit, fun psn' work' hcontext => ?_, fun i hki => h.covered i (by omega)⟩
  obtain ⟨hle, hlt, hclear⟩ := h.context _ _ hcontext
  refine ⟨Nat.lt_of_le_of_ne hle fun heq => ?_, hlt, hclear⟩
  rw [← heq, hbit] at hclear
  exact absurd hclear nofun

lemma Ranged.mark (h : tx.Ranged 0) (hcontext : tx.outstandingPacketContexts psn = some work)
    {l : List RetransmissionWorkId} :
    Ranged { tx with
      window := Bitmap.set tx.window (Serial.dist tx.base psn) true
      outstandingPackets := l
      outstandingPacketContexts := update tx.outstandingPacketContexts psn none } 0 := by
  have hlt := (h.context _ _ hcontext).2.1
  have hset := Bitmap.get_set tx.window (hlt.trans_le h.le) true
  refine ⟨h.le, fun i hi => ?_, fun psn' work' hcontext' => ?_, fun i _ hi hbit => ?_⟩
  · rw [hset] at hi
    split at hi
    · rename_i heq
      exact heq ▸ hlt
    · exact h.bit i hi
  · dsimp only at hcontext' ⊢
    by_cases hpsn : psn' = psn
    · rw [hpsn, update_self] at hcontext'
      exact absurd hcontext' nofun
    · rw [update_of_ne hpsn] at hcontext'
      obtain ⟨hle, hlt', hclear⟩ := h.context _ _ hcontext'
      refine ⟨hle, hlt', ?_⟩
      rw [hset, if_neg fun heq => hpsn (Serial.dist_inj heq)]
      exact hclear
  · dsimp only at hi hbit ⊢
    rw [hset] at hbit
    split at hbit
    · exact absurd hbit nofun
    · rename_i hne
      have hpsn : Serial.shift tx.base i ≠ psn := by
        intro heq
        apply hne
        rw [← heq, Serial.dist_shift _ (by have := h.lt; omega)]
      rw [update_of_ne hpsn]
      exact h.covered i (Nat.zero_le _) hi hbit

lemma Ranged.shift {delta : Nat} (h : tx.Ranged k) (hk : k ≤ delta)
    (hdelta : delta ≤ Serial.dist tx.base tx.next)
    (hlow : ∀ psn work, tx.outstandingPacketContexts psn = some work →
      delta ≤ Serial.dist tx.base psn) :
    Ranged { tx with
      window := Bitmap.rightShift tx.window delta
      base := Serial.shift tx.base delta } 0 := by
  have hnext : Serial.dist (Serial.shift tx.base delta) tx.next =
      Serial.dist tx.base tx.next - delta := Serial.dist_shift_base _ _ hdelta
  refine ⟨?_, fun i hi => ?_, fun psn' work' hcontext => ?_, fun i _ hi hbit => ?_⟩
  · dsimp only
    rw [hnext]
    exact (Nat.sub_le _ _).trans h.le
  · dsimp only at hi ⊢
    rw [Bitmap.get_rightShift] at hi
    have := h.bit _ hi
    omega
  · dsimp only at hcontext ⊢
    obtain ⟨-, hlt, hclear⟩ := h.context _ _ hcontext
    have hge := hlow _ _ hcontext
    rw [hnext, Serial.dist_shift_base _ _ hge, Bitmap.get_rightShift]
    refine ⟨Nat.zero_le _, by omega, ?_⟩
    rw [Nat.add_sub_cancel' hge]
    exact hclear
  · dsimp only at hi hbit ⊢
    rw [Bitmap.get_rightShift] at hbit
    rw [Serial.shift_add]
    exact h.covered _ (by omega) (by omega) hbit

end TransmitterReliabilityWindowMetadata

namespace Sender

variable {s s' : Sender} {w : WindowType} {psn : Psn} {work : WorkId} {x : RetransmissionWorkId}

/-! ## The entries of unacknowledged packets -/

def entries (s : Sender) (w : WindowType) : List RetransmissionWorkId :=
  (s.tx w).outstandingPackets ++ s.retransmissionQueues w

/-- Outstanding and queued packets are those with a context. -/
structure Entries (s : Sender) : Prop where
  mem_iff : ∀ w x, x ∈ s.entries w ↔
    (s.tx w).outstandingPacketContexts x.psn = some ⟨x.rsn, x.type⟩
  nodup : ∀ w, ((s.entries w).map (·.psn)).Nodup
  context : ∀ w psn work, (s.tx w).outstandingPacketContexts psn = some work →
    windowOf work.type = w ∧ (s.packets work).psn = psn ∧ 0 < (s.packets work).transmitAttempts

lemma Entries.perm (h : s.Entries) (hentries : ∀ w, (s'.entries w).Perm (s.entries w))
    (hcontexts : ∀ w, (s'.tx w).outstandingPacketContexts = (s.tx w).outstandingPacketContexts)
    (hpackets : ∀ work, (s'.packets work).psn = (s.packets work).psn ∧
      (s.packets work).transmitAttempts ≤ (s'.packets work).transmitAttempts) : s'.Entries := by
  refine ⟨fun w x => ?_, fun w => ?_, fun w psn work hcontext => ?_⟩
  · rw [(hentries w).mem_iff, hcontexts]
    exact h.mem_iff w x
  · rw [((hentries w).map _).nodup_iff]
    exact h.nodup w
  · rw [hcontexts] at hcontext
    obtain ⟨hwindow, hpsn, hattempts⟩ := h.context w psn work hcontext
    exact ⟨hwindow, (hpackets work).1.trans hpsn, hattempts.trans_le (hpackets work).2⟩

lemma Recounts.contexts (h : s.Recounts s') (w : WindowType) :
    (s'.tx w).outstandingPacketContexts = (s.tx w).outstandingPacketContexts := by
  obtain ⟨tx, l, rfl, hcore, -⟩ := h
  have heq := congrArg TransmitterReliabilityWindowMetadata.outstandingPacketContexts (hcore w)
  exact heq

lemma Recounts.packets (h : s.Recounts s') : s'.packets = s.packets := by
  obtain ⟨tx, l, rfl, -⟩ := h
  rfl

lemma Recounts.retransmissionQueues (h : s.Recounts s') :
    s'.retransmissionQueues = s.retransmissionQueues := by
  obtain ⟨tx, l, rfl, -⟩ := h
  rfl

lemma Recounts.core (h : s.Recounts s') (w : WindowType) : (s'.tx w).core = (s.tx w).core := by
  obtain ⟨tx, l, rfl, hcore, -⟩ := h
  exact hcore w

lemma Recounts.entries (h : s.Recounts s') (w : WindowType) : s'.entries w = s.entries w := by
  unfold Sender.entries
  rw [h.outstandingPackets, h.retransmissionQueues]

lemma Entries.recounts (h : s.Entries) (hcounts : s.Recounts s') : s'.Entries := by
  refine h.perm (fun w => ?_) hcounts.contexts fun work => ?_
  · rw [hcounts.entries]
  · rw [hcounts.packets]
    exact ⟨rfl, le_rfl⟩

lemma Entries.emit (h : s.Entries) (a : SenderAction) : (s.emit a).Entries :=
  ⟨h.mem_iff, h.nodup, h.context⟩

lemma Entries.nodup_outstanding (h : s.Entries) (w : WindowType) :
    ((s.tx w).outstandingPackets.map (·.psn)).Nodup :=
  (h.nodup w).sublist ((List.sublist_append_left _ _).map _)

lemma Entries.nodup_queue (h : s.Entries) (w : WindowType) :
    ((s.retransmissionQueues w).map (·.psn)).Nodup :=
  (h.nodup w).sublist ((List.sublist_append_right _ _).map _)

lemma Entries.window_eq (h : s.Entries) (hx : x ∈ s.entries w) : windowOf x.type = w :=
  (h.context _ _ _ ((h.mem_iff w x).mp hx)).1

lemma Entries.entry_eq (h : s.Entries) (hx : x ∈ s.entries w) :
    s.retransmissionWorkId ⟨x.rsn, x.type⟩ = x := by
  have hpsn := (h.context _ _ _ ((h.mem_iff w x).mp hx)).2.1
  unfold retransmissionWorkId
  rw [hpsn]

lemma Entries.disjoint (h : s.Entries) (hx : x ∈ (s.tx w).outstandingPackets) :
    x.psn ∉ (s.retransmissionQueues w).map (·.psn) := by
  have hnodup := h.nodup w
  rw [entries, List.map_append] at hnodup
  exact fun hq => List.disjoint_of_nodup_append hnodup (List.mem_map_of_mem hx) hq

/-! ## Transmissions -/

structure Inv (s : Sender) : Prop where
  entries : s.Entries
  ranged : ∀ w, (s.tx w).Ranged 0

lemma Inv.recounts (h : s.Inv) (hcounts : s.Recounts s') : s'.Inv :=
  ⟨h.entries.recounts hcounts, fun w => (h.ranged w).core (hcounts.core w)⟩

lemma Inv.emit (h : s.Inv) (a : SenderAction) : (s.emit a).Inv := ⟨h.entries.emit a, h.ranged⟩

lemma transmitted_tx (s : Sender) (work : WorkId) (chosen : Nat) :
    (s.transmitted work chosen).tx (windowOf work.type) = s.nextTx work :=
  update_self _ _ _

lemma transmitted_tx_of_ne (s : Sender) {work : WorkId} (chosen : Nat)
    (hw : w ≠ windowOf work.type) :
    (s.transmitted work chosen).tx w = s.tx w :=
  update_of_ne hw _ _

lemma getOpenFcwnd_of_gating {type : PacketType}
    (h : s.meetsInitialTransmissionCCTxGatingCriteria type = .ok true) :
    ∃ n, s.getOpenFcwnd (windowOf type) = .ok n ∧ 0 < n ∧ (isOutstandingRequestType type = true →
      (s.tx (windowOf type)).outstandingRequestsCounter < s.nicCongestionWindow) := by
  obtain ⟨n, hopen, hrest⟩ := exists_of_bind_eq_ok h
  refine ⟨n, hopen, ?_⟩
  split at hrest
  · exact absurd (Except.ok.inj hrest) nofun
  · rename_i hn
    refine ⟨Nat.pos_of_ne_zero hn, fun htype => ?_⟩
    rw [if_pos htype] at hrest
    exact of_decide_eq_true (Except.ok.inj hrest)

lemma Inv.lt_of_open (h : s.Inv) {n : Nat} (hopen : s.getOpenFcwnd w = .ok n) (hn : 0 < n) :
    Serial.dist (s.tx w).base (s.tx w).next < txWindowSize := by
  have hle := (h.ranged w).le
  unfold txWindowSize at hle
  unfold getOpenFcwnd at hopen
  dsimp only at hopen
  split at hopen
  · rename_i hrounded
    split at hopen
    · exact absurd (Except.ok.inj hopen) hn.ne
    · rename_i hlt
      have hdist : Serial.dist (s.tx w).base (Serial.shift (s.tx w).base
          (roundedFcwnd s.fabricCongestionWindow)) = roundedFcwnd s.fabricCongestionWindow := by
        refine Serial.dist_shift _ ?_
        unfold txWindowSize at hrounded
        omega
      have hseq : seqLT (s.tx w).next (Serial.shift (s.tx w).base
          (roundedFcwnd s.fabricCongestionWindow)) = true := by simpa using hlt
      rw [seqLT, Serial.lt_iff_dist (s.tx w).base (by omega)
        (by rw [hdist]; unfold txWindowSize at hrounded; omega), hdist] at hseq
      exact hseq.trans_le hrounded
  · cases hopen

lemma Entries.first (h : s.Entries) (hranged : ∀ w, (s.tx w).Ranged 0)
    (hfirst : (s.packets work).transmitAttempts = 0) (chosen : Nat) :
    (s.transmitted work chosen).Entries := by
  have hfree := (hranged (windowOf work.type)).next_free
  have hpsn : s.nextPsn work = (s.tx (windowOf work.type)).next := if_pos hfirst
  have hunsent : ∀ w psn, (s.tx w).outstandingPacketContexts psn ≠ some work :=
    fun w psn hcontext =>
    (h.context w psn work hcontext).2.2.ne' hfirst
  have hnotMem : (s.tx (windowOf work.type)).next ∉ (s.entries (windowOf work.type)).map
    (·.psn) := by
    intro hmem
    obtain ⟨y, hy, hnext⟩ := List.mem_map.mp hmem
    have hcontext := (h.mem_iff _ y).mp hy
    rw [hnext, hfree] at hcontext
    exact absurd hcontext nofun
  have hperm : ((s.transmitted work chosen).entries (windowOf work.type)).Perm
      (⟨work.rsn, s.nextPsn work, work.type⟩ :: s.entries (windowOf work.type)) := by
    unfold entries
    rw [transmitted_tx]
    refine (OrderedSet.insert_perm RetransmissionWorkId.equiv_lt_iff ?_).append_right _
    rw [hpsn]
    rw [entries, List.map_append] at hnotMem
    exact fun hmem => hnotMem (List.mem_append_left _ hmem)
  refine ⟨fun w y => ?_, fun w => ?_, fun w psn' work' hcontext => ?_⟩
  · by_cases hw : w = windowOf work.type
    · subst hw
      rw [hperm.mem_iff, List.mem_cons, transmitted_tx, h.mem_iff]
      dsimp only [nextTx]
      rw [hpsn]
      by_cases hy : y.psn = (s.tx (windowOf work.type)).next
      · rw [hy, hfree, update_self, or_iff_left nofun, ← hy]
        refine ⟨fun heq => heq ▸ rfl, fun heq => ?_⟩
        rw [Option.some.inj heq]
      · rw [update_of_ne hy]
        exact or_iff_right fun heq => hy (heq ▸ rfl)
    · unfold entries
      rw [transmitted_tx_of_ne s chosen hw]
      exact h.mem_iff w y
  · by_cases hw : w = windowOf work.type
    · subst hw
      rw [(hperm.map _).nodup_iff, List.map_cons, List.nodup_cons, hpsn]
      exact ⟨hnotMem, h.nodup _⟩
    · unfold entries
      rw [transmitted_tx_of_ne s chosen hw]
      exact h.nodup w
  · by_cases hsame : work' = work
    · subst hsame
      have hpacket : (s.transmitted work' chosen).packets work' = ⟨s.nextPsn work',
        (s.packets work').transmitAttempts + 1, s.nextLabel work' chosen⟩ := update_self _ _ _
      rw [hpacket]
      by_cases hw : w = windowOf work'.type
      · subst hw
        refine ⟨rfl, ?_, Nat.succ_pos _⟩
        rw [transmitted_tx] at hcontext
        by_contra hne
        dsimp only [nextTx] at hcontext
        rw [update_of_ne (Ne.symm hne)] at hcontext
        exact hunsent _ _ hcontext
      · rw [transmitted_tx_of_ne s chosen hw] at hcontext
        exact absurd hcontext (hunsent _ _)
    · have hpacket : (s.transmitted work chosen).packets work' = s.packets work' :=
        update_of_ne hsame _ _
      rw [hpacket]
      refine h.context w psn' work' ?_
      by_cases hw : w = windowOf work.type
      · subst hw
        rw [transmitted_tx] at hcontext
        dsimp only [nextTx] at hcontext
        rw [update_apply] at hcontext
        split at hcontext
        · exact absurd (Option.some.inj hcontext).symm hsame
        · exact hcontext
      · rwa [transmitted_tx_of_ne s chosen hw] at hcontext

lemma Inv.transmit (h : s.Inv) (hfirst : (s.packets work).transmitAttempts = 0)
    (hopen : Serial.dist (s.tx (windowOf work.type)).base (s.tx (windowOf work.type)).next <
      txWindowSize) (chosen : Nat) : (s.transmitPacket work chosen).Inv := by
  have htransmitted : (s.transmitted work chosen).Inv := by
    refine ⟨h.entries.first h.ranged hfirst chosen, fun w => ?_⟩
    by_cases hw : w = windowOf work.type
    · subst hw
      rw [transmitted_tx]
      unfold nextTx nextPsn
      dsimp only
      rw [if_pos hfirst, if_pos hfirst]
      exact (h.ranged _).send hopen
    · rw [transmitted_tx_of_ne s chosen hw]
      exact h.ranged w
  rw [transmitPacket_eq]
  exact (htransmitted.recounts (incrementRequestCount_recounts _ _ _)).emit _

/-! ## Retransmissions -/

lemma Inv.bit_clear (h : s.Inv) (hx : x ∈ s.entries w) :
    Bitmap.get (s.tx w).window (txBitmapIndex (s.tx w) x.psn) = false := by
  obtain ⟨-, hlt, hclear⟩ := (h.ranged w).context _ _ ((h.entries.mem_iff w x).mp hx)
  have hindex : txBitmapIndex (s.tx w) x.psn = Serial.dist (s.tx w).base x.psn :=
    Nat.mod_eq_of_lt (hlt.trans_le (h.ranged w).le)
  rw [hindex]
  exact hclear

lemma requeued_tx (s : Sender) (x : RetransmissionWorkId) (w : WindowType) :
    (s.requeued x).tx w = { s.tx w with
      outstandingPackets :=
        if w = windowOf x.type then
          OrderedSet.erase RetransmissionWorkId.lt x (s.tx w).outstandingPackets
        else (s.tx w).outstandingPackets } := by
  change update s.tx (windowOf x.type) _ w = _
  rw [update_apply]
  split
  · rename_i heq
    rw [heq]
  · rfl

lemma requeued_queues (s : Sender) (x : RetransmissionWorkId) (w : WindowType) :
    (s.requeued x).retransmissionQueues w =
      if w = windowOf x.type then
        OrderedSet.insert RetransmissionWorkId.lt x (s.retransmissionQueues w)
      else s.retransmissionQueues w := by
  change update s.retransmissionQueues (windowOf x.type) _ w = _
  rw [update_apply]
  split
  · rename_i heq
    rw [heq]
  · rfl

lemma Inv.requeued (h : s.Inv) (hx : x ∈ (s.tx (windowOf x.type)).outstandingPackets) :
    (s.requeued x).Inv := by
  refine ⟨h.entries.perm (fun w => ?_) (fun w => ?_) fun work => ⟨rfl, le_rfl⟩, fun w => ?_⟩
  · unfold Sender.entries
    rw [requeued_tx, requeued_queues]
    split
    · rename_i heq
      subst heq
      have hinsert := OrderedSet.insert_perm RetransmissionWorkId.equiv_lt_iff
        (h.entries.disjoint hx)
      have herase := OrderedSet.erase_perm RetransmissionWorkId.equiv_lt_iff hx
        (h.entries.nodup_outstanding _)
      exact (hinsert.append_left _).trans (List.perm_middle.trans (herase.append_right _))
    · exact .refl _
  · rw [requeued_tx]
  · rw [requeued_tx]
    exact (h.ranged w).congr rfl rfl rfl rfl

lemma Inv.retransmitOutstanding (h : s.Inv) (checked : Bool)
    (hx : x ∈ (s.tx (windowOf x.type)).outstandingPackets) :
    (s.retransmitOutstanding checked x).Inv := by
  have hmem : x ∈ s.entries (windowOf x.type) := List.mem_append_left _ hx
  exact (h.requeued hx).recounts (retransmitOutstanding_recounts (h.entries.entry_eq hmem)
    (h.entries.disjoint hx) (h.bit_clear hmem))

lemma Entries.nextTx_contexts (h : s.Entries) (hx : x ∈ s.entries (windowOf x.type)) :
    s.nextPsn ⟨x.rsn, x.type⟩ = x.psn ∧
      (s.nextTx ⟨x.rsn, x.type⟩).next = (s.tx (windowOf x.type)).next ∧
      (s.nextTx ⟨x.rsn, x.type⟩).outstandingPacketContexts =
        (s.tx (windowOf x.type)).outstandingPacketContexts := by
  have hcontext := (h.mem_iff _ x).mp hx
  obtain ⟨-, hpsn, hattempts⟩ := h.context _ _ _ hcontext
  have hnext : s.nextPsn ⟨x.rsn, x.type⟩ = x.psn := (if_neg hattempts.ne').trans hpsn
  refine ⟨hnext, if_neg hattempts.ne', ?_⟩
  dsimp only [nextTx]
  rw [hnext, ← hcontext, update_eq_self]

lemma resent_queues (s : Sender) (x : RetransmissionWorkId) (w : WindowType) :
    (s.resent x).retransmissionQueues w =
      if w = windowOf x.type then
        OrderedSet.erase RetransmissionWorkId.lt x (s.retransmissionQueues w)
      else s.retransmissionQueues w := by
  change update s.retransmissionQueues (windowOf x.type) _ w = _
  rw [update_apply]
  split
  · rename_i heq
    rw [heq]
  · rfl

lemma Inv.resent (h : s.Inv) (hx : x ∈ s.retransmissionQueues (windowOf x.type)) :
    (s.resent x).Inv := by
  have hmem : x ∈ s.entries (windowOf x.type) := List.mem_append_right _ hx
  obtain ⟨hpsn, hnext, hcontexts⟩ := h.entries.nextTx_contexts hmem
  have htx : ∀ w, w ≠ windowOf x.type → (s.resent x).tx w = s.tx w := fun w hw =>
    transmitted_tx_of_ne s 0 hw
  have hself : (s.resent x).tx (windowOf x.type) = s.nextTx ⟨x.rsn, x.type⟩ :=
    transmitted_tx s ⟨x.rsn, x.type⟩ 0
  refine ⟨h.entries.perm (fun w => ?_) (fun w => ?_) fun work => ?_, fun w => ?_⟩
  · unfold Sender.entries
    rw [resent_queues]
    split
    · rename_i heq
      subst heq
      have hout : x.psn ∉ (s.tx (windowOf x.type)).outstandingPackets.map (·.psn) := by
        intro hout
        obtain ⟨y, hy, hyx⟩ := List.mem_map.mp hout
        exact h.entries.disjoint hy (hyx ▸ List.mem_map_of_mem hx)
      have hinsert := OrderedSet.insert_perm RetransmissionWorkId.equiv_lt_iff hout
      have herase := OrderedSet.erase_perm RetransmissionWorkId.equiv_lt_iff hx
        (h.entries.nodup_queue _)
      rw [hself]
      dsimp only [nextTx]
      rw [hpsn]
      refine (hinsert.append_right _).trans (.trans ?_ (herase.append_left _))
      exact List.perm_middle.symm
    · rename_i hne
      rw [htx w hne]
  · by_cases hw : w = windowOf x.type
    · rw [hw, hself, hcontexts]
    · rw [htx w hw]
  · change (update s.packets _ _ work).psn = _ ∧ _ ≤ (update s.packets _ _ work).transmitAttempts
    rw [update_apply]
    split
    · rename_i heq
      rw [heq, hpsn]
      refine ⟨?_, Nat.le_succ _⟩
      exact (h.entries.context _ _ _ ((h.entries.mem_iff _ x).mp hmem)).2.1.symm
    · exact ⟨rfl, le_rfl⟩
  · by_cases hw : w = windowOf x.type
    · rw [hw, hself]
      exact (h.ranged _).congr rfl hnext rfl hcontexts
    · rw [htx w hw]
      exact h.ranged w

lemma Inv.scheduleRetransmission (h : s.Inv) (hx : x ∈ s.retransmissionQueues (windowOf x.type)) :
    (s.scheduleRetransmission x).Inv := by
  rw [scheduleRetransmission_eq]
  exact ((h.resent hx).recounts (incrementRequestCount_recounts _ _ _)).emit _

/-! ## Acknowledgements -/

lemma setTx_tx (s : Sender) (w : WindowType) (tx : TransmitterReliabilityWindowMetadata)
    (w' : WindowType) : (s.setTx w tx).tx w' = if w' = w then tx else s.tx w' :=
  update_apply _ _ _ _

lemma setTx_tx_self (s : Sender) (w : WindowType) (tx : TransmitterReliabilityWindowMetadata) :
    (s.setTx w tx).tx w = tx :=
  update_self _ _ _

lemma removed_tx (s : Sender) (w : WindowType) (psn : Psn) (work : WorkId) (w' : WindowType) :
    ∃ l, (s.removed w psn work).tx w' = { s.tx w' with outstandingPackets := l } := by
  unfold removed
  dsimp only
  split
  · change ∃ l, update s.tx w _ w' = _
    rw [update_apply]
    split
    · rename_i heq
      rw [heq]
      exact ⟨_, rfl⟩
    · exact ⟨_, rfl⟩
  · exact ⟨_, rfl⟩

lemma acked_tx (s : Sender) (w : WindowType) (psn : Psn) (work : WorkId) :
    ∃ l, (s.acked w psn work).tx w = { s.tx w with
      outstandingPackets := l
      outstandingPacketContexts := update (s.tx w).outstandingPacketContexts psn none } := by
  obtain ⟨l, hl⟩ := s.removed_tx w psn work w
  refine ⟨l, ?_⟩
  unfold acked forget updateOutstandingCounter
  rw [setTx_tx_self]
  rw [hl]

lemma acked_tx_of_ne (s : Sender) {w w' : WindowType} (psn : Psn) (work : WorkId) (hw : w' ≠ w) :
    (s.acked w psn work).tx w' = s.tx w' := by
  change update _ w _ w' = _
  rw [update_of_ne hw]
  unfold removed
  dsimp only
  split
  · exact update_of_ne hw _ _
  · rfl

lemma acked_packets (s : Sender) (w : WindowType) (psn : Psn) (work : WorkId) :
    (s.acked w psn work).packets = s.packets := by
  unfold acked removed
  dsimp only
  split <;> rfl

lemma acked_entries (s : Sender) (w : WindowType) (psn : Psn) (work : WorkId) (w' : WindowType) :
    (s.acked w psn work).entries w' = (s.removed w psn work).entries w' := by
  have hqueues : (s.acked w psn work).retransmissionQueues =
    (s.removed w psn work).retransmissionQueues := rfl
  unfold entries
  unfold acked forget
  rw [setTx_tx]
  split
  · rename_i heq
    rw [heq]
    rfl
  · rfl

lemma acked_entries_of_ne (s : Sender) {w w' : WindowType} (psn : Psn)
    (hwindow : windowOf work.type = w) (hw : w' ≠ w) :
    (s.acked w psn work).entries w' = s.entries w' := by
  rw [acked_entries]
  unfold removed
  dsimp only
  split
  · unfold entries
    rw [setTx_tx, if_neg hw]
    rfl
  · unfold entries
    change _ ++ update s.retransmissionQueues (windowOf work.type) _ w' = _
    rw [hwindow, update_of_ne hw]
    rfl

lemma Entries.mem_of_context (h : s.Entries)
    (hcontext : (s.tx w).outstandingPacketContexts psn = some work) :
    ⟨work.rsn, psn, work.type⟩ ∈ s.entries w :=
  (h.mem_iff w _).mpr hcontext

lemma Entries.contains_iff (h : s.Entries)
    (hcontext : (s.tx w).outstandingPacketContexts psn = some work) :
    (OrderedSet.contains RetransmissionWorkId.lt ⟨work.rsn, psn, work.type⟩
        (s.tx w).outstandingPackets = true →
      ⟨work.rsn, psn, work.type⟩ ∈ (s.tx w).outstandingPackets) ∧
    (OrderedSet.contains RetransmissionWorkId.lt ⟨work.rsn, psn, work.type⟩
        (s.tx w).outstandingPackets = false →
      ⟨work.rsn, psn, work.type⟩ ∈ s.retransmissionQueues w) := by
  have hmem := List.mem_append.mp (h.mem_of_context hcontext)
  have hkey := OrderedSet.contains_eq_false_iff RetransmissionWorkId.equiv_lt_iff
    (x := (⟨work.rsn, psn, work.type⟩ : RetransmissionWorkId)) (l := (s.tx w).outstandingPackets)
  refine ⟨fun hcontains => hmem.resolve_right fun hqueue => ?_, fun hcontains =>
    hmem.resolve_left fun hout => hkey.mp hcontains (List.mem_map_of_mem hout)⟩
  have hpsn : psn ∈ (s.tx w).outstandingPackets.map (·.psn) := by
    by_contra hnot
    rw [hkey.mpr hnot] at hcontains
    exact absurd hcontains nofun
  obtain ⟨y, hy, hyx⟩ := List.mem_map.mp hpsn
  exact h.disjoint hy (hyx ▸ List.mem_map_of_mem hqueue)

lemma Entries.acked_perm (h : s.Entries)
    (hcontext : (s.tx w).outstandingPacketContexts psn = some work) :
    (⟨work.rsn, psn, work.type⟩ :: (s.acked w psn work).entries w).Perm (s.entries w) := by
  obtain ⟨hwindow, hpsn, -⟩ := h.context w psn work hcontext
  rw [acked_entries]
  unfold removed
  dsimp only
  split
  · rename_i hcontains
    have herase := OrderedSet.erase_perm RetransmissionWorkId.equiv_lt_iff
      ((h.contains_iff hcontext).1 hcontains) (h.nodup_outstanding w)
    unfold entries
    rw [setTx_tx_self]
    exact herase.append_right _
  · rename_i hcontains
    have herase := OrderedSet.erase_perm RetransmissionWorkId.equiv_lt_iff
      ((h.contains_iff hcontext).2 (Bool.eq_false_of_not_eq_true hcontains)) (h.nodup_queue w)
    change (_ :: (_ ++ update s.retransmissionQueues (windowOf work.type) _ w)).Perm _
    unfold retransmissionWorkId
    rw [hwindow, hpsn, update_self]
    exact List.perm_middle.symm.trans (herase.append_left _)

lemma Entries.acked (h : s.Entries)
    (hcontext : (s.tx w).outstandingPacketContexts psn = some work) :
    (s.acked w psn work).Entries := by
  have hwindow := (h.context w psn work hcontext).1
  have hperm := h.acked_perm hcontext
  obtain ⟨l, hl⟩ := s.acked_tx w psn work
  have hnodup : (((s.acked w psn work).entries w).map (·.psn)).Nodup ∧
      psn ∉ ((s.acked w psn work).entries w).map (·.psn) := by
    have hall := (hperm.map (·.psn)).nodup_iff.mpr (h.nodup w)
    rw [List.map_cons, List.nodup_cons] at hall
    exact hall.symm
  refine ⟨fun w' y => ?_, fun w' => ?_, fun w' psn' work' hcontext' => ?_⟩
  · by_cases hw : w' = w
    · subst hw
      rw [hl]
      dsimp only
      by_cases hy : y.psn = psn
      · rw [hy, update_self]
        exact iff_of_false (fun hmem => hnodup.2 (List.mem_map.mpr ⟨y, hmem, hy⟩)) nofun
      · rw [update_of_ne hy, ← h.mem_iff, ← hperm.mem_iff, List.mem_cons]
        refine (or_iff_right ?_).symm
        rintro rfl
        exact hy rfl
    · rw [acked_tx_of_ne s psn work hw, acked_entries_of_ne s psn hwindow hw]
      exact h.mem_iff w' y
  · by_cases hw : w' = w
    · rw [hw]
      exact hnodup.1
    · rw [acked_entries_of_ne s psn hwindow hw]
      exact h.nodup w'
  · rw [acked_packets]
    refine h.context w' psn' work' ?_
    by_cases hw : w' = w
    · rw [hw, hl] at hcontext'
      dsimp only at hcontext'
      rw [update_apply] at hcontext'
      split at hcontext'
      · exact absurd hcontext' nofun
      · rw [hw]
        exact hcontext'
    · rwa [acked_tx_of_ne s psn work hw] at hcontext'

end Sender

end Isekai.Falcon
