import Isekai.Falcon.SenderWindows

/-!
# The acknowledgements of a sender

Every ACK, piggybacked BPSN and implicit acknowledgement is a sequence of acknowledgements of single
packets and of changes of the sliding windows.
-/

namespace Isekai.Falcon

open Lib Function

namespace Sender

variable {s s' s'' : Sender} {w : WindowType} {psn : Psn} {work : WorkId} {k : Nat}
  {A : WindowType → Psn → Prop}

/-- What an acknowledgement does at a time; `A` has the sequence numbers that it acknowledges. -/
inductive AckMove (A : WindowType → Psn → Prop) : Sender → Sender → Prop
  | ack {s s' : Sender} {w : WindowType} {psn : Psn} {work : WorkId}
      (hcontext : (s.tx w).outstandingPacketContexts psn = some work) (hpsn : A w psn)
      (hack : s.enqueueAckToUlp w psn = .ok s') : AckMove A s s'
  | window (s : Sender) (w : WindowType) (base : Psn) (window : BitVec txWindowSize) :
      AckMove A s (s.setTx w { s.tx w with base := base, window := window })

abbrev AckMoves (A : WindowType → Psn → Prop) : Sender → Sender → Prop :=
  Relation.ReflTransGen (AckMove A)

lemma enqueueAckToUlp_core (hcontext : (s.tx w).outstandingPacketContexts psn = some work)
    (hack : s.enqueueAckToUlp w psn = .ok s') :
    (∃ l, (s'.tx w).core = TransmitterReliabilityWindowMetadata.core { s.tx w with
      outstandingPackets := l
      outstandingPacketContexts := update (s.tx w).outstandingPacketContexts psn none }) ∧
    ∀ w', w' ≠ w → (s'.tx w').core = (s.tx w').core := by
  obtain ⟨s₁, hcounts, heq⟩ := enqueueAckToUlp_spec hcontext
  have hs' : s' = s₁.emit (.ack work) := Except.ok.inj (hack.symm.trans heq)
  subst hs'
  obtain ⟨l, hl⟩ := s.acked_tx w psn work
  refine ⟨⟨l, ?_⟩, fun w' hw => ?_⟩
  · rw [← hl]
    exact hcounts.core w
  · rw [← acked_tx_of_ne s psn work hw]
    exact hcounts.core w'

lemma enqueueAckToUlp_base (hcontext : (s.tx w).outstandingPacketContexts psn = some work)
    (hack : s.enqueueAckToUlp w psn = .ok s') (w' : WindowType) :
    (s'.tx w').base = (s.tx w').base ∧ (s'.tx w').next = (s.tx w').next ∧
      (s'.tx w').window = (s.tx w').window := by
  obtain ⟨⟨l, hself⟩, hother⟩ := enqueueAckToUlp_core hcontext hack
  have hcore : ∀ {tx tx' : TransmitterReliabilityWindowMetadata}, tx.core = tx'.core →
      tx.base = tx'.base ∧ tx.next = tx'.next ∧ tx.window = tx'.window := by
    intro tx tx' heq
    have hbase := congrArg TransmitterReliabilityWindowMetadata.base heq
    have hnext := congrArg TransmitterReliabilityWindowMetadata.next heq
    have hwindow := congrArg TransmitterReliabilityWindowMetadata.window heq
    exact ⟨hbase, hnext, hwindow⟩
  by_cases hw : w' = w
  · have hsame := hcore hself
    rw [hw]
    exact hsame
  · exact hcore (hother w' hw)

lemma Entries.enqueueAckToUlp (h : s.Entries)
    (hcontext : (s.tx w).outstandingPacketContexts psn = some work)
    (hack : s.enqueueAckToUlp w psn = .ok s') : s'.Entries := by
  obtain ⟨s₁, hcounts, heq⟩ := enqueueAckToUlp_spec hcontext
  rw [← Except.ok.inj (hack.symm.trans heq |>.symm)]
  exact ((h.acked hcontext).recounts hcounts).emit _

lemma Entries.setTx (h : s.Entries) (w : WindowType) (base : Psn) (window : BitVec txWindowSize) :
    (s.setTx w { s.tx w with base := base, window := window }).Entries := by
  refine h.perm (fun w' => ?_) (fun w' => ?_) fun _ => ⟨rfl, le_rfl⟩
  · unfold Sender.entries
    rw [setTx_tx]
    split
    · rename_i heq
      rw [heq]
      rfl
    · rfl
  · rw [setTx_tx]
    split
    · rename_i heq
      rw [heq]
    · rfl

lemma Entries.moves (h : s.Entries) (hmoves : AckMoves A s s') : s'.Entries := by
  induction hmoves with
  | refl => exact h
  | tail _ hmove ih =>
    cases hmove with
    | ack hcontext hpsn hack => exact ih.enqueueAckToUlp hcontext hack
    | window w base window => exact ih.setTx w base window

/-! ## The packets below a BPSN -/

/-- The invariant with `k` packets to be shifted out of `w`. -/
structure InvAt (s : Sender) (w : WindowType) (k : Nat) : Prop where
  entries : s.Entries
  le : k ≤ Serial.dist (s.tx w).base (s.tx w).next
  ranged : (s.tx w).Ranged k
  others : ∀ w', w' ≠ w → (s.tx w').Ranged 0

lemma Inv.invAt (h : s.Inv) (w : WindowType) : s.InvAt w 0 :=
  ⟨h.entries, Nat.zero_le _, h.ranged w, fun w' _ => h.ranged w'⟩

lemma InvAt.ackBelowBase (h : s.InvAt w k) (hA : A w (Serial.shift (s.tx w).base k)) :
    Ensures (fun _ => True) (fun s' => s'.InvAt w (k + 1) ∧ AckMoves A s s' ∧
      ∀ w', (s'.tx w').base = (s.tx w').base) (ackBelowBase w s k) := by
  unfold Sender.ackBelowBase
  refine .ite (fun _ => trivial) fun hsize => .ite (fun hclear => ?_) fun hset => ?_
  · cases hcontext : (s.tx w).outstandingPacketContexts (Serial.shift (s.tx w).base k) with
    | none =>
      unfold enqueueAckToUlp
      rw [hcontext]
      trivial
    | some work =>
      refine Ensures.of_forall (fun s' hack => ?_) fun _ _ => trivial
      obtain ⟨⟨l, hself⟩, hother⟩ := enqueueAckToUlp_core hcontext hack
      have hdist : Serial.dist (s.tx w).base (Serial.shift (s.tx w).base k) = k :=
        Serial.dist_shift _ (by unfold txWindowSize at hsize; omega)
      have hlt : k < Serial.dist (s.tx w).base (s.tx w).next := by
        have := (h.ranged.context _ _ hcontext).2.1
        rwa [hdist] at this
      refine ⟨⟨h.entries.enqueueAckToUlp hcontext hack, ?_, (h.ranged.pass hlt).core hself,
        fun w' hw => (h.others w' hw).core (hother w' hw)⟩, .single (.ack hcontext hA hack),
        fun w' => (enqueueAckToUlp_base hcontext hack w').1⟩
      rw [(enqueueAckToUlp_base hcontext hack w).1, (enqueueAckToUlp_base hcontext hack w).2.1]
      exact hlt
  · have hbit : Bitmap.get (s.tx w).window k = true := by simpa using hset
    exact ⟨⟨h.entries, h.ranged.bit k hbit, h.ranged.skip hbit, h.others⟩, .refl, fun _ => rfl⟩

lemma InvAt.shiftWindow (h : s.InvAt w k) : (s.shiftWindow w k).Inv := by
  unfold Sender.shiftWindow
  refine ⟨h.entries.setTx w _ _, fun w' => ?_⟩
  rw [setTx_tx]
  split
  · exact h.ranged.shift le_rfl h.le fun psn work hcontext => (h.ranged.context psn work hcontext).1
  · rename_i hw
    exact h.others w' hw

lemma Inv.advanceTxWindow (h : s.Inv) {ackBpsn : Psn} (hA : ∀ psn, seqLT psn ackBpsn → A w psn) :
    Ensures AnyFault (fun s' => s'.Inv ∧ AckMoves A s s' ∧
      (∀ w', w' ≠ w → (s'.tx w').base = (s.tx w').base) ∧
      (seqLT ackBpsn (s.tx w).base = false → (s'.tx w).base = ackBpsn))
      (s.advanceTxWindow w ackBpsn) := by
  unfold Sender.advanceTxWindow
  refine .ite (fun hgt => ?_) fun hle => ?_
  · rw [seqGT_iff] at hgt
    have hloop := Ensures.foldlM_range (E := AnyFault) (f := Sender.ackBelowBase w)
      (I := fun k s' => s'.InvAt w k ∧
        AckMoves A s s' ∧ ∀ w', (s'.tx w').base = (s.tx w').base)
      (Serial.dist (s.tx w).base ackBpsn) (fun k s' hk hs' => ?_) ⟨h.invAt w, .refl, fun _ => rfl⟩
    · refine hloop.bind fun s₁ hs₁ => ?_
      obtain ⟨hinv, hmoves, hbase⟩ := hs₁
      refine ⟨hinv.shiftWindow, hmoves.tail (.window s₁ w _ _), fun w' hw => ?_, fun _ => ?_⟩
      · unfold Sender.shiftWindow
        rw [setTx_tx, if_neg hw]
        exact hbase w'
      · unfold Sender.shiftWindow
        rw [setTx_tx_self]
        rw [hbase w, Serial.shift_dist]
    · obtain ⟨hinv, hmoves, hbase⟩ := hs'
      have hlt : seqLT (Serial.shift (s'.tx w).base k) ackBpsn = true := by
        have hdist : Serial.dist (s.tx w).base (Serial.shift (s.tx w).base k) = k :=
          Serial.dist_shift _ (by omega)
        rw [hbase w, seqLT, Serial.lt_iff_dist (s.tx w).base (by omega) (by omega), hdist]
        exact hk
      refine (hinv.ackBelowBase (hA _ hlt)).imp fun s'' hs'' => ?_
      obtain ⟨hinv', hmoves', hbase'⟩ := hs''
      exact ⟨hinv', hmoves.trans hmoves', fun w' => (hbase' w').trans (hbase w')⟩
  · refine ⟨h, .refl, fun _ _ => rfl, fun hstale => ?_⟩
    have hzero : Serial.dist (s.tx w).base ackBpsn = 0 := by
      rw [seqGT_iff] at hle
      rw [seqLT, Serial.lt_eq_false_iff] at hstale
      omega
    exact (Serial.dist_eq_zero.mp hzero).symm

lemma Inv.advanceTxWindows (h : s.Inv) {bpsn : WindowType → Psn}
    (hA : ∀ w psn, seqLT psn (bpsn w) → A w psn) :
    Ensures AnyFault (fun s' => s'.Inv ∧ AckMoves A s s' ∧
      (s.isStale bpsn = false → ∀ w, (s'.tx w).base = bpsn w)) (s.advanceTxWindows bpsn) := by
  refine (h.advanceTxWindow (hA .request)).bind fun s₁ hs₁ => ?_
  obtain ⟨hinv, hmoves, hother, hself⟩ := hs₁
  refine (hinv.advanceTxWindow (hA .data)).imp fun s₂ hs₂ => ?_
  obtain ⟨hinv', hmoves', hother', hself'⟩ := hs₂
  refine ⟨hinv', hmoves.trans hmoves', fun hstale w => ?_⟩
  rw [isStale, Bool.or_eq_false_iff] at hstale
  cases w with
  | request =>
    rw [hother' .request nofun]
    exact hself hstale.1
  | data =>
    refine hself' ?_
    rw [hother .data nofun]
    exact hstale.2

lemma Inv.handlePiggybackedACK (h : s.Inv) {bpsn : WindowType → Psn}
    (hA : ∀ w psn, seqLT psn (bpsn w) → A w psn) :
    Ensures AnyFault (fun s' => s'.Inv ∧ AckMoves A s s') (s.handlePiggybackedACK bpsn) := by
  refine .ite (fun _ => ⟨h, .refl⟩) fun _ => ?_
  exact (h.advanceTxWindows hA).imp fun s' hs' => ⟨hs'.1, hs'.2.1⟩

/-! ## The packets of a bitmap -/

lemma Inv.mark (h : s.Inv) (hcontext : (s.tx w).outstandingPacketContexts psn = some work)
    (hack : s.enqueueAckToUlp w psn = .ok s') :
    (s'.setBit w (Serial.dist (s.tx w).base psn)).Inv := by
  obtain ⟨⟨l, hself⟩, hother⟩ := enqueueAckToUlp_core hcontext hack
  refine ⟨(h.entries.enqueueAckToUlp hcontext hack).setTx w _ _, fun w' => ?_⟩
  unfold setBit
  rw [setTx_tx]
  split
  · have hmark := (h.ranged w).mark hcontext (l := l)
    obtain ⟨hbase, hnext, hwindow⟩ := enqueueAckToUlp_base hcontext hack w
    have hcontexts :=
      congrArg TransmitterReliabilityWindowMetadata.outstandingPacketContexts hself
    refine hmark.congr hbase hnext ?_ hcontexts
    rw [hwindow]
  · rename_i hw
    exact (h.ranged w').core (hother w' hw)

lemma Inv.ackFromBitmap (h : s.Inv) {bitmap : BitVec rxBitmapWidth} {index : Nat}
    (hindex : index < txWindowSize)
    (hA : Bitmap.get bitmap index = true → A w (Serial.shift (s.tx w).base index)) :
    Ensures AnyFault (fun s' => s'.Inv ∧ AckMoves A s s' ∧ ∀ w', (s'.tx w').base = (s.tx w').base)
      (ackFromBitmap w bitmap s index) := by
  unfold Sender.ackFromBitmap
  refine .ite (fun hbits => ?_) fun _ => ⟨h, .refl, fun _ => rfl⟩
  rw [Bool.and_eq_true] at hbits
  cases hcontext : (s.tx w).outstandingPacketContexts (Serial.shift (s.tx w).base index) with
  | none =>
    unfold enqueueAckToUlp
    rw [hcontext]
    trivial
  | some work =>
    refine Ensures.bind (P := fun s' => s.enqueueAckToUlp w (Serial.shift (s.tx w).base index) =
      .ok s') (Ensures.of_forall (fun _ h => h) fun _ _ => trivial) fun s₁ hack => ?_
    have hdist : Serial.dist (s.tx w).base (Serial.shift (s.tx w).base index) = index :=
      Serial.dist_shift _ (by unfold txWindowSize at hindex; omega)
    have hmark := h.mark hcontext hack
    rw [hdist] at hmark
    have hbase := enqueueAckToUlp_base hcontext hack
    refine ⟨hmark, (Relation.ReflTransGen.single (.ack hcontext (hA hbits.2) hack)).tail
      (.window s₁ w (s₁.tx w).base _), fun w' => ?_⟩
    unfold setBit
    rw [setTx_tx]
    split
    · rename_i hw
      rw [hw]
      exact (hbase w).1
    · exact (hbase w').1

lemma Inv.ackBitmap (h : s.Inv) {p : AckPacket} (hbase : ∀ w, (s.tx w).base = p.bpsn w)
    (hA : ∀ psn, Bitmap.get (p.ackBitmap w) (Serial.dist (p.bpsn w) psn) = true → A w psn) :
    Ensures AnyFault (fun s' => s'.Inv ∧ AckMoves A s s' ∧ ∀ w, (s'.tx w).base = p.bpsn w)
      (s.ackBitmap p w) := by
  refine Ensures.foldlM_range (I := fun _ s' => s'.Inv ∧ AckMoves A s s' ∧
    ∀ w, (s'.tx w).base = p.bpsn w) _ (fun k s' hk hs' => ?_) ⟨h, .refl, hbase⟩
  obtain ⟨hinv, hmoves, hbase'⟩ := hs'
  have hsize : k < txWindowSize := by
    refine hk.trans_le ?_
    cases w <;> decide
  refine (hinv.ackFromBitmap hsize fun hbit => hA _ ?_).imp fun s'' hs'' => ?_
  · rwa [hbase' w, Serial.dist_shift _ (by unfold txWindowSize at hsize; omega)]
  · obtain ⟨hinv', hmoves', hbase''⟩ := hs''
    exact ⟨hinv', hmoves.trans hmoves', fun w' => (hbase'' w').trans (hbase' w')⟩

lemma Inv.handleACK (h : s.Inv) {p : AckPacket} (hbelow : ∀ w psn, seqLT psn (p.bpsn w) → A w psn)
    (hbit : p.isEack → ∀ w psn, Bitmap.get (p.ackBitmap w) (Serial.dist (p.bpsn w) psn) = true →
      A w psn) :
    Ensures AnyFault (fun s' => s'.Inv ∧ AckMoves A s s') (s.handleACK p) := by
  refine .ite (fun _ => ⟨h, .refl⟩) fun hstale => ?_
  refine (h.advanceTxWindows hbelow).bind fun s₁ hs₁ => ?_
  obtain ⟨hinv, hmoves, hbase⟩ := hs₁
  refine .ite (fun heack => ?_) fun _ => ⟨hinv, hmoves⟩
  have hbpsn := hbase (Bool.eq_false_of_not_eq_true hstale)
  refine (hinv.ackBitmap hbpsn (hbit heack .request)).bind fun s₂ hs₂ => ?_
  obtain ⟨hinv₂, hmoves₂, hbase₂⟩ := hs₂
  refine (hinv₂.ackBitmap hbase₂ (hbit heack .data)).imp fun s₃ hs₃ => ?_
  exact ⟨hs₃.1, (hmoves.trans hmoves₂).trans hs₃.2.1⟩

/-! ## Implicit acknowledgements -/

lemma Inv.shiftWindow_one (h : s.Inv) (hbit : Bitmap.get (s.tx w).window 0 = true) :
    (s.shiftWindow w 1).Inv := by
  have hat : s.InvAt w 1 := ⟨h.entries, (h.ranged w).bit 0 hbit, (h.ranged w).skip hbit,
    fun w' _ => h.ranged w'⟩
  exact hat.shiftWindow

lemma Inv.handleImplicitAck (h : s.Inv) {type : PacketType} {rsn : Rsn}
    (hA : ∀ ackedType ∈ Endpoint.implicitlyAcked type,
      A (windowOf ackedType) (s.packets ⟨rsn, ackedType⟩).psn) :
    Ensures AnyFault (fun s' => s'.Inv ∧ AckMoves A s s') (s.handleImplicitAck type rsn) := by
  unfold Sender.handleImplicitAck
  cases himplicit : Endpoint.implicitlyAcked type with
  | none => exact ⟨h, .refl⟩
  | some ackedType =>
    set w := windowOf ackedType
    set psn := (s.packets ⟨rsn, ackedType⟩).psn
    refine .ite (fun _ => ⟨h, .refl⟩) fun _ => .ite (fun _ => trivial) fun hsize => ?_
    refine .ite (fun hclear => ?_) fun _ => ⟨h, .refl⟩
    cases hcontext : (s.tx w).outstandingPacketContexts psn with
    | none =>
      unfold enqueueAckToUlp
      rw [hcontext]
      trivial
    | some work =>
      refine Ensures.bind (P := fun s' => s.enqueueAckToUlp w psn = .ok s')
        (Ensures.of_forall (fun _ h => h) fun _ _ => trivial) fun s₁ hack => ?_
      have hmark := h.mark hcontext hack
      have hbase := enqueueAckToUlp_base hcontext hack w
      have hmoves : AckMoves A s (s₁.setBit w (Serial.dist (s.tx w).base psn)) :=
        (Relation.ReflTransGen.single (.ack hcontext (hA ackedType himplicit) hack)).tail
          (.window s₁ w (s₁.tx w).base _)
      dsimp only
      split
      · rename_i hfirst
        refine ⟨hmark.shiftWindow_one ?_, hmoves.tail (.window _ w _ _)⟩
        unfold setBit at hfirst ⊢
        rw [setTx_tx_self] at hfirst ⊢
        have heq : psn = (s.tx w).base := hfirst.trans hbase.1
        rw [heq, Serial.dist_self, Bitmap.get_set _ (by decide), if_pos rfl]
      · exact ⟨hmark, hmoves⟩

def accepted (s : Sender) (type : PacketType) (rsn : Rsn) : Sender :=
  let s := s.emit (.accept ⟨rsn, type⟩)
  if s.decrementOrcOnPullResponse ∧ type = .pullData then s.handlePullResponse rsn else s

lemma accepted_recounts (s : Sender) (type : PacketType) (rsn : Rsn) :
    (s.emit (.accept ⟨rsn, type⟩)).Recounts (s.accepted type rsn) := by
  unfold accepted handlePullResponse
  dsimp only
  split
  · split
    · exact (decrementCounter_recounts _ _ _).trans (decrementCounter_recounts _ _ _)
    · exact decrementCounter_recounts _ _ _
  · exact .refl _

/-! ## Steps -/

def Acknowledges (s : Sender) : Label → WindowType → Psn → Prop
  | .ack p, w, psn => seqLT psn (p.bpsn w) ∨
      p.isEack ∧ Bitmap.get (p.ackBitmap w) (Serial.dist (p.bpsn w) psn)
  | .piggyback bpsn, w, psn => seqLT psn (bpsn w)
  | .receive type rsn bpsn, w, psn => seqLT psn (bpsn w) ∨
      ∃ ackedType ∈ Endpoint.implicitlyAcked type,
        w = windowOf ackedType ∧ psn = (s.packets ⟨rsn, ackedType⟩).psn
  | _, _, _ => False

def StepTo (s : Sender) (l : Label) (s' : Sender) : Prop :=
  match l with
  | .transmit work chosen => s' = s.transmitPacket work chosen
  | .retransmitOutstanding checked entry => s' = s.retransmitOutstanding checked entry
  | .scheduleRetransmission entry => s' = s.scheduleRetransmission entry
  | .ack _ | .piggyback _ => AckMoves (s.Acknowledges l) s s'
  | .receive type rsn _ => ∃ s₁ s₂, s.handleImplicitAck type rsn = .ok s₁ ∧
      AckMoves (s.Acknowledges l) s s₁ ∧ AckMoves (s.Acknowledges l) s₁ s₂ ∧
      s' = s₂.accepted type rsn
  | .rue flowLabels fabricCongestionWindow nicCongestionWindow =>
    s' = { s with flowLabels, fabricCongestionWindow, nicCongestionWindow }

lemma Inv.next (h : s.Inv) (l : Label) (hallowed : s.Allowed l) :
    Ensures AnyFault (fun s' => s'.Inv ∧ s.StepTo l s') (s.next l) := by
  cases l with
  | transmit work chosen =>
    obtain ⟨hfirst, hgating, -⟩ := hallowed
    obtain ⟨n, hopen, hn, -⟩ := getOpenFcwnd_of_gating hgating
    exact ⟨h.transmit hfirst (h.lt_of_open hopen hn) chosen, rfl⟩
  | retransmitOutstanding checked entry => exact ⟨h.retransmitOutstanding checked hallowed, rfl⟩
  | scheduleRetransmission entry => exact ⟨h.scheduleRetransmission hallowed, rfl⟩
  | ack p =>
    exact h.handleACK (fun w psn hlt => .inl hlt) fun heack w psn hbit => .inr ⟨heack, hbit⟩
  | piggyback bpsn => exact h.handlePiggybackedACK fun w psn hlt => hlt
  | receive type rsn bpsn =>
    refine ((h.handleImplicitAck (A := s.Acknowledges (.receive type rsn bpsn))
      fun ackedType hacked => .inr ⟨ackedType, hacked, rfl, rfl⟩).and
      (Ensures.of_forall (Q := fun s₁ => s.handleImplicitAck type rsn = .ok s₁)
        (E := AnyFault) (fun _ h => h) fun _ _ => trivial)).bind fun s₁ hs₁ => ?_
    obtain ⟨⟨hinv, hmoves⟩, himplicit⟩ := hs₁
    refine (hinv.handlePiggybackedACK (A := s.Acknowledges (.receive type rsn bpsn))
      fun w psn hlt => .inl hlt).bind fun s₂ hs₂ => ?_
    obtain ⟨hinv₂, hmoves₂⟩ := hs₂
    exact ⟨(hinv₂.emit _).recounts (s₂.accepted_recounts type rsn),
      s₁, s₂, himplicit, hmoves, hmoves₂, rfl⟩
  | rue flowLabels fcwnd ncwnd =>
    exact ⟨⟨⟨h.entries.mem_iff, h.entries.nodup, h.entries.context⟩, h.ranged⟩, rfl⟩

lemma inv_initial (decrementOrcOnPullResponse : Bool) (numFlows : Nat) (psn : WindowType → Psn)
    (fcwnd ncwnd : BitVec 32) (flowLabels : Nat → BitVec 20) :
    (initial decrementOrcOnPullResponse numFlows psn fcwnd ncwnd flowLabels).Inv := by
  refine ⟨⟨fun w x => ?_, fun w => List.nodup_nil, nofun⟩, fun w => ⟨?_, ?_, nofun, ?_⟩⟩
  · exact iff_of_false List.not_mem_nil nofun
  · exact (Serial.dist_self _).le.trans (Nat.zero_le _)
  · intro i hi
    simp [initial, Bitmap.get] at hi
  · intro i _ hi
    rw [initial, Serial.dist_self] at hi
    exact absurd hi (Nat.not_lt_zero i)

lemma reachable_inv {decrementOrcOnPullResponse : Bool} {numFlows : Nat}
    {C : Sender → Label → Prop} (h : (runs decrementOrcOnPullResponse numFlows).Reachable C s) :
    s.Inv := by
  refine h.invariant (E := AnyFault) (fun s hs => ?_) fun s l hs hallowed _ => ?_
  · obtain ⟨psn, fcwnd, ncwnd, flowLabels, rfl⟩ := hs
    exact inv_initial _ _ _ _ _ _
  · exact (hs.next l hallowed).imp fun _ hs' => hs'.1

/-! ## Unacknowledged packets -/

def Waits (s : Sender) (work : WorkId) : Prop :=
  (s.tx (windowOf work.type)).outstandingPacketContexts (s.packets work).psn = some work

lemma Entries.waits (h : s.Entries)
    (hcontext : (s.tx w).outstandingPacketContexts psn = some work) :
    s.Waits work := by
  obtain ⟨hwindow, hpsn, -⟩ := h.context w psn work hcontext
  unfold Waits
  rw [hwindow, hpsn]
  exact hcontext

lemma Entries.attempts_pos (h : s.Entries) (hwaits : s.Waits work) :
    0 < (s.packets work).transmitAttempts :=
  (h.context _ _ _ hwaits).2.2

lemma Recounts.waits_iff (h : s.Recounts s') : s'.Waits work ↔ s.Waits work := by
  unfold Waits
  rw [h.contexts, h.packets]

lemma transmitted_waits_iff (h : s.Inv)
    (hwork : (s.packets work).transmitAttempts = 0 ∨ s.Waits work) (chosen : Nat) (work' : WorkId) :
    (s.transmitted work chosen).Waits work' ↔ work' = work ∨ s.Waits work' := by
  by_cases hsame : work' = work
  · subst hsame
    refine iff_of_true ?_ (.inl rfl)
    unfold Waits
    rw [transmitted_tx]
    change update _ _ _ (update s.packets work' _ work').psn = _
    rw [update_self, update_self]
  · rw [or_iff_right hsame]
    unfold Waits
    have hpacket : (s.transmitted work chosen).packets work' = s.packets work' :=
      update_of_ne hsame _ _
    rw [hpacket]
    by_cases hw : windowOf work'.type = windowOf work.type
    · rw [hw, transmitted_tx]
      change update (s.tx (windowOf work.type)).outstandingPacketContexts (s.nextPsn work)
        (some work) (s.packets work').psn = some work' ↔ _
      rw [update_apply]
      split
      · rename_i hpsn
        refine iff_of_false (fun heq => hsame (Option.some.inj heq).symm) fun hcontext => ?_
        rw [hpsn] at hcontext
        unfold nextPsn at hcontext
        split at hcontext
        · rw [(h.ranged _).next_free] at hcontext
          exact absurd hcontext nofun
        · rename_i hattempts
          have hwaits := hwork.resolve_left hattempts
          rw [hwaits] at hcontext
          exact hsame (Option.some.inj hcontext).symm
      · rfl
    · rw [transmitted_tx_of_ne s chosen hw]

lemma setTx_waits_iff (s : Sender) (w : WindowType) (base : Psn) (window : BitVec txWindowSize) :
    (s.setTx w { s.tx w with base := base, window := window }).Waits work ↔ s.Waits work := by
  unfold Waits
  rw [setTx_tx]
  split
  · rename_i heq
    rw [heq]
    rfl
  · rfl

lemma requeued_waits_iff (s : Sender) (x : RetransmissionWorkId) :
    (s.requeued x).Waits work ↔ s.Waits work := by
  unfold Waits
  rw [requeued_tx]
  rfl

lemma acked_waits_iff (h : s.Entries)
    (hcontext : (s.tx w).outstandingPacketContexts psn = some work) (work' : WorkId) :
    (s.acked w psn work).Waits work' ↔ s.Waits work' ∧ work' ≠ work := by
  obtain ⟨hwindow, hpsn, -⟩ := h.context w psn work hcontext
  unfold Waits
  rw [acked_packets]
  by_cases hw : windowOf work'.type = w
  · obtain ⟨l, hl⟩ := s.acked_tx w psn work
    rw [hw, hl]
    dsimp only
    rw [update_apply]
    split
    · rename_i hpsn'
      rw [hpsn', hcontext]
      exact iff_of_false nofun fun hboth => hboth.2 (Option.some.inj hboth.1).symm
    · rename_i hpsn'
      refine (and_iff_left ?_).symm
      rintro rfl
      exact hpsn' hpsn
  · rw [acked_tx_of_ne s psn work hw]
    refine (and_iff_left ?_).symm
    rintro rfl
    exact hw hwindow

/-! ## Properties of the packets in every run -/

/-- The packets and the log of their transmissions and acknowledgements are the same. -/
structure Keeps (s s' : Sender) : Prop where
  waits : ∀ work, s'.Waits work ↔ s.Waits work
  packets : s'.packets = s.packets
  flowIds : s'.flowIds = s.flowIds
  outstandingCount : s'.outstandingCount = s.outstandingCount
  numFlows : s'.numFlows = s.numFlows
  log : s'.log.filter (·.isPacket) = s.log.filter (·.isPacket)

lemma Keeps.emit (h : s.Keeps s') (a : SenderAction) : (s.emit a).Keeps (s'.emit a) := by
  refine ⟨h.waits, h.packets, h.flowIds, h.outstandingCount, h.numFlows, ?_⟩
  change (a :: s'.log).filter _ = (a :: s.log).filter _
  rw [List.filter_cons, List.filter_cons, h.log]

lemma Recounts.keeps (h : s.Recounts s') : s.Keeps s' := by
  have hwaits : ∀ work, s'.Waits work ↔ s.Waits work := fun work => h.waits_iff
  obtain ⟨tx, l, rfl, -, hl⟩ := h
  refine ⟨hwaits, rfl, rfl, rfl, rfl, ?_⟩
  have hnil : l.filter (·.isPacket) = [] := List.filter_eq_nil_iff.mpr fun a ha => by
    have hcount := hl a ha
    cases a <;> simp_all [SenderAction.isPacket, SenderAction.isCount]
  rw [List.filter_append, hnil, List.nil_append]

/-- What a property of the packets has to follow in order to hold in every run. -/
structure StepRules (P : Sender → Prop) : Prop where
  keeps : ∀ {s s' : Sender}, P s → s.Keeps s' → P s'
  transmitted : ∀ {s : Sender} {work : WorkId}, P s → s.Inv →
    (s.packets work).transmitAttempts = 0 ∨ s.Waits work → ∀ chosen,
      P ((s.transmitted work chosen).emit (.transmit work (s.flowId (s.nextLabel work chosen))))
  acked : ∀ {s : Sender} {w : WindowType} {psn : Psn} {work : WorkId}, P s → s.Entries →
    (s.tx w).outstandingPacketContexts psn = some work →
      P ((s.acked w psn work).emit (.ack work))

namespace StepRules

variable {P : Sender → Prop} (rules : StepRules P)

include rules

lemma moves (h : P s) (hentries : s.Entries) (hmoves : AckMoves A s s') : P s' := by
  induction hmoves with
  | refl => exact h
  | tail hbefore hmove ih =>
    cases hmove with
    | ack hcontext hpsn hack =>
      obtain ⟨s₁, hcounts, heq⟩ := enqueueAckToUlp_spec hcontext
      rw [Except.ok.inj (hack.symm.trans heq)]
      exact rules.keeps (rules.acked ih (hentries.moves hbefore) hcontext) (hcounts.keeps.emit _)
    | window w base window =>
      exact rules.keeps ih ⟨fun _ => setTx_waits_iff _ w base window, rfl, rfl, rfl, rfl, rfl⟩

lemma stepTo {l : Label} (h : P s) (hinv : s.Inv) (hallowed : s.Allowed l)
    (hstep : s.StepTo l s') : P s' := by
  cases l with
  | transmit work chosen =>
    cases hstep
    rw [transmitPacket_eq]
    exact rules.keeps (rules.transmitted h hinv (.inl hallowed.1) chosen)
      ((incrementRequestCount_recounts _ _ _).keeps.emit _)
  | retransmitOutstanding checked entry =>
    cases hstep
    have hmem : entry ∈ s.entries (windowOf entry.type) := List.mem_append_left _ hallowed
    have hrequeued : P (s.requeued entry) :=
      rules.keeps h ⟨fun _ => requeued_waits_iff s entry, rfl, rfl, rfl, rfl, rfl⟩
    exact rules.keeps hrequeued (retransmitOutstanding_recounts (hinv.entries.entry_eq hmem)
      (hinv.entries.disjoint hallowed) (hinv.bit_clear hmem)).keeps
  | scheduleRetransmission entry =>
    cases hstep
    have hmem : entry ∈ s.entries (windowOf entry.type) := List.mem_append_right _ hallowed
    have hsent := rules.transmitted h hinv (.inr (hinv.entries.waits
      ((hinv.entries.mem_iff _ entry).mp hmem))) 0
    rw [scheduleRetransmission_eq]
    refine rules.keeps (rules.keeps hsent ?_) ((incrementRequestCount_recounts _ _ _).keeps.emit _)
    exact ⟨fun _ => Iff.rfl, rfl, rfl, rfl, rfl, rfl⟩
  | ack p => exact rules.moves h hinv.entries hstep
  | piggyback bpsn => exact rules.moves h hinv.entries hstep
  | receive type rsn bpsn =>
    obtain ⟨s₁, s₂, -, hmoves₁, hmoves₂, rfl⟩ := hstep
    have hmoves := rules.moves h hinv.entries (hmoves₁.trans hmoves₂)
    have haccept : s₂.Keeps (s₂.emit (.accept ⟨rsn, type⟩)) :=
      ⟨fun _ => Iff.rfl, rfl, rfl, rfl, rfl, rfl⟩
    exact rules.keeps (rules.keeps hmoves haccept) (s₂.accepted_recounts type rsn).keeps
  | rue flowLabels fcwnd ncwnd =>
    cases hstep
    exact rules.keeps h ⟨fun _ => Iff.rfl, rfl, rfl, rfl, rfl, rfl⟩

lemma of_reachable {decrementOrcOnPullResponse : Bool} {numFlows : Nat} {C : Sender → Label → Prop}
    (hinit : ∀ s, (runs decrementOrcOnPullResponse numFlows).init s → P s)
    (h : (runs decrementOrcOnPullResponse numFlows).Reachable C s) : P s := by
  refine h.invariant_of_ok hinit fun s l s' hreach hs hallowed _ hnext => ?_
  have hinv := reachable_inv hreach
  exact rules.stepTo hs hinv hallowed ((hinv.next l hallowed).of_ok hnext).2

end StepRules

end Sender

end Isekai.Falcon
