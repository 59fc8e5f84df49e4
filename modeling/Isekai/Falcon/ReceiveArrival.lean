import Isekai.Falcon.ReceiveWindow

/-!
# Arrivals and acknowledgements in the receive windows

What the arrival of a packet and an acknowledgement of the ULP record in the windows.
-/

namespace Isekai.Falcon

open Lib Function

namespace Endpoint

open ReceiverReliabilityWindowMetadata

variable {e e₁ e₂ : Endpoint} {w : WindowType} {psn : Psn} {rsn : Rsn} {p : TransactionPacket}
  {ack receive : BitVec rxBitmapWidth} {state state' : TransactionState} {t : PacketType}

/-! ## Writes to a window -/

/-- The window has the bits of `ack` and `receive`, slid. -/
structure Records (e e' : Endpoint) (w : WindowType) (ack receive : BitVec rxBitmapWidth) :
    Prop where
  slides : Slides (rxWindowSize w) (e.rx w) ack receive (e'.rx w)
  acked : ∀ i, Bitmap.get (e.rx w).ackWindow i = true → Bitmap.get ack i = true
  received : ∀ i, Bitmap.get (e.rx w).receiveWindow i = true → Bitmap.get receive i = true
  received_of_acked : ∀ i, Bitmap.get ack i = true → Bitmap.get receive i = true
  lt_of_received : ∀ i, Bitmap.get receive i = true → i < rxWindowSize w

lemma Records.disciplined (h : Records e e₁ w ack receive) :
    (e₁.rx w).Disciplined (rxWindowSize w) :=
  h.slides.disciplined h.received_of_acked h.lt_of_received

lemma Records.isUnacked (h : Records e e₁ w ack receive)
    (hreceived : Bitmap.get receive (e.rxIndex w psn) = true)
    (hunacked : Bitmap.get ack (e.rxIndex w psn) = false) : e₁.IsUnacked w psn := by
  have hle : Bitmap.runEnd ack 0 (rxWindowSize w) ≤ e.rxIndex w psn := by
    by_contra hlt
    rw [Bitmap.get_of_lt_runEnd ack (Nat.zero_le _) (not_le.mp hlt)] at hunacked
    cases hunacked
  have hindex : e₁.rxIndex w psn = e.rxIndex w psn - Bitmap.runEnd ack 0 (rxWindowSize w) := by
    unfold rxIndex at hle ⊢
    rw [h.slides.base]
    exact Serial.dist_shift_base _ _ hle
  unfold IsUnacked
  rw [hindex, h.slides.receiveWindow, h.slides.ackWindow, Bitmap.get_rightShift,
    Bitmap.get_rightShift, Nat.add_sub_cancel' hle]
  exact ⟨hreceived, hunacked⟩

lemma ReceiveInv.records {busy : Rsn → Prop} (hinv : ReceiveInv busy e)
    (htransactions : e₁.transactions = e.transactions)
    (hcontexts : e₁.receivedPacketContexts = e.receivedPacketContexts)
    (h : ∀ w, ∃ ack receive, Records e e₁ w ack receive ∧ (w = .data → ∀ rsn t c, ¬busy rsn →
      e.Holds rsn t → isPushData t = true → e.receivedPacketContexts ⟨rsn, .target⟩ = some c →
      Bitmap.get ack (e.rxIndex w c.psn) = false)) : ReceiveInv busy e₁ := by
  refine ⟨fun w => ?_, fun rsn tr t hbusy htr ht => ?_,
    fun rsn rsn' t t' c c' hbusy hbusy' ht ht' hpush hpush' hc hc' hpsn => ?_⟩
  · obtain ⟨ack, receive, hrecords, -⟩ := h w
    exact hrecords.disciplined
  · rw [htransactions] at htr
    have hcontext := hinv.context rsn tr t hbusy htr ht
    rw [hcontexts]
    cases hc : e.receivedPacketContexts ⟨rsn, .target⟩ with
    | none =>
      rw [hc] at hcontext
      exact hcontext
    | some c =>
      rw [hc] at hcontext
      refine ⟨hcontext.1, fun hpush => ?_⟩
      obtain ⟨ack, receive, hrecords, hunacked⟩ := h .data
      exact hrecords.isUnacked (hrecords.received _ (hcontext.2 hpush).1)
        (hunacked rfl rsn t c hbusy ⟨tr, htr, ht⟩ hpush hc)
  · unfold Holds at ht ht'
    rw [htransactions] at ht ht'
    rw [hcontexts] at hc hc'
    exact hinv.distinct rsn rsn' t t' c c' hbusy hbusy' ht ht' hpush hpush' hc hc' hpsn

lemma Records.of_sameWindow (h : (e.rx w).SameWindow (e₁.rx w))
    (hrx : (e.rx w).Disciplined (rxWindowSize w)) :
    Records e e₁ w (e.rx w).ackWindow (e.rx w).receiveWindow :=
  ⟨.of_clear hrx.base_unacked h.base h.ackWindow h.receiveWindow, fun _ h => h, fun _ h => h,
    hrx.received_of_acked, hrx.lt_of_received⟩

lemma Records.congr (h : Records e₁ e₂ w ack receive) (hbefore : (e.rx w).SameWindow (e₁.rx w)) :
    Records e e₂ w ack receive := by
  obtain ⟨⟨hbase, hack, hreceive⟩, hacked, hreceived, hsub, hlt⟩ := h
  rw [hbefore.base] at hbase
  rw [hbefore.ackWindow] at hacked
  rw [hbefore.receiveWindow] at hreceived
  exact ⟨⟨hbase, hack, hreceive⟩, hacked, hreceived, hsub, hlt⟩

lemma Records.trans_sameWindow (h : Records e e₁ w ack receive)
    (hafter : (e₁.rx w).SameWindow (e₂.rx w)) :
    Records e e₂ w ack receive := by
  obtain ⟨⟨hbase, hack, hreceive⟩, hacked, hreceived, hsub, hlt⟩ := h
  exact ⟨⟨hafter.base.trans hbase, hafter.ackWindow.trans hack,
    hafter.receiveWindow.trans hreceive⟩, hacked, hreceived, hsub, hlt⟩

lemma updateReceiveAckBitmap_records (hrx : (e.rx w).Disciplined (rxWindowSize w))
    (hreceived : Bitmap.get (e.rx w).receiveWindow (e.rxIndex w psn) = true) :
    Records e (e.updateReceiveAckBitmap w psn) w
      (Bitmap.set (e.rx w).ackWindow (e.rxIndex w psn) true) (e.rx w).receiveWindow := by
  have hlt := hrx.lt_of_received _ hreceived
  have hget := Bitmap.get_set (e.rx w).ackWindow (hlt.trans_le (rxWindowSize_le_width w)) true
  refine ⟨updateReceiveAckBitmap_slides hlt hrx.base_unacked, fun i hi => ?_, fun _ h => h,
    fun i hi => ?_, hrx.lt_of_received⟩
  · rw [hget]
    split
    · rfl
    · exact hi
  · rw [hget] at hi
    split at hi
    · rename_i heq
      rw [heq]
      exact hreceived
    · exact hrx.received_of_acked i hi

/-! ## Arrivals -/

def ackAfter (e : Endpoint) (p : TransactionPacket) : BitVec rxBitmapWidth :=
  if isPushData p.type then (e.rx (windowOf p.type)).ackWindow
  else Bitmap.set (e.rx (windowOf p.type)).ackWindow (e.rxIndex (windowOf p.type) p.psn) true

def receiveAfter (e : Endpoint) (p : TransactionPacket) : BitVec rxBitmapWidth :=
  Bitmap.set (e.rx (windowOf p.type)).receiveWindow
    ((p.psn - (e.rx (windowOf p.type)).base).toNat % rxWindowSize (windowOf p.type)) true

/-- The packet is in the window and not received. -/
structure IsNew (e : Endpoint) (p : TransactionPacket) : Prop where
  lt : e.rxIndex (windowOf p.type) p.psn < rxWindowSize (windowOf p.type)
  unreceived : Bitmap.get (e.rx (windowOf p.type)).receiveWindow
    (e.rxIndex (windowOf p.type) p.psn) = false

lemma IsNew.get_receiveAfter (h : e.IsNew p) (i : Nat) : Bitmap.get (e.receiveAfter p) i = true ↔
    i = e.rxIndex (windowOf p.type) p.psn ∨
      Bitmap.get (e.rx (windowOf p.type)).receiveWindow i = true := by
  rw [receiveAfter, rxIndex_mod h.lt, Bitmap.get_set _ (h.lt.trans_le (rxWindowSize_le_width _))]
  split <;> simp_all

lemma IsNew.get_ackAfter (h : e.IsNew p) (i : Nat) : Bitmap.get (e.ackAfter p) i = true ↔
    (isPushData p.type = false ∧ i = e.rxIndex (windowOf p.type) p.psn) ∨
      Bitmap.get (e.rx (windowOf p.type)).ackWindow i = true := by
  unfold ackAfter
  cases isPushData p.type with
  | true => simp
  | false =>
    rw [if_neg Bool.false_ne_true, Bitmap.get_set _ (h.lt.trans_le (rxWindowSize_le_width _))]
    split <;> simp_all

def recordArrival (e : Endpoint) (p : TransactionPacket) : Endpoint :=
  let w := windowOf p.type
  let rx := e.rx w
  let e := e.setRx w { rx with receiveWindow := e.receiveAfter p }
  if !isPushData p.type then e.updateReceiveAckBitmap w p.psn else e

lemma recordArrival_other {w : WindowType} (h : w ≠ windowOf p.type) :
    (e.recordArrival p).rx w = e.rx w := by
  unfold recordArrival
  split
  · rw [updateReceiveAckBitmap_other h]
    exact update_of_ne h _ _
  · exact update_of_ne h _ _

lemma recordArrival_transactions (e : Endpoint) (p : TransactionPacket) :
    (e.recordArrival p).transactions = e.transactions ∧
      (e.recordArrival p).receivedPacketContexts = e.receivedPacketContexts := by
  unfold recordArrival updateReceiveAckBitmap
  dsimp only
  split
  · split <;> exact ⟨rfl, rfl⟩
  · exact ⟨rfl, rfl⟩

lemma IsNew.records (h : e.IsNew p)
    (hrx : (e.rx (windowOf p.type)).Disciplined (rxWindowSize (windowOf p.type))) :
    Records e (e.recordArrival p) (windowOf p.type) (e.ackAfter p) (e.receiveAfter p) := by
  have hslides : Slides (rxWindowSize (windowOf p.type)) (e.rx (windowOf p.type)) (e.ackAfter p)
      (e.receiveAfter p) ((e.recordArrival p).rx (windowOf p.type)) := by
    unfold recordArrival ackAfter
    cases isPushData p.type with
    | true =>
      simp only [Bool.not_true, Bool.false_eq_true, if_false, if_true, setRx, update_self]
      exact .of_clear hrx.base_unacked rfl rfl rfl
    | false =>
      let rx := { e.rx (windowOf p.type) with receiveWindow := e.receiveAfter p }
      have hself : (e.setRx (windowOf p.type) rx).rx (windowOf p.type) = rx :=
        update_self ..
      have hindex : (e.setRx (windowOf p.type) rx).rxIndex (windowOf p.type) p.psn =
          e.rxIndex (windowOf p.type) p.psn := by
        unfold rxIndex
        rw [hself]
      have hupdate := updateReceiveAckBitmap_slides (hindex ▸ h.lt)
        (by rw [hself]; exact hrx.base_unacked)
      rw [hindex, hself] at hupdate
      exact ⟨hupdate.base, hupdate.ackWindow, hupdate.receiveWindow⟩
  refine ⟨hslides, fun i hi => (h.get_ackAfter i).mpr (.inr hi),
    fun i hi => (h.get_receiveAfter i).mpr (.inr hi), fun i hi => ?_, fun i hi => ?_⟩
  · rw [h.get_receiveAfter]
    rcases (h.get_ackAfter i).mp hi with ⟨-, heq⟩ | hacked
    · exact .inl heq
    · exact .inr (hrx.received_of_acked i hacked)
  · rcases (h.get_receiveAfter i).mp hi with rfl | hreceived
    · exact h.lt
    · exact hrx.lt_of_received i hreceived

lemma IsNew.ne_psn (h : e.IsNew p) (hpush : windowOf p.type = .data)
    (hunacked : e.IsUnacked .data psn) : psn ≠ p.psn := by
  rintro rfl
  have := h.unreceived
  rw [hpush, hunacked.1] at this
  cases this

lemma ReceiveInv.recordArrival {busy : Rsn → Prop} (hinv : ReceiveInv busy e) (h : e.IsNew p) :
    ReceiveInv busy (e.recordArrival p) := by
  obtain ⟨htransactions, hcontexts⟩ := recordArrival_transactions e p
  refine hinv.records htransactions hcontexts fun w => ?_
  by_cases hw : w = windowOf p.type
  · subst hw
    refine ⟨_, _, h.records (hinv.windows _), fun hdata rsn t c hbusy ht hpush hc => ?_⟩
    obtain ⟨tr, htr, ht⟩ := ht
    have hcontext := hinv.context rsn tr t hbusy htr ht
    rw [hc] at hcontext
    have hunacked := hcontext.2 hpush
    by_contra hset
    rcases (h.get_ackAfter _).mp (Bool.eq_true_of_not_eq_false hset) with ⟨-, heq⟩ | hacked
    · exact h.ne_psn hdata hunacked (Serial.dist_inj heq)
    · rw [hdata, hunacked.2] at hacked
      cases hacked
  · refine ⟨_, _, .of_sameWindow (by rw [recordArrival_other hw]; exact .refl _)
      (hinv.windows w), fun hdata rsn t c hbusy ht hpush hc => ?_⟩
    obtain ⟨tr, htr, ht⟩ := ht
    have hcontext := hinv.context rsn tr t hbusy htr ht
    rw [hc] at hcontext
    rw [hdata]
    exact (hcontext.2 hpush).2

lemma Edit.context (h : Edit e e₁) (rsn : Rsn) :
    e₁.receivedPacketContexts ⟨rsn, .target⟩ = e.receivedPacketContexts ⟨rsn, .target⟩ ∨
      e₁.receivedPacketContexts ⟨rsn, .target⟩ = none ∧ e₁.transactions ⟨rsn, .target⟩ = none := by
  cases h with
  | release _ h =>
    obtain ⟨rfl, -⟩ | ⟨tr, pm, released, returned, -, -, -, -, -, -, rfl⟩ :=
      (e.releaseResources_cases _ _).of_ok h
    all_goals exact .inl rfl
  | initiatorCallback _ h =>
    obtain ⟨T, Q, I, rfl, -⟩ := (e.reorderCallback_frame _ _).of_ok h
    exact .inl rfl
  | erase rsn' =>
    by_cases heq : rsn = rsn'
    · subst heq
      exact .inr ⟨update_self .., update_self ..⟩
    · refine .inl (update_of_ne ?_ _ _)
      simpa using heq
  | _ => exact .inl rfl

lemma Path.context (h : Path e e₁) (rsn : Rsn) :
    e₁.receivedPacketContexts ⟨rsn, .target⟩ = e.receivedPacketContexts ⟨rsn, .target⟩ ∨
      e₁.receivedPacketContexts ⟨rsn, .target⟩ = none ∧ e₁.transactions ⟨rsn, .target⟩ = none := by
  induction h with
  | refl => exact .inl rfl
  | @tail e₂ e₃ _ hedit ih =>
    rcases hedit.context rsn with hsame | hgone
    · rcases ih with hih | ⟨hnone, htr⟩
      · exact .inl (hsame.trans hih)
      · refine .inr ⟨hsame.trans hnone, ?_⟩
        cases htr₃ : e₃.transactions ⟨rsn, .target⟩ with
        | none => rfl
        | some tr₃ =>
          obtain ⟨tr₂, htr₂, -⟩ := hedit.evolve _ tr₃ htr₃
          rw [htr] at htr₂
          cases htr₂
    · exact .inr hgone

/-- Between the check of the window and the update of the transaction that the packet belongs to. -/
structure Arrived (p : TransactionPacket) (e : Endpoint) : Prop where
  inv : ReceiveInv (· = p.rsn) e
  context : e.receivedPacketContexts ⟨p.rsn, .target⟩ =
      some { psn := p.psn, type := p.type, isAckRequested := p.ackReq } ∨
    e.receivedPacketContexts ⟨p.rsn, .target⟩ = none ∧ e.transactions ⟨p.rsn, .target⟩ = none
  unacked : isPushData p.type = true → e.IsUnacked .data p.psn
  fresh : ∀ rsn t c, rsn ≠ p.rsn → e.Holds rsn t → isPushData t = true →
    e.receivedPacketContexts ⟨rsn, .target⟩ = some c → isPushData p.type = true → c.psn ≠ p.psn

lemma Arrived.path (h : Arrived p e) (hpath : Path e e₁) : Arrived p e₁ := by
  have hkeeps := hpath.keepsHeld
  refine ⟨h.inv.keepsHeld hkeeps, ?_, fun hpush => ?_, fun rsn t c hne ht hpush hc hpush' => ?_⟩
  · rcases hpath.context p.rsn with hsame | hgone
    · rcases h.context with hc | ⟨hnone, htr⟩
      · exact .inl (hsame.trans hc)
      · refine .inr ⟨hsame.trans hnone, ?_⟩
        cases htr₁ : e₁.transactions ⟨p.rsn, .target⟩ with
        | none => rfl
        | some tr₁ =>
          obtain ⟨tr, htr', -⟩ := hpath.evolve _ tr₁ htr₁
          rw [htr] at htr'
          cases htr'
    · exact .inr hgone
  · exact (isUnacked_congr (hkeeps.windows _)).mpr (h.unacked hpush)
  · obtain ⟨hholds, hcontext⟩ := hkeeps.holds ht
    exact h.fresh rsn t c hne hholds hpush (hcontext ▸ hc) hpush'

lemma Arrived.emit (h : Arrived p e) (a : Action) : Arrived p (e.emit a) :=
  ⟨h.inv.keepsHeld (.of_eq rfl rfl rfl), h.context, h.unacked, h.fresh⟩

lemma ReceiveInv.arrived (hinv : ReceiveInv (fun _ => False) e)
    (hunacked : isPushData p.type = true → e.IsUnacked .data p.psn)
    (hfresh : ∀ rsn t c, rsn ≠ p.rsn → e.Holds rsn t → isPushData t = true →
      e.receivedPacketContexts ⟨rsn, .target⟩ = some c → isPushData p.type = true →
      c.psn ≠ p.psn) :
    Arrived p (e.setReceivedPacketContext ⟨p.rsn, .target⟩
      (some { psn := p.psn, type := p.type, isAckRequested := p.ackReq })) := by
  have hother : ∀ rsn, rsn ≠ p.rsn → (e.setReceivedPacketContext ⟨p.rsn, .target⟩
      (some { psn := p.psn, type := p.type, isAckRequested := p.ackReq })).receivedPacketContexts
        ⟨rsn, .target⟩ = e.receivedPacketContexts ⟨rsn, .target⟩ := fun rsn hne =>
    update_of_ne (by simpa using hne) _ _
  refine ⟨⟨hinv.windows, fun rsn tr t hne htr ht => ?_,
    fun rsn rsn' t t' c c' hne hne' ht ht' hpush hpush' hc hc' hpsn => ?_⟩,
    .inl (update_self ..), hunacked, fun rsn t c hne ht hpush hc hpush' => ?_⟩
  · rw [hother rsn hne]
    exact hinv.context rsn tr t not_false htr ht
  · exact hinv.distinct rsn rsn' t t' c c' not_false not_false ht ht' hpush hpush'
      ((hother rsn hne).symm.trans hc) ((hother rsn' hne').symm.trans hc') hpsn
  · exact hfresh rsn t c hne ht hpush ((hother rsn hne).symm.trans hc) hpush'

lemma held_of_ntwkRx {t u : PacketType} (h : nextState state t .ntwkRx = .ok state')
    (hu : state'.held = some u) :
    u = t ∧ t ≠ .pushRequest := by
  cases t <;> simp only [nextState] at h <;>
    first
    | (cases h
       cases hu
       exact ⟨rfl, by decide⟩)
    | (cases h
       cases hu)
    | cases h
    | (split at h
       · cases h
         cases hu
         exact ⟨rfl, by decide⟩
       · cases h)
    | (split at h
       · cases h
         cases hu
       · cases h)

lemma transactions_setTransaction_self (e : Endpoint) (key : TransactionKey)
    (tr : TransactionMetadata) : (e.setTransaction key tr).transactions key = some tr :=
  update_self ..

lemma Arrived.setTransaction (h : Arrived p e) {tr : TransactionMetadata}
    {state : TransactionState} {pm : PacketMetadata}
    (htr : e.transactions ⟨p.rsn, .target⟩ = some tr ∨ Fresh p .target tr)
    (hstate : nextState tr.state p.type .ntwkRx = .ok state) :
    ReceiveInv (fun _ => False) (e.setTransaction ⟨p.rsn, .target⟩
      { tr.createPacket p.type pm with state := state }) := by
  let e' := e.setTransaction ⟨p.rsn, .target⟩ { tr.createPacket p.type pm with state := state }
  have hself : e'.transactions ⟨p.rsn, .target⟩ =
      some { tr.createPacket p.type pm with state := state } :=
    transactions_setTransaction_self ..
  have hother : ∀ rsn, rsn ≠ p.rsn → e'.transactions ⟨rsn, .target⟩ =
      e.transactions ⟨rsn, .target⟩ := fun rsn hne =>
    update_of_ne (by simpa using hne) _ _
  have hholds : ∀ rsn t, rsn ≠ p.rsn → e'.Holds rsn t → e.Holds rsn t := by
    rintro rsn t hne ⟨tr', htr', ht⟩
    exact ⟨tr', (hother rsn hne).symm.trans htr', ht⟩
  have hheld : ∀ t, e'.Holds p.rsn t → t = p.type := by
    rintro t ⟨tr', htr', ht⟩
    obtain rfl := Option.some.inj (hself.symm.trans htr')
    exact (held_of_ntwkRx hstate ht).1
  have hpsnSelf : ∀ c, e.receivedPacketContexts ⟨p.rsn, .target⟩ = some c → c.psn = p.psn := by
    intro c hc
    rcases h.context with hp | ⟨hnone, -⟩
    · rw [hp] at hc
      cases hc
      rfl
    · rw [hnone] at hc
      cases hc
  refine ⟨h.inv.windows, fun rsn tr' t _ htr' ht => ?_,
    fun rsn rsn' t t' c c' _ _ ht ht' hpush hpush' hc hc' hpsn => ?_⟩
  · by_cases hne : rsn = p.rsn
    swap
    · exact h.inv.context rsn tr' t hne ((hother rsn hne).symm.trans htr') ht
    subst hne
    obtain rfl := Option.some.inj (hself.symm.trans htr')
    obtain ⟨rfl, hrequest⟩ := held_of_ntwkRx hstate ht
    rcases h.context with hc | ⟨hnone, habsent⟩
    · change ContextOf _ _ _ (e.receivedPacketContexts _)
      rw [hc]
      exact ⟨rfl, h.unacked⟩
    · change ContextOf _ _ _ (e.receivedPacketContexts _)
      rw [hnone]
      rcases htr with htr | hfresh
      · rw [habsent] at htr
        cases htr
      · cases hfresh with
        | pushRequest htype => exact absurd htype hrequest
        | pullRequest htype =>
          simp [ContextOf, TransactionMetadata.packets_createPacket, htype]
        | pushUnsolicitedData htype =>
          simp [ContextOf, TransactionMetadata.packets_createPacket, htype]
  · by_cases hne : rsn = p.rsn <;> by_cases hne' : rsn' = p.rsn
    · rw [hne, hne']
    · rw [hne] at ht hc
      rw [hheld t ht] at hpush
      rw [hpsnSelf c hc] at hpsn
      exact absurd hpsn.symm (h.fresh rsn' t' c' hne' (hholds rsn' t' hne' ht') hpush' hc' hpush)
    · rw [hne'] at ht' hc'
      rw [hheld t' ht'] at hpush'
      rw [hpsnSelf c' hc'] at hpsn
      exact absurd hpsn (h.fresh rsn t c hne (hholds rsn t hne ht) hpush hc hpush')
    · exact h.inv.distinct rsn rsn' t t' c c' hne hne' (hholds rsn t hne ht)
        (hholds rsn' t' hne' ht') hpush hpush' hc hc' hpsn

def ArrivedAt (p : TransactionPacket) (e : Endpoint) : TransactionLocation → Prop
  | .target => Arrived p e
  | .initiator => ReceiveInv (fun _ => False) e

/-- The packet is received. -/
structure TakesIn (p : TransactionPacket) (e e' : Endpoint) : Prop where
  other : ∀ w, w ≠ windowOf p.type → (e.rx w).SameWindow (e'.rx w)
  records : Records e e' (windowOf p.type) (e.ackAfter p) (e.receiveAfter p)
  arrived : ∃ location, getTransactionLocation p.type true = .ok location ∧ ArrivedAt p e' location

lemma IsNew.congr (h : e.IsNew p) (hrx : e₁.rx = e.rx) :
    e₁.IsNew p ∧ e₁.ackAfter p = e.ackAfter p ∧ e₁.receiveAfter p = e.receiveAfter p := by
  obtain ⟨hlt, hunreceived⟩ := h
  refine ⟨⟨?_, ?_⟩, ?_, ?_⟩
  · unfold rxIndex
    rw [hrx]
    exact hlt
  · unfold rxIndex
    rw [hrx]
    exact hunreceived
  · unfold ackAfter rxIndex
    rw [hrx]
  · unfold receiveAfter
    rw [hrx]

lemma IsNew.isUnacked (h : e.IsNew p)
    (hrx : (e.rx (windowOf p.type)).Disciplined (rxWindowSize (windowOf p.type)))
    (hpush : isPushData p.type = true) : (e.recordArrival p).IsUnacked .data p.psn := by
  have hwindow := windowOf_of_isPushData hpush
  rw [← hwindow]
  refine (h.records hrx).isUnacked ((h.get_receiveAfter _).mpr (.inl rfl)) ?_
  by_contra hset
  rcases (h.get_ackAfter _).mp (Bool.eq_true_of_not_eq_false hset) with ⟨hnot, -⟩ | hacked
  · rw [hpush] at hnot
    cases hnot
  · have := hrx.received_of_acked _ hacked
    rw [h.unreceived] at this
    cases this

lemma ReceiveInv.fresh (hinv : ReceiveInv (fun _ => False) e) (h : e.IsNew p)
    (hkeeps : KeepsHeld (e.recordArrival p) e₁) {rsn : Rsn} {c : ReceivedPacketContext}
    (ht : e₁.Holds rsn t) (hpush : isPushData t = true)
    (hc : e₁.receivedPacketContexts ⟨rsn, .target⟩ = some c) (hpush' : isPushData p.type = true) :
    c.psn ≠ p.psn := by
  obtain ⟨⟨tr, htr, ht⟩, hcontext⟩ := hkeeps.holds ht
  rw [hcontext, (recordArrival_transactions e p).2] at hc
  rw [(recordArrival_transactions e p).1] at htr
  have hold := hinv.context rsn tr t not_false htr ht
  rw [hc] at hold
  exact h.ne_psn (windowOf_of_isPushData hpush') (hold.2 hpush)

/-- The windows after an arrival, and the acknowledgement that may be sent at once. -/
def acknowledgeArrival (e : Endpoint) (p : TransactionPacket) : Endpoint :=
  (e.recordArrival p).generateAckOrUpdateCoalescingState (!isPushData p.type && p.ackReq)
    (if isPushData p.type then 1 else 2)

lemma acknowledgeArrival_keepsHeld (e : Endpoint) (p : TransactionPacket) :
    KeepsHeld (e.recordArrival p) (e.acknowledgeArrival p) :=
  generateAckOrUpdateCoalescingState_keepsHeld _ _ _

lemma acceptPacket_eq (e : Endpoint) (p : TransactionPacket) : e.acceptPacket p = (do
    let e ← e.handleImplicitAck p.rsn p.type
    let e ← (e.acknowledgeArrival p).updateReceivedPacketContext p
    let e ← e.handlePiggybackedACK p.bpsn (fun _ => false)
    pure (e.emit (.accept (windowOf p.type) p.psn ⟨p.rsn, p.type⟩))) := by
  unfold acceptPacket acknowledgeArrival recordArrival
  cases isPushData p.type <;> rfl

lemma acceptPacket_takesIn (hinv : ReceiveInv (fun _ => False) e) (h : e.IsNew p) :
    Ensures AnyFault (TakesIn p e) (e.acceptPacket p) := by
  rw [acceptPacket_eq]
  refine (handleImplicitAck_path e p.rsn p.type).bind fun e₁ h₁ => ?_
  have hrx₁ := h₁.unedited.rx
  have hinv₁ := hinv.keepsHeld h₁.keepsHeld
  obtain ⟨hnew₁, hack₁, hreceive₁⟩ := h.congr hrx₁
  have h₂ := e₁.acknowledgeArrival_keepsHeld p
  revert h₂
  generalize e₁.acknowledgeArrival p = e₂
  intro h₂
  have hinv₂ := (hinv₁.recordArrival hnew₁).keepsHeld h₂
  refine Ensures.bind (P := fun e₃ => ∃ location,
    getTransactionLocation p.type true = .ok location ∧
    e₃ = e₂.setReceivedPacketContext ⟨p.rsn, location⟩
      (some { psn := p.psn, type := p.type, isAckRequested := p.ackReq })) ?_ ?_
  · exact (ensures_eq _).bind fun location hlocation => ⟨location, hlocation, rfl⟩
  rintro _ ⟨location, hlocation, rfl⟩
  refine (handlePiggybackedACK_path _ _ _).bind fun e₄ h₄ => ?_
  refine ⟨fun w hw => ?_, ?_, location, hlocation, ?_⟩
  · have hrecorded := recordArrival_other (e := e₁) hw
    rw [hrx₁] at hrecorded
    have hsame := (h₂.windows w).trans (h₄.keepsHeld.windows w)
    rw [hrecorded] at hsame
    exact hsame
  · have hrecords := (hnew₁.records (hinv₁.windows _)).trans_sameWindow
      ((h₂.windows _).trans (h₄.keepsHeld.windows _))
    rw [hack₁, hreceive₁] at hrecords
    have hbefore : (e.rx (windowOf p.type)).SameWindow (e₁.rx (windowOf p.type)) := by
      rw [hrx₁]
      exact .refl _
    exact (hrecords.congr hbefore).trans_sameWindow (.refl _)
  · cases location with
    | target =>
      have harrived := hinv₂.arrived (p := p)
        (fun hpush => (isUnacked_congr (h₂.windows _)).mpr
          (hnew₁.isUnacked (hinv₁.windows _) hpush))
        fun rsn t c _ ht hpush hc hpush' => hinv₁.fresh hnew₁ h₂ ht hpush hc hpush'
      exact (harrived.path h₄).emit _
    | initiator =>
      refine (hinv₂.keepsHeld ?_).keepsHeld (h₄.keepsHeld.trans (.of_eq rfl rfl rfl))
      refine ⟨fun w => .refl _, fun rsn tr t htr ht => ⟨?_, tr, htr, ht, fun _ hu => hu⟩⟩
      exact update_of_ne (by simp) _ _

lemma handleDuplicateNackedPacket_keepsHeld (e : Endpoint) (p : TransactionPacket) :
    Ensures AnyFault (KeepsHeld e) (e.handleDuplicateNackedPacket p) := by
  refine Ensures.ite (fun _ => ?_) fun _ => .refl e
  split
  · exact .refl e
  refine (ensures_any _).bind fun pm _ => ?_
  split
  · refine (retryRnrNackedPacket_reorders e p.rsn).bind ?_
    rintro ⟨e₁, inRnr⟩ hreorders
    have hkeeps : KeepsHeld e e₁ := hreorders.keepsHeld
    cases inRnr with
    | true => exact hkeeps.trans (transmitNACK_keepsHeld _ _ _ _ _)
    | false => exact hkeeps
  all_goals first | exact transmitNACK_keepsHeld _ _ _ _ _ | exact .refl e

lemma handleIncomingPacket_takesIn (e : Endpoint) (p : TransactionPacket) (sentTimestamp : Time) :
    Ensures AnyFault (fun q => (q.2 ≠ .ok ∧ KeepsHeld e q.1) ∨ (q.2 = .ok ∧ e.IsNew p ∧
      (ReceiveInv (fun _ => False) e → TakesIn p e q.1)))
      (e.handleIncomingPacket p sentTimestamp) := by
  have hreflect : KeepsHeld e (e.updateCongestionControlMetadataToReflect sentTimestamp) :=
    .of_eq rfl rfl rfl
  have hgenerate : ∀ (b : Bool) (n : Nat), KeepsHeld e ((e.updateCongestionControlMetadataToReflect
      sentTimestamp).generateAckOrUpdateCoalescingState b n) := fun b n =>
    hreflect.trans (generateAckOrUpdateCoalescingState_keepsHeld _ _ _)
  have hrejected : ∀ status, status ≠ RxStatus.ok → Ensures AnyFault
      (fun q : Endpoint × RxStatus => (q.2 ≠ .ok ∧ KeepsHeld e q.1) ∨ (q.2 = .ok ∧ e.IsNew p ∧
        (ReceiveInv (fun _ => False) e → TakesIn p e q.1)))
      ((e.updateCongestionControlMetadataToReflect sentTimestamp).handlePiggybackedACK p.bpsn
        (fun _ => false) >>= fun e => pure (e, status)) := fun status hstatus =>
    (handlePiggybackedACK_path _ _ _).bind fun e₁ h₁ =>
      .inl ⟨hstatus, hreflect.trans h₁.keepsHeld⟩
  unfold handleIncomingPacket
  refine Ensures.ite (fun _ => .inl ⟨by simp, hgenerate _ _⟩) fun hlow => ?_
  refine Ensures.ite (fun _ => ?_) fun hhigh => ?_
  · refine Ensures.ite (fun _ => .inl ⟨by simp, hreflect.trans (transmitNACK_keepsHeld _ _ _ _ _)⟩)
      fun _ => ?_
    refine Ensures.ite (fun _ => .inl ⟨by simp, ?_⟩) fun _ => .inl ⟨by simp, hreflect⟩
    refine (hreflect.trans ?_).trans (generateAckOrUpdateCoalescingState_keepsHeld _ _ _)
    refine ⟨fun w => ?_, fun _ tr _ htr ht => ⟨rfl, tr, htr, ht, fun _ hu => hu⟩⟩
    simp only [setRx, update_apply]
    split
    · rename_i heq
      subst heq
      exact ⟨rfl, rfl, rfl⟩
    · exact .refl _
  have hlt : e.rxIndex (windowOf p.type) p.psn < rxWindowSize (windowOf p.type) :=
    dist_lt_of_inWindow (by cases windowOf p.type <;> decide) hlow hhigh
  rw [rxIndex_mod hlt]
  refine Ensures.ite (fun _ => ?_) fun hunreceived => ?_
  · refine (handleDuplicateNackedPacket_keepsHeld _ p).bind fun e₁ h₁ => ?_
    exact .inl ⟨by simp, (hgenerate _ _).trans h₁⟩
  have hnew : e.IsNew p := ⟨hlt, Bool.eq_false_of_not_eq_true hunreceived⟩
  split
  · have htakes : Ensures AnyFault (fun e' => ReceiveInv (fun _ => False) e → TakesIn p e e')
        ((e.updateCongestionControlMetadataToReflect sentTimestamp).acceptPacket p) := by
      by_cases hinv : ReceiveInv (fun _ => False) e
      · refine (acceptPacket_takesIn (hinv.keepsHeld hreflect) ⟨hnew.lt, hnew.unreceived⟩).imp ?_
        exact fun e' h _ => ⟨h.other, h.records.congr (.refl _), h.arrived⟩
      · exact (ensures_any _).imp fun _ _ h => absurd h hinv
    exact htakes.bind fun e₁ h₁ => .inr ⟨rfl, hnew, h₁⟩
  · exact hrejected _ (by decide)
  · exact hrejected _ (by decide)

lemma handleNackFromUlp_keepsHeld (e : Endpoint) (rsn : Rsn) (rnrTimeout : Time) :
    Ensures AnyFault (KeepsHeld e) (e.handleNackFromUlp rsn rnrTimeout) := by
  refine (ensures_any _).bind fun context _ => ?_
  refine (e.getTransaction_found _).bind fun tr htr => ?_
  refine (tr.getPacketMetadata_found _).bind fun pm hpm => ?_
  have hcreated : ∀ pm', KeepsHeld e (e.setPacketMetadata ⟨rsn, .target⟩ tr context.type pm') :=
    fun _ => .createPacket htr hpm
  refine Ensures.ite (fun _ => hcreated _) fun _ => ?_
  exact (hcreated _).trans (transmitNACK_keepsHeld _ _ _ _ _)

lemma held_of_ulp {t u : PacketType} {stage : TransactionStage}
    (hstage : stage = .ulpRnrRx ∨ stage = .ulpTx) (h : nextState state t stage = .ok state')
    (hu : state'.held = some u) : state.held = some u := by
  rcases hstage with rfl | rfl <;> cases t <;>
    simp only [nextState, List.mem_cons, List.not_mem_nil, or_false] at h <;>
    first
    | cases h
    | (split at h
       · rename_i hstate
         cases h
         rcases hstate with rfl | rfl <;> exact hu
       · cases h)

lemma takeCredits_keepsHeld (e : Endpoint) (key : TransactionKey) (credits : FalconResourceCredits)
    (packets : List (PacketType × FalconResourceCredits)) :
    KeepsHeld e (e.takeCredits key credits packets) := by
  rw [takeCredits_eq]
  exact .of_eq rfl rfl rfl

lemma updateState_found (tr : TransactionMetadata) (t : PacketType) (stage : TransactionStage) :
    Ensures AnyFault (fun tr' => ∃ state, nextState tr.state t stage = .ok state ∧
      tr' = { tr with state := state }) (tr.updateState t stage) := by
  exact (ensures_eq _).bind fun state hstate => ⟨state, hstate, rfl⟩

lemma deliverToReorderEngine_inv (e : Endpoint) {location : TransactionLocation}
    (hlocation : getTransactionLocation p.type true = .ok location)
    (h : ArrivedAt p e location) :
    Ensures AnyFault (fun e' => ReceiveInv (fun _ => False) e' ∧
      ∀ w, (e.rx w).SameWindow (e'.rx w)) (e.deliverToReorderEngine p) := by
  refine (e.createOrUpdateTransactionFromNetwork_cases p).bind ?_
  rintro _ ⟨location', tr, state, hlocation', htr, hstate, -, rfl⟩
  obtain rfl : location' = location := Except.ok.inj (hlocation'.symm.trans hlocation)
  have hset : ∀ pm, ReceiveInv (fun _ => False) (e.setTransaction ⟨p.rsn, location'⟩
      { tr.createPacket p.type pm with state := state }) := by
    intro pm
    cases location' with
    | target => exact Arrived.setTransaction h htr hstate
    | initiator => exact ReceiveInv.keepsHeld h (.setTransaction nofun)
  generalize he₁ : e.setTransaction ⟨p.rsn, location'⟩ _ = e₁
  have hinv : ReceiveInv (fun _ => False) e₁ := he₁ ▸ hset _
  have hwindows : e₁.rx = e.rx := by
    rw [← he₁]
    rfl
  refine Ensures.imp (Q := KeepsHeld e₁) ?_ fun e₂ h₂ =>
    ⟨hinv.keepsHeld h₂, fun w => hwindows ▸ h₂.windows w⟩
  have hreserve : Ensures AnyFault (KeepsHeld e₁) (e₁.reserveIncoming p) := by
    refine (e₁.reserveIncoming_cases p).imp ?_
    rintro _ (⟨rfl, -⟩ | ⟨-, -, rfl⟩)
    · exact .refl _
    · exact takeCredits_keepsHeld _ _ _ _
  refine hreserve.bind fun e₂ h₂ => ?_
  refine (insertPacket_reorders e₂ p.type p.rsn p.ssn).bind ?_
  rintro ⟨e₃, inRnr⟩ h₃
  have hkeeps : KeepsHeld e₁ e₃ := h₂.trans (Reorders.keepsHeld h₃)
  refine Ensures.ite (fun _ => ?_) fun _ => hkeeps
  refine (e₃.getTransaction_found _).bind fun tr' htr' => ?_
  refine (updateState_found tr' _ _).bind ?_
  rintro _ ⟨state', hstate', rfl⟩
  refine (handleNackFromUlp_keepsHeld _ _ _).imp fun e₄ h₄ => ?_
  exact (hkeeps.trans (.updateState htr' fun t ht => held_of_ulp (.inl rfl) hstate' ht)).trans h₄

/-! ## Acknowledgements of the ULP -/

lemma held_of_ulpAckRx (h : nextState state t .ulpAckRx = .ok state') :
    state.held = some t ∧ state'.held = none ∧ (t = .pullRequest ∨ isPushData t = true) := by
  cases t <;> simp only [nextState, List.mem_singleton] at h <;>
    first
    | cases h
    | (split at h
       · rename_i hstate
         cases h
         subst hstate
         exact ⟨rfl, rfl, by decide⟩
       · cases h)

/-- The ULP acknowledges push data that was held. -/
structure AcksHeld (rsn : Rsn) (c : ReceivedPacketContext) (e e' : Endpoint) : Prop where
  context : e.receivedPacketContexts ⟨rsn, .target⟩ = some c
  push : isPushData c.type = true
  unacked : e.IsUnacked .data c.psn
  request : (e.rx .request).SameWindow (e'.rx .request)
  records : Records e e' .data (Bitmap.set (e.rx .data).ackWindow (e.rxIndex .data c.psn) true)
    (e.rx .data).receiveWindow

lemma ReceiveInv.updateReceiveAckBitmap (hinv : ReceiveInv (fun _ => False) e)
    (hunacked : e.IsUnacked .data psn)
    (hfree : ∀ rsn t c, e.Holds rsn t → isPushData t = true →
      e.receivedPacketContexts ⟨rsn, .target⟩ = some c → c.psn ≠ psn) :
    ReceiveInv (fun _ => False) (e.updateReceiveAckBitmap .data psn) := by
  have hsets : (e.updateReceiveAckBitmap .data psn).transactions = e.transactions ∧
      (e.updateReceiveAckBitmap .data psn).receivedPacketContexts = e.receivedPacketContexts := by
    unfold Endpoint.updateReceiveAckBitmap
    dsimp only
    split <;> exact ⟨rfl, rfl⟩
  refine hinv.records hsets.1 hsets.2 fun w => ?_
  cases w with
  | request =>
    refine ⟨_, _, .of_sameWindow ?_ (hinv.windows _), nofun⟩
    rw [updateReceiveAckBitmap_other (by decide)]
    exact .refl _
  | data =>
    refine ⟨_, _, updateReceiveAckBitmap_records (hinv.windows .data) hunacked.1,
      fun _ rsn t c _ ht hpush hc => ?_⟩
    obtain ⟨tr, htr, hstate⟩ := ht
    have hcontext := hinv.context rsn tr t not_false htr hstate
    rw [hc] at hcontext
    have hlt := (hinv.windows .data).lt_of_received _ hunacked.1
    rw [Bitmap.get_set _ (hlt.trans_le (rxWindowSize_le_width _)), if_neg, (hcontext.2 hpush).2]
    exact fun heq => hfree rsn t c ⟨tr, htr, hstate⟩ hpush hc (Serial.dist_inj heq)

lemma handleAckFromUlp_acks (hinv : ReceiveInv (fun _ => False) e) (ht : e.Holds rsn t)
    (htype : t = .pullRequest ∨ isPushData t = true) (hkeeps : KeepsHeld e e₁)
    (hcontexts : e₁.receivedPacketContexts = e.receivedPacketContexts)
    (hreleased : ∀ t, ¬e₁.Holds rsn t) :
    Ensures AnyFault (fun e' => ReceiveInv (fun _ => False) e' ∧
      (KeepsHeld e e' ∨ ∃ c, AcksHeld rsn c e e')) (e₁.handleAckFromUlp rsn) := by
  have hinv₁ := hinv.keepsHeld hkeeps
  refine Ensures.bind (P := fun c => e.receivedPacketContexts ⟨rsn, .target⟩ = some c) ?_ ?_
  · unfold getReceivedPacketContext
    rw [hcontexts]
    split
    · assumption
    · trivial
  intro c hc
  obtain ⟨tr, htr, hstate⟩ := ht
  have hcontext := hinv.context rsn tr t not_false htr hstate
  rw [hc] at hcontext
  obtain ⟨rfl, hunacked⟩ := hcontext
  refine Ensures.ite (fun _ => ⟨hinv₁, .inl hkeeps⟩) fun hpull => ?_
  have hpush := htype.resolve_left hpull
  have hunacked := hunacked hpush
  have hwindow := windowOf_of_isPushData hpush
  rw [hwindow]
  -- The transaction goes, so that the acknowledged packet belongs to none that is held.
  have herase : KeepsHeld e₁ ((e₁.setReceivedPacketContext ⟨rsn, .target⟩ none).eraseTransaction
      ⟨rsn, .target⟩) := KeepsHeld.erase ⟨rsn, .target⟩
  revert herase
  generalize (e₁.setReceivedPacketContext ⟨rsn, .target⟩ none).eraseTransaction
    ⟨rsn, .target⟩ = e₂
  intro herase
  have hkeeps₂ := hkeeps.trans herase
  have hinv₂ := hinv₁.keepsHeld herase
  have hsame := hkeeps₂.windows .data
  have hunacked₂ : e₂.IsUnacked .data c.psn := (isUnacked_congr hsame).mpr hunacked
  have hinv₃ : ReceiveInv (fun _ => False) (e₂.updateReceiveAckBitmap .data c.psn) := by
    refine hinv₂.updateReceiveAckBitmap hunacked₂ fun rsn' t' c' ht' hpush' hc' heq => ?_
    obtain ⟨hholds, hcontext⟩ := hkeeps₂.holds ht'
    have heq' := hinv.distinct rsn' rsn t' _ c' c not_false not_false hholds ⟨tr, htr, hstate⟩
      hpush' hpush (hcontext ▸ hc') hc heq
    subst heq'
    exact hreleased t' (herase.holds ht').1
  have hrecords : Records e (e₂.updateReceiveAckBitmap .data c.psn) .data
      (Bitmap.set (e.rx .data).ackWindow (e.rxIndex .data c.psn) true)
      (e.rx .data).receiveWindow := by
    have hindex : e₂.rxIndex .data c.psn = e.rxIndex .data c.psn := by
      unfold rxIndex
      rw [hsame.base]
    have hcongr := (updateReceiveAckBitmap_records (hinv₂.windows .data) hunacked₂.1).congr hsame
    rw [hindex, hsame.ackWindow, hsame.receiveWindow] at hcongr
    exact hcongr
  have hgenerate := generateAckOrUpdateCoalescingState_keepsHeld
    (e₂.updateReceiveAckBitmap .data c.psn) c.isAckRequested 1
  refine ⟨hinv₃.keepsHeld hgenerate, .inr ⟨c, hc, hpush, hunacked, ?_,
    hrecords.trans_sameWindow (hgenerate.windows _)⟩⟩
  have hother : (e₂.updateReceiveAckBitmap .data c.psn).rx .request = e₂.rx .request :=
    updateReceiveAckBitmap_other (by decide)
  exact (hkeeps₂.windows .request).trans (hother ▸ hgenerate.windows .request)

lemma ackTransaction_acks (hinv : ReceiveInv (fun _ => False) e) (rsn : Rsn) :
    Ensures AnyFault (fun e' => ReceiveInv (fun _ => False) e' ∧
      (KeepsHeld e e' ∨ ∃ c, AcksHeld rsn c e e')) (e.ackTransaction rsn) := by
  refine (e.getTransaction_found _).bind fun tr htr => ?_
  refine (updateState_found tr _ _).bind ?_
  rintro _ ⟨state, hstate, rfl⟩
  obtain ⟨hheld, hnone, htype⟩ := held_of_ulpAckRx hstate
  let e' := e.setTransaction ⟨rsn, .target⟩ { tr with state := state }
  have hset : KeepsHeld e e' := by
    refine .updateState htr fun t ht => ?_
    rw [hnone] at ht
    cases ht
  have hreleased : ∀ t, ¬e'.Holds rsn t := by
    rintro t ⟨tr', htr', ht⟩
    obtain rfl := Option.some.inj ((transactions_setTransaction_self ..).symm.trans htr')
    rw [hnone] at ht
    cases ht
  have hrelease : Ensures AnyFault (fun e₁ => KeepsHeld e' e₁ ∧
      e₁.receivedPacketContexts = e.receivedPacketContexts)
      (e'.releaseResources ⟨rsn, .target⟩ (ulpPacketType tr.type)) := by
    refine ((releaseResources_keepsHeld _ _ _).and (releaseResources_cases _ _ _)).imp ?_
    rintro e₁ ⟨hkeeps, ⟨rfl, -⟩ | ⟨tr, pm, released, returned, -, -, -, -, -, -, rfl⟩⟩
    · exact ⟨hkeeps, rfl⟩
    · exact ⟨hkeeps, rfl⟩
  refine hrelease.bind ?_
  rintro e₁ ⟨h₁, hcontexts⟩
  refine (handleAckFromUlp_acks hinv ⟨tr, htr, hheld⟩ htype (hset.trans h₁) hcontexts
    fun t ht => hreleased t (h₁.holds ht).1).bind ?_
  rintro e₂ ⟨hinv₂, h₂⟩
  have hreorder : KeepsHeld e₂ { e₂.reorderHandleAckFromUlp rsn with ulp :=
      { given := (e₂.reorderHandleAckFromUlp rsn).ulp.given.erase rsn
        reads := if tr.type = .pull then (e₂.reorderHandleAckFromUlp rsn).ulp.reads ++ [rsn]
          else (e₂.reorderHandleAckFromUlp rsn).ulp.reads } } := by
    unfold reorderHandleAckFromUlp
    dsimp only
    split <;> exact .of_eq rfl rfl rfl
  refine ⟨hinv₂.keepsHeld hreorder, h₂.imp (·.trans hreorder) ?_⟩
  rintro ⟨c, hacks⟩
  exact ⟨c, hacks.context, hacks.push, hacks.unacked, hacks.request.trans (hreorder.windows _),
    hacks.records.trans_sameWindow (hreorder.windows _)⟩

end Endpoint

end Isekai.Falcon
