import Isekai.Falcon.Arrivals
import Isekai.Lib.Serial
import Isekai.Lib.TransitionSystem

/-!
# The receive windows of an endpoint

The packets that arrive are arbitrary here: nothing is assumed about the peer.
-/

namespace Isekai.Falcon

open Lib Function

namespace TransactionState

def held : TransactionState → Option PacketType
  | pullReqNtwkRx | pullReqRnrUlpRx | pullReqUlpTx => some .pullRequest
  | pushSolicitedDataNtwkRx | pushSolicitedDataRnrUlpRx | pushSolicitedDataUlpTx =>
    some .pushSolicitedData
  | pushUnsolicitedDataNtwkRx | pushUnsolicitedDataRnrUlpRx | pushUnsolicitedDataUlpTx =>
    some .pushUnsolicitedData
  | _ => none

end TransactionState

variable {t : PacketType}

lemma windowOf_of_isPushData (ht : isPushData t = true) : windowOf t = .data := by
  cases t <;> simp [isPushData] at ht <;> rfl

namespace ReceiverReliabilityWindowMetadata

variable {size i : Nat} {rx rx₁ rx₂ : ReceiverReliabilityWindowMetadata}

structure SameWindow (rx rx' : ReceiverReliabilityWindowMetadata) : Prop where
  base : rx'.base = rx.base
  receiveWindow : rx'.receiveWindow = rx.receiveWindow
  ackWindow : rx'.ackWindow = rx.ackWindow

lemma SameWindow.refl (rx : ReceiverReliabilityWindowMetadata) : rx.SameWindow rx :=
  ⟨rfl, rfl, rfl⟩

lemma SameWindow.trans (h : rx.SameWindow rx₁) (h' : rx₁.SameWindow rx₂) : rx.SameWindow rx₂ :=
  ⟨h'.base.trans h.base, h'.receiveWindow.trans h.receiveWindow, h'.ackWindow.trans h.ackWindow⟩

/-- Acknowledged packets are received, and the first is none of them. -/
structure Disciplined (size : Nat) (rx : ReceiverReliabilityWindowMetadata) : Prop where
  received_of_acked : ∀ i, Bitmap.get rx.ackWindow i = true → Bitmap.get rx.receiveWindow i = true
  base_unacked : Bitmap.get rx.ackWindow 0 = false
  lt_of_received : ∀ i, Bitmap.get rx.receiveWindow i = true → i < size

lemma SameWindow.disciplined (h : rx.SameWindow rx₁) (hrx : rx.Disciplined size) :
    rx₁.Disciplined size := by
  obtain ⟨hreceived, hbase, hlt⟩ := hrx
  exact ⟨by rwa [h.receiveWindow, h.ackWindow], by rwa [h.ackWindow], by rwa [h.receiveWindow]⟩

/-- The window `rx'` is `rx` with the bitmaps `ack` and `receive`, moved by the number of leading
sequence numbers that `ack` has acknowledged. -/
structure Slides (size : Nat) (rx : ReceiverReliabilityWindowMetadata)
    (ack receive : BitVec rxBitmapWidth) (rx' : ReceiverReliabilityWindowMetadata) : Prop where
  base : rx'.base = rx.base + BitVec.ofNat 32 (Bitmap.runEnd ack 0 size)
  ackWindow : rx'.ackWindow = Bitmap.rightShift ack (Bitmap.runEnd ack 0 size)
  receiveWindow : rx'.receiveWindow = Bitmap.rightShift receive (Bitmap.runEnd ack 0 size)

lemma Slides.of_clear {ack receive : BitVec rxBitmapWidth} (h : Bitmap.get ack 0 = false)
    (hbase : rx₁.base = rx.base) (hack : rx₁.ackWindow = ack)
    (hreceive : rx₁.receiveWindow = receive) : Slides size rx ack receive rx₁ := by
  have hshift : ∀ b : BitVec rxBitmapWidth, Bitmap.rightShift b 0 = b := fun b => by
    simp [Bitmap.rightShift]
  refine ⟨?_, ?_, ?_⟩ <;> rw [Bitmap.runEnd_eq_zero h]
  · rw [hbase]
    exact (BitVec.add_zero _).symm
  · rw [hack, hshift]
  · rw [hreceive, hshift]

lemma Slides.disciplined {ack receive : BitVec rxBitmapWidth} (h : Slides size rx ack receive rx₁)
    (hreceived : ∀ i, Bitmap.get ack i = true → Bitmap.get receive i = true)
    (hlt : ∀ i, Bitmap.get receive i = true → i < size) : rx₁.Disciplined size := by
  refine ⟨fun i hi => ?_, ?_, fun i hi => ?_⟩
  · rw [h.ackWindow, Bitmap.get_rightShift] at hi
    rw [h.receiveWindow, Bitmap.get_rightShift]
    exact hreceived _ hi
  · rw [h.ackWindow, Bitmap.get_rightShift, Nat.add_zero]
    have hle := Bitmap.runEnd_le ack 0 size
    rcases Nat.lt_or_eq_of_le hle with hend | hend
    · exact Bitmap.get_runEnd ack 0 size hend
    · by_contra hset
      have := hlt _ (hreceived _ (Bool.eq_true_of_not_eq_false hset))
      omega
  · rw [h.receiveWindow, Bitmap.get_rightShift] at hi
    have := hlt _ hi
    omega

end ReceiverReliabilityWindowMetadata

namespace Endpoint

open ReceiverReliabilityWindowMetadata

variable {e e₁ e₂ : Endpoint} {w : WindowType} {psn : Psn} {tr : TransactionMetadata}
  {key : TransactionKey} {rsn : Rsn}

def rxIndex (e : Endpoint) (w : WindowType) (psn : Psn) : Nat := Serial.dist (e.rx w).base psn

lemma rxIndex_mod (h : e.rxIndex w psn < rxWindowSize w) :
    (psn - (e.rx w).base).toNat % rxWindowSize w = e.rxIndex w psn :=
  Nat.mod_eq_of_lt h

lemma rxWindowSize_le_width (w : WindowType) : rxWindowSize w ≤ rxBitmapWidth := by
  cases w <;> decide

lemma updateReceiveAckBitmap_slides (hlt : e.rxIndex w psn < rxWindowSize w)
    (hclear : Bitmap.get (e.rx w).ackWindow 0 = false) :
    Slides (rxWindowSize w) (e.rx w)
      (Bitmap.set (e.rx w).ackWindow (e.rxIndex w psn) true) (e.rx w).receiveWindow
      ((e.updateReceiveAckBitmap w psn).rx w) := by
  unfold updateReceiveAckBitmap
  dsimp only
  rw [rxIndex_mod hlt]
  by_cases hbase : psn = (e.rx w).base
  · rw [if_pos hbase]
    simp only [emit, setRx, update_self]
    exact ⟨rfl, rfl, rfl⟩
  · rw [if_neg hbase]
    simp only [setRx, update_self]
    refine Slides.of_clear ?_ rfl rfl rfl
    have hne : 0 ≠ e.rxIndex w psn := fun heq => hbase (Serial.dist_eq_zero.mp heq.symm)
    rw [Bitmap.get_set _ (hlt.trans_le (rxWindowSize_le_width w)), if_neg hne, hclear]

lemma updateReceiveAckBitmap_other {w' : WindowType} (h : w' ≠ w) :
    (e.updateReceiveAckBitmap w psn).rx w' = e.rx w' := by
  unfold updateReceiveAckBitmap
  dsimp only
  split <;> simp [emit, setRx, h]

/-! ## Transactions that the ULP has not answered -/

def IsUnacked (e : Endpoint) (w : WindowType) (psn : Psn) : Prop :=
  Bitmap.get (e.rx w).receiveWindow (e.rxIndex w psn) = true ∧
    Bitmap.get (e.rx w).ackWindow (e.rxIndex w psn) = false

/-- What the context of a held transaction says. A transaction whose context is gone has nothing to
send, so that no transmission makes an empty context for it. -/
def ContextOf (e : Endpoint) (tr : TransactionMetadata) (t : PacketType) :
    Option ReceivedPacketContext → Prop
  | some c => c.type = t ∧ (isPushData t = true → e.IsUnacked .data c.psn)
  | none => tr.packets .pullData = none ∧ tr.packets .pushGrant = none

def Holds (e : Endpoint) (rsn : Rsn) (t : PacketType) : Prop :=
  ∃ tr, e.transactions ⟨rsn, .target⟩ = some tr ∧ tr.state.held = some t

/-- The receive windows and the transactions that are held for the ULP. Nothing is said about the
transactions in `busy`, which are being updated. -/
structure ReceiveInv (busy : Rsn → Prop) (e : Endpoint) : Prop where
  windows : ∀ w, (e.rx w).Disciplined (rxWindowSize w)
  context : ∀ rsn tr t, ¬busy rsn → e.transactions ⟨rsn, .target⟩ = some tr →
    tr.state.held = some t → e.ContextOf tr t (e.receivedPacketContexts ⟨rsn, .target⟩)
  distinct : ∀ rsn rsn' t t' c c', ¬busy rsn → ¬busy rsn' → e.Holds rsn t → e.Holds rsn' t' →
    isPushData t = true → isPushData t' = true →
    e.receivedPacketContexts ⟨rsn, .target⟩ = some c →
    e.receivedPacketContexts ⟨rsn', .target⟩ = some c' → c.psn = c'.psn → rsn = rsn'

/-- The receive windows stay, and the transactions that are held afterwards were held before, with
the same context. -/
structure KeepsHeld (e e' : Endpoint) : Prop where
  windows : ∀ w, (e.rx w).SameWindow (e'.rx w)
  held : ∀ rsn tr' t, e'.transactions ⟨rsn, .target⟩ = some tr' → tr'.state.held = some t →
    e'.receivedPacketContexts ⟨rsn, .target⟩ = e.receivedPacketContexts ⟨rsn, .target⟩ ∧
      ∃ tr, e.transactions ⟨rsn, .target⟩ = some tr ∧ tr.state.held = some t ∧
        ∀ u, tr.packets u = none → tr'.packets u = none

lemma KeepsHeld.of_eq (hrx : e₁.rx = e.rx) (htransactions : e₁.transactions = e.transactions)
    (hcontexts : e₁.receivedPacketContexts = e.receivedPacketContexts) : KeepsHeld e e₁ := by
  refine ⟨fun w => ?_, fun rsn tr t htr ht => ⟨by rw [hcontexts], tr, ?_, ht, fun _ h => h⟩⟩
  · rw [hrx]
    exact .refl _
  · rw [← htransactions, htr]

lemma KeepsHeld.refl (e : Endpoint) : KeepsHeld e e := .of_eq rfl rfl rfl

lemma KeepsHeld.trans (h : KeepsHeld e e₁) (h' : KeepsHeld e₁ e₂) : KeepsHeld e e₂ := by
  refine ⟨fun w => (h.windows w).trans (h'.windows w), fun rsn tr₂ t htr₂ ht₂ => ?_⟩
  obtain ⟨hcontext', tr₁, htr₁, ht₁, hnone'⟩ := h'.held rsn tr₂ t htr₂ ht₂
  obtain ⟨hcontext, tr, htr, ht, hnone⟩ := h.held rsn tr₁ t htr₁ ht₁
  exact ⟨hcontext'.trans hcontext, tr, htr, ht, fun u hu => hnone' u (hnone u hu)⟩

lemma KeepsHeld.setTransaction {tr' : TransactionMetadata}
    (h : key.location = .target → ∀ t, tr'.state.held = some t →
      ∃ tr, e.transactions key = some tr ∧ tr.state.held = some t ∧
        ∀ u, tr.packets u = none → tr'.packets u = none) :
    KeepsHeld e (e.setTransaction key tr') := by
  refine ⟨fun w => .refl _, fun rsn tr₁ t htr₁ ht => ⟨rfl, ?_⟩⟩
  unfold Endpoint.setTransaction at htr₁
  dsimp only at htr₁
  rw [update_apply] at htr₁
  split at htr₁
  · rename_i heq
    cases htr₁
    subst heq
    exact h rfl t ht
  · exact ⟨tr₁, htr₁, ht, fun _ hu => hu⟩

lemma KeepsHeld.erase (key : TransactionKey) :
    KeepsHeld e ((e.eraseTransaction key).setReceivedPacketContext key none) := by
  refine ⟨fun w => .refl _, fun rsn tr t htr ht => ?_⟩
  by_cases heq : (⟨rsn, .target⟩ : TransactionKey) = key
  · subst heq
    simp [setReceivedPacketContext, eraseTransaction] at htr
  · exact ⟨update_of_ne heq _ _, tr, (update_of_ne heq _ _).symm.trans htr, ht,
      fun _ hu => hu⟩

lemma isUnacked_congr (h : (e.rx w).SameWindow (e₁.rx w)) : e₁.IsUnacked w psn ↔
    e.IsUnacked w psn := by
  unfold IsUnacked rxIndex
  rw [h.base, h.receiveWindow, h.ackWindow]

lemma KeepsHeld.holds (h : KeepsHeld e e₁) (ht : e₁.Holds rsn t) :
    e.Holds rsn t ∧
      e₁.receivedPacketContexts ⟨rsn, .target⟩ = e.receivedPacketContexts ⟨rsn, .target⟩ := by
  obtain ⟨tr', htr', ht⟩ := ht
  obtain ⟨hcontext, tr, htr, ht, -⟩ := h.held rsn tr' t htr' ht
  exact ⟨⟨tr, htr, ht⟩, hcontext⟩

lemma ReceiveInv.keepsHeld {busy : Rsn → Prop} (hinv : ReceiveInv busy e) (h : KeepsHeld e e₁) :
    ReceiveInv busy e₁ := by
  refine ⟨fun w => (h.windows w).disciplined (hinv.windows w), fun rsn tr' t hbusy htr' ht => ?_,
    fun rsn rsn' t t' c c' hbusy hbusy' ht ht' hpush hpush' hc hc' hpsn => ?_⟩
  · obtain ⟨hcontext, tr, htr, ht, hnone⟩ := h.held rsn tr' t htr' ht
    have hold := hinv.context rsn tr t hbusy htr ht
    rw [hcontext]
    cases hc : e.receivedPacketContexts ⟨rsn, .target⟩ with
    | none =>
      rw [hc] at hold
      exact ⟨hnone _ hold.1, hnone _ hold.2⟩
    | some c =>
      rw [hc] at hold
      exact ⟨hold.1, fun hpush => (isUnacked_congr (h.windows _)).mpr (hold.2 hpush)⟩
  · obtain ⟨hholds, hcontext⟩ := h.holds ht
    obtain ⟨hholds', hcontext'⟩ := h.holds ht'
    exact hinv.distinct rsn rsn' t t' c c' hbusy hbusy' hholds hholds' hpush hpush'
      (hcontext ▸ hc) (hcontext' ▸ hc') hpsn

/-! ## What keeps the held transactions -/

lemma held_of_ntwkAckRx {state state' : TransactionState} {t u : PacketType}
    (h : nextState state t .ntwkAckRx = .ok state') (hu : state'.held = some u) :
    state'= state := by
  cases t <;> simp only [nextState] at h <;>
    first
    | exact (Except.ok.inj h).symm
    | cases h
    | (split at h
       · cases h
         cases hu
       · cases h)

lemma held_of_ntwkTx {state state' : TransactionState}
    (h : nextState state t .ntwkTx = .ok state') :
    state'.held = none := by
  cases t <;> simp only [nextState] at h <;>
    first
    | cases h
    | (split at h
       · cases h
         rfl
       · cases h)

lemma KeepsHeld.updateState {state : TransactionState} (htr : e.transactions key = some tr)
    (h : ∀ t, state.held = some t → tr.state.held = some t) :
    KeepsHeld e (e.setTransaction key { tr with state := state }) :=
  .setTransaction fun _ t ht => ⟨tr, htr, h t ht, fun _ hu => hu⟩

lemma KeepsHeld.createPacket {pm pm' : PacketMetadata} (htr : e.transactions key = some tr)
    (hpm : tr.packets t = some pm) :
    KeepsHeld e (e.setTransaction key (tr.createPacket t pm')) := by
  refine .setTransaction fun _ u hu => ⟨tr, htr, hu, fun v hv => ?_⟩
  rw [TransactionMetadata.packets_createPacket, if_neg, hv]
  rintro rfl
  rw [hpm] at hv
  cases hv

lemma releaseResources_keepsHeld (e : Endpoint) (key : TransactionKey) (t : PacketType) :
    Ensures AnyFault (KeepsHeld e) (e.releaseResources key t) := by
  refine (e.releaseResources_cases key t).imp ?_
  rintro _ (⟨rfl, -⟩ | ⟨tr, pm, released, returned, -, htr, hpm, -, -, -, rfl⟩)
  · exact .refl _
  · exact (KeepsHeld.createPacket htr hpm).trans (.of_eq rfl rfl rfl)

lemma Reorders.keepsHeld (h : Reorders e e₁) : KeepsHeld e e₁ := by
  obtain ⟨T, Q, I, R, rfl, hT⟩ := h
  suffices hkeeps : KeepsHeld e { e with transactions := T } from
    hkeeps.trans (.of_eq rfl rfl rfl)
  induction hT with
  | refl => exact .refl e
  | tail _ hstep ih =>
    obtain ⟨key, tr, pm, htr, hpm, rfl⟩ := hstep
    exact ih.trans (.createPacket htr hpm)

lemma Edit.keepsHeld (h : Edit e e₁) : KeepsHeld e e₁ := by
  cases h with
  | packet htr hpm _ => exact .createPacket htr hpm
  | acked htr hstate =>
    refine .updateState htr fun t ht => ?_
    rw [held_of_ntwkAckRx hstate ht] at ht
    exact ht
  | release _ h => exact (e.releaseResources_keepsHeld _ _).of_ok h
  | erase rsn => exact .erase _
  | initiatorCallback _ h => exact ((reorderCallback_reorders e _ _).of_ok h).keepsHeld
  | _ => exact .of_eq rfl rfl rfl

lemma Path.keepsHeld (h : Path e e₁) : KeepsHeld e e₁ := by
  induction h with
  | refl => exact .refl e
  | tail _ hedit ih => exact ih.trans hedit.keepsHeld

lemma piggybackAck_keepsHeld (e : Endpoint) : KeepsHeld e e.piggybackAck := by
  obtain ⟨c, n, h⟩ := piggybackAck_eq e
  rw [h]
  exact .of_eq rfl rfl rfl

lemma resetOowDrops_keepsHeld (e : Endpoint) : KeepsHeld e e.resetOowDrops :=
  ⟨fun _ => ⟨rfl, rfl, rfl⟩, fun _ tr _ htr ht => ⟨rfl, tr, htr, ht, fun _ hu => hu⟩⟩

lemma transmitACK_keepsHeld (e : Endpoint) : KeepsHeld e e.transmitACK := by
  unfold transmitACK
  dsimp only
  split
  · exact (KeepsHeld.of_eq rfl rfl rfl).trans
      ((resetOowDrops_keepsHeld _).trans (.of_eq rfl rfl rfl))
  · exact .of_eq rfl rfl rfl

lemma transmitNACK_keepsHeld (e : Endpoint) (psn : Psn) (isRequestWindow : Bool) (code : NackCode)
    (rnrTimeout : Time) : KeepsHeld e (e.transmitNACK psn isRequestWindow code rnrTimeout) :=
  e.piggybackAck_keepsHeld.trans ((resetOowDrops_keepsHeld _).trans (.of_eq rfl rfl rfl))

lemma generateAckOrUpdateCoalescingState_keepsHeld (e : Endpoint) (immediateAckReq : Bool)
    (countIncrement : Nat) :
    KeepsHeld e (e.generateAckOrUpdateCoalescingState immediateAckReq countIncrement) := by
  unfold generateAckOrUpdateCoalescingState
  dsimp only
  split
  · exact (KeepsHeld.of_eq rfl rfl rfl).trans (transmitACK_keepsHeld _)
  · split <;> exact .of_eq rfl rfl rfl

/-! ## Transmissions -/

lemma createReceivedPacketContext_keepsHeld
    (h : key.location = .target → ∀ tr t, e.transactions key = some tr →
      tr.state.held = some t → e.receivedPacketContexts key ≠ none) :
    KeepsHeld e (e.createReceivedPacketContext key) := by
  refine ⟨fun w => .refl _, fun rsn tr t htr ht => ⟨?_, tr, htr, ht, fun _ hu => hu⟩⟩
  unfold createReceivedPacketContext setReceivedPacketContext
  dsimp only
  rw [update_apply]
  split
  · rename_i heq
    subst heq
    obtain ⟨c, hc⟩ := Option.ne_none_iff_exists'.mp (h rfl tr t htr ht)
    rw [hc]
    rfl
  · rfl

lemma ReceiveInv.context_ne_none (hinv : ReceiveInv (fun _ => False) e) {t u : PacketType}
    (hlocation : getTransactionLocation t false = .ok .target)
    (htr : e.transactions ⟨rsn, .target⟩ = some tr) (ht : tr.packets t ≠ none)
    (hu : tr.state.held = some u) : e.receivedPacketContexts ⟨rsn, .target⟩ ≠ none := by
  intro hnone
  have hcontext := hinv.context rsn tr u not_false htr hu
  rw [hnone] at hcontext
  cases t <;> simp [getTransactionLocation, pure, Except.pure, throw, throwThe,
    MonadExceptOf.throw] at hlocation
  · exact ht hcontext.2
  · exact ht hcontext.1

lemma ReceiveInv.numbered_keepsHeld (hinv : ReceiveInv (fun _ => False) e)
    {location : TransactionLocation} {pm pm' : PacketMetadata} {n : Ssn}
    (hlocation : getTransactionLocation t false = .ok location)
    (htr : e.transactions ⟨rsn, location⟩ = some tr) (hpm : tr.packets t = some pm)
    (h₁ : Path { e.setTransaction ⟨rsn, location⟩ (tr.createPacket t pm') with
      currentSolicitationSequenceNumber := n } e₁) :
    KeepsHeld e (e₁.piggybackAck.createReceivedPacketContext ⟨rsn, location⟩) := by
  have hcreated : KeepsHeld e { e.setTransaction ⟨rsn, location⟩ (tr.createPacket t pm') with
      currentSolicitationSequenceNumber := n } :=
    (KeepsHeld.createPacket htr hpm).trans (.of_eq rfl rfl rfl)
  have hkeeps : KeepsHeld e e₁.piggybackAck :=
    (hcreated.trans h₁.keepsHeld).trans (piggybackAck_keepsHeld e₁)
  refine hkeeps.trans (createReceivedPacketContext_keepsHeld ?_)
  rintro htarget tr₁ u htr₁ hu
  subst htarget
  refine (hinv.keepsHeld hkeeps).context_ne_none hlocation htr₁ ?_ hu
  obtain ⟨c, k, hpiggyback⟩ := piggybackAck_eq e₁
  rw [hpiggyback] at htr₁
  obtain ⟨tr₀, htr₀, hevolves⟩ := h₁.evolve _ tr₁ htr₁
  obtain rfl : tr₀ = tr.createPacket t pm' :=
    Option.some_injective _ (htr₀.symm.trans (update_self ..))
  intro hnone
  have := hevolves.kept t hnone
  rw [TransactionMetadata.packets_createPacket, if_pos rfl] at this
  cases this

lemma Transmits.keepsHeld (h : Transmits e rsn t e₁) (hinv : ReceiveInv (fun _ => False) e) :
    KeepsHeld e e₁ := by
  cases h with
  | again hlocation htr hpm _ _ h₁ h₂ _ =>
    exact (hinv.numbered_keepsHeld hlocation htr hpm h₁).trans
      (h₂.keepsHeld.trans (.of_eq rfl rfl rfl))
  | first hlocation htr hpm _ _ h₁ h₂ htr₂ hstate _ =>
    refine (hinv.numbered_keepsHeld hlocation htr hpm h₁).trans (h₂.keepsHeld.trans ?_)
    refine (KeepsHeld.updateState htr₂ fun u hu => ?_).trans (.of_eq rfl rfl rfl)
    rw [held_of_ntwkTx hstate] at hu
    cases hu

end Endpoint

end Isekai.Falcon
