import Isekai.Falcon.EackLimit
import Isekai.Falcon.WindowFrames

/-!
# What the processing of an EACK does

An EACK first acknowledges the packets of its bitmaps; then its retransmission loop runs over the
outstanding packets of each window. The loop is compared with a selection that is a function of the
state in which the EACK arrives.
-/

namespace Isekai.Falcon

open Lib Function

namespace Endpoint

variable {e e₁ e₂ : Endpoint} {p : AckPacket} {w : WindowType}

/-! ## Acknowledging the packets of a bitmap -/

def ackedByBitmap (tx : TransmitterReliabilityWindowMetadata) (bitmap : BitVec rxBitmapWidth)
    (k : Nat) (x : RetransmissionWorkId) : Bool :=
  decide (Serial.dist tx.base x.psn < k) &&
    (!Bitmap.get tx.window (Serial.dist tx.base x.psn) &&
      Bitmap.get bitmap (Serial.dist tx.base x.psn))

lemma ackedByBitmap_succ (tx : TransmitterReliabilityWindowMetadata)
    (bitmap : BitVec rxBitmapWidth) {k : Nat} (hk : k < 2 ^ 32) (x : RetransmissionWorkId) :
    ackedByBitmap tx bitmap (k + 1) x = (ackedByBitmap tx bitmap k x ||
      (decide (x.psn = tx.base + BitVec.ofNat 32 k) &&
        (!Bitmap.get tx.window k && Bitmap.get bitmap k))) := by
  have hpsn : x.psn = tx.base + BitVec.ofNat 32 k ↔ Serial.dist tx.base x.psn = k := by
    constructor
    · intro h
      rw [h]
      exact Serial.dist_shift tx.base hk
    · intro h
      rw [← h]
      exact (Serial.shift_dist tx.base x.psn).symm
  unfold ackedByBitmap
  by_cases hx : Serial.dist tx.base x.psn = k
  · rw [decide_eq_true (hpsn.mpr hx), hx]
    simp
  · rw [decide_eq_false (fun h => hx (hpsn.mp h))]
    have hiff : Serial.dist tx.base x.psn < k + 1 ↔ Serial.dist tx.base x.psn < k := by omega
    simp [hiff]

/-- The first `k` bits of the bitmap were acknowledged. -/
structure AcknowledgesBitmap (w : WindowType) (bitmap : BitVec rxBitmapWidth) (k : Nat)
    (e e' : Endpoint) : Prop extends Settles e e' where
  base : ∀ w', (e'.tx w').base = (e.tx w').base
  other : ∀ w' ≠ w, (e'.tx w').window = (e.tx w').window ∧
    (e'.tx w').outstandingPackets = (e.tx w').outstandingPackets
  window : ∀ i, k ≤ i → Bitmap.get (e'.tx w).window i = Bitmap.get (e.tx w).window i
  outstandingPackets : ((e.tx w).outstandingPackets.map (·.psn)).Nodup →
    (e'.tx w).outstandingPackets = (e.tx w).outstandingPackets.filter fun x =>
      !ackedByBitmap (e.tx w) bitmap k x

lemma ackFromBitmap_acknowledges {bitmap : BitVec rxBitmapWidth} {k : Nat} (hk : k < txWindowSize)
    (h : AcknowledgesBitmap w bitmap k e e₁) :
    Ensures AnyFault (AcknowledgesBitmap w bitmap (k + 1) e) (ackFromBitmap w bitmap e₁ k) := by
  have hk' : k < 2 ^ 32 := lt_trans hk (by decide)
  have hbit := h.window k le_rfl
  apply Ensures.ite
  · intro hacked
    rw [hbit] at hacked
    refine (enqueueAckToUlp_acknowledges e₁ w _).bind fun e₂ h₂ => ?_
    refine ⟨(h.toSettles.trans h₂.toSettles).trans (.setTx rfl), fun w' => ?_, fun w' hw => ?_,
      fun i hi => ?_, fun hnodup => ?_⟩
    · have hbase := (h₂.base w').trans (h.base w')
      by_cases hw : w' = w
      · subst hw
        simpa [Endpoint.setTx] using hbase
      · simpa [Endpoint.setTx, hw] using hbase
    · simpa [Endpoint.setTx, hw] using ⟨(h₂.window w').trans (h.other w' hw).1,
        (h₂.other w' hw).trans (h.other w' hw).2⟩
    · have hne : i ≠ k := by omega
      simpa [Endpoint.setTx, Bitmap.get_set _ hk, hne, h₂.window w] using h.window i (by omega)
    · have hleft := h.outstandingPackets hnodup
      have hnodup₁ : ((e₁.tx w).outstandingPackets.map (·.psn)).Nodup := by
        rw [hleft]
        exact hnodup.sublist (List.filter_sublist.map _)
      have hremoved := h₂.removed hnodup₁
      rw [hleft, List.filter_filter, h.base w] at hremoved
      simp only [Endpoint.setTx, update_self, hremoved]
      refine List.filter_congr fun x _ => ?_
      rw [ackedByBitmap_succ _ _ hk', hacked]
      simp [Bool.and_comm]
  · intro hacked
    rw [hbit] at hacked
    refine ⟨h.toSettles, h.base, h.other, fun i hi => h.window i (by omega), fun hnodup => ?_⟩
    rw [h.outstandingPackets hnodup]
    refine List.filter_congr fun x _ => ?_
    rw [ackedByBitmap_succ _ _ hk', Bool.eq_false_of_not_eq_true hacked]
    simp

lemma ackBitmap_acknowledges (e : Endpoint) (w : WindowType) (bitmap : BitVec rxBitmapWidth) :
    Ensures AnyFault (AcknowledgesBitmap w bitmap (rxWindowSize w) e)
      ((List.range (rxWindowSize w)).foldlM (ackFromBitmap w bitmap) e) := by
  have hsize : rxWindowSize w ≤ txWindowSize := by cases w <;> decide
  refine Ensures.foldlM_range (I := fun k e' => AcknowledgesBitmap w bitmap k e e') _
    (fun k e₁ hk h => ackFromBitmap_acknowledges (by omega) h) ?_
  exact ⟨.refl e, fun _ => rfl, fun _ _ => ⟨rfl, rfl⟩, fun _ _ => rfl, fun _ => by
    simp [ackedByBitmap]⟩

end Endpoint

/-! ## Retransmissions -/

def RetransmissionWorkId.toWorkId (x : RetransmissionWorkId) : WorkId := ⟨x.rsn, x.type⟩

namespace Endpoint

variable {e e₁ e₂ : Endpoint} {p : AckPacket} {w : WindowType} {x : RetransmissionWorkId}
  {e₀ : Endpoint}

def retransmitted (e : Endpoint) : List WorkId :=
  e.log.filterMap fun
    | .retransmit work _ => some work
    | _ => none

def dropIndications (e : Endpoint) : List Bool :=
  e.log.filterMap fun
    | .rue (.explicitAckReceived _ dropDetected) => some dropDetected
    | _ => none

lemma Silent.retransmitted (h : Silent e e₁) : e₁.retransmitted = e.retransmitted :=
  h.filterMap_eq fun a ha => by cases a <;> first | rfl | cases ha

lemma Silent.dropIndications (h : Silent e e₁) : e₁.dropIndications = e.dropIndications :=
  h.filterMap_eq fun a ha => by cases a <;> first | rfl | cases ha

/-- The packets `l` of window `w` have moved, in this order, from the set of outstanding packets to
the retransmission scheduler. -/
structure Reenqueues (w : WindowType) (l : List RetransmissionWorkId) (e e' : Endpoint) : Prop where
  config : e'.config = e.config
  now : e'.now = e.now
  base : ∀ w', (e'.tx w').base = (e.tx w').base
  next : ∀ w', (e'.tx w').next = (e.tx w').next
  window : ∀ w', (e'.tx w').window = (e.tx w').window
  other : ∀ w' ≠ w, (e'.tx w').outstandingPackets = (e.tx w').outstandingPackets
  removed : ((e.tx w).outstandingPackets.map (·.psn)).Nodup → (e'.tx w).outstandingPackets =
    (e.tx w).outstandingPackets.filter fun x => decide (x.psn ∉ l.map (·.psn))
  packets : ∀ rsn t, ⟨rsn, t⟩ ∉ l.map RetransmissionWorkId.toWorkId →
    e'.outgoing rsn t = e.outgoing rsn t
  retransmitted : e'.retransmitted =
    (l.map RetransmissionWorkId.toWorkId).reverse ++ e.retransmitted
  dropIndications : e'.dropIndications = e.dropIndications

lemma Reenqueues.nil (w : WindowType) (e : Endpoint) : Reenqueues w [] e e where
  config := rfl
  now := rfl
  base _ := rfl
  next _ := rfl
  window _ := rfl
  other _ _ := rfl
  removed _ := by simp
  packets _ _ _ := rfl
  retransmitted := rfl
  dropIndications := rfl

lemma Reenqueues.nodup {l : List RetransmissionWorkId} (h : Reenqueues w l e e₁)
    (hnodup : ((e.tx w).outstandingPackets.map (·.psn)).Nodup) :
    ((e₁.tx w).outstandingPackets.map (·.psn)).Nodup := by
  rw [h.removed hnodup]
  exact hnodup.sublist (List.filter_sublist.map _)

lemma Reenqueues.append {l l' : List RetransmissionWorkId} (h : Reenqueues w l e e₁)
    (h' : Reenqueues w l' e₁ e₂) : Reenqueues w (l ++ l') e e₂ where
  config := h'.config.trans h.config
  now := h'.now.trans h.now
  base w' := (h'.base w').trans (h.base w')
  next w' := (h'.next w').trans (h.next w')
  window w' := (h'.window w').trans (h.window w')
  other w' hw := (h'.other w' hw).trans (h.other w' hw)
  removed hnodup := by
    rw [h'.removed (h.nodup hnodup), h.removed hnodup, List.filter_filter]
    refine List.filter_congr fun x _ => ?_
    simp only [List.map_append, List.mem_append, not_or, Bool.decide_and]
    exact Bool.and_comm _ _
  packets rsn t hwork := by
    rw [List.map_append, List.mem_append, not_or] at hwork
    exact (h'.packets rsn t hwork.2).trans (h.packets rsn t hwork.1)
  retransmitted := by
    rw [h'.retransmitted, h.retransmitted, List.map_append, List.reverse_append, List.append_assoc]
  dropIndications := h'.dropIndications.trans h.dropIndications

def eraseOutstanding (e : Endpoint) (w : WindowType) (x : RetransmissionWorkId) : Endpoint :=
  e.setTx w { e.tx w with
    outstandingPackets :=
      OrderedSet.erase RetransmissionWorkId.lt x (e.tx w).outstandingPackets }

lemma eraseOutstanding_tx (e : Endpoint) (w : WindowType) (x : RetransmissionWorkId)
    (w' : WindowType) :
    ((e.eraseOutstanding w x).tx w').base = (e.tx w').base ∧
      ((e.eraseOutstanding w x).tx w').next = (e.tx w').next ∧
      ((e.eraseOutstanding w x).tx w').window = (e.tx w').window := by
  by_cases hw : w' = w
  · subst hw
    simp [eraseOutstanding, Endpoint.setTx]
  · simp [eraseOutstanding, Endpoint.setTx, hw]

lemma retransmit_reenqueues {location : TransactionLocation} {tr : TransactionMetadata}
    (hlocation : getTransactionLocation x.type false = .ok location)
    (htr : e.transactions ⟨x.rsn, location⟩ = some tr) (pm : PacketMetadata) :
    Ensures AnyFault (fun e' => Reenqueues w [x] e (e'.eraseOutstanding w x))
      ((e.setPacketMetadata
        ⟨x.rsn, location⟩ tr x.type pm).initiateRetransmission x.rsn x.type) := by
  refine (initiateRetransmission_counts _ _ _).imp ?_
  rintro e' ⟨pm', -, h⟩
  have htx := e'.eraseOutstanding_tx w x
  have hsilent : Silent ((e.setPacketMetadata ⟨x.rsn, location⟩ tr x.type pm).emit
      (.retransmit ⟨x.rsn, x.type⟩ pm'.retransmissionReason)) e' := h.silent
  refine ⟨h.config, h.now, fun w' => (htx w').1.trans (h.tx w').base,
    fun w' => (htx w').2.1.trans (h.tx w').next, fun w' => (htx w').2.2.trans (h.tx w').window,
    fun w' hw => ?_, fun hnodup => ?_, fun rsn t hwork => ?_, ?_, ?_⟩
  · simp only [eraseOutstanding, Endpoint.setTx, update_of_ne hw]
    exact (h.tx w').outstandingPackets
  · have houtstanding : (e'.tx w).outstandingPackets = (e.tx w).outstandingPackets :=
      (h.tx w).outstandingPackets
    simp only [eraseOutstanding, Endpoint.setTx, update_self, houtstanding,
      RetransmissionWorkId.erase_eq_filter hnodup]
    simp
  · have hother : ¬(rsn = x.rsn ∧ t = x.type) := by
      rintro ⟨rfl, rfl⟩
      exact hwork (by simp [RetransmissionWorkId.toWorkId])
    calc e'.outgoing rsn t
        = (e.setPacketMetadata ⟨x.rsn, location⟩ tr x.type pm).outgoing rsn t :=
          outgoing_congr h.transactions rsn t
      _ = e.outgoing rsn t := by
          rw [outgoing_setPacketMetadata hlocation htr, if_neg hother]
  · exact hsilent.retransmitted
  · exact hsilent.dropIndications

/-! ## The retransmission loop -/

def markedReceived (e : Endpoint) (p : AckPacket) (w : WindowType) (x : RetransmissionWorkId) :
    Bool :=
  decide (txBitmapIndex (e.tx w) x.psn < rxWindowSize w) &&
    Bitmap.get (receivedBitmapOf p w) (txBitmapIndex (e.tx w) x.psn)

def passesRecencyCheck (e : Endpoint) (own : Bool) (instantRtt : Time) (pm : PacketMetadata) :
    Bool :=
  decide (e.now - pm.transmissionTime ≥ instantRtt) ||
    (e.config.enableRecencyCheckBypass && own && pm.bypassRecencyCheck)

/-- The packets that the retransmission loop picks from a list, by the metadata before the loop. -/
def eackSelects (e : Endpoint) (p : AckPacket) (instantRtt : Time) (w : WindowType) :
    Bool → List RetransmissionWorkId → List RetransmissionWorkId
  | _, [] => []
  | force, x :: rest =>
    if (txBitmapIndex (e.tx w) x.psn : Int) > e.retxLimit p w then []
    else if e.markedReceived p w x then eackSelects e p instantRtt w force rest
    else
      match e.outgoing x.rsn x.type with
      | none => []
      | some pm =>
        if pm.nackCode = .ulpReceiverNotReady then []
        else if e.passesRecencyCheck (p.own w) instantRtt pm ||
            (e.config.enableSmallerPsnRecencyCheckBypass && p.own w && force) then
          x :: eackSelects e p instantRtt w (force || p.own w) rest
        else if e.config.enableScanningExitCriteriaBypass && p.own w &&
            pm.bypassScanningExitCriteria then
          eackSelects e p instantRtt w force rest
        else []

/-- What the scan of `l` reads is the same in both. -/
structure ScansLike (e₀ e : Endpoint) (w : WindowType) (l : List RetransmissionWorkId) : Prop where
  config : e.config = e₀.config
  now : e.now = e₀.now
  base : (e.tx w).base = (e₀.tx w).base
  packets : ∀ x ∈ l, ∀ pm, e.outgoing x.rsn x.type = some pm →
    ∃ pm₀, e₀.outgoing x.rsn x.type = some pm₀ ∧ pm₀.SameRecovery pm

lemma ScansLike.tail {l : List RetransmissionWorkId} (h : ScansLike e₀ e w (x :: l)) :
    ScansLike e₀ e w l :=
  ⟨h.config, h.now, h.base, fun y hy => h.packets y (by simp [hy])⟩

lemma ScansLike.reenqueues {l l' : List RetransmissionWorkId} (h : ScansLike e₀ e w l)
    (h' : Reenqueues w l' e e₁)
    (hdisjoint : ∀ y ∈ l, y.toWorkId ∉ l'.map RetransmissionWorkId.toWorkId) :
    ScansLike e₀ e₁ w l := by
  refine ⟨h'.config.trans h.config, h'.now.trans h.now, (h'.base w).trans h.base, ?_⟩
  intro y hy pm hpm
  rw [h'.packets _ _ (hdisjoint y hy)] at hpm
  exact h.packets y hy pm hpm

lemma eackScan_reenqueues {instantRtt : Time} (force : Bool) (l : List RetransmissionWorkId)
    (hl : (l.map RetransmissionWorkId.toWorkId).Nodup) (h : ScansLike e₀ e w l) :
    Ensures AnyFault (Reenqueues w (e₀.eackSelects p instantRtt w force l) e)
      (eackScan w (receivedBitmapOf p w) (p.own w) (e₀.retxLimit p w) instantRtt e force l) := by
  induction l generalizing e force with
  | nil => exact .nil w e
  | cons x rest ih =>
    rw [List.map_cons, List.nodup_cons] at hl
    have hindex : txBitmapIndex (e.tx w) x.psn = txBitmapIndex (e₀.tx w) x.psn := by
      unfold txBitmapIndex
      rw [h.base]
    unfold eackScan eackSelects
    dsimp only
    rw [hindex]
    split
    · exact .nil w e
    by_cases hmarked : e₀.markedReceived p w x = true
    · rw [if_pos hmarked, if_pos (by simpa [markedReceived] using hmarked)]
      exact ih force hl.2 h.tail
    rw [if_neg hmarked, if_neg (by simpa [markedReceived] using hmarked)]
    refine (e.getPacketMetadata_outgoing x.rsn x.type).bind ?_
    rintro ⟨⟨_, location⟩, tr, pm⟩ ⟨rfl, hlocation, htr, hpackets, hpm⟩
    obtain ⟨pm₀, hpm₀, eligible, reserved, rfl⟩ := h.packets x (by simp) pm hpm
    rw [hpm₀]
    dsimp only
    split
    · exact .nil w e
    have hpasses : (decide (e.now - pm₀.transmissionTime ≥ instantRtt) ||
        (e.config.enableRecencyCheckBypass && p.own w && pm₀.bypassRecencyCheck) ||
        (e.config.enableSmallerPsnRecencyCheckBypass && p.own w && force)) =
        (e₀.passesRecencyCheck (p.own w) instantRtt pm₀ ||
          (e₀.config.enableSmallerPsnRecencyCheckBypass && p.own w && force)) := by
      rw [h.config, h.now, passesRecencyCheck]
    rw [hpasses]
    split
    · apply Ensures.ite
      · exact fun _ => trivial
      intro _
      refine (retransmit_reenqueues (w := w) hlocation htr _).bind fun e₁ h₁ => ?_
      refine (ih (force || p.own w) hl.2 (h.tail.reenqueues h₁ fun y hy hmem => ?_)).imp
        fun e₂ h₂ => h₁.append h₂
      rw [List.map_singleton, List.mem_singleton] at hmem
      exact hl.1 (hmem ▸ List.mem_map_of_mem hy)
    rw [h.config]
    split
    · exact ih force hl.2 h.tail
    · exact .nil w e

end Endpoint

end Isekai.Falcon
