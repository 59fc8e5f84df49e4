import Isekai.Falcon.EackProcessing

/-!
# The drop indication of an EACK

`HandleACK` tells congestion control whether the received bitmaps of an EACK show a loss. The scan
for holes does not ask whether a packet with the sequence number of a bit has been sent.
-/

namespace Isekai.Falcon

open Lib

namespace Endpoint

variable {e e₁ : Endpoint} {p : AckPacket} {w : WindowType}

lemma setOowNotificationReceived_settles (e : Endpoint) (w : WindowType) (value : Bool) :
    Ensures AnyFault (Settles e) (e.setOowNotificationReceived w value) := by
  unfold setOowNotificationReceived
  apply Ensures.ite
  · exact fun _ => .refl e
  · intro _
    exact (gate_eq _).imp fun _ h => h ▸ .setTx rfl

lemma updateOowNotification_settles (e : Endpoint) (w : WindowType) (psn : Psn) (own : Bool) :
    Ensures AnyFault (Settles e) (e.updateOowNotification w psn own) := by
  unfold updateOowNotification
  apply Ensures.ite
  · exact fun _ => setOowNotificationReceived_settles _ _ _
  intro _
  apply Ensures.ite
  · exact fun _ => setOowNotificationReceived_settles _ _ _
  · exact fun _ => .refl e

lemma ackBelowBase_settles (w : WindowType) (e : Endpoint) (index : Nat) :
    Ensures AnyFault (Settles e) (ackBelowBase w e index) := by
  unfold ackBelowBase
  apply Ensures.ite
  · exact fun _ => trivial
  intro _
  apply Ensures.ite
  · exact fun _ => (enqueueAckToUlp_acknowledges _ _ _).imp fun _ h => h.toSettles
  · exact fun _ => .refl e

lemma advanceTxWindow_settles (e : Endpoint) (w : WindowType) (psn : Psn) (own : Bool) :
    Ensures AnyFault (Settles e) (e.advanceTxWindow w psn own) := by
  unfold advanceTxWindow
  apply Ensures.ite
  · intro _
    refine (updateOowNotification_settles _ _ _ _).bind fun e₁ h₁ => ?_
    have hloop := Ensures.foldlM (E := AnyFault) (I := fun _ e₂ => Settles e e₂)
      (f := ackBelowBase w) (List.range (psn - (e.tx w).base).toNat) (s := e₁)
      (fun _ k _ e₂ _ h₂ => (ackBelowBase_settles w e₂ k).imp fun _ => h₂.trans) h₁
    refine hloop.bind fun e₂ h₂ => ?_
    refine (gate_eq _).imp fun e₃ h₃ => ?_
    subst h₃
    refine h₂.trans (Settles.trans ?_ (.emit _ rfl))
    exact .setTx rfl
  · exact fun _ => .refl e

lemma setupRetransmitTimer_silent (e : Endpoint) :
    Ensures AnyFault (Silent e) e.setupRetransmitTimer := by
  unfold setupRetransmitTimer
  refine (ensures_any _).bind fun _ _ => ?_
  refine (ensures_any _).bind fun _ _ => ?_
  split
  · exact .refl e
  · apply Ensures.ite
    · exact fun _ => .refl e
    · exact fun _ => .trans (.of_log_eq rfl) (.emit _ rfl)

lemma eackScan_dropIndications (w : WindowType) (received : BitVec rxBitmapWidth) (own : Bool)
    (limit : Int) (instantRtt : Time) (e : Endpoint) (force : Bool)
    (l : List RetransmissionWorkId) :
    Ensures AnyFault (fun e' => e'.dropIndications = e.dropIndications)
      (eackScan w received own limit instantRtt e force l) := by
  induction l generalizing e force with
  | nil => exact rfl
  | cons x rest ih =>
    unfold eackScan
    apply Ensures.ite
    · exact fun _ => rfl
    intro _
    apply Ensures.ite
    · exact fun _ => ih e force
    intro _
    refine (e.getPacketMetadata_outgoing x.rsn x.type).bind ?_
    rintro ⟨⟨_, location⟩, tr, pm⟩ ⟨rfl, hlocation, htr, -, -⟩
    apply Ensures.ite
    · exact fun _ => rfl
    intro _
    apply Ensures.ite
    · intro _
      apply Ensures.ite
      · exact fun _ => trivial
      intro _
      refine (retransmit_reenqueues (w := w) hlocation htr _).bind fun e₁ h₁ => ?_
      exact (ih _ _).imp fun _ h₂ => h₂.trans h₁.dropIndications
    intro _
    apply Ensures.ite
    · exact fun _ => ih e force
    · exact fun _ => rfl

lemma hasHole_congr (hconfig : e₁.config = e.config) (hnext : (e₁.tx w).next = (e.tx w).next) :
    e₁.hasHole p w = e.hasHole p w := by
  unfold hasHole retxLimit
  rw [hconfig, hnext]

def dropDetected (e : Endpoint) (p : AckPacket) : Bool :=
  e.eackBasedEarlyRetransmissionIsEnabled && (e.hasHole p .request || e.hasHole p .data)

lemma handleEACK_drop (e : Endpoint) (p : AckPacket) (receivedTimestamp : Time) :
    Ensures AnyFault (fun q => q.2 = e.dropDetected p ∧
      q.1.dropIndications = e.dropIndications) (e.handleEACK p receivedTimestamp) := by
  unfold handleEACK
  refine (ackBitmap_acknowledges e .request (p.ackBitmap .request)).bind fun e₁ h₁ => ?_
  refine (ackBitmap_acknowledges e₁ .data (p.ackBitmap .data)).bind fun e₂ h₂ => ?_
  have h : Settles e e₂ := h₁.toSettles.trans h₂.toSettles
  have henabled : e₂.eackBasedEarlyRetransmissionIsEnabled =
      e.eackBasedEarlyRetransmissionIsEnabled := by
    unfold eackBasedEarlyRetransmissionIsEnabled
    rw [h.config]
  have hhole (w : WindowType) : e₂.hasHole p w = e.hasHole p w := hasHole_congr h.config (h.next w)
  unfold dropDetected
  apply Ensures.ite
  · intro hon
    refine (eackScan_dropIndications _ _ _ _ _ _ _ _).bind fun e₃ h₃ => ?_
    refine (eackScan_dropIndications _ _ _ _ _ _ _ _).bind fun e₄ h₄ => ?_
    refine ⟨?_, h₄.trans (h₃.trans h.silent.dropIndications)⟩
    rw [← henabled, hon, hhole, hhole, Bool.true_and]
  · intro hoff
    refine ⟨?_, h.silent.dropIndications⟩
    rw [← henabled, Bool.eq_false_of_not_eq_true hoff, Bool.false_and]

lemma handleACK_drop (heack : p.isEack = true)
    (hfresh : ∀ w, seqLT (p.bpsn w) (e.tx w).base = false) (receivedTimestamp : Time) :
    Ensures AnyFault (fun e' => e'.dropIndications = e.dropDetected p :: e.dropIndications)
      (e.handleACK p receivedTimestamp) := by
  unfold handleACK
  rw [hfresh, hfresh, if_neg (by simp)]
  refine (advanceTxWindow_settles _ _ _ _).bind fun e₁ h₁ => ?_
  refine (advanceTxWindow_settles _ _ _ _).bind fun e₂ h₂ => ?_
  have h : Settles e e₂ := h₁.trans h₂
  unfold processEACK
  rw [if_pos heack]
  refine (handleEACK_drop e₂ p receivedTimestamp).bind ?_
  rintro ⟨e₃, drop⟩ ⟨hdrop, hlog⟩
  refine (setupRetransmitTimer_silent _).imp fun e₄ h₄ => ?_
  have hsame : e₂.dropDetected p = e.dropDetected p := by
    unfold dropDetected eackBasedEarlyRetransmissionIsEnabled
    rw [h.config, hasHole_congr h.config (h.next .request), hasHole_congr h.config (h.next .data)]
  calc e₄.dropIndications
      = drop :: e₃.dropIndications := h₄.dropIndications
    _ = e.dropDetected p :: e.dropIndications := by
        have hdrop' : drop = e₂.dropDetected p := hdrop
        have hlog' : e₃.dropIndications = e₂.dropIndications := hlog
        rw [hlog', h.silent.dropIndications, hdrop', hsame]

def sentFrom (e : Endpoint) (p : AckPacket) (w : WindowType) : Nat :=
  Serial.dist (e.tx w).base (e.tx w).next - Serial.dist (e.tx w).base (p.bpsn w)

/-- A sequence number that has been sent, is at or above the BPSN of the EACK for its window, and is
not marked received. -/
def IsMissing (e : Endpoint) (p : AckPacket) (w : WindowType) (psn : Psn) : Prop :=
  Serial.dist (e.tx w).base psn < Serial.dist (e.tx w).base (e.tx w).next ∧
    Serial.dist (e.tx w).base (p.bpsn w) ≤ Serial.dist (e.tx w).base psn ∧
    ¬(Serial.dist (p.bpsn w) psn < rxWindowSize w ∧
      Bitmap.get (receivedBitmapOf p w) (Serial.dist (p.bpsn w) psn) = true)

def ScansBit (e : Endpoint) (p : AckPacket) (w : WindowType) (i : Nat) : Prop :=
  e.eackBasedEarlyRetransmissionIsEnabled = true ∧ i < rxWindowSize w ∧
    if e.config.enableEackOwn = true ∧ p.own w = true then (i : Int) ≤ ((e.tx w).next - 1).toInt
    else LossEvidence e.config p w i ∨ (e.config.enableOooDistance = true ∧
      WithinWrappedDistance (receivedBitmapOf p w) (rxWindowSize w)
        e.config.oooDistanceThreshold i)

lemma le_retxLimit_iff_scansBit (hthreshold : 1 ≤ e.config.oooCountThreshold)
    (henabled : e.eackBasedEarlyRetransmissionIsEnabled = true) {i : Nat}
    (hi : i < rxWindowSize w) : (i : Int) ≤ e.retxLimit p w ↔ e.ScansBit p w i := by
  unfold ScansBit
  by_cases hown : e.config.enableEackOwn = true ∧ p.own w = true
  · have hlimit : e.retxLimit p w = ((e.tx w).next - 1).toInt := by
      unfold retxLimit
      dsimp only
      rw [if_pos hown]
    simp [hlimit, hown, henabled, hi]
  · rw [if_neg hown, le_retxLimit_iff hthreshold hown]
    simp [henabled, hi]

lemma dropDetected_iff (hthreshold : 1 ≤ e.config.oooCountThreshold) :
    e.dropDetected p = true ↔
      ∃ w i, e.ScansBit p w i ∧ Bitmap.get (receivedBitmapOf p w) i = false := by
  have hhole (henabled : e.eackBasedEarlyRetransmissionIsEnabled = true) (w : WindowType) :
      e.hasHole p w = true ↔
        ∃ i, e.ScansBit p w i ∧ Bitmap.get (receivedBitmapOf p w) i = false := by
    simp only [hasHole, List.any_eq_true, List.mem_range, Bool.and_eq_true, decide_eq_true_eq,
      Bool.not_eq_true']
    refine exists_congr fun i => ?_
    constructor
    · rintro ⟨hi, hlimit, hclear⟩
      exact ⟨(le_retxLimit_iff_scansBit hthreshold henabled hi).mp hlimit, hclear⟩
    · rintro ⟨hscans, hclear⟩
      exact ⟨hscans.2.1, (le_retxLimit_iff_scansBit hthreshold henabled hscans.2.1).mpr hscans,
        hclear⟩
  unfold dropDetected
  by_cases henabled : e.eackBasedEarlyRetransmissionIsEnabled = true
  · rw [henabled, Bool.true_and, Bool.or_eq_true, hhole henabled, hhole henabled]
    constructor
    · rintro (⟨i, hi⟩ | ⟨i, hi⟩)
      · exact ⟨.request, i, hi⟩
      · exact ⟨.data, i, hi⟩
    · rintro ⟨w, i, hi⟩
      cases w with
      | request => exact .inl ⟨i, hi⟩
      | data => exact .inr ⟨i, hi⟩
  · rw [Bool.eq_false_of_not_eq_true henabled, Bool.false_and]
    constructor
    · intro h
      cases h
    · rintro ⟨w, i, hscans, -⟩
      exact absurd hscans.1 henabled

lemma isMissing_of_clear {i : Nat} (hi : i < e.sentFrom p w)
    (hclear : Bitmap.get (receivedBitmapOf p w) i = false) :
    e.IsMissing p w (Serial.shift (p.bpsn w) i) := by
  unfold sentFrom at hi
  have hnext := Serial.dist_lt (e.tx w).base (e.tx w).next
  have hdist : Serial.dist (e.tx w).base (Serial.shift (p.bpsn w) i) =
      Serial.dist (e.tx w).base (p.bpsn w) + i := by
    conv_lhs => rw [← Serial.shift_dist (e.tx w).base (p.bpsn w), Serial.shift_add]
    exact Serial.dist_shift _ (by omega)
  refine ⟨by omega, by omega, ?_⟩
  rw [Serial.dist_shift _ (by omega), hclear]
  simp

/-- The drop indication is truthful exactly if every clear bit that the scan for holes gets to
stands for a sent packet, or some sent packet is missing anyway. -/
theorem drop_indication_truthful_iff {e e' : Endpoint} {p : AckPacket} {receivedTimestamp : Time}
    (hthreshold : 1 ≤ e.config.oooCountThreshold) (heack : p.isEack = true)
    (hfresh : ∀ w, seqLT (p.bpsn w) (e.tx w).base = false)
    (h : e.handleACK p receivedTimestamp = .ok e') :
    ∃ dropDetected, e'.dropIndications = dropDetected :: e.dropIndications ∧
      ((dropDetected = true → ∃ w psn, e.IsMissing p w psn) ↔
        ((∃ w psn, e.IsMissing p w psn) ∨
          ∀ w i, e.ScansBit p w i → Bitmap.get (receivedBitmapOf p w) i = false →
            i < e.sentFrom p w)) := by
  refine ⟨e.dropDetected p, (handleACK_drop heack hfresh receivedTimestamp).of_ok h, ?_⟩
  rw [dropDetected_iff hthreshold]
  constructor
  · intro htruthful
    by_cases hdrop : ∃ w i, e.ScansBit p w i ∧ Bitmap.get (receivedBitmapOf p w) i = false
    · exact .inl (htruthful hdrop)
    · exact .inr fun w i hscans hclear => absurd ⟨w, i, hscans, hclear⟩ hdrop
  · rintro (hmissing | hsent) ⟨w, i, hscans, hclear⟩
    · exact hmissing
    · exact ⟨w, _, isMissing_of_clear (hsent w i hscans hclear) hclear⟩

lemma sentFrom_le_of_isMissing {psn : Psn} (h : e.IsMissing p w psn) :
    ∃ i < e.sentFrom p w, ¬(i < rxWindowSize w ∧ Bitmap.get (receivedBitmapOf p w) i = true) := by
  obtain ⟨hsent, habove, hclear⟩ := h
  refine ⟨Serial.dist (p.bpsn w) psn, ?_, hclear⟩
  unfold sentFrom
  rw [Serial.dist_add_dist _ _ _ habove]
  omega

def pullSent (config : Config) (psn : Psn) : Endpoint where
  config := config
  congestionControl :=
    { fabricCongestionWindow := 1024 * 16
      nicCongestionWindow := 16
      retransmitTimeout := 1000 }
  tx
    | .request =>
      { base := psn
        next := psn + 1
        outstandingRequestsCounter := 1
        outstandingPackets := [⟨0, psn, .pullRequest⟩]
        outstandingPacketContexts := fun q => if q = psn then some ⟨0, .pullRequest⟩ else none }
    | .data => { base := 0, next := 0 }
  rx _ := { base := 0 }
  transactions := fun key =>
    if key = ⟨0, .initiator⟩ then
      some
        { rsn := 0
          type := .pull
          location := .initiator
          state := .pullReqNtwkTx
          packets := fun t =>
            if t = .pullRequest then some { psn := some psn, transmitAttempts := 1 } else none }
    else none
  nextRequestSequenceNumber := 1

/-- An EACK that reports an earlier out-of-window drop of the request window and nothing beyond its
base. -/
def eackWithOwn (psn : Psn) : AckPacket where
  isEack := true
  bpsn
    | .request => psn
    | .data => 0
  own
    | .request => true
    | .data => false
  ackBitmap _ := 0
  receivedBitmap := 0
  timestamp1 := 0

def eackOwnConfig : Config where
  ordered := false
  enableEackOwn := true
  resources := { bypassReservation := true }

/-- All that was sent has arrived, and still a drop is reported: the limit of the scan is the last
sequence number, not an index, and the clear bits belong to packets that were never sent. -/
theorem drop_indication_untruthful :
    ∃ e', (pullSent eackOwnConfig 100).handleACK (eackWithOwn 101) 8 = .ok e' ∧
      e'.dropIndications = [true] ∧
      ¬∃ w psn, (pullSent eackOwnConfig 100).IsMissing (eackWithOwn 101) w psn := by
  obtain ⟨e', h, hreported⟩ := exists_ok_of_any
    (P := fun e' : Endpoint => e'.dropIndications = [true])
    (x := (pullSent eackOwnConfig 100).handleACK (eackWithOwn 101) 8) (by decide +kernel)
  refine ⟨e', h, hreported, ?_⟩
  rintro ⟨w, psn, hmissing⟩
  obtain ⟨i, hi, -⟩ := sentFrom_le_of_isMissing hmissing
  have hall : ∀ w, (pullSent eackOwnConfig 100).sentFrom (eackWithOwn 101) w = 0 := by
    decide +kernel
  rw [hall w] at hi
  exact Nat.not_lt_zero i hi

/-- The equivalence where the sequence number is an index: the pull request with number zero is
missing, and the drop that is reported is this one. -/
theorem drop_indication_truthful_iff_zero :
    ∃ e', (pullSent eackOwnConfig 0).handleACK (eackWithOwn 0) 8 = .ok e' ∧
      e'.dropIndications = [true] ∧
      ∃ dropDetected, e'.dropIndications =
        dropDetected :: (pullSent eackOwnConfig 0).dropIndications ∧
        ((dropDetected = true → ∃ w psn, (pullSent eackOwnConfig 0).IsMissing
          (eackWithOwn 0) w psn) ↔
          ((∃ w psn, (pullSent eackOwnConfig 0).IsMissing (eackWithOwn 0) w psn) ∨
            ∀ w i, (pullSent eackOwnConfig 0).ScansBit (eackWithOwn 0) w i →
              Bitmap.get (receivedBitmapOf (eackWithOwn 0) w) i = false →
                i < (pullSent eackOwnConfig 0).sentFrom (eackWithOwn 0) w)) := by
  obtain ⟨e', h, hreported⟩ := exists_ok_of_any
    (P := fun e' : Endpoint => e'.dropIndications = [true])
    (x := (pullSent eackOwnConfig 0).handleACK (eackWithOwn 0) 8) (by decide +kernel)
  exact ⟨e', h, hreported, drop_indication_truthful_iff (by decide) rfl (by decide +kernel) h⟩

end Endpoint

end Isekai.Falcon
