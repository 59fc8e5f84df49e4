import Isekai.Falcon.DropIndication
import Isekai.Lib.Scan

/-!
# Early retransmission on an EACK

Which packets `HandleEACK` hands to the retransmission scheduler, and when that selection is sound.
-/

namespace Isekai.Falcon

open Lib

namespace Endpoint

/-- The sets of outstanding packets as transmissions build them: ordered by sequence number from the
base of their window, with one entry for each packet. -/
structure OrderedOutstanding (e : Endpoint) : Prop where
  sorted : ∀ w, (e.tx w).outstandingPackets.Pairwise fun x y =>
    Serial.dist (e.tx w).base x.psn < Serial.dist (e.tx w).base y.psn
  nodup : ∀ w, ((e.tx w).outstandingPackets.map RetransmissionWorkId.toWorkId).Nodup
  window : ∀ w, ∀ x ∈ (e.tx w).outstandingPackets, windowOf x.type = w

section Selection

variable (e : Endpoint) (p : AckPacket) (instantRtt : Time) (w : WindowType)
  (x y : RetransmissionWorkId)

def leftOutstanding : List RetransmissionWorkId :=
  (e.tx w).outstandingPackets.filter fun x =>
    !ackedByBitmap (e.tx w) (p.ackBitmap w) (rxWindowSize w) x

def Precedes : Prop :=
  Serial.dist (e.tx w).base y.psn < Serial.dist (e.tx w).base x.psn

def WithinLimit : Prop := (txBitmapIndex (e.tx w) x.psn : Int) ≤ e.retxLimit p w

def PassesRecency : Prop :=
  ∃ pm, e.outgoing x.rsn x.type = some pm ∧ e.passesRecencyCheck (p.own w) instantRtt pm = true

def FollowsRetransmission (l : List RetransmissionWorkId) : Prop :=
  e.config.enableSmallerPsnRecencyCheckBypass = true ∧ p.own w = true ∧
    ∃ z ∈ l, e.Precedes w x z ∧ e.markedReceived p w z = false ∧ e.PassesRecency p instantRtt w z

def Retransmittable (l : List RetransmissionWorkId) : Prop :=
  ∃ pm, e.outgoing x.rsn x.type = some pm ∧ pm.nackCode ≠ .ulpReceiverNotReady ∧
    (e.passesRecencyCheck (p.own w) instantRtt pm = true ∨
      e.FollowsRetransmission p instantRtt w x l)

def PassedOver : Prop :=
  ∃ pm, e.outgoing x.rsn x.type = some pm ∧ pm.nackCode ≠ .ulpReceiverNotReady ∧
    e.config.enableScanningExitCriteriaBypass = true ∧ p.own w = true ∧
    pm.bypassScanningExitCriteria = true

/-- The loop over `l` takes the packet: it gets past the packets with smaller sequence numbers, and
the packet is unreceived, within the limit and retransmittable. -/
def IsReenqueued (l : List RetransmissionWorkId) : Prop :=
  (∀ y ∈ l, e.Precedes w x y → e.WithinLimit p w y ∧ (e.markedReceived p w y = true ∨
    e.Retransmittable p instantRtt w y l ∨ e.PassedOver p w y)) ∧
  e.WithinLimit p w x ∧ e.markedReceived p w x = false ∧ e.Retransmittable p instantRtt w x l

end Selection

lemma eackSelects_sublist (e : Endpoint) (p : AckPacket) (instantRtt : Time) (w : WindowType)
    (force : Bool) (l : List RetransmissionWorkId) :
    (e.eackSelects p instantRtt w force l).Sublist l := by
  induction l generalizing force with
  | nil => exact List.Sublist.slnil
  | cons x rest ih =>
    unfold eackSelects
    split
    · exact List.nil_sublist _
    split
    · exact (ih force).cons x
    split
    · exact List.nil_sublist _
    split
    · exact List.nil_sublist _
    split
    · exact (ih _).cons_cons x
    split
    · exact (ih force).cons x
    · exact List.nil_sublist _

section Verdict

variable (e : Endpoint) (p : AckPacket) (instantRtt : Time) (w : WindowType)
  (l : List RetransmissionWorkId)

open Classical in
noncomputable def eackVerdict (x : RetransmissionWorkId) : Scan.Verdict :=
  if ¬e.WithinLimit p w x then .stop
  else if e.markedReceived p w x = true then .skip
  else if e.Retransmittable p instantRtt w x l then .take
  else if e.PassedOver p w x then .skip
  else .stop

variable {e p instantRtt w l} {x : RetransmissionWorkId}

lemma eackVerdict_eq_take_iff :
    e.eackVerdict p instantRtt w l x = .take ↔ e.WithinLimit p w x ∧
      e.markedReceived p w x = false ∧ e.Retransmittable p instantRtt w x l := by
  unfold eackVerdict
  split_ifs <;> simp_all

lemma eackVerdict_ne_stop_iff :
    e.eackVerdict p instantRtt w l x ≠ .stop ↔ e.WithinLimit p w x ∧
      (e.markedReceived p w x = true ∨ e.Retransmittable p instantRtt w x l ∨
        e.PassedOver p w x) := by
  unfold eackVerdict
  split_ifs <;> simp_all

lemma eackSelects_cons {force : Bool} {rest : List RetransmissionWorkId}
    (hforce : (e.config.enableSmallerPsnRecencyCheckBypass && p.own w && force) = true ↔
      e.FollowsRetransmission p instantRtt w x l) :
    e.eackSelects p instantRtt w force (x :: rest) =
      match e.eackVerdict p instantRtt w l x with
      | .stop => []
      | .skip => e.eackSelects p instantRtt w force rest
      | .take => x :: e.eackSelects p instantRtt w (force || p.own w) rest := by
  rw [eackSelects, eackVerdict]
  by_cases hlimit : e.WithinLimit p w x
  swap
  · rw [if_pos (not_le.mp hlimit), if_pos hlimit]
  rw [if_neg (not_lt.mpr hlimit), if_neg (not_not.mpr hlimit)]
  by_cases hmarked : e.markedReceived p w x = true
  · rw [if_pos hmarked, if_pos hmarked]
  rw [if_neg hmarked, if_neg hmarked]
  cases hpm : e.outgoing x.rsn x.type with
  | none =>
    have hnot : ¬e.Retransmittable p instantRtt w x l := by
      rintro ⟨pm, hsome, -⟩
      simp [hpm] at hsome
    have hover : ¬e.PassedOver p w x := by
      rintro ⟨pm, hsome, -⟩
      simp [hpm] at hsome
    rw [if_neg hnot, if_neg hover]
  | some pm =>
    have htake : e.Retransmittable p instantRtt w x l ↔ pm.nackCode ≠ .ulpReceiverNotReady ∧
        (e.passesRecencyCheck (p.own w) instantRtt pm ||
          (e.config.enableSmallerPsnRecencyCheckBypass && p.own w && force)) = true := by
      rw [Bool.or_eq_true, hforce]
      unfold Retransmittable
      simp [hpm]
    have hover : e.PassedOver p w x ↔ pm.nackCode ≠ .ulpReceiverNotReady ∧
        (e.config.enableScanningExitCriteriaBypass && p.own w &&
          pm.bypassScanningExitCriteria) = true := by
      unfold PassedOver
      simp [hpm, and_assoc]
    dsimp only
    by_cases hrnr : pm.nackCode = .ulpReceiverNotReady
    · rw [if_pos hrnr, if_neg fun h => (htake.mp h).1 hrnr, if_neg fun h => (hover.mp h).1 hrnr]
    rw [if_neg hrnr]
    by_cases hretransmit : e.Retransmittable p instantRtt w x l
    · rw [if_pos (htake.mp hretransmit).2, if_pos hretransmit]
    rw [if_neg fun h => hretransmit (htake.mpr ⟨hrnr, h⟩), if_neg hretransmit]
    by_cases hpassed : e.PassedOver p w x
    · rw [if_pos (hover.mp hpassed).2, if_pos hpassed]
    · rw [if_neg fun h => hpassed (hover.mpr ⟨hrnr, h⟩), if_neg hpassed]

/-- The selection from the rest of the list `l`, after the packets `done`. The bypass is forced when
one of these was retransmitted on its own account. -/
lemma eackSelects_eq_select (hsorted : l.Pairwise fun x y => e.Precedes w y x)
    (rest : List RetransmissionWorkId) :
    ∀ (done : List RetransmissionWorkId) (force : Bool), l = done ++ rest →
      (e.config.enableSmallerPsnRecencyCheckBypass = true → p.own w = true →
        (force = true ↔ ∃ z ∈ done, e.markedReceived p w z = false ∧
          e.PassesRecency p instantRtt w z)) →
      e.eackSelects p instantRtt w force rest =
        Scan.select (e.eackVerdict p instantRtt w l) rest := by
  induction rest with
  | nil => exact fun _ _ _ _ => rfl
  | cons x rest ih =>
    intro done force hl hforce
    have hbefore (z : RetransmissionWorkId) : z ∈ done ↔ z ∈ l ∧ e.Precedes w x z := by
      subst hl
      obtain ⟨-, hrest, hdone⟩ := List.pairwise_append.mp hsorted
      rw [List.pairwise_cons] at hrest
      constructor
      · exact fun hz => ⟨List.mem_append_left _ hz, hdone z hz x List.mem_cons_self⟩
      · rintro ⟨hz, hzx⟩
        rcases List.mem_append.mp hz with hz | hz
        · exact hz
        rcases List.mem_cons.mp hz with rfl | hz
        · exact absurd hzx (lt_irrefl _)
        · exact absurd hzx (lt_asymm (hrest.1 z hz))
    have hfollows : (e.config.enableSmallerPsnRecencyCheckBypass && p.own w && force) = true ↔
        e.FollowsRetransmission p instantRtt w x l := by
      rw [Bool.and_eq_true, Bool.and_eq_true, and_assoc]
      refine and_congr_right fun hbypass => and_congr_right fun hown => ?_
      rw [hforce hbypass hown]
      exact exists_congr fun z => by rw [hbefore z, and_assoc]
    -- After `x`, the bypass is forced as before unless `x` itself is retransmitted.
    have hnext (force' : Bool) (hforce' : e.config.enableSmallerPsnRecencyCheckBypass = true →
        p.own w = true → (force' = true ↔ force = true ∨ (e.markedReceived p w x = false ∧
          e.PassesRecency p instantRtt w x))) :
        e.eackSelects p instantRtt w force' rest =
          Scan.select (e.eackVerdict p instantRtt w l) rest := by
      refine ih (done ++ [x]) force' (by simp [hl]) fun hbypass hown => ?_
      rw [hforce' hbypass hown, hforce hbypass hown]
      simp only [List.mem_append, List.mem_singleton, or_and_right, exists_or, exists_eq_left]
    rw [eackSelects_cons hfollows, Scan.select]
    cases hverdict : e.eackVerdict p instantRtt w l x with
    | stop => rfl
    | skip =>
      refine hnext force fun hbypass hown => (or_iff_left ?_).symm
      rintro ⟨hclear, pm, hpm, hpasses⟩
      have hne : e.eackVerdict p instantRtt w l x ≠ .stop := by simp [hverdict]
      obtain ⟨hlimit, hmarked | hretransmit | ⟨pm', hpm', hcode, -⟩⟩ :=
        eackVerdict_ne_stop_iff.mp hne
      · simp [hclear] at hmarked
      · simp [eackVerdict_eq_take_iff.mpr ⟨hlimit, hclear, hretransmit⟩] at hverdict
      · cases hpm.symm.trans hpm'
        simp [eackVerdict_eq_take_iff.mpr ⟨hlimit, hclear, pm, hpm, hcode, .inl hpasses⟩]
          at hverdict
    | take =>
      refine congrArg (x :: ·) (hnext _ fun hbypass hown => ?_)
      obtain ⟨-, hclear, pm, hpm, -, hpasses | hfollow⟩ := eackVerdict_eq_take_iff.mp hverdict
      · simp only [hown, Bool.or_true, true_iff]
        exact .inr ⟨hclear, pm, hpm, hpasses⟩
      · have hforced := hfollows.mpr hfollow
        simp only [Bool.and_eq_true] at hforced
        simp [hforced.2]

end Verdict

variable {e e₁ e₂ : Endpoint} {p : AckPacket} {instantRtt : Time} {w : WindowType}

instance (e : Endpoint) (w : WindowType) : Std.Asymm fun x y => e.Precedes w y x :=
  ⟨fun _ _ h h' => lt_asymm h h'⟩

lemma mem_eackSelects_iff {l : List RetransmissionWorkId}
    (hsorted : l.Pairwise fun x y => e.Precedes w y x) {x : RetransmissionWorkId} :
    x ∈ e.eackSelects p instantRtt w false l ↔ x ∈ l ∧ e.IsReenqueued p instantRtt w x l := by
  rw [eackSelects_eq_select hsorted l [] false rfl (by simp), Scan.mem_select_iff hsorted]
  refine and_congr_right fun _ => ?_
  rw [eackVerdict_eq_take_iff, and_comm]
  refine and_congr_left fun _ => forall₂_congr fun y _ => ?_
  rw [eackVerdict_ne_stop_iff]

def eackReenqueued (e : Endpoint) (p : AckPacket) (instantRtt : Time) (w : WindowType) :
    List RetransmissionWorkId :=
  e.eackSelects p instantRtt w false (e.leftOutstanding p w)

lemma OrderedOutstanding.left_sorted (h : e.OrderedOutstanding) (p : AckPacket) (w : WindowType) :
    (e.leftOutstanding p w).Pairwise fun x y => e.Precedes w y x :=
  (h.sorted w).sublist List.filter_sublist

lemma OrderedOutstanding.psn_nodup (h : e.OrderedOutstanding) (w : WindowType) :
    ((e.tx w).outstandingPackets.map (·.psn)).Nodup := by
  rw [List.Nodup, List.pairwise_map]
  refine (h.sorted w).imp fun {x y} hlt heq => ?_
  rw [heq] at hlt
  exact lt_irrefl _ hlt

/-- The state between the acknowledgements of an EACK and its retransmissions. -/
structure AcknowledgesEack (p : AckPacket) (e e' : Endpoint) : Prop extends Settles e e' where
  base : ∀ w, (e'.tx w).base = (e.tx w).base
  outstandingPackets : ∀ w, (e'.tx w).outstandingPackets = e.leftOutstanding p w

lemma ackBitmaps_acknowledge (h : e.OrderedOutstanding) (p : AckPacket)
    (h₁ : AcknowledgesBitmap .request (p.ackBitmap .request) (rxWindowSize .request) e e₁)
    (h₂ : AcknowledgesBitmap .data (p.ackBitmap .data) (rxWindowSize .data) e₁ e₂) :
    AcknowledgesEack p e e₂ := by
  refine ⟨h₁.toSettles.trans h₂.toSettles, fun w => (h₂.base w).trans (h₁.base w), fun w => ?_⟩
  cases w with
  | request =>
    rw [(h₂.other .request (by decide)).2]
    exact h₁.outstandingPackets (h.psn_nodup .request)
  | data =>
    obtain ⟨hwindow, houtstanding⟩ := h₁.other .data (by decide)
    rw [h₂.outstandingPackets (houtstanding ▸ h.psn_nodup .data), houtstanding]
    refine List.filter_congr fun x _ => ?_
    unfold ackedByBitmap
    rw [hwindow, h₁.base .data]

lemma eackRetransmit_reenqueues (h : e.OrderedOutstanding)
    (houtstanding : (e₁.tx w).outstandingPackets = e.leftOutstanding p w)
    (hscans : ScansLike e e₁ w (e.leftOutstanding p w)) :
    Ensures AnyFault (Reenqueues w (e.eackReenqueued p instantRtt w) e₁)
      (e₁.eackRetransmit p (e.retxLimit p w) instantRtt w) := by
  unfold eackRetransmit
  rw [houtstanding]
  refine eackScan_reenqueues false _ ?_ hscans
  exact (h.nodup w).sublist (List.filter_sublist.map _)

lemma handleEACK_reenqueues (h : e.OrderedOutstanding)
    (henabled : e.eackBasedEarlyRetransmissionIsEnabled = true) (receivedTimestamp : Time) :
    Ensures AnyFault (fun q => q.1.retransmitted =
        ((e.eackReenqueued p (receivedTimestamp - p.timestamp1) .request ++
          e.eackReenqueued p (receivedTimestamp - p.timestamp1) .data).map
            RetransmissionWorkId.toWorkId).reverse ++ e.retransmitted ∧
      ∀ w, (q.1.tx w).outstandingPackets = (e.leftOutstanding p w).filter fun x =>
        decide (x.psn ∉ (e.eackReenqueued p (receivedTimestamp - p.timestamp1) w).map (·.psn)))
      (e.handleEACK p receivedTimestamp) := by
  refine (ackBitmap_acknowledges e .request (p.ackBitmap .request)).bind fun e₁ h₁ => ?_
  refine (ackBitmap_acknowledges e₁ .data (p.ackBitmap .data)).bind fun e₂ h₂ => ?_
  have hacked : AcknowledgesEack p e e₂ := ackBitmaps_acknowledge h p h₁ h₂
  have hon : e₂.eackBasedEarlyRetransmissionIsEnabled = true := by
    unfold eackBasedEarlyRetransmissionIsEnabled at *
    rw [hacked.config, henabled]
  have hlimit (w : WindowType) : e₂.retxLimit p w = e.retxLimit p w := by
    unfold retxLimit
    rw [hacked.config, hacked.next w]
  have hscans (w : WindowType) : ScansLike e e₂ w (e.leftOutstanding p w) :=
    ⟨hacked.config, hacked.now, hacked.base w, fun x _ pm hpm => hacked.toSettles.outgoing hpm⟩
  have hnodup (w : WindowType) : ((e₂.tx w).outstandingPackets.map (·.psn)).Nodup := by
    rw [hacked.outstandingPackets w]
    exact (h.psn_nodup w).sublist (List.filter_sublist.map _)
  have hdistinct (x : RetransmissionWorkId) (hx : x ∈ e.leftOutstanding p .data)
      (l : List RetransmissionWorkId) (hl : l.Sublist (e.leftOutstanding p .request)) :
      x.toWorkId ∉ l.map RetransmissionWorkId.toWorkId := by
    intro hmem
    obtain ⟨y, hy, hxy⟩ := List.mem_map.mp hmem
    have hwx := h.window .data x (List.mem_of_mem_filter hx)
    have hwy := h.window .request y (List.mem_of_mem_filter (hl.subset hy))
    have htype : y.type = x.type := congrArg WorkId.type hxy
    rw [htype, hwx] at hwy
    cases hwy
  rw [if_pos hon, hlimit, hlimit]
  refine (eackRetransmit_reenqueues h (hacked.outstandingPackets .request)
    (hscans .request)).bind fun e₃ h₃ => ?_
  have hdata : (e₃.tx .data).outstandingPackets = e.leftOutstanding p .data :=
    (h₃.other .data (by decide)).trans (hacked.outstandingPackets .data)
  have hscans₃ : ScansLike e e₃ .data (e.leftOutstanding p .data) := by
    refine ⟨h₃.config.trans hacked.config, h₃.now.trans hacked.now,
      (h₃.base .data).trans (hacked.base .data), fun x hx pm hpm => ?_⟩
    rw [h₃.packets _ _ (hdistinct x hx _ (eackSelects_sublist ..))] at hpm
    exact (hscans .data).packets x hx pm hpm
  refine (eackRetransmit_reenqueues h hdata hscans₃).bind fun e₄ h₄ => ?_
  refine ⟨?_, fun w => ?_⟩
  · rw [h₄.retransmitted, h₃.retransmitted, hacked.silent.retransmitted, List.map_append,
      List.reverse_append, List.append_assoc]
  · cases w with
    | request =>
      rw [h₄.other .request (by decide), h₃.removed (hnodup .request),
        hacked.outstandingPackets .request]
    | data =>
      have hnodup₃ : ((e₃.tx .data).outstandingPackets.map (·.psn)).Nodup := by
        rw [h₃.other .data (by decide)]
        exact hnodup .data
      rw [h₄.removed hnodup₃, hdata]

/-- `moved` lists, window by window, the outstanding packets that were handed to the retransmission
scheduler, in that order. -/
structure HandsOver (e e' : Endpoint) (moved : WindowType → List RetransmissionWorkId) : Prop where
  outstanding : ∀ w, ∀ x ∈ moved w, x ∈ (e.tx w).outstandingPackets
  retransmitted : e'.retransmitted =
    ((moved .request ++ moved .data).map RetransmissionWorkId.toWorkId).reverse ++ e.retransmitted

/-- The packets moved were lost by the evidence of the EACK. -/
structure SoundRetransmissions (e : Endpoint) (p : AckPacket) (w : WindowType)
    (moved : List RetransmissionWorkId) : Prop where
  /-- Every packet is unreceived. -/
  unreceived : ∀ x ∈ moved, e.markedReceived p w x = false
  /-- The received bitmap shows enough evidence of the loss of every packet. -/
  evidence : ∀ x ∈ moved, LossEvidence e.config p w (txBitmapIndex (e.tx w) x.psn)
  /-- The packets are taken in increasing order. -/
  increasing : moved.Pairwise fun x y => e.Precedes w y x
  /-- No unreceived packet is left behind. -/
  closed : ∀ x ∈ moved, ∀ y ∈ e.leftOutstanding p w, e.Precedes w x y →
    e.markedReceived p w y = false → y ∈ moved

/-- What the retransmission of a packet needs in order to be sound: a distance threshold that wraps
is not what brings the packet within the limit, and no unreceived packet before it is passed
over. -/
def JustifiedRetransmission (e : Endpoint) (p : AckPacket) (instantRtt : Time) (w : WindowType)
    (x : RetransmissionWorkId) : Prop :=
  (e.config.enableOooDistance = true →
    WithinWrappedDistance (receivedBitmapOf p w) (rxWindowSize w) e.config.oooDistanceThreshold
      (txBitmapIndex (e.tx w) x.psn) →
    LossEvidence e.config p w (txBitmapIndex (e.tx w) x.psn)) ∧
  ∀ y ∈ e.leftOutstanding p w, e.Precedes w x y → e.PassedOver p w y →
    e.markedReceived p w y = true ∨
      e.Retransmittable p instantRtt w y (e.leftOutstanding p w)

lemma mem_eackReenqueued_iff (h : e.OrderedOutstanding) {x : RetransmissionWorkId} :
    x ∈ e.eackReenqueued p instantRtt w ↔ x ∈ e.leftOutstanding p w ∧
      e.IsReenqueued p instantRtt w x (e.leftOutstanding p w) :=
  mem_eackSelects_iff (h.left_sorted p w)

lemma mem_eackReenqueued_of_precedes (h : e.OrderedOutstanding) {x y : RetransmissionWorkId}
    (hx : x ∈ e.eackReenqueued p instantRtt w) (hy : y ∈ e.leftOutstanding p w)
    (hlt : e.Precedes w x y) (hclear : e.markedReceived p w y = false)
    (hretx : e.Retransmittable p instantRtt w y (e.leftOutstanding p w)) :
    y ∈ e.eackReenqueued p instantRtt w := by
  obtain ⟨-, hbefore, -⟩ := (mem_eackReenqueued_iff h).mp hx
  refine (mem_eackReenqueued_iff h).mpr ⟨hy, fun z hz hzy => ?_, (hbefore y hy hlt).1,
    hclear, hretx⟩
  exact hbefore z hz (lt_trans hzy hlt)

lemma soundRetransmissions_iff (h : e.OrderedOutstanding)
    (hown : e.config.enableEackOwn = false) (hthreshold : 1 ≤ e.config.oooCountThreshold) :
    e.SoundRetransmissions p w (e.eackReenqueued p instantRtt w) ↔
      ∀ x ∈ e.leftOutstanding p w, e.IsReenqueued p instantRtt w x (e.leftOutstanding p w) →
        e.JustifiedRetransmission p instantRtt w x := by
  have hlimit := le_retxLimit_iff (p := p) (w := w) hthreshold (by simp [hown])
  constructor
  · intro hsound x hx hreenqueued
    have hmem := (mem_eackReenqueued_iff h).mpr ⟨hx, hreenqueued⟩
    refine ⟨fun _ _ => hsound.evidence x hmem, fun y hy hlt _ => ?_⟩
    cases hmarked : e.markedReceived p w y with
    | true => exact .inl rfl
    | false =>
      have hymem := hsound.closed x hmem y hy hlt hmarked
      exact .inr ((mem_eackReenqueued_iff h).mp hymem).2.2.2.2
  · intro hjustified
    refine ⟨fun x hx => ?_, fun x hx => ?_, ?_, fun x hx y hy hlt hclear => ?_⟩
    · exact ((mem_eackReenqueued_iff h).mp hx).2.2.2.1
    · obtain ⟨hleft, hreenqueued⟩ := (mem_eackReenqueued_iff h).mp hx
      rcases (hlimit _).mp hreenqueued.2.1 with hevidence | ⟨hon, hwrapped⟩
      · exact hevidence
      · exact (hjustified x hleft hreenqueued).1 hon hwrapped
    · exact (h.left_sorted p w).sublist (eackSelects_sublist ..)
    · obtain ⟨hleft, hreenqueued⟩ := (mem_eackReenqueued_iff h).mp hx
      have hretx : e.Retransmittable p instantRtt w y (e.leftOutstanding p w) := by
        rcases (hreenqueued.1 y hy hlt).2 with hmarked | hretx | hpassed
        · rw [hclear] at hmarked
          cases hmarked
        · exact hretx
        · refine ((hjustified x hleft hreenqueued).2 y hy hlt hpassed).resolve_left
            fun hmarked => ?_
          rw [hclear] at hmarked
          cases hmarked
      exact mem_eackReenqueued_of_precedes h hx hy hlt hclear hretx

lemma eackReenqueued_eq_nil (h : e.OrderedOutstanding) (hown : e.config.enableEackOwn = false)
    (hthreshold : 1 ≤ e.config.oooCountThreshold)
    (hdisabled : e.eackBasedEarlyRetransmissionIsEnabled = false) :
    e.eackReenqueued p instantRtt w = [] := by
  have hlimit := le_retxLimit_iff (p := p) (w := w) hthreshold (by simp [hown])
  refine List.eq_nil_iff_forall_not_mem.mpr fun x hx => ?_
  have hwithin := (hlimit _).mp ((mem_eackReenqueued_iff h).mp hx).2.2.1
  unfold eackBasedEarlyRetransmissionIsEnabled at hdisabled
  simp only [Bool.or_eq_false_iff] at hdisabled
  simp [LossEvidence, hdisabled] at hwithin

lemma handleEACK_handsOver (h : e.OrderedOutstanding) (hown : e.config.enableEackOwn = false)
    (hthreshold : 1 ≤ e.config.oooCountThreshold) (receivedTimestamp : Time) :
    Ensures AnyFault
      (fun q => e.HandsOver q.1 (e.eackReenqueued p (receivedTimestamp - p.timestamp1)))
      (e.handleEACK p receivedTimestamp) := by
  have houtstanding : ∀ w, ∀ x ∈ e.eackReenqueued p (receivedTimestamp - p.timestamp1) w,
      x ∈ (e.tx w).outstandingPackets := fun w x hx =>
    List.mem_of_mem_filter ((mem_eackReenqueued_iff h).mp hx).1
  cases henabled : e.eackBasedEarlyRetransmissionIsEnabled with
  | true =>
    refine (handleEACK_reenqueues h henabled receivedTimestamp).imp fun q hq => ?_
    exact ⟨houtstanding, hq.1⟩
  | false =>
    refine (ackBitmap_acknowledges e .request (p.ackBitmap .request)).bind fun e₁ h₁ => ?_
    refine (ackBitmap_acknowledges e₁ .data (p.ackBitmap .data)).bind fun e₂ h₂ => ?_
    have hacked : AcknowledgesEack p e e₂ := ackBitmaps_acknowledge h p h₁ h₂
    have hoff : e₂.eackBasedEarlyRetransmissionIsEnabled = false := by
      unfold eackBasedEarlyRetransmissionIsEnabled at *
      rw [hacked.config, henabled]
    rw [hoff, if_neg Bool.false_ne_true]
    refine ⟨houtstanding, ?_⟩
    rw [eackReenqueued_eq_nil h hown hthreshold henabled,
      eackReenqueued_eq_nil h hown hthreshold henabled]
    exact hacked.silent.retransmitted

/-- The early retransmissions of an EACK are sound exactly if each packet that the loops get to is
justified: the loss shows in the bitmap even if the distance threshold wraps, and an out-of-window
notification does not carry the loop past an unreceived packet. -/
theorem early_retransmission_sound_iff {e e' : Endpoint} {p : AckPacket} {receivedTimestamp : Time}
    {dropDetected : Bool} (hordered : e.OrderedOutstanding)
    (hown : e.config.enableEackOwn = false) (hthreshold : 1 ≤ e.config.oooCountThreshold)
    (h : e.handleEACK p receivedTimestamp = .ok (e', dropDetected)) :
    ∃ moved, e.HandsOver e' moved ∧
      ((∀ w, e.SoundRetransmissions p w (moved w)) ↔
        ∀ w, ∀ x ∈ e.leftOutstanding p w,
          e.IsReenqueued p (receivedTimestamp - p.timestamp1) w x (e.leftOutstanding p w) →
            e.JustifiedRetransmission p (receivedTimestamp - p.timestamp1) w x) :=
  ⟨_, (handleEACK_handsOver hordered hown hthreshold receivedTimestamp).of_ok h,
    forall_congr' fun _ => soundRetransmissions_iff hordered hown hthreshold⟩

def largeDistanceConfig : Config where
  ordered := false
  enableOooDistance := true
  oooDistanceThreshold := BitVec.ofNat 32 (2 ^ 31 + 200)
  resources := { bypassReservation := true }

def emptyEack : AckPacket where
  isEack := true
  bpsn _ := 0
  own _ := false
  ackBitmap _ := 0
  receivedBitmap := 0
  timestamp1 := 0

/-- The threshold wraps, and the packet is retransmitted although nothing after it has arrived. -/
theorem early_retransmission_without_evidence :
    ∃ e' dropDetected, (pullSent largeDistanceConfig 0).handleEACK emptyEack 0 =
        .ok (e', dropDetected) ∧
      e'.retransmitted = [⟨0, .pullRequest⟩] ∧
      ¬LossEvidence largeDistanceConfig emptyEack .request 0 := by
  obtain ⟨q, h, hretransmitted⟩ := exists_ok_of_any
    (P := fun q : Endpoint × Bool => q.1.retransmitted = [⟨0, .pullRequest⟩])
    (x := (pullSent largeDistanceConfig 0).handleEACK emptyEack 0) (by decide +kernel)
  exact ⟨q.1, q.2, h, hretransmitted, by decide +kernel⟩

/-- Two pull requests are outstanding, with the sequence numbers 0 and 1. -/
def twoPullsSent (config : Config) : Endpoint where
  config := config
  now := 8
  congestionControl :=
    { fabricCongestionWindow := 1024 * 16
      nicCongestionWindow := 16
      retransmitTimeout := 1000 }
  tx
    | .request =>
      { base := 0
        next := 2
        outstandingRequestsCounter := 2
        outstandingPackets := [⟨0, 0, .pullRequest⟩, ⟨1, 1, .pullRequest⟩]
        outstandingPacketContexts := fun psn =>
          if psn = 0 then some ⟨0, .pullRequest⟩
          else if psn = 1 then some ⟨1, .pullRequest⟩
          else none }
    | .data => { base := 0, next := 0 }
  rx _ := { base := 0 }
  transactions := fun key =>
    if key = ⟨0, .initiator⟩ ∨ key = ⟨1, .initiator⟩ then
      some
        { rsn := key.rsn
          type := .pull
          location := .initiator
          state := .pullReqNtwkTx
          packets := fun t =>
            if t = .pullRequest then some { psn := some key.rsn, transmitAttempts := 1 } else none }
    else none
  nextRequestSequenceNumber := 2

lemma twoPullsSent_orderedOutstanding (config : Config) :
    (twoPullsSent config).OrderedOutstanding := by
  refine ⟨fun w => ?_, fun w => ?_, fun w => ?_⟩ <;> cases w <;>
    simp [twoPullsSent, windowOf, belongsToRequestWindow] <;> decide

/-- The first of the two packets is missing, and the second has arrived. -/
def eackOfSecond : AckPacket where
  isEack := true
  bpsn _ := 0
  own _ := false
  ackBitmap
    | .request => 2
    | .data => 0
  receivedBitmap := 0
  timestamp1 := 4

def countConfig : Config where
  ordered := false
  enableOooCount := true
  enableOooDistance := false
  oooCountThreshold := 1
  resources := { bypassReservation := true }

/-- The equivalence where one packet after the hole is evidence enough: the first pull request is
retransmitted, and soundly so. -/
theorem early_retransmission_sound_iff_twoPullsSent :
    ∃ e' dropDetected, (twoPullsSent countConfig).handleEACK eackOfSecond 8 =
        .ok (e', dropDetected) ∧
      e'.retransmitted = [⟨0, .pullRequest⟩] ∧
      ∃ moved, (twoPullsSent countConfig).HandsOver e' moved ∧
        ∀ w, (twoPullsSent countConfig).SoundRetransmissions eackOfSecond w (moved w) := by
  obtain ⟨q, h, hretransmitted⟩ := exists_ok_of_any
    (P := fun q : Endpoint × Bool => q.1.retransmitted = [⟨0, .pullRequest⟩])
    (x := (twoPullsSent countConfig).handleEACK eackOfSecond 8) (by decide +kernel)
  obtain ⟨moved, hmoved, hsound⟩ :=
    early_retransmission_sound_iff (twoPullsSent_orderedOutstanding _) rfl (by decide) h
  refine ⟨q.1, q.2, h, hretransmitted, moved, hmoved, hsound.mpr fun w x _ _ => ⟨nofun, ?_⟩⟩
  rintro y _ _ ⟨pm, -, -, -, hown, -⟩
  cases hown

end Endpoint

end Isekai.Falcon
