import Isekai.Falcon.RackSelection

/-!
# RACK and the acknowledgement that it processes

The policies see an EACK before the base of a window moves. RACK therefore finds packets below the
base of the EACK among the outstanding packets.
-/

namespace Isekai.Falcon

open Lib

namespace Endpoint

def reportedBelow (e : Endpoint) (p : AckPacket) (w : WindowType) (n : Nat)
    (work : WorkId) : Bool :=
  (List.range n).any fun i => Bitmap.get (receivedBitmapOf p w) i &&
    decide ((e.tx w).outstandingPacketContexts (p.bpsn w + BitVec.ofNat 32 i) = some work)

def reported (e : Endpoint) (p : AckPacket) (work : WorkId) : Bool :=
  e.reportedBelow p .request (rxWindowSize .request) work ||
    e.reportedBelow p .data (rxWindowSize .data) work

/-- The packets of `received` are marked as received. -/
structure Receives (received : WorkId → Bool) (e e' : Endpoint) : Prop where
  state : ∃ T, e' = { e with transactions := T }
  outgoing : ∀ rsn t, e'.outgoing rsn t = (e.outgoing rsn t).map fun pm =>
    { pm with received := pm.received || received ⟨rsn, t⟩ }

variable {e e₁ e₂ : Endpoint} {received received' : WorkId → Bool}

lemma Receives.refl (e : Endpoint) : Receives (fun _ => false) e e := by
  refine ⟨⟨e.transactions, rfl⟩, fun rsn t => ?_⟩
  simp only [Bool.or_false]
  exact Option.map_id'.symm

lemma Receives.trans (h : Receives received e e₁) (h' : Receives received' e₁ e₂) :
    Receives (fun work => received work || received' work) e e₂ := by
  obtain ⟨T, rfl⟩ := h.state
  obtain ⟨T', rfl⟩ := h'.state
  refine ⟨⟨T', rfl⟩, fun rsn t => ?_⟩
  rw [h'.outgoing, h.outgoing, Option.map_map]
  simp only [Function.comp_def, Bool.or_assoc]

lemma Receives.tx (h : Receives received e e₁) : e₁.tx = e.tx := by
  obtain ⟨T, rfl⟩ := h.state
  rfl

lemma Receives.congr (h : Receives received e e₁) (heq : ∀ work, received work = received' work) :
    Receives received' e e₁ := by
  rw [← funext heq]
  exact h

end Endpoint

namespace Gen3ConnectionState

variable {s : Gen3ConnectionState} {e : Endpoint} {p : AckPacket} {w : WindowType}

lemma applyAckBit_receives (p : AckPacket) (w : WindowType) (e : Endpoint) (i : Nat) :
    Ensures AnyFault (Endpoint.Receives (fun work => Bitmap.get (Endpoint.receivedBitmapOf p w) i &&
      decide ((e.tx w).outstandingPacketContexts (p.bpsn w + BitVec.ofNat 32 i) = some work)) e)
      (applyAckBit w (p.bpsn w) (Endpoint.receivedBitmapOf p w) e i) := by
  unfold applyAckBit
  cases hcontext : (e.tx w).outstandingPacketContexts (p.bpsn w + BitVec.ofNat 32 i) with
  | none => exact (Endpoint.Receives.refl e).congr fun work => by simp
  | some work =>
    refine (e.getPacketMetadata_outgoing work.rsn work.type).bind ?_
    rintro ⟨⟨rsn, location⟩, tr, pm⟩ ⟨rfl, hlocation, htr, hpm, houtgoing⟩
    have hmark : ∀ rsn t, (if rsn = work.rsn ∧ t = work.type then
        some { pm with received := true } else e.outgoing rsn t) = (e.outgoing rsn t).map fun pm =>
          { pm with received := pm.received || decide (some work = some ⟨rsn, t⟩) } := by
      intro rsn t
      split
      · rename_i heq
        obtain ⟨rfl, rfl⟩ := heq
        rw [houtgoing]
        simp
      · rename_i hne
        have hwork : work ≠ ⟨rsn, t⟩ := by
          rintro rfl
          exact hne ⟨rfl, rfl⟩
        simp [hwork]
    refine Ensures.ite (fun hset => ?_) fun hclear => ?_
    · rw [Bool.and_eq_true] at hset
      refine ⟨⟨_, rfl⟩, fun rsn t => ?_⟩
      rw [Endpoint.outgoing_setPacketMetadata hlocation htr, hset.1]
      simp only [Bool.true_and]
      exact hmark rsn t
    · refine ⟨⟨_, rfl⟩, fun rsn t => ?_⟩
      cases hbit : Bitmap.get (Endpoint.receivedBitmapOf p w) i with
      | false => simp
      | true =>
        have hreceived : pm.received = true := by
          simpa [hbit] using hclear
        have hpm' : { pm with received := true } = pm := by
          rw [← hreceived]
        simp only [Bool.true_and]
        rw [← hmark rsn t, hpm']
        split
        · rename_i heq
          rw [heq.1, heq.2, houtgoing]
        · rfl

lemma applyAckWindowMetadata_receives (p : AckPacket) (w : WindowType) (e : Endpoint) :
    Ensures AnyFault (Endpoint.Receives (e.reportedBelow p w (rxWindowSize w)) e)
      (applyAckWindowMetadata e w (p.bpsn w) (Endpoint.receivedBitmapOf p w)) := by
  unfold applyAckWindowMetadata
  refine Ensures.foldlM_range (I := fun k e' =>
    Endpoint.Receives (e.reportedBelow p w k) e e') _ ?_ ?_
  · intro k e' _ hk
    refine (applyAckBit_receives p w e' k).imp fun e'' h => ?_
    rw [hk.tx] at h
    refine (hk.trans h).congr fun work => ?_
    simp [Endpoint.reportedBelow, List.range_succ]
  · exact (Endpoint.Receives.refl e).congr fun work => rfl

lemma rackApplyEack_receives (s : Gen3ConnectionState) (p : AckPacket) :
    Ensures AnyFault (fun s' => ∃ e, Endpoint.Receives (s.reported p) s.toEndpoint e ∧
      s' = { s with
        toEndpoint := e
        maxAckBpsn := fun w => maxPsn (s.maxAckBpsn w) (p.bpsn w)
        rack := { s.rack with enabledForWindow := fun _ => true } }) (s.rackApplyEack p) := by
  unfold rackApplyEack
  refine (applyAckWindowMetadata_receives p .request s.toEndpoint).bind fun e₁ h₁ => ?_
  refine (applyAckWindowMetadata_receives p .data e₁).bind fun e₂ h₂ => ?_
  refine ⟨e₂, (h₁.trans h₂).congr fun work => ?_, rfl⟩
  unfold Endpoint.reported Endpoint.reportedBelow
  rw [h₁.tx]

/-! ## The packets that an EACK selects -/

section Selection

variable (s : Gen3ConnectionState) (p : AckPacket) (w : WindowType) (x : RetransmissionWorkId)

def RackRuns : Prop :=
  s.early.enableRack = true ∧
    (s.early.rackBypassRtoCheck = true ∨ (s.rackUpdate p.timestamp1).rackRtoExceedsBase = false)

def Unacked : Prop := Bitmap.get (s.tx w).window (txBitmapIndex (s.tx w) x.psn) = false

instance : Decidable (s.Unacked w x) := inferInstanceAs (Decidable (_ = false))

def InScanRange : Prop :=
  s.early.rackBypassScanRangeLimit = true ∨ x.psn.toNat <
    (maxPsn (s.maxAckBpsn w) (p.bpsn w) + BitVec.ofNat 32 (rxWindowSize w)).toNat

instance : Decidable (s.InScanRange p w x) := inferInstanceAs (Decidable (_ ∨ _))

/-- A packet that was sent early enough, is not known as received, also not from the EACK, and may
still be retransmitted early. -/
def IsCandidate (pm : PacketMetadata) : Prop :=
  s.outgoing x.rsn x.type = some pm ∧ pm.received = false ∧
    s.reported p x.toWorkId = false ∧ pm.earlyRetxAttempts < s.config.earlyRetxThreshold ∧
    pm.transmissionTime ≤ (s.rackUpdate p.timestamp1).rack.xmitTs

def IsDue (pm : PacketMetadata) : Prop :=
  s.early.rackBypassRtoCheck = true ∨
    (s.rackUpdate p.timestamp1).rackExpired pm.transmissionTime = true

def RackTakes : Prop :=
  s.Unacked w x ∧ s.InScanRange p w x ∧ ∃ pm, s.IsCandidate p x pm ∧ s.IsDue p pm

def RackStops : Prop :=
  s.Unacked w x ∧ (s.InScanRange p w x →
    s.outgoing x.rsn x.type = none ∨ ∃ pm, s.IsCandidate p x pm ∧ ¬s.IsDue p pm)

def IsRackSelected : Prop :=
  s.RackRuns p ∧ x ∈ (s.tx w).outstandingPackets ∧ s.RackTakes p w x ∧
    ∀ y ∈ (s.tx w).outstandingPackets, s.Precedes w x y → ¬s.RackStops p w y

end Selection

def afterEack (s : Gen3ConnectionState) (p : AckPacket) (e : Endpoint) : Gen3ConnectionState :=
  { s.rackUpdate p.timestamp1 with
    toEndpoint := e
    maxAckBpsn := fun w => maxPsn (s.maxAckBpsn w) (p.bpsn w)
    rack := { (s.rackUpdate p.timestamp1).rack with enabledForWindow := fun _ => true } }

lemma rackUpdate_eq (s : Gen3ConnectionState) (txTime : Time) :
    s.rackUpdate txTime = { s with rack := (s.rackUpdate txTime).rack } := by
  unfold rackUpdate
  split <;> rfl

section Verdict

variable {x : RetransmissionWorkId} (h : Endpoint.Receives (s.reported p) s.toEndpoint e)
include h

lemma afterEack_packetVerdict (x : RetransmissionWorkId) :
    (e.outgoing x.rsn x.type).map (s.afterEack p e).packetVerdict =
      (s.outgoing x.rsn x.type).map fun pm =>
        if (pm.received || s.reported p x.toWorkId) ||
            pm.earlyRetxAttempts ≥ s.config.earlyRetxThreshold then .skip
        else if pm.transmissionTime ≤ (s.rackUpdate p.timestamp1).rack.xmitTs then
          if s.early.rackBypassRtoCheck ||
              (s.rackUpdate p.timestamp1).rackExpired pm.transmissionTime then .take
          else .stop
        else .skip := by
  obtain ⟨T, rfl⟩ := h.state
  rw [h.outgoing, Option.map_map]
  have hearly : (s.rackUpdate p.timestamp1).early = s.early := by rw [rackUpdate_eq]
  have hnow : (s.rackUpdate p.timestamp1).now = s.now := by rw [rackUpdate_eq]
  congr 1
  funext pm
  simp only [Function.comp_apply, packetVerdict, afterEack, rackExpired, hearly, hnow]
  rfl

lemma afterEack_rackVerdict (w : WindowType) (x : RetransmissionWorkId) :
    (s.afterEack p e).rackVerdict e w x =
      if ¬s.Unacked w x then .skip
      else if ¬s.InScanRange p w x then .stop
      else ((e.outgoing x.rsn x.type).map (s.afterEack p e).packetVerdict).getD .stop := by
  have hearly : (s.afterEack p e).early = s.early := by
    unfold afterEack
    rw [rackUpdate_eq]
  have hlimit : (s.afterEack p e).scanLimit w =
    maxPsn (s.maxAckBpsn w) (p.bpsn w) + BitVec.ofNat 32 (rxWindowSize w) := rfl
  unfold rackVerdict
  rw [h.tx, hearly, hlimit]
  refine if_congr (by simp [Unacked]) rfl (if_congr ?_ rfl rfl)
  simp [InScanRange]

lemma afterEack_verdict_iff :
    ((s.afterEack p e).rackVerdict e w x = .take ↔ s.RackTakes p w x) ∧
      ((s.afterEack p e).rackVerdict e w x = .stop ↔ s.RackStops p w x) := by
  rw [afterEack_rackVerdict h, afterEack_packetVerdict h]
  unfold RackTakes RackStops IsCandidate IsDue
  by_cases hunacked : s.Unacked w x
  · by_cases hrange : s.InScanRange p w x
    · cases houtgoing : s.outgoing x.rsn x.type with
      | none => simp [hunacked, hrange]
      | some pm =>
        simp only [hunacked, hrange, not_true_eq_false, if_false, Option.map_some, Option.getD_some,
          Option.some.injEq, true_and]
        split_ifs <;> grind
    · simp [hunacked, hrange]
  · simp [hunacked]

end Verdict

lemma mem_rackSelected_afterEack (hordered : s.OrderedOutstanding)
    (h : Endpoint.Receives (s.reported p) s.toEndpoint e) (hrack : s.early.enableRack = true)
    {x : RetransmissionWorkId} :
    x ∈ (s.afterEack p e).rackSelected w ↔ s.IsRackSelected p w x := by
  have hearly : (s.afterEack p e).early = s.early := by
    unfold afterEack
    rw [rackUpdate_eq]
  have hexceeds : (s.afterEack p e).rackRtoExceedsBase =
      (s.rackUpdate p.timestamp1).rackRtoExceedsBase := by
    obtain ⟨T, rfl⟩ := h.state
    have hbase : (s.rackUpdate p.timestamp1).congestionControl = s.congestionControl := by
      rw [rackUpdate_eq]
    unfold rackRtoExceedsBase
    rw [hbase]
    rfl
  have htx : (s.afterEack p e).tx w = s.tx w := congrFun h.tx w
  have hselect : x ∈ Scan.select ((s.afterEack p e).rackVerdict e w) (s.tx w).outstandingPackets ↔
      x ∈ (s.tx w).outstandingPackets ∧ s.RackTakes p w x ∧
        ∀ y ∈ (s.tx w).outstandingPackets, s.Precedes w x y → ¬s.RackStops p w y := by
    rw [Scan.mem_select_iff (r := fun x y => s.Precedes w y x) (hordered.sorted w),
      (afterEack_verdict_iff h).1]
    simp only [ne_eq, (afterEack_verdict_iff h).2]
  have henabled : (s.afterEack p e).rack.enabledForWindow w = true := rfl
  unfold rackSelected IsRackSelected RackRuns
  rw [hearly, hexceeds, htx, henabled]
  split
  · rename_i hoff
    refine iff_of_false List.not_mem_nil ?_
    rintro ⟨⟨-, hruns⟩, -⟩
    simp only [Bool.not_true, Bool.or_false, Bool.and_eq_true, Bool.not_eq_true'] at hoff
    simp [hoff.1, hoff.2] at hruns
  · rename_i hon
    have hruns : s.early.rackBypassRtoCheck = true ∨
        (s.rackUpdate p.timestamp1).rackRtoExceedsBase = false := by
      simp only [Bool.not_true, Bool.or_false, Bool.and_eq_true, Bool.not_eq_true', not_and,
        Bool.not_eq_true] at hon
      cases hbypass : s.early.rackBypassRtoCheck with
      | true => exact .inl rfl
      | false => exact .inr (hon hbypass)
    rw [and_iff_right ⟨hrack, hruns⟩]
    exact hselect

lemma rackHandleAck_selects (heack : p.isEack = true) :
    Ensures AnyFault (fun q => ∃ e, Endpoint.Receives (s.reported p) s.toEndpoint e ∧
      q.2.retxWorkIds =
        (s.afterEack p e).rackSelected .request ++ (s.afterEack p e).rackSelected .data)
      (s.rackHandleAck p) := by
  unfold rackHandleAck
  dsimp only
  rw [if_pos heack]
  refine (rackApplyEack_receives _ p).bind ?_
  rintro s₁ ⟨e, hreceives, rfl⟩
  have hendpoint : (s.rackUpdate p.timestamp1).toEndpoint = s.toEndpoint := by rw [rackUpdate_eq]
  have hmax : (s.rackUpdate p.timestamp1).maxAckBpsn = s.maxAckBpsn := by rw [rackUpdate_eq]
  rw [hendpoint] at hreceives
  refine (performRackScan_select _).imp fun q hq => ⟨e, hreceives, ?_⟩
  rw [hq.2.1, hmax]
  rfl

lemma tlpHandleAck_selects (s : Gen3ConnectionState) (p : AckPacket) :
    Ensures AnyFault (fun q => q.2.retxWorkIds = []) (s.tlpHandleAck p) := by
  unfold tlpHandleAck
  exact (Endpoint.ensures_any _).bind fun s₁ _ => rfl

lemma invokeHandleAck_selects (hordered : s.OrderedOutstanding) (heack : p.isEack = true) :
    Ensures AnyFault (fun q => ∀ x, x ∈ q.2 ↔ ∃ w, s.IsRackSelected p w x)
      (s.invokeHandleAck p) := by
  unfold invokeHandleAck
  have hrack : Ensures AnyFault
      (fun q => ∀ x, x ∈ q.2.retxWorkIds ↔ ∃ w, s.IsRackSelected p w x)
      (s.ifInstalled s.early.enableRack (s.rackHandleAck p)) := by
    refine Ensures.ite (fun hon => ?_) fun hoff x => ?_
    · refine (rackHandleAck_selects heack).imp ?_
      rintro q ⟨e, hreceives, hretx⟩ x
      rw [hretx, List.mem_append, mem_rackSelected_afterEack hordered hreceives hon,
        mem_rackSelected_afterEack hordered hreceives hon]
      constructor
      · rintro (hx | hx)
        · exact ⟨.request, hx⟩
        · exact ⟨.data, hx⟩
      · rintro ⟨w, hx⟩
        cases w with
        | request => exact .inl hx
        | data => exact .inr hx
    · refine iff_of_false List.not_mem_nil ?_
      rintro ⟨w, ⟨hon, -⟩, -⟩
      exact hoff hon
  have htlp : ∀ s₁ : Gen3ConnectionState, Ensures AnyFault (fun q => q.2.retxWorkIds = [])
      (s₁.ifInstalled s₁.early.enableTlp (s₁.tlpHandleAck p)) := fun s₁ =>
    Ensures.ite (fun _ => tlpHandleAck_selects s₁ p) fun _ => rfl
  refine hrack.bind ?_
  rintro ⟨s₁, rackAction⟩ hretx
  refine (htlp s₁).bind ?_
  rintro ⟨s₂, tlpAction⟩ hnone
  refine (Endpoint.ensures_any _).bind fun s₃ _ => ?_
  refine (Endpoint.ensures_any _).bind fun s₄ _ x => ?_
  dsimp only at hretx hnone ⊢
  rw [hnone, List.append_nil]
  exact hretx x

def LeavesOpen (p : AckPacket) (x : RetransmissionWorkId) : Prop :=
  let w := windowOf x.type
  let index := Serial.dist (p.bpsn w) x.psn
  seqGEQ x.psn (p.bpsn w) = true ∧
    (index < rxWindowSize w → Bitmap.get (Endpoint.receivedBitmapOf p w) index = false)

def TracksOutstanding (e : Endpoint) : Prop :=
  ∀ w, ∀ x ∈ (e.tx w).outstandingPackets,
    (e.tx w).outstandingPacketContexts x.psn = some x.toWorkId

lemma bit_of_not_reported {x : RetransmissionWorkId}
    (hcontext : (e.tx w).outstandingPacketContexts x.psn = some x.toWorkId)
    (hreported : e.reported p x.toWorkId = false)
    (hindex : Serial.dist (p.bpsn w) x.psn < rxWindowSize w) :
    Bitmap.get (Endpoint.receivedBitmapOf p w) (Serial.dist (p.bpsn w) x.psn) = false := by
  have hbelow : e.reportedBelow p w (rxWindowSize w) x.toWorkId = false := by
    unfold Endpoint.reported at hreported
    rw [Bool.or_eq_false_iff] at hreported
    cases w with
    | request => exact hreported.1
    | data => exact hreported.2
  unfold Endpoint.reportedBelow at hbelow
  rw [List.any_eq_false] at hbelow
  have hbit := hbelow _ (List.mem_range.mpr hindex)
  have hpsn : p.bpsn w + BitVec.ofNat 32 (Serial.dist (p.bpsn w) x.psn) = x.psn :=
    Serial.shift_dist _ _
  rw [hpsn, hcontext] at hbit
  simpa using hbit

lemma IsRackSelected.leavesOpen_iff {x : RetransmissionWorkId} (hordered : s.OrderedOutstanding)
    (htracked : TracksOutstanding s.toEndpoint) (h : s.IsRackSelected p w x) :
    LeavesOpen p x ↔ seqLT x.psn (p.bpsn w) = false := by
  obtain ⟨-, hx, ⟨-, -, pm, hcandidate, -⟩, -⟩ := h
  have hseq : seqGEQ x.psn (p.bpsn w) = true ↔ seqLT x.psn (p.bpsn w) = false := by
    simp [seqGEQ, seqLT, Serial.lt]
  unfold LeavesOpen
  rw [hordered.window w x hx]
  dsimp only
  rw [hseq]
  refine and_iff_left fun hindex => ?_
  exact bit_of_not_reported (htracked w x hx) hcandidate.2.2.1 hindex

/-- The packets that are selected while an EACK is handled are left open by it exactly if the scan
selects no outstanding packet below the base of the EACK. -/
theorem rack_respects_eack_iff {s s' : Gen3ConnectionState} {p : AckPacket}
    {selected : List RetransmissionWorkId} (hordered : s.OrderedOutstanding)
    (htracked : TracksOutstanding s.toEndpoint) (heack : p.isEack = true)
    (h : s.invokeHandleAck p = .ok (s', selected)) :
    (∀ x ∈ selected, LeavesOpen p x) ↔
      ∀ w, ∀ x ∈ (s.tx w).outstandingPackets, seqLT x.psn (p.bpsn w) = true →
        ¬s.IsRackSelected p w x := by
  have hselected := (invokeHandleAck_selects hordered heack).of_ok h
  constructor
  · intro hopen w x _ hbelow hx
    have hclear := (hx.leavesOpen_iff hordered htracked).mp (hopen x ((hselected x).mpr ⟨w, hx⟩))
    rw [hbelow] at hclear
    cases hclear
  · intro hnone x hmem
    obtain ⟨w, hx⟩ := (hselected x).mp hmem
    refine (hx.leavesOpen_iff hordered htracked).mpr ?_
    by_contra hbelow
    exact hnone w x hx.2.1 (Bool.eq_true_of_not_eq_false hbelow) hx

def pullOutstanding : Gen3ConnectionState where
  toEndpoint := { Endpoint.pullSent { ordered := false } 0 with now := 8 }
  early := {}

def twoPullsOutstanding : Gen3ConnectionState where
  toEndpoint := Endpoint.twoPullsSent { ordered := false }
  early := {}

def eackBeyondPull : AckPacket where
  isEack := true
  bpsn
    | .request => 1
    | .data => 0
  own _ := false
  ackBitmap _ := 0
  receivedBitmap := 0
  timestamp1 := 4

/-- The EACK is not stale, its base is beyond the pull request, and RACK still selects the
request. -/
theorem rack_selects_acknowledged :
    ∃ s', pullOutstanding.invokeHandleAck eackBeyondPull = .ok (s', [⟨0, 0, .pullRequest⟩]) ∧
      (∀ w, seqLT (eackBeyondPull.bpsn w) (pullOutstanding.tx w).base = false) ∧
      ¬LeavesOpen eackBeyondPull ⟨0, 0, .pullRequest⟩ := by
  obtain ⟨⟨s', selected⟩, h, hselected⟩ := exists_ok_of_any
    (P := fun q => q.2 = [⟨0, 0, .pullRequest⟩])
    (x := pullOutstanding.invokeHandleAck eackBeyondPull) (by decide +kernel)
  refine ⟨s', hselected ▸ h, by decide, ?_⟩
  rintro ⟨hseq, -⟩
  revert hseq
  decide

/-- The equivalence where the base of the EACK is the first pull request and its bitmap has the
second: RACK selects the first, which the EACK leaves open. -/
theorem rack_respects_eack_iff_twoPulls :
    ∃ s', twoPullsOutstanding.invokeHandleAck Endpoint.eackOfSecond =
        .ok (s', [⟨0, 0, .pullRequest⟩]) ∧
      LeavesOpen Endpoint.eackOfSecond ⟨0, 0, .pullRequest⟩ := by
  have hsent := Endpoint.twoPullsSent_orderedOutstanding { ordered := false }
  have hordered : twoPullsOutstanding.OrderedOutstanding :=
    ⟨hsent.sorted, hsent.nodup, hsent.window⟩
  have htracked : TracksOutstanding twoPullsOutstanding.toEndpoint := by
    intro w
    cases w <;> simp [twoPullsOutstanding, Endpoint.twoPullsSent, RetransmissionWorkId.toWorkId]
  have hnone : ∀ w, ∀ x ∈ (twoPullsOutstanding.tx w).outstandingPackets,
      seqLT x.psn (Endpoint.eackOfSecond.bpsn w) = false := by
    decide
  obtain ⟨⟨s', selected⟩, h, hselected⟩ := exists_ok_of_any
    (P := fun q => q.2 = [⟨0, 0, .pullRequest⟩])
    (x := twoPullsOutstanding.invokeHandleAck Endpoint.eackOfSecond) (by decide +kernel)
  obtain rfl : selected = [⟨0, 0, .pullRequest⟩] := hselected
  have hopen := (rack_respects_eack_iff hordered htracked rfl h).mpr fun w x hx hbelow => by
    rw [hnone w x hx] at hbelow
    cases hbelow
  exact ⟨s', h, hopen _ (List.mem_singleton_self _)⟩

end Gen3ConnectionState

end Isekai.Falcon
