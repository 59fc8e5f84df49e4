import Isekai.Falcon.Gen3

/-!
# The packets that RACK selects

A scan of RACK is a walk over the outstanding packets of a window that takes, skips or stops at each
packet. Marking a packet for retransmission changes none of these decisions.
-/

namespace Isekai.Falcon

open Lib

def PacketMetadata.eraseReason (pm : PacketMetadata) : PacketMetadata :=
  { pm with retransmissionReason := .timeout }

namespace Endpoint

variable {e e₁ e₂ : Endpoint} {rsn : Rsn} {t : PacketType}

/-- Packets differ in their retransmission reason at most. -/
structure Relabels (e e' : Endpoint) : Prop where
  state : ∃ T, e' = { e with transactions := T }
  outgoing : ∀ rsn t, (e'.outgoing rsn t).map PacketMetadata.eraseReason =
    (e.outgoing rsn t).map PacketMetadata.eraseReason

lemma Relabels.refl (e : Endpoint) : Relabels e e := ⟨⟨e.transactions, rfl⟩, fun _ _ => rfl⟩

lemma Relabels.trans (h : Relabels e e₁) (h' : Relabels e₁ e₂) : Relabels e e₂ := by
  obtain ⟨T, rfl⟩ := h.state
  obtain ⟨T', rfl⟩ := h'.state
  exact ⟨⟨T', rfl⟩, fun rsn t => (h'.outgoing rsn t).trans (h.outgoing rsn t)⟩

lemma Relabels.tx (h : Relabels e e₁) : e₁.tx = e.tx := by
  obtain ⟨T, rfl⟩ := h.state
  rfl

lemma Relabels.setPacketMetadata {location : TransactionLocation} {tr : TransactionMetadata}
    {pm pm' : PacketMetadata} (hlocation : getTransactionLocation t false = .ok location)
    (htr : e.transactions ⟨rsn, location⟩ = some tr) (hpm : tr.packets t = some pm)
    (h : pm'.eraseReason = pm.eraseReason) :
    Relabels e (e.setPacketMetadata ⟨rsn, location⟩ tr t pm') := by
  refine ⟨⟨_, rfl⟩, fun rsn' t' => ?_⟩
  rw [outgoing_setPacketMetadata hlocation htr]
  split
  · rename_i heq
    obtain ⟨rfl, rfl⟩ := heq
    rw [outgoing_eq_some hlocation htr hpm]
    simp [h]
  · rfl

end Endpoint

namespace Gen3ConnectionState

variable (s : Gen3ConnectionState)

def packetVerdict (pm : PacketMetadata) : Scan.Verdict :=
  if pm.received || pm.earlyRetxAttempts ≥ s.config.earlyRetxThreshold then .skip
  else if pm.transmissionTime ≤ s.rack.xmitTs then
    if s.early.rackBypassRtoCheck || s.rackExpired pm.transmissionTime then .take else .stop
  else .skip

def rackVerdict (e : Endpoint) (w : WindowType) (work : RetransmissionWorkId) : Scan.Verdict :=
  if Bitmap.get (e.tx w).window (txBitmapIndex (e.tx w) work.psn) then .skip
  else if !s.early.rackBypassScanRangeLimit && work.psn.toNat ≥ (s.scanLimit w).toNat then .stop
  else ((e.outgoing work.rsn work.type).map s.packetVerdict).getD .stop

def rackSelected (w : WindowType) : List RetransmissionWorkId :=
  if !s.early.rackBypassRtoCheck && s.rackRtoExceedsBase || !s.rack.enabledForWindow w then []
  else Scan.select (s.rackVerdict s.toEndpoint w) (s.tx w).outstandingPackets

variable {s} {e e₁ : Endpoint} {w : WindowType}

lemma rackVerdict_congr (h : Endpoint.Relabels e e₁) : s.rackVerdict e₁ w = s.rackVerdict e w := by
  have hverdict : s.packetVerdict = s.packetVerdict ∘ PacketMetadata.eraseReason := rfl
  funext work
  unfold rackVerdict
  rw [h.tx, hverdict, ← Option.map_map, ← Option.map_map, h.outgoing]

lemma rackScan_select (w : WindowType) (e : Endpoint) (l : List RetransmissionWorkId) :
    Ensures AnyFault (fun q => Endpoint.Relabels e q.1 ∧
      q.2 = Scan.select (s.rackVerdict e w) l ∧ (q.2 = [] → q.1 = e)) (s.rackScan w e l) := by
  induction l generalizing e with
  | nil => exact ⟨.refl e, rfl, fun _ => rfl⟩
  | cons work rest ih =>
    rw [rackScan, Scan.select]
    unfold rackVerdict
    refine Ensures.ite (fun hacked => ?_) fun hacked => ?_
    · rw [if_pos hacked]
      exact ih e
    rw [if_neg hacked]
    refine Ensures.ite (fun hlimit => ?_) fun hlimit => ?_
    · rw [if_pos hlimit]
      exact ⟨.refl e, rfl, fun _ => rfl⟩
    rw [if_neg hlimit]
    refine (e.getPacketMetadata_outgoing work.rsn work.type).bind ?_
    rintro ⟨⟨rsn, location⟩, tr, pm⟩ ⟨rfl, hlocation, htr, hpm, houtgoing⟩
    rw [houtgoing]
    simp only [Option.map_some, Option.getD_some, packetVerdict]
    refine Ensures.ite (fun hskip => ?_) fun hskip => ?_
    · rw [if_pos hskip]
      exact ih e
    rw [if_neg hskip]
    refine Ensures.ite (fun htime => ?_) fun htime => ?_
    · rw [if_pos htime]
      refine Ensures.ite (fun htake => ?_) fun hstop => ?_
      · rw [if_pos htake]
        have hmark : Endpoint.Relabels e (e.setPacketMetadata ⟨work.rsn, location⟩ tr work.type
            { pm with retransmissionReason := .earlyRack }) :=
          .setPacketMetadata hlocation htr hpm rfl
        refine (ih _).bind ?_
        rintro ⟨e', retx⟩ ⟨hrelabels, hretx, -⟩
        rw [rackVerdict_congr hmark] at hretx
        exact ⟨hmark.trans hrelabels, congrArg (work :: ·) hretx, by rintro ⟨⟩⟩
      · rw [if_neg hstop]
        exact ⟨.refl e, rfl, fun _ => rfl⟩
    · rw [if_neg htime]
      exact ih e

lemma rackScanWindow_select (w : WindowType) (e : Endpoint) :
    Ensures AnyFault (fun q => Endpoint.Relabels e q.1 ∧
      q.2 = (if s.rack.enabledForWindow w then
        Scan.select (s.rackVerdict e w) (e.tx w).outstandingPackets else []) ∧
      (q.2 = [] → q.1 = e)) (s.rackScanWindow w e) := by
  refine Ensures.ite (fun henabled => ?_) fun henabled => ?_
  · rw [if_pos henabled]
    exact rackScan_select w e _
  · rw [if_neg henabled]
    exact ⟨.refl e, rfl, fun _ => rfl⟩

lemma performRackScan_select (s : Gen3ConnectionState) :
    Ensures AnyFault (fun q => (∃ e, Endpoint.Relabels s.toEndpoint e ∧
      q.1 = { s with toEndpoint := e }) ∧
      q.2 = { retxWorkIds := s.rackSelected .request ++ s.rackSelected .data } ∧
      (q.2.retxWorkIds = [] → q.1 = s)) s.performRackScan := by
  unfold performRackScan rackSelected
  refine Ensures.ite (fun hoff => ?_) fun hon => ?_
  · simp only [hoff, Bool.true_or, if_true, List.append_nil]
    exact ⟨⟨s.toEndpoint, .refl _, rfl⟩, rfl, fun _ => rfl⟩
  simp only [Bool.eq_false_of_not_eq_true hon, Bool.false_or]
  refine (rackScanWindow_select .request s.toEndpoint).bind ?_
  rintro ⟨e₁, request⟩ ⟨hrelabels₁, hrequest, hnone₁⟩
  refine (rackScanWindow_select .data e₁).bind ?_
  rintro ⟨e₂, data⟩ ⟨hrelabels₂, hdata, hnone₂⟩
  rw [rackVerdict_congr hrelabels₁, hrelabels₁.tx] at hdata
  dsimp only at hrequest hdata hnone₁ hnone₂
  refine ⟨⟨e₂, hrelabels₁.trans hrelabels₂, rfl⟩, ?_, fun hnil => ?_⟩
  · rw [hrequest, hdata]
    simp only [Bool.not_eq_eq_eq_not, ← Bool.not_eq_true, ite_not, Bool.not_true]
  · obtain ⟨hrequestNil, hdataNil⟩ := List.append_eq_nil_iff.mp hnil
    rw [hnone₂ hdataNil, hnone₁ hrequestNil]

end Gen3ConnectionState

end Isekai.Falcon
