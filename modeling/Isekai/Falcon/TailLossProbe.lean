import Isekai.Falcon.RackTimeout
import Isekai.Lib.TransitionSystem

/-!
# The timer of the tail loss probe

Events of the tail loss probe are never cancelled: an event is valid only if it happens at the time
that `tlp.pto` holds.
-/

namespace Isekai.Falcon

open Lib

namespace Gen3ConnectionState

variable {s : Gen3ConnectionState} {e : Endpoint} {w : WindowType}

/-! ## What a probe repeats -/

/-- An outstanding packet that was not reported as received and may be retransmitted early. -/
def IsProbe (s : Gen3ConnectionState) (w : WindowType) (x : RetransmissionWorkId) : Prop :=
  x ∈ (s.tx w).outstandingPackets ∧ ∃ pm, s.outgoing x.rsn x.type = some pm ∧
    pm.received = false ∧ pm.earlyRetxAttempts < s.config.earlyRetxThreshold

lemma tlpGetPacketMetadata_outgoing (e : Endpoint) (type : PacketType) (rsn : Rsn) :
    Ensures AnyFault (fun found => ∀ q ∈ found, e.outgoing rsn type = some q.2.2)
      (tlpGetPacketMetadata e type rsn) := by
  refine (Endpoint.ensures_eq _).bind fun location hlocation q hq => ?_
  obtain ⟨tr, htr, hmap⟩ := Option.bind_eq_some_iff.mp hq
  obtain ⟨pm, hpm, rfl⟩ := Option.map_eq_some_iff.mp hmap
  exact Endpoint.outgoing_eq_some hlocation htr hpm

lemma unreceivedProbe_spec (inRange : RetransmissionWorkId → Bool) (e : Endpoint)
    (l : List RetransmissionWorkId) :
    Ensures AnyFault (fun probe => ∀ x ∈ probe, x ∈ l ∧ ∃ pm, e.outgoing x.rsn x.type = some pm ∧
      pm.received = false ∧ pm.earlyRetxAttempts < e.config.earlyRetxThreshold)
      (unreceivedProbe inRange e l) := by
  induction l with
  | nil => exact nofun
  | cons pkt rest ih =>
    have hrest : Ensures AnyFault (fun probe => ∀ x ∈ probe, x ∈ pkt :: rest ∧ ∃ pm,
        e.outgoing x.rsn x.type = some pm ∧ pm.received = false ∧
          pm.earlyRetxAttempts < e.config.earlyRetxThreshold) (unreceivedProbe inRange e rest) :=
      ih.imp fun probe h x hx => ⟨List.mem_cons_of_mem pkt (h x hx).1, (h x hx).2⟩
    refine Ensures.ite (fun _ => hrest) fun _ => ?_
    refine (tlpGetPacketMetadata_outgoing e pkt.type pkt.rsn).bind fun found hfound => ?_
    cases found with
    | none => exact hrest
    | some q =>
      refine Ensures.ite (fun _ => nofun) fun hbelow => ?_
      refine Ensures.ite (fun hunreceived => ?_) fun _ => hrest
      intro x hx
      cases hx
      exact ⟨List.mem_cons_self, q.2.2, hfound q rfl, by simpa using hunreceived, not_le.mp hbelow⟩

lemma getProbe_spec (s : Gen3ConnectionState) (w : WindowType) :
    Ensures AnyFault (fun probe => ∀ x ∈ probe, s.IsProbe w x) (s.getProbe w) := by
  unfold getProbe
  cases s.early.tlpType with
  | firstUnreceived => exact unreceivedProbe_spec _ _ _
  | lastUnreceived =>
    refine (unreceivedProbe_spec _ _ _).imp fun probe h x hx => ⟨?_, (h x hx).2⟩
    exact List.mem_reverse.mp (h x hx).1

/-- The probes are one of each window, or one in total. -/
structure SelectsProbes (s : Gen3ConnectionState) (probes : List RetransmissionWorkId) : Prop where
  windows : ∃ request data : Option RetransmissionWorkId, probes = request.toList ++ data.toList ∧
    (∀ x ∈ request, s.IsProbe .request x) ∧ ∀ x ∈ data, s.IsProbe .data x
  single : s.early.tlpPerWindowProbe = false → probes.length ≤ 1

lemma SelectsProbes.nil (s : Gen3ConnectionState) : s.SelectsProbes [] :=
  ⟨⟨none, none, rfl, nofun, nofun⟩, fun _ => Nat.zero_le _⟩

lemma selectProbesBetweenWindows_spec {request data : Option RetransmissionWorkId}
    (hrequest : ∀ x ∈ request, s.IsProbe .request x) (hdata : ∀ x ∈ data, s.IsProbe .data x) :
    s.SelectsProbes (s.selectProbesBetweenWindows request data) := by
  unfold selectProbesBetweenWindows
  cases request with
  | none =>
    refine ⟨⟨none, data, rfl, nofun, hdata⟩, fun _ => ?_⟩
    cases data <;> simp
  | some r =>
    cases data with
    | none => exact ⟨⟨some r, none, rfl, hrequest, nofun⟩, fun _ => by simp⟩
    | some d =>
      dsimp only
      split
      · rename_i hboth
        exact ⟨⟨some r, some d, rfl, hrequest, hdata⟩, fun hone => by simp [hone] at hboth⟩
      · split
        · exact ⟨⟨none, some d, rfl, nofun, hdata⟩, fun _ => by simp⟩
        · exact ⟨⟨some r, none, rfl, hrequest, nofun⟩, fun _ => by simp⟩

/-! ## The steps of a run -/

lemma executeRetransmission_retransmits (e : Endpoint) (work : RetransmissionWorkId) :
    Ensures AnyFault
      (fun e' => e'.now = e.now ∧ e'.retransmitted = work.toWorkId :: e.retransmitted)
      (executeRetransmission e work) := by
  refine (e.initiateRetransmission_counts work.rsn work.type).bind ?_
  rintro e' ⟨pm, -, hcounts⟩
  exact ⟨hcounts.now, hcounts.silent.retransmitted⟩

lemma executeRetransmissions_retransmit (l : List RetransmissionWorkId) (e : Endpoint) :
    Ensures AnyFault (fun e' => e'.now = e.now ∧ e'.retransmitted =
      (l.map RetransmissionWorkId.toWorkId).reverse ++ e.retransmitted)
      (l.foldlM executeRetransmission e) := by
  induction l generalizing e with
  | nil => exact ⟨rfl, rfl⟩
  | cons work rest ih =>
    refine (executeRetransmission_retransmits e work).bind fun e₁ h₁ => ?_
    refine (ih e₁).imp fun e' h => ⟨h.1.trans h₁.1, ?_⟩
    rw [h.2, h₁.2]
    simp

/-- What the execution of an action does: it schedules its event and hands its packets to the
retransmission scheduler, each once. -/
structure Executes (s s' : Gen3ConnectionState) (action : RetransmissionPolicyAction) : Prop where
  now : s'.now = s.now
  pto : s'.pto = s.pto
  pending : s'.tlpPending =
    if action.scheduledEventDuration ≠ 0 then
      s.tlpPending ++ [s.now + action.scheduledEventDuration] else s.tlpPending
  retransmitted : s'.retransmitted =
    (action.retxWorkIds.map RetransmissionWorkId.toWorkId).reverse ++ s.retransmitted

lemma executeRetransmissionPolicyAction_executes (s : Gen3ConnectionState)
    (action : RetransmissionPolicyAction) :
    Ensures AnyFault (fun s' => s.Executes s' action)
      (s.executeRetransmissionPolicyAction action) := by
  unfold executeRetransmissionPolicyAction
  by_cases hevent : action.scheduledEventDuration ≠ 0
  · rw [if_pos hevent]
    refine (executeRetransmissions_retransmit _ _).bind fun e he => ?_
    exact ⟨he.1, rfl, (if_pos hevent).symm, he.2⟩
  · rw [if_neg hevent]
    refine (executeRetransmissions_retransmit _ _).bind fun e he => ?_
    exact ⟨he.1, rfl, (if_neg hevent).symm, he.2⟩

inductive TlpLabel where
  /-- A transmission, a NACK, an implicit or a piggybacked acknowledgement. -/
  | restart
  | ack (p : AckPacket)
  /-- A pending event of the tail loss probe. -/
  | event (index : Nat)
  | advance (time : Time)
  /-- The rest of the connection changes. -/
  | other (connection : Gen3ConnectionState)

def TlpReaches (s : Gen3ConnectionState) (time : Time) : Prop :=
  s.now ≤ time ∧ ∀ t ∈ s.tlpPending, time ≤ t

instance (time : Time) : Decidable (s.TlpReaches time) := inferInstanceAs (Decidable (_ ∧ _))

def TlpAllowed (s : Gen3ConnectionState) : TlpLabel → Prop
  | .restart => 0 < s.tlpTimeout
  | .ack _ => 0 < s.tlpTimeout
  | .event index => ∃ t ∈ s.tlpPending[index]?, s.TlpReaches t
  | .advance time => s.TlpReaches time
  | .other c => c.now = s.now ∧ c.pto = s.pto ∧ c.tlpPending = s.tlpPending

instance : ∀ l, Decidable (s.TlpAllowed l)
  | .restart => inferInstanceAs (Decidable (0 < s.tlpTimeout))
  | .ack _ => inferInstanceAs (Decidable (0 < s.tlpTimeout))
  | .event index => inferInstanceAs (Decidable (∃ t ∈ s.tlpPending[index]?, s.TlpReaches t))
  | .advance time => inferInstanceAs (Decidable (s.TlpReaches time))
  | .other _ => inferInstanceAs (Decidable (_ ∧ _ ∧ _))

def tlpExecute (q : Gen3ConnectionState × RetransmissionPolicyAction) :
    Except Fatal Gen3ConnectionState :=
  q.1.executeRetransmissionPolicyAction q.2

/-- The event at `time` is taken from the pending ones. -/
def tlpFire (s : Gen3ConnectionState) (time : Time) (index : Nat) : Gen3ConnectionState :=
  { s with
    toEndpoint := { s.toEndpoint with now := time }
    tlpPending := s.tlpPending.eraseIdx index }

def tlpNext (s : Gen3ConnectionState) : TlpLabel → Except Fatal Gen3ConnectionState
  | .restart => tlpExecute s.tlpRestart
  | .ack p => do tlpExecute (← s.tlpHandleAck p)
  | .event index =>
    match s.tlpPending[index]? with
    | none => pure s
    | some time => do tlpExecute (← (s.tlpFire time index).tlpHandleScheduledEvent)
  | .advance time => pure { s with toEndpoint := { s.toEndpoint with now := time } }
  | .other c => pure c

/-- The pending events are to come, and one of them is for the time that `tlp.pto` holds. -/
structure TlpTimed (s : Gen3ConnectionState) : Prop where
  now_nonneg : 0 ≤ s.now
  pending : ∀ t ∈ s.tlpPending, s.now ≤ t ∧ 0 < t
  armed : s.pto = 0 ∨ s.pto ∈ s.tlpPending

/-- A step sends `probes`: they are what it hands to the retransmission scheduler. -/
structure SendsProbes (s s' : Gen3ConnectionState) (probes : List RetransmissionWorkId) : Prop
    extends SelectsProbes s probes where
  retransmitted : s'.retransmitted =
    (probes.map RetransmissionWorkId.toWorkId).reverse ++ s.retransmitted
  clears : probes ≠ [] → s.pto ≠ 0 ∧ s'.pto = 0

lemma SendsProbes.nil {s' : Gen3ConnectionState} (h : s'.retransmitted = s.retransmitted) :
    s.SendsProbes s' [] :=
  ⟨.nil s, h, fun hne => absurd rfl hne⟩

lemma tlpRestart_timed (h : s.TlpTimed) (hpositive : 0 < s.tlpTimeout) :
    Ensures AnyFault (fun s' => s'.TlpTimed ∧ s'.retransmitted = s.retransmitted)
      (tlpExecute s.tlpRestart) := by
  have hexpiration : s.now ≤ s.now + s.tlpTimeout ∧ 0 < s.now + s.tlpTimeout :=
    ⟨le_add_of_nonneg_right hpositive.le, add_pos_of_nonneg_of_pos h.now_nonneg hpositive⟩
  unfold tlpRestart getTlpTimeoutDuration tlpExecute
  dsimp only
  split
  · refine (executeRetransmissionPolicyAction_executes _ _).imp ?_
    rintro s' ⟨hnow, hpto, hpending, hretransmitted⟩
    refine ⟨⟨hnow ▸ h.now_nonneg, ?_, ?_⟩, hretransmitted⟩
    · rw [hnow, hpending]
      exact h.pending
    · rw [hpto, hpending]
      exact h.armed
  · refine (executeRetransmissionPolicyAction_executes _ _).imp ?_
    rintro s' ⟨hnow, hpto, hpending, hretransmitted⟩
    rw [if_pos hpositive.ne'] at hpending
    refine ⟨⟨hnow ▸ h.now_nonneg, fun t ht => ?_, .inr ?_⟩, hretransmitted⟩
    · rw [hpending] at ht
      rw [hnow]
      rcases List.mem_append.mp ht with ht | ht
      · exact h.pending t ht
      · rw [List.mem_singleton.mp ht]
        exact hexpiration
    · rw [hpto, hpending]
      exact List.mem_append_right _ (List.mem_singleton_self _)

structure SameTimer (s s' : Gen3ConnectionState) : Prop where
  now : s'.now = s.now
  pto : s'.pto = s.pto
  pending : s'.tlpPending = s.tlpPending
  timeout : s'.tlpTimeout = s.tlpTimeout
  retransmitted : s'.retransmitted = s.retransmitted

lemma SameTimer.timed {s' : Gen3ConnectionState} (hsame : s.SameTimer s') (h : s.TlpTimed) :
    s'.TlpTimed := by
  refine ⟨?_, ?_, ?_⟩
  · rw [hsame.now]
    exact h.now_nonneg
  · rw [hsame.now, hsame.pending]
    exact h.pending
  · rw [hsame.pto, hsame.pending]
    exact h.armed

lemma tlpApplyEack_timer (s : Gen3ConnectionState) (p : AckPacket) :
    Ensures AnyFault (s.SameTimer ·) (s.tlpApplyEack p) := by
  have hbit : ∀ (w : WindowType) (e : Endpoint) (i : Nat),
      Ensures AnyFault (fun e' => ∃ T, e' = { e with transactions := T })
        (tlpApplyAckBit w (p.bpsn w) (Endpoint.receivedBitmapOf p w) e i) := by
    intro w e i
    unfold tlpApplyAckBit
    split
    · exact ⟨_, rfl⟩
    · refine (Endpoint.ensures_any _).bind fun found _ => ?_
      cases found with
      | none => exact ⟨_, rfl⟩
      | some q => exact Ensures.ite (fun _ => ⟨_, rfl⟩) fun _ => ⟨_, rfl⟩
  have hwindow : ∀ (w : WindowType) (e : Endpoint),
      Ensures AnyFault (fun e' => ∃ T, e' = { e with transactions := T })
        (tlpApplyAckWindowMetadata e w (p.bpsn w) (Endpoint.receivedBitmapOf p w)) := by
    intro w e
    refine Ensures.foldlM_range (I := fun _ e' => ∃ T, e' = { e with transactions := T }) _ ?_ ?_
    · rintro k _ - ⟨T, rfl⟩
      refine (hbit w _ k).imp ?_
      rintro _ ⟨T', rfl⟩
      exact ⟨T', rfl⟩
    · exact ⟨e.transactions, rfl⟩
  refine (hwindow .request s.toEndpoint).bind ?_
  rintro _ ⟨T, rfl⟩
  refine (hwindow .data _).bind ?_
  rintro _ ⟨T', rfl⟩
  exact ⟨rfl, rfl, rfl, rfl, rfl⟩

lemma tlpHandleAck_timed (h : s.TlpTimed) (hpositive : 0 < s.tlpTimeout) (p : AckPacket) :
    Ensures AnyFault (fun s' => s'.TlpTimed ∧ s'.retransmitted = s.retransmitted)
      (s.tlpNext (.ack p)) := by
  have happly : Ensures AnyFault (s.SameTimer ·) (s.tlpApplyAck p) :=
    Ensures.ite (fun _ => tlpApplyEack_timer s p) fun _ => ⟨rfl, rfl, rfl, rfl, rfl⟩
  change Ensures AnyFault _ (s.tlpHandleAck p >>= tlpExecute)
  unfold tlpHandleAck
  rw [bind_assoc]
  refine happly.bind fun s₁ hsame => ?_
  refine (tlpRestart_timed (hsame.timed h) (hsame.timeout ▸ hpositive)).imp ?_
  rintro s' ⟨htimed, hretransmitted⟩
  exact ⟨htimed, hretransmitted.trans hsame.retransmitted⟩

lemma tlpEvent_invalid {index : Nat} {time : Time} (hindex : s.tlpPending[index]? = some time)
    (hinvalid : time ≠ s.pto) : s.tlpNext (.event index) = .ok (s.tlpFire time index) := by
  have hnow : (s.tlpFire time index).now ≠ (s.tlpFire time index).pto := hinvalid
  have hevent : (s.tlpFire time index).tlpHandleScheduledEvent =
    .ok (s.tlpFire time index, {}) := by
    unfold tlpHandleScheduledEvent
    rw [if_pos hnow]
    rfl
  unfold tlpNext
  simp only [hindex, hevent]
  rfl

lemma tlpHandleScheduledEvent_valid (h : s.now = s.pto) :
    Ensures AnyFault (fun q => q.1.now = s.now ∧ q.1.pto = 0 ∧ q.1.tlpPending = s.tlpPending ∧
      q.1.retransmitted = s.retransmitted ∧ q.2.scheduledEventDuration = 0 ∧
      s.SelectsProbes q.2.retxWorkIds) s.tlpHandleScheduledEvent := by
  have hmark : ∀ (l : List RetransmissionWorkId) (e : Endpoint),
      Ensures AnyFault (fun e' => ∃ T, e' = { e with transactions := T })
        (l.foldlM markProbe e) := by
    intro l
    induction l with
    | nil => exact fun e => ⟨_, rfl⟩
    | cons pkt rest ih =>
      intro e
      refine Ensures.bind (P := fun e' => ∃ T, e' = { e with transactions := T }) ?_ ?_
      · refine (Endpoint.ensures_any _).bind fun found _ => ?_
        cases found with
        | none => exact ⟨_, rfl⟩
        | some q => exact ⟨_, rfl⟩
      · rintro _ ⟨T, rfl⟩
        exact ih _
  unfold tlpHandleScheduledEvent
  rw [if_neg (not_not.mpr h)]
  refine (getProbe_spec _ .request).bind fun request hrequest => ?_
  refine (getProbe_spec _ .data).bind fun data hdata => ?_
  have hselects := selectProbesBetweenWindows_spec (s := { s with pto := 0 }) hrequest hdata
  refine (hmark _ _).bind ?_
  rintro _ ⟨T, rfl⟩
  exact ⟨rfl, rfl, rfl, rfl, rfl, hselects.windows, hselects.single⟩

lemma tlpFire_pending {index : Nat} {time : Time} (hindex : s.tlpPending[index]? = some time)
    (harmed : s.pto ∈ s.tlpPending) (hne : time ≠ s.pto) :
    s.pto ∈ (s.tlpFire time index).tlpPending := by
  obtain ⟨hlt, htime⟩ := List.getElem?_eq_some_iff.mp hindex
  have hperm := List.getElem_cons_eraseIdx_perm hlt
  rw [htime] at hperm
  rcases List.mem_cons.mp (hperm.mem_iff.mpr harmed) with heq | hmem
  · exact absurd heq.symm hne
  · exact hmem

lemma tlpEvent_timed (h : s.TlpTimed) {index : Nat} {time : Time}
    (hindex : s.tlpPending[index]? = some time) (hreaches : s.TlpReaches time) :
    Ensures AnyFault (fun s' => s'.TlpTimed ∧ ∃ probes, s.SendsProbes s' probes)
      (s.tlpNext (.event index)) := by
  have hpositive := (h.pending time (List.mem_of_getElem? hindex)).2
  have hpending : ∀ t ∈ (s.tlpFire time index).tlpPending, time ≤ t ∧ 0 < t := by
    intro t ht
    have hmem := List.mem_of_mem_eraseIdx ht
    exact ⟨hreaches.2 t hmem, (h.pending t hmem).2⟩
  by_cases hvalid : time = s.pto
  · unfold tlpNext
    simp only [hindex]
    have hnow : (s.tlpFire time index).now = (s.tlpFire time index).pto := hvalid
    refine (tlpHandleScheduledEvent_valid hnow).bind ?_
    rintro ⟨s₁, action⟩ ⟨hnow₁, hpto₁, hpending₁, hretransmitted₁, hduration, hprobes⟩
    refine (executeRetransmissionPolicyAction_executes _ _).imp ?_
    rintro s₂ ⟨hnow₂, hpto₂, hpending₂, hretransmitted₂⟩
    rw [hduration, if_neg (not_not.mpr rfl)] at hpending₂
    have hnow₃ : s₂.now = time := hnow₂.trans hnow₁
    refine ⟨⟨hnow₃ ▸ hpositive.le, fun t ht => ?_, .inl (hpto₂.trans hpto₁)⟩,
      action.retxWorkIds, ⟨hprobes.windows, hprobes.single⟩, ?_,
      fun _ => ⟨hvalid ▸ hpositive.ne', hpto₂.trans hpto₁⟩⟩
    · rw [hpending₂, hpending₁] at ht
      rw [hnow₃]
      exact hpending t ht
    · rw [hretransmitted₂, hretransmitted₁]
      rfl
  · rw [tlpEvent_invalid hindex hvalid]
    refine ⟨⟨hpositive.le, hpending, ?_⟩, [], .nil rfl⟩
    rcases h.armed with hzero | hmem
    · exact .inl hzero
    · exact .inr (tlpFire_pending hindex hmem hvalid)

/-- The step belongs to the tail loss probe; the rest of the connection retransmits for reasons of
its own. -/
def TlpLabel.IsTimer : TlpLabel → Prop
  | .other _ => False
  | _ => True

instance : ∀ l : TlpLabel, Decidable l.IsTimer
  | .other _ => inferInstanceAs (Decidable False)
  | .restart | .ack _ | .event _ | .advance _ => inferInstanceAs (Decidable True)

lemma tlpNext_timed {l : TlpLabel} (h : s.TlpTimed) (hl : s.TlpAllowed l) :
    Ensures AnyFault (fun s' => s'.TlpTimed ∧ (l.IsTimer → ∃ probes, s.SendsProbes s' probes))
      (s.tlpNext l) := by
  cases l with
  | restart => exact (tlpRestart_timed h hl).imp fun s' hs' => ⟨hs'.1, fun _ => ⟨[], .nil hs'.2⟩⟩
  | ack p => exact (tlpHandleAck_timed h hl p).imp fun s' hs' => ⟨hs'.1, fun _ => ⟨[], .nil hs'.2⟩⟩
  | event index =>
    obtain ⟨time, hindex, hreaches⟩ := hl
    exact (tlpEvent_timed h hindex hreaches).imp fun s' hs' => ⟨hs'.1, fun _ => hs'.2⟩
  | advance time =>
    refine ⟨⟨h.now_nonneg.trans hl.1, fun t ht => ?_, h.armed⟩, fun _ => ⟨[], .nil rfl⟩⟩
    exact ⟨hl.2 t ht, (h.pending t ht).2⟩
  | other c =>
    obtain ⟨hnow, hpto, hpending⟩ := hl
    refine ⟨⟨hnow ▸ h.now_nonneg, ?_, ?_⟩, fun htimer => htimer.elim⟩
    · rw [hnow, hpending]
      exact h.pending
    · rw [hpto, hpending]
      exact h.armed

/-- What has been handed to the retransmission scheduler since `s`. -/
def retransmittedSince (s s' : Gen3ConnectionState) : List WorkId :=
  s'.retransmitted.take (s'.retransmitted.length - s.retransmitted.length)

lemma SendsProbes.retransmittedSince_eq {s' : Gen3ConnectionState}
    {probes : List RetransmissionWorkId} (h : s.SendsProbes s' probes) :
    s.retransmittedSince s' = (probes.map RetransmissionWorkId.toWorkId).reverse := by
  unfold retransmittedSince
  rw [h.retransmitted]
  simp

end Gen3ConnectionState

/-! ## Whole runs -/

/-- A step of a run: `tlp.pto` before and after it, and the probes that it has sent. -/
structure TlpStep where
  before : Time
  after : Time
  probes : List WorkId

/-- A connection with the steps of its probe timer. -/
structure TlpRun where
  connection : Gen3ConnectionState
  history : List TlpStep := []

namespace TlpRun

def next (r : TlpRun) (l : Gen3ConnectionState.TlpLabel) : Except Fatal TlpRun := do
  let connection ← r.connection.tlpNext l
  let probes := if l.IsTimer then r.connection.retransmittedSince connection else []
  return { connection, history := ⟨r.connection.pto, connection.pto, probes⟩ :: r.history }

def runs : TransitionSystem TlpRun Gen3ConnectionState.TlpLabel Fatal where
  init r := 0 ≤ r.connection.now ∧ r.connection.pto = 0 ∧ r.connection.tlpPending = [] ∧
    r.history = []
  allowed r l := r.connection.TlpAllowed l
  next := next

instance (r : TlpRun) (l : Gen3ConnectionState.TlpLabel) : Decidable (runs.allowed r l) :=
  inferInstanceAs (Decidable (r.connection.TlpAllowed l))

def Chained : List TlpStep → Time → Prop
  | [], _ => True
  | step :: rest, pto => step.after = pto ∧ Chained rest step.before

/-- The history accounts for the probe timer. -/
structure Inv (r : TlpRun) : Prop where
  timed : r.connection.TlpTimed
  chained : Chained r.history r.connection.pto
  probing : ∀ step ∈ r.history, step.probes ≠ [] → step.before ≠ 0 ∧ step.after = 0

lemma inv_of_reachable {r : TlpRun} (h : runs.Reachable (fun _ _ => True) r) : r.Inv := by
  refine h.invariant (I := Inv) (E := AnyFault) ?_ ?_
  · rintro r ⟨hnow, hpto, hpending, hhistory⟩
    refine ⟨⟨hnow, ?_, .inl hpto⟩, ?_, ?_⟩
    · rw [hpending]
      exact nofun
    · rw [hhistory]
      trivial
    · rw [hhistory]
      exact nofun
  · intro r l hr hl _
    refine (Gen3ConnectionState.tlpNext_timed hr.timed hl).bind ?_
    rintro connection ⟨htimed, hsends⟩
    refine ⟨htimed, ⟨rfl, hr.chained⟩, fun step hstep hprobes => ?_⟩
    rcases List.mem_cons.mp hstep with rfl | hstep
    · by_cases htimer : l.IsTimer
      · obtain ⟨probes, hprobes'⟩ := hsends htimer
        refine hprobes'.clears fun hnil => hprobes ?_
        simp [htimer, hprobes'.retransmittedSince_eq, hnil]
      · exact absurd (if_neg htimer) hprobes
    · exact hr.probing step hstep hprobes

lemma Chained.append {l rest : List TlpStep} {pto : Time} (h : Chained (l ++ rest) pto)
    (hsame : ∀ step ∈ l, step.before = step.after) : Chained rest pto := by
  induction l generalizing pto with
  | nil => exact h
  | cons step l ih =>
    obtain ⟨hafter, hchained⟩ := h
    rw [hsame step List.mem_cons_self, hafter] at hchained
    exact ih hchained fun step' hstep' => hsame step' (List.mem_cons_of_mem step hstep')

lemma Chained.drop {l rest : List TlpStep} {pto : Time} (h : Chained (l ++ rest) pto) :
    ∃ pto', Chained rest pto' := by
  induction l generalizing pto with
  | nil => exact ⟨pto, h⟩
  | cons step l ih => exact ih h.2

lemma Inv.changes_between {r : TlpRun} (h : r.Inv) {l₁ l₂ l₃ : List TlpStep} {a b : TlpStep}
    (hhistory : r.history = l₁ ++ b :: (l₂ ++ a :: l₃)) (ha : a.probes ≠ []) (hb : b.probes ≠ []) :
    ∃ step ∈ l₂, step.before ≠ step.after := by
  by_contra hsame
  push Not at hsame
  have hchained := h.chained
  rw [hhistory] at hchained
  obtain ⟨pto, -, hrest⟩ := hchained.drop
  have hafter := (hrest.append hsame).1
  have hprobing := h.probing
  rw [hhistory] at hprobing
  have hzero := (hprobing a (by simp) ha).2
  have hnonzero := (hprobing b (by simp) hb).1
  exact hnonzero (hafter.symm.trans hzero)

/-- `tlp.pto` is zero or the time of a pending event that is not before now; an event of any other
time changes nothing; between two steps that send probes `tlp.pto` changes, and a step that sends
probes clears it; the probes, which are all that it hands to the retransmission scheduler, are
unreceived outstanding packets below the threshold, one for each window at most, and one in total
unless each window is probed. -/
theorem tlp_timer_discipline {r : TlpRun} (h : runs.Reachable (fun _ _ => True) r) :
    (r.connection.pto = 0 ∨
      r.connection.now ≤ r.connection.pto ∧ r.connection.pto ∈ r.connection.tlpPending) ∧
    (∀ index time, r.connection.tlpPending[index]? = some time → time ≠ r.connection.pto →
      r.connection.tlpNext (.event index) = .ok (r.connection.tlpFire time index)) ∧
    (∀ l₁ b l₂ a l₃, r.history = l₁ ++ b :: (l₂ ++ a :: l₃) → a.probes ≠ [] → b.probes ≠ [] →
      ∃ step ∈ l₂, step.before ≠ step.after) ∧
    ∀ l s', l.IsTimer → r.connection.TlpAllowed l → r.connection.tlpNext l = .ok s' →
      ∃ probes, r.connection.SendsProbes s' probes := by
  have hinv := inv_of_reachable h
  refine ⟨?_, fun index time hindex hne => ?_, fun l₁ b l₂ a l₃ hhistory ha hb => ?_,
    fun l s' htimer hl hnext => ?_⟩
  · rcases hinv.timed.armed with hzero | hmem
    · exact .inl hzero
    · exact .inr ⟨(hinv.timed.pending _ hmem).1, hmem⟩
  · exact Gen3ConnectionState.tlpEvent_invalid hindex hne
  · exact hinv.changes_between hhistory ha hb
  · exact ((Gen3ConnectionState.tlpNext_timed hinv.timed hl).of_ok hnext).2 htimer

def waitingPull : Gen3ConnectionState where
  toEndpoint := { Endpoint.pullSent { ordered := false } 0 with now := 8 }
  early := {}

/-- The timer is moved from 32008 to 32020; the event at 32008 does nothing and the event at 32020
sends the probe. -/
theorem tlp_timer_discipline_moved : ∃ r : TlpRun, runs.Reachable (fun _ _ => True) r ∧
    r.history.map (fun step => (step.before, step.after, step.probes)) =
      [(32020, 0, [⟨0, .pullRequest⟩]), (32020, 32020, []), (32008, 32020, []), (32008, 32008, []),
        (0, 32008, [])] ∧
    (r.connection.pto = 0 ∨
      r.connection.now ≤ r.connection.pto ∧ r.connection.pto ∈ r.connection.tlpPending) := by
  obtain ⟨r, hr, hhistory⟩ := TransitionSystem.Reachable.exists_of_run
    (T := runs) (C := fun _ _ => True)
    (s := ⟨waitingPull, []⟩)
    (P := fun r => r.history.map (fun step => (step.before, step.after, step.probes)) =
      [(32020, 0, [⟨0, .pullRequest⟩]), (32020, 32020, []), (32008, 32020, []), (32008, 32008, []),
        (0, 32008, [])])
    [.restart, .advance 20, .restart, .event 0, .event 0]
    ⟨by decide, rfl, rfl, rfl⟩ (by decide +kernel)
  exact ⟨r, hr, hhistory, (tlp_timer_discipline hr).1⟩

end TlpRun

end Isekai.Falcon
