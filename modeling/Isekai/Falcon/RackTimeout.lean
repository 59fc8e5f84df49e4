import Isekai.Falcon.RackSelection

/-!
# Progress of the retransmission timeout

The timer of a connection is set for the smaller of the base timeout and the timeout of RACK at the
head of each window. When it fires, RACK and then the base scan look for packets to retransmit.
-/

namespace Isekai.Falcon

open Lib

lemma le_ceilNanoseconds (t : Int) : t ≤ ceilNanoseconds t := by
  change t ≤ -(-t / 4) * 4
  omega

lemma ceilNanoseconds_mono {t t' : Int} (h : t ≤ t') : ceilNanoseconds t ≤ ceilNanoseconds t' := by
  change -(-t / 4) * 4 ≤ -(-t' / 4) * 4
  omega

namespace Endpoint

variable {e e₁ e₂ : Endpoint} {w : WindowType}

def HeadWaits (e : Endpoint) (w : WindowType) : Prop :=
  ∀ work rest, (e.tx w).outstandingPackets = work :: rest →
    Bitmap.get (e.tx w).window (txBitmapIndex (e.tx w) work.psn) = false ∧
      ∃ pm, e.outgoing work.rsn work.type = some pm ∧
        e.now < pm.transmissionTime + e.getTimeoutOfPacket pm

/-- No packet becomes outstanding and no event is scheduled. -/
structure Sheds (e e' : Endpoint) : Prop where
  pending : e'.pending = e.pending
  length : ∀ w, (e'.tx w).outstandingPackets.length ≤ (e.tx w).outstandingPackets.length

lemma Sheds.refl (e : Endpoint) : Sheds e e := ⟨rfl, fun _ => le_rfl⟩

lemma Sheds.trans (h : Sheds e e₁) (h' : Sheds e₁ e₂) : Sheds e e₂ :=
  ⟨h'.pending.trans h.pending, fun w => (h'.length w).trans (h.length w)⟩

lemma Counts.sheds (h : Counts e e₁) : Sheds e e₁ :=
  ⟨h.pending, fun w => (congrArg List.length (h.tx w).outstandingPackets).le⟩

lemma Sheds.setOutstanding {l : List RetransmissionWorkId}
    (h : l.length ≤ (e.tx w).outstandingPackets.length) :
    Sheds e (e.setTx w { e.tx w with outstandingPackets := l }) := by
  refine ⟨rfl, fun w' => ?_⟩
  by_cases hw : w' = w
  · subst hw
    simpa [setTx] using h
  · simp [setTx, hw]

lemma outstanding_setTx (e : Endpoint) (w : WindowType) (l : List RetransmissionWorkId) :
    ((e.setTx w { e.tx w with outstandingPackets := l }).tx w).outstandingPackets = l := by
  simp [setTx]

lemma initiateRetransmission_sheds (e : Endpoint) (rsn : Rsn) (t : PacketType) :
    Ensures AnyFault (fun e' => Sheds e e' ∧ ∀ w, (e.tx w).SameWindow (e'.tx w))
      (e.initiateRetransmission rsn t) := by
  refine (e.initiateRetransmission_counts rsn t).imp ?_
  rintro e' ⟨pm, -, hcounts⟩
  exact ⟨⟨hcounts.sheds.pending, hcounts.sheds.length⟩, hcounts.tx⟩

lemma timeoutScan_sheds (e : Endpoint) (w : WindowType) (l : List RetransmissionWorkId)
    (hl : l.length ≤ (e.tx w).outstandingPackets.length) :
    Ensures AnyFault (Sheds e) (e.timeoutScan w l) := by
  induction l generalizing e with
  | nil => exact .refl e
  | cons work rest ih =>
    have hself (e' : Endpoint) := congrArg List.length (outstanding_setTx e' w rest)
    have hrest : rest.length ≤ (e.tx w).outstandingPackets.length :=
      (Nat.le_succ _).trans hl
    unfold timeoutScan
    refine Ensures.ite (fun _ => ?_) fun _ => ?_
    · refine (ih _ (hself e).ge).imp fun e' h => ?_
      exact (Sheds.setOutstanding hrest).trans h
    refine (ensures_any _).bind ?_
    rintro ⟨key, tr, pm⟩ -
    refine Ensures.ite (fun _ => .refl e) fun _ => ?_
    refine Ensures.ite (fun _ => trivial) fun _ => ?_
    refine (initiateRetransmission_sheds _ _ _).bind ?_
    rintro e₁ ⟨hsheds, hsame⟩
    have hrest₁ : rest.length ≤ (e₁.tx w).outstandingPackets.length := by
      rw [(hsame w).outstandingPackets]
      exact hrest
    refine (ih _ (hself e₁).ge).imp fun e' h => ?_
    exact Sheds.trans ⟨hsheds.pending, hsheds.length⟩ ((Sheds.setOutstanding hrest₁).trans h)

lemma timeoutScan_head (e : Endpoint) (w : WindowType) :
    Ensures AnyFault (fun e' => e.HeadWaits w ∧ e' = e ∨ ¬e.HeadWaits w ∧ Sheds e e' ∧
      (e'.tx w).outstandingPackets.length < (e.tx w).outstandingPackets.length)
      (e.timeoutScan w (e.tx w).outstandingPackets) := by
  cases hl : (e.tx w).outstandingPackets with
  | nil =>
    refine .inl ⟨fun work rest h => ?_, rfl⟩
    rw [hl] at h
    cases h
  | cons work rest =>
    have hself (e' : Endpoint) := congrArg List.length (outstanding_setTx e' w rest)
    unfold timeoutScan
    refine Ensures.ite (fun hacked => ?_) fun hacked => ?_
    · have hsheds : Sheds e (e.setTx w { e.tx w with outstandingPackets := rest }) :=
        .setOutstanding (by simp [hl])
      refine (timeoutScan_sheds _ w rest (hself e).ge).imp fun e' h => .inr ⟨?_, ?_, ?_⟩
      · intro hwaits
        rw [(hwaits work rest hl).1] at hacked
        cases hacked
      · exact hsheds.trans h
      · exact Nat.lt_succ_of_le ((h.length w).trans (hself e).le)
    refine (e.getPacketMetadata_outgoing work.rsn work.type).bind ?_
    rintro ⟨key, tr, pm⟩ ⟨-, -, -, -, houtgoing⟩
    refine Ensures.ite (fun hwaits => ?_) fun hexpired => ?_
    · refine .inl ⟨fun work' rest' h => ?_, rfl⟩
      rw [hl] at h
      cases h
      exact ⟨Bool.eq_false_of_not_eq_true hacked, pm, houtgoing, sub_lt_iff_lt_add'.mp hwaits⟩
    refine Ensures.ite (fun _ => trivial) fun _ => ?_
    refine (initiateRetransmission_sheds _ _ _).bind ?_
    rintro e₁ ⟨hsheds, hsame⟩
    have hsheds₁ : Sheds e e₁ := ⟨hsheds.pending, hsheds.length⟩
    have hrest : rest.length ≤ (e₁.tx w).outstandingPackets.length := by
      rw [(hsame w).outstandingPackets]
      simp [setPacketMetadata, setTransaction, hl]
    refine (timeoutScan_sheds _ w rest (hself e₁).ge).imp fun e' h => .inr ⟨?_, ?_, ?_⟩
    · intro hwaits
      obtain ⟨-, pm', houtgoing', hlt⟩ := hwaits work rest hl
      rw [houtgoing] at houtgoing'
      cases houtgoing'
      exact hexpired (sub_lt_iff_lt_add'.mpr hlt)
    · exact hsheds₁.trans ((Sheds.setOutstanding hrest).trans h)
    · exact Nat.lt_succ_of_le ((h.length w).trans (hself e₁).le)

lemma erase_length_le (work : RetransmissionWorkId) (l : List RetransmissionWorkId) :
    (OrderedSet.erase RetransmissionWorkId.lt work l).length ≤ l.length :=
  List.length_eraseP_le

lemma erase_length_lt {work : RetransmissionWorkId} {l : List RetransmissionWorkId} (h : work ∈ l) :
    (OrderedSet.erase RetransmissionWorkId.lt work l).length < l.length := by
  have hself := (RetransmissionWorkId.equiv_lt_iff work work).mpr rfl
  have hlength := List.length_eraseP_of_mem h hself
  have hpos := List.length_pos_of_mem h
  unfold OrderedSet.erase
  omega

end Endpoint

namespace Gen3ConnectionState

variable {s : Gen3ConnectionState} {e : Endpoint} {w : WindowType} {pm : PacketMetadata} {t : Time}

lemma executeRetransmission_sheds (e : Endpoint) (work : RetransmissionWorkId) :
    Ensures AnyFault (fun e' => Endpoint.Sheds e e' ∧
      (work ∈ (e.tx (windowOf work.type)).outstandingPackets →
        (e'.tx (windowOf work.type)).outstandingPackets.length <
          (e.tx (windowOf work.type)).outstandingPackets.length))
            (executeRetransmission e work) := by
  unfold executeRetransmission
  refine (e.initiateRetransmission_sheds work.rsn work.type).bind ?_
  rintro e₁ ⟨hsheds, hsame⟩
  refine ⟨hsheds.trans (.setOutstanding (Endpoint.erase_length_le work _)), fun hmem => ?_⟩
  dsimp only
  rw [Endpoint.outstanding_setTx, (hsame _).outstandingPackets]
  exact Endpoint.erase_length_lt hmem

lemma executeRetransmissions_sheds (l : List RetransmissionWorkId) (e : Endpoint) :
    Ensures AnyFault (Endpoint.Sheds e) (l.foldlM executeRetransmission e) := by
  induction l generalizing e with
  | nil => exact .refl e
  | cons work rest ih =>
    rw [List.foldlM_cons]
    refine (executeRetransmission_sheds e work).bind fun e₁ h₁ => ?_
    exact (ih e₁).imp fun e' h => h₁.1.trans h

lemma executeRetransmissions_length {l : List RetransmissionWorkId} (hne : l ≠ [])
    (hmem : ∀ work ∈ l, work ∈ (e.tx (windowOf work.type)).outstandingPackets) :
    Ensures AnyFault (fun e' => Endpoint.Sheds e e' ∧ ∃ w,
      (e'.tx w).outstandingPackets.length < (e.tx w).outstandingPackets.length)
      (l.foldlM executeRetransmission e) := by
  cases l with
  | nil => exact absurd rfl hne
  | cons work rest =>
    rw [List.foldlM_cons]
    refine (executeRetransmission_sheds e work).bind fun e₁ h₁ => ?_
    refine (executeRetransmissions_sheds rest e₁).imp fun e' h =>
      ⟨h₁.1.trans h, windowOf work.type, ?_⟩
    exact (h.length _).trans_lt (h₁.2 (hmem work List.mem_cons_self))

def deadlineOf (s : Gen3ConnectionState) (w : WindowType) : Option Time :=
  (s.tx w).outstandingPackets.head?.bind fun work =>
    (s.outgoing work.rsn work.type).map fun pm =>
      pm.transmissionTime + s.getTimeoutOfPacket work.type pm

def nextDeadline (s : Gen3ConnectionState) : Option Time :=
  Endpoint.minDeadline (s.deadlineOf .request) (s.deadlineOf .data)

lemma headDeadline_eq (s : Gen3ConnectionState) (w : WindowType) :
    Ensures AnyFault (fun d => d = s.deadlineOf w) (s.headDeadline w) := by
  unfold headDeadline deadlineOf
  cases (s.tx w).outstandingPackets with
  | nil => rfl
  | cons work rest =>
    refine (s.getPacketMetadata_outgoing work.rsn work.type).bind ?_
    rintro ⟨key, tr, pm⟩ ⟨-, -, -, -, houtgoing⟩
    simp [houtgoing]

def armed (s : Gen3ConnectionState) : List (Time × Callback) :=
  match s.nextDeadline with
  | none => []
  | some deadline =>
    if ceilNanoseconds deadline = 0 then []
    else [(max (ceilNanoseconds deadline) s.now, .retransmitTimeout)]

lemma setupRetransmitTimer_armed (h : s.rtoExpirationBaseTime = 0) :
    Ensures AnyFault (fun s' => s'.tx = s.tx ∧ s'.pending = s.pending ++ s.armed)
      s.setupRetransmitTimer := by
  unfold setupRetransmitTimer armed nextDeadline
  refine (headDeadline_eq s .request).bind ?_
  rintro _ rfl
  refine (headDeadline_eq s .data).bind ?_
  rintro _ rfl
  cases Endpoint.minDeadline (s.deadlineOf .request) (s.deadlineOf .data) with
  | none => exact ⟨rfl, (List.append_nil _).symm⟩
  | some deadline =>
    dsimp only
    rw [h]
    refine Ensures.ite (fun hzero => ?_) fun hnonzero => ?_
    · rw [if_pos hzero]
      exact ⟨rfl, (List.append_nil _).symm⟩
    · rw [if_neg hnonzero]
      have hmax : (if ceilNanoseconds deadline < s.now then s.now else ceilNanoseconds deadline) =
          max (ceilNanoseconds deadline) s.now := (max_def_lt _ _).symm
      refine ⟨rfl, ?_⟩
      simp only [Endpoint.scheduleEvent, Endpoint.emit, add_sub_cancel, hmax]

lemma setupRetransmitTimer_tx (s : Gen3ConnectionState) :
    Ensures AnyFault (fun s' => s'.tx = s.tx) s.setupRetransmitTimer := by
  unfold setupRetransmitTimer
  refine (Endpoint.ensures_any _).bind fun request _ => ?_
  refine (Endpoint.ensures_any _).bind fun data _ => ?_
  split
  · rfl
  · exact Ensures.ite (fun _ => rfl) fun _ => rfl

def Leaves (s s' : Gen3ConnectionState) : Prop :=
  ∃ w, (s'.tx w).outstandingPackets.length < (s.tx w).outstandingPackets.length

lemma baseRetransmitTimeout_cases (s : Gen3ConnectionState) :
    Ensures AnyFault (fun s' =>
      (∀ w, s.HeadWaits w) ∧ s'.tx = s.tx ∧ s'.pending = s.pending ++ s.armed ∨
      (¬∀ w, s.HeadWaits w) ∧ Leaves s s' ∧
        ∀ w, (s'.tx w).outstandingPackets.length ≤ (s.tx w).outstandingPackets.length)
      s.baseRetransmitTimeout := by
  unfold baseRetransmitTimeout
  refine (Endpoint.timeoutScan_head _ .request).bind ?_
  rintro e₁ (⟨hwaits, rfl⟩ | ⟨hnot, hsheds₁, hlt⟩)
  · refine (Endpoint.timeoutScan_head _ .data).bind ?_
    rintro e₂ (⟨hwaits', rfl⟩ | ⟨hnot, hsheds₂, hlt⟩)
    · refine (setupRetransmitTimer_armed (s := { s with
        toEndpoint := { s.toEndpoint with rtoExpirationBaseTime := 0 } }) rfl).imp fun s' h => ?_
      refine .inl ⟨fun w => ?_, h⟩
      cases w with
      | request => exact hwaits
      | data => exact hwaits'
    · refine (setupRetransmitTimer_tx _).imp fun s' htx => .inr ⟨fun h => hnot (h .data), ?_, ?_⟩
      · rw [Leaves, htx]
        exact ⟨.data, hlt⟩
      · rw [htx]
        exact hsheds₂.length
  · refine (Endpoint.timeoutScan_sheds _ .data _ le_rfl).bind fun e₂ hsheds₂ => ?_
    have hsheds := hsheds₁.trans hsheds₂
    refine (setupRetransmitTimer_tx _).imp fun s' htx => .inr ⟨fun h => hnot (h .request), ?_, ?_⟩
    · rw [Leaves, htx]
      exact ⟨.request, (hsheds₂.length .request).trans_lt hlt⟩
    · rw [htx]
      exact hsheds.length

def rackPick (s : Gen3ConnectionState) : List RetransmissionWorkId :=
  if s.early.enableRack then s.rackSelected .request ++ s.rackSelected .data else []

lemma rackSelected_mem (hordered : s.OrderedOutstanding) {x : RetransmissionWorkId}
    (h : x ∈ s.rackSelected w) : x ∈ (s.tx (windowOf x.type)).outstandingPackets := by
  unfold rackSelected at h
  split at h
  · cases h
  · have hx := (Scan.select_sublist _ _).subset h
    rw [hordered.window w x hx]
    exact hx

lemma rackPick_mem (hordered : s.OrderedOutstanding) {x : RetransmissionWorkId}
    (h : x ∈ s.rackPick) : x ∈ (s.tx (windowOf x.type)).outstandingPackets := by
  unfold rackPick at h
  split at h
  · rcases List.mem_append.mp h with h | h
    · exact rackSelected_mem hordered h
    · exact rackSelected_mem hordered h
  · cases h

lemma rackTimeoutEvent_pick (hstandard : s.early.rackBypassRtoCheck = false) :
    Ensures AnyFault (fun q => q.1.tx = s.tx ∧ q.2 = { retxWorkIds := s.rackPick } ∧
      (s.rackPick = [] → q.1 = s))
      (s.ifInstalled s.early.enableRack s.rackHandleRetransmitTimeoutEvent) := by
  unfold ifInstalled rackHandleRetransmitTimeoutEvent rackPick
  rw [hstandard, if_neg Bool.false_ne_true]
  refine Ensures.ite (fun hon => ?_) fun hoff => ?_
  · simp only [if_pos hon]
    refine (performRackScan_select s).imp ?_
    rintro q ⟨⟨e, hrelabels, hq⟩, haction, hnone⟩
    refine ⟨?_, haction, fun hnil => hnone ?_⟩
    · rw [hq]
      exact hrelabels.tx
    · rw [haction]
      exact hnil
  · simp only [if_neg hoff]
    exact ⟨rfl, rfl, fun _ => rfl⟩

def Waits (s : Gen3ConnectionState) : Prop := s.rackPick = [] ∧ ∀ w, s.HeadWaits w

lemma handleRetransmitTimeout_cases (hordered : s.OrderedOutstanding)
    (hstandard : s.early.rackBypassRtoCheck = false) (hvalid : s.now = s.rtoExpirationBaseTime) :
    Ensures AnyFault (fun s' =>
      s.Waits ∧ s'.tx = s.tx ∧ s'.pending = s.pending ++ s.armed ∨ ¬s.Waits ∧ Leaves s s')
      s.handleRetransmitTimeout := by
  unfold handleRetransmitTimeout
  rw [if_neg (not_not.mpr hvalid)]
  refine (rackTimeoutEvent_pick hstandard).bind ?_
  rintro ⟨s₁, action⟩ ⟨htx, haction, hnone⟩
  dsimp only at htx haction hnone ⊢
  subst haction
  unfold executeRetransmissionPolicyAction
  simp only [ne_eq, not_true_eq_false, if_false]
  by_cases hpick : s.rackPick = []
  · rw [hpick, hnone hpick]
    simp only [List.foldlM_nil, bind_pure_comp, map_pure, pure_bind]
    refine (baseRetransmitTimeout_cases s).imp ?_
    rintro s' (⟨hwaits, h⟩ | ⟨hnot, hleaves, -⟩)
    · exact .inl ⟨⟨hpick, hwaits⟩, h⟩
    · exact .inr ⟨fun h => hnot h.2, hleaves⟩
  · have hmem : ∀ x ∈ s.rackPick, x ∈ (s₁.tx (windowOf x.type)).outstandingPackets := by
      intro x hx
      rw [htx]
      exact rackPick_mem hordered hx
    have hexecute : Ensures AnyFault (Leaves s)
        ((fun e => { s₁ with toEndpoint := e }) <$>
          s.rackPick.foldlM executeRetransmission s₁.toEndpoint) := by
      refine (executeRetransmissions_length hpick hmem).bind ?_
      rintro e ⟨-, w, hlt⟩
      rw [htx] at hlt
      exact ⟨w, hlt⟩
    simp only [bind_pure_comp]
    refine hexecute.bind fun s₂ hleaves => ?_
    refine (baseRetransmitTimeout_cases s₂).imp fun s' h => .inr ⟨fun hwaits => hpick hwaits.1, ?_⟩
    obtain ⟨w, hlt⟩ := hleaves
    refine ⟨w, ?_⟩
    rcases h with ⟨-, htx', -⟩ | ⟨-, -, hlength⟩
    · rw [htx']
      exact hlt
    · exact (hlength w).trans_lt hlt

/-! ## When the timer is stuck -/

def Progresses (s s' : Gen3ConnectionState) : Prop :=
  Leaves s s' ∨ ∃ new, s'.pending = s.pending ++ new ∧ ∀ event ∈ new, s.now < event.1

/-- The head of a window was answered with a receiver-not-ready NACK, and the timeout of RACK, which
exceeds the base timeout, has passed for it. No head is acknowledged or past its base timeout. -/
structure TimerStuck (s : Gen3ConnectionState) : Prop where
  installed : s.early.enableRack = true
  exceeds : s.rackRtoExceedsBase = true
  heads : ∀ w, s.HeadWaits w
  overdue : ∃ w work rest pm rto, (s.tx w).outstandingPackets = work :: rest ∧
    s.outgoing work.rsn work.type = some pm ∧ pm.nackCode = .ulpReceiverNotReady ∧
    s.rackTimeoutOfPacket work.type pm = some rto ∧
    ceilNanoseconds (pm.transmissionTime + rto) ≤ s.now
  /-- Time zero stands for a cleared timer. -/
  nonzero : ∀ deadline ∈ s.nextDeadline, ceilNanoseconds deadline ≠ 0

def NumbersOutstanding (e : Endpoint) : Prop :=
  ∀ w, ∀ x ∈ (e.tx w).outstandingPackets, ∀ pm, e.outgoing x.rsn x.type = some pm →
    pm.psn = some x.psn

lemma minDeadline_le_left {a b : Option Time} (h : a = some t) :
    ∃ t', Endpoint.minDeadline a b = some t' ∧ t' ≤ t := by
  subst h
  cases b with
  | none => exact ⟨t, rfl, le_rfl⟩
  | some t' =>
    refine ⟨_, rfl, ?_⟩
    split
    · exact le_of_lt ‹_›
    · exact le_rfl

lemma minDeadline_le_right {a b : Option Time} (h : b = some t) :
    ∃ t', Endpoint.minDeadline a b = some t' ∧ t' ≤ t := by
  subst h
  cases a with
  | none => exact ⟨t, rfl, le_rfl⟩
  | some t' =>
    refine ⟨_, rfl, ?_⟩
    split
    · exact le_rfl
    · exact not_lt.mp ‹_›

lemma nextDeadline_le (h : s.deadlineOf w = some t) : ∃ t', s.nextDeadline = some t' ∧ t' ≤ t := by
  cases w with
  | request => exact minDeadline_le_left h
  | data => exact minDeadline_le_right h

lemma deadlineOf_of_nextDeadline (h : s.nextDeadline = some t) : ∃ w, s.deadlineOf w = some t := by
  unfold nextDeadline at h
  cases hrequest : s.deadlineOf .request with
  | none =>
    rw [hrequest] at h
    exact ⟨.data, h⟩
  | some t₁ =>
    cases hdata : s.deadlineOf .data with
    | none =>
      rw [hrequest, hdata] at h
      exact ⟨.request, hrequest.trans h⟩
    | some t₂ =>
      rw [hrequest, hdata] at h
      simp only [Endpoint.minDeadline, Option.some.injEq] at h
      split at h
      · exact ⟨.data, hdata.trans (congrArg some h)⟩
      · exact ⟨.request, hrequest.trans (congrArg some h)⟩

lemma getTimeoutOfPacket_le {type : PacketType} {rto : Time}
    (hinstalled : s.early.enableRack = true) (h : s.rackTimeoutOfPacket type pm = some rto) :
    s.getTimeoutOfPacket type pm ≤ rto := by
  unfold getTimeoutOfPacket
  rw [if_pos hinstalled, h]
  dsimp only
  split
  · exact le_rfl
  · exact not_lt.mp ‹_›

lemma getTimeoutOfPacket_cases (s : Gen3ConnectionState) (type : PacketType) (pm : PacketMetadata) :
    s.getTimeoutOfPacket type pm = s.toEndpoint.getTimeoutOfPacket pm ∨
      s.early.enableRack = true ∧
        s.rackTimeoutOfPacket type pm = some (s.getTimeoutOfPacket type pm) ∧
        s.getTimeoutOfPacket type pm < s.toEndpoint.getTimeoutOfPacket pm := by
  unfold getTimeoutOfPacket
  split
  · rename_i hinstalled
    split
    · rename_i timeout htimeout
      dsimp only
      split
      · rename_i hlt
        exact .inr ⟨hinstalled, htimeout, hlt⟩
      · exact .inl rfl
    · exact .inl rfl
  · exact .inl rfl

lemma TimerStuck.waits (h : s.TimerStuck) (hstandard : s.early.rackBypassRtoCheck = false) :
    s.Waits := by
  refine ⟨?_, h.heads⟩
  simp [rackPick, rackSelected, hstandard, h.exceeds]

lemma TimerStuck.armed (h : s.TimerStuck) : s.armed = [(s.now, .retransmitTimeout)] := by
  obtain ⟨w, work, rest, pm, rto, hhead, hpm, -, hrto, hle⟩ := h.overdue
  have hdeadline : s.deadlineOf w =
      some (pm.transmissionTime + s.getTimeoutOfPacket work.type pm) := by
    simp [deadlineOf, hhead, hpm]
  obtain ⟨t, hnext, ht⟩ := nextDeadline_le hdeadline
  have hceil : ceilNanoseconds t ≤ s.now := by
    refine (ceilNanoseconds_mono (ht.trans ?_)).trans hle
    exact add_le_add_right (getTimeoutOfPacket_le h.installed hrto) _
  unfold Gen3ConnectionState.armed
  rw [hnext]
  dsimp only
  rw [if_neg (h.nonzero t hnext), max_eq_right hceil]

lemma rackTimeoutOfPacket_eq_some {type : PacketType} {rto : Time}
    (h : s.rackTimeoutOfPacket type pm = some rto) :
    s.rack.rto = some rto ∧ s.rack.enabledForWindow (windowOf type) = true ∧
      pm.received = false ∧ pm.transmissionTime ≤ s.rack.xmitTs ∧
      pm.earlyRetxAttempts < s.config.earlyRetxThreshold ∧
      (s.early.rackBypassScanRangeLimit = true ∨
        (pm.psn.getD 0).toNat < (s.scanLimit (windowOf type)).toNat) := by
  unfold rackTimeoutOfPacket at h
  split at h
  · cases h
  · split at h
    · rename_i hpacket
      dsimp only at h
      split at h
      · rename_i hwindow
        simp only [Bool.and_eq_true, Bool.or_eq_true, Bool.not_eq_true', decide_eq_true_eq]
          at hpacket hwindow
        exact ⟨h, hwindow.2, hpacket.1.1, hpacket.1.2, hpacket.2, hwindow.1⟩
      · cases h
    · cases h

/-- A head for which the timeout of RACK has passed is selected, unless that timeout exceeds the
base timeout. -/
lemma rackSelected_ne_nil {work : RetransmissionWorkId} {rest : List RetransmissionWorkId}
    {rto : Time} (hordered : s.OrderedOutstanding) (hnumbered : NumbersOutstanding s.toEndpoint)
    (hwaits : s.HeadWaits w) (hhead : (s.tx w).outstandingPackets = work :: rest)
    (hpm : s.outgoing work.rsn work.type = some pm)
    (hrto : s.rackTimeoutOfPacket work.type pm = some rto) (hexceeds : s.rackRtoExceedsBase = false)
    (hexpired : pm.transmissionTime + rto ≤ s.now) : s.rackSelected w ≠ [] := by
  have hmem : work ∈ (s.tx w).outstandingPackets := by rw [hhead]; exact List.mem_cons_self
  obtain ⟨hrack, henabled, hreceived, hxmit, hattempts, hrange⟩ := rackTimeoutOfPacket_eq_some hrto
  rw [hordered.window w work hmem] at henabled hrange
  rw [hnumbered w work hmem pm hpm, Option.getD_some] at hrange
  have hverdict : s.packetVerdict pm = .take := by
    have hdue : s.rackExpired pm.transmissionTime = true := by
      unfold rackExpired
      rw [hrack]
      exact decide_eq_true (le_sub_iff_add_le'.mpr hexpired)
    unfold packetVerdict
    rw [if_neg (by simp [hreceived, hattempts]), if_pos hxmit, if_pos (by simp [hdue])]
  have htake : s.rackVerdict s.toEndpoint w work = .take := by
    unfold rackVerdict
    rw [if_neg (by rw [(hwaits work rest hhead).1]; exact Bool.false_ne_true), hpm, if_neg]
    · simpa using hverdict
    · rcases hrange with hbypass | hlt
      · simp [hbypass]
      · simp [hlt]
  unfold rackSelected
  rw [hexceeds, henabled, hhead]
  simp [Scan.select, htake]

lemma timerStuck_of_overdue (hordered : s.OrderedOutstanding)
    (hnumbered : NumbersOutstanding s.toEndpoint) (hwaits : s.Waits) {deadline : Time}
    (hnext : s.nextDeadline = some deadline) (hle : ceilNanoseconds deadline ≤ s.now)
    (hnonzero : ceilNanoseconds deadline ≠ 0) : s.TimerStuck := by
  obtain ⟨w, hdeadline⟩ := deadlineOf_of_nextDeadline hnext
  obtain ⟨work, hwork, hmap⟩ := Option.bind_eq_some_iff.mp hdeadline
  obtain ⟨pm, hpm, hsum⟩ := Option.map_eq_some_iff.mp hmap
  obtain ⟨rest, hhead⟩ := List.head?_eq_some_iff.mp hwork
  have hnow : deadline ≤ s.now := (le_ceilNanoseconds deadline).trans hle
  obtain ⟨-, pm', hpm', hbase⟩ := hwaits.2 w work rest hhead
  rw [hpm] at hpm'
  cases hpm'
  rcases s.getTimeoutOfPacket_cases work.type pm with heq | ⟨hinstalled, hrto, hlt⟩
  · rw [heq] at hsum
    exact absurd (hsum ▸ hbase) (not_lt.mpr hnow)
  have hexceeds : s.rackRtoExceedsBase = true := by
    by_contra hnot
    have hselected := rackSelected_ne_nil hordered hnumbered (hwaits.2 w) hhead hpm hrto
      (Bool.eq_false_of_not_eq_true hnot) (hsum ▸ hnow)
    have hpick := hwaits.1
    unfold rackPick at hpick
    rw [if_pos hinstalled, List.append_eq_nil_iff] at hpick
    cases w with
    | request => exact hselected hpick.1
    | data => exact hselected hpick.2
  refine ⟨hinstalled, hexceeds, hwaits.2, ⟨w, work, rest, pm, _, hhead, hpm, ?_, hrto, ?_⟩, ?_⟩
  · obtain ⟨hrack, -, hreceived, -⟩ := rackTimeoutOfPacket_eq_some hrto
    by_contra hnack
    have hbaseTimeout : s.toEndpoint.getTimeoutOfPacket pm =
      s.congestionControl.retransmitTimeout := by
      unfold Endpoint.getTimeoutOfPacket
      rw [if_neg hnack, if_neg (by simp [hreceived])]
    rw [hbaseTimeout] at hlt
    unfold rackRtoExceedsBase at hexceeds
    rw [hrack] at hexceeds
    exact lt_asymm hlt (of_decide_eq_true hexceeds)
  · rw [hsum]
    exact hle
  · intro d hd
    rw [hnext] at hd
    cases hd
    exact hnonzero

/-- A valid timeout makes progress exactly if the timer is not stuck at a head that was answered
with a receiver-not-ready NACK. -/
theorem retransmit_timeout_progress_iff {s s' : Gen3ConnectionState}
    (hordered : s.OrderedOutstanding) (hnumbered : NumbersOutstanding s.toEndpoint)
    (hstandard : s.early.rackBypassRtoCheck = false) (hvalid : s.now = s.rtoExpirationBaseTime)
    (h : s.handleRetransmitTimeout = .ok s') : Progresses s s' ↔ ¬s.TimerStuck := by
  rcases (handleRetransmitTimeout_cases hordered hstandard hvalid).of_ok h with
    ⟨hwaits, htx, hpending⟩ | ⟨hnot, hleaves⟩
  · have hstays : ¬Leaves s s' := by
      rintro ⟨w, hlt⟩
      rw [htx] at hlt
      exact lt_irrefl _ hlt
    constructor
    · rintro (hleaves | ⟨new, hnew, hafter⟩) hstuck
      · exact hstays hleaves
      · rw [hpending, hstuck.armed] at hnew
        have hlater := hafter _ (List.append_cancel_left hnew ▸ List.mem_singleton_self _)
        exact lt_irrefl _ hlater
    · intro hfree
      refine .inr ⟨s.armed, hpending, fun event hevent => ?_⟩
      unfold armed at hevent
      split at hevent
      · cases hevent
      · rename_i deadline hnext
        split at hevent
        · cases hevent
        · rename_i hnonzero
          rw [List.mem_singleton.mp hevent]
          by_contra hlate
          refine hfree (timerStuck_of_overdue hordered hnumbered hwaits hnext ?_ hnonzero)
          exact (le_max_left _ _).trans (not_lt.mp hlate)
  · exact iff_of_true (.inl hleaves) fun hstuck => hnot (hstuck.waits hstandard)

/-- An unsolicited push sent at 1 µs and answered with a receiver-not-ready NACK, which asks for a
retry after 250 µs. The timeout of RACK is 30 µs, the base timeout 25 µs, and the timer fires at
31 µs. -/
def nackedPush : Gen3ConnectionState where
  toEndpoint :=
    { config := { ordered := false }
      now := 124000
      rtoExpirationBaseTime := 124000
      congestionControl :=
        { fabricCongestionWindow := 1024 * 16
          nicCongestionWindow := 16
          retransmitTimeout := 100000 }
      tx
        | .request => { base := 0, next := 0 }
        | .data =>
          { base := 0
            next := 1
            outstandingPackets := [⟨0, 0, .pushUnsolicitedData⟩]
            outstandingPacketContexts := fun psn =>
              if psn = 0 then some ⟨0, .pushUnsolicitedData⟩ else none }
      rx _ := { base := 0 }
      transactions := fun key =>
        if key = ⟨0, .initiator⟩ then
          some
            { rsn := 0
              type := .pushUnsolicited
              location := .initiator
              state := .pushUnsolicitedDataNtwkTx
              packets := fun t =>
                if t = .pushUnsolicitedData then
                  some
                    { psn := some 0
                      transmitAttempts := 1
                      transmissionTime := 4000
                      nackCode := .ulpReceiverNotReady
                      rnrTimeout := 1000000 }
                else none }
        else none
      nextRequestSequenceNumber := 1 }
  early := {}
  rack := { xmitTs := 4000, rto := some 120000, enabledForWindow := fun _ => true }

/-- Nothing leaves, and the timer fires again at the same time. -/
theorem retransmit_timeout_stuck :
    ∃ s', nackedPush.handleRetransmitTimeout = .ok s' ∧
      nackedPush.now = nackedPush.rtoExpirationBaseTime ∧ ¬Progresses nackedPush s' := by
  obtain ⟨s', h, hpending, hlength⟩ := exists_ok_of_any
    (P := fun s' => s'.pending = [(124000, .retransmitTimeout)] ∧
      (s'.tx .data).outstandingPackets.length = 1)
    (x := nackedPush.handleRetransmitTimeout) (by decide +kernel)
  refine ⟨s', h, rfl, ?_⟩
  rintro (⟨w, hlt⟩ | ⟨new, hnew, hafter⟩)
  · cases w with
    | request => exact Nat.not_lt_zero _ hlt
    | data =>
      rw [hlength] at hlt
      exact lt_irrefl 1 hlt
  · rw [hpending] at hnew
    have hmem : ((124000 : Time), Callback.retransmitTimeout) ∈ new := by
      rw [← List.nil_append new]
      exact hnew ▸ List.mem_singleton_self _
    exact lt_irrefl (124000 : Int) (hafter _ hmem)

/-- The equivalence for the same connection. -/
theorem retransmit_timeout_progress_iff_nackedPush :
    ∃ s', nackedPush.handleRetransmitTimeout = .ok s' ∧
      (Progresses nackedPush s' ↔ ¬nackedPush.TimerStuck) := by
  have hordered : nackedPush.OrderedOutstanding := by
    refine ⟨fun w => ?_, fun w => ?_, fun w => ?_⟩ <;> cases w <;>
      simp [nackedPush, windowOf, belongsToRequestWindow]
  have hnumbered : NumbersOutstanding nackedPush.toEndpoint := by
    intro w x hx pm hpm
    cases w with
    | request => cases hx
    | data =>
      rw [List.mem_singleton.mp hx] at hpm ⊢
      cases hpm
      rfl
  obtain ⟨s', h, -⟩ := exists_ok_of_any (P := fun _ => True)
    (x := nackedPush.handleRetransmitTimeout) (by decide +kernel)
  exact ⟨s', h, retransmit_timeout_progress_iff hordered hnumbered rfl rfl h⟩

end Gen3ConnectionState

end Isekai.Falcon
