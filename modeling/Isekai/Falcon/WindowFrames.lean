import Isekai.Falcon.Stages

/-!
# What counting and acknowledging leave alone

`Counts` is the frame of the functions that count requests and queue retransmissions, `Settles` the
frame of the acknowledgement of one packet.
-/

namespace Isekai.Falcon

open Lib Function

/-- The windows agree but for counters. -/
structure TransmitterReliabilityWindowMetadata.SameWindow
    (tx tx' : TransmitterReliabilityWindowMetadata) : Prop where
  base : tx'.base = tx.base
  next : tx'.next = tx.next
  window : tx'.window = tx.window
  outstandingPackets : tx'.outstandingPackets = tx.outstandingPackets
  outstandingPacketContexts : tx'.outstandingPacketContexts = tx.outstandingPacketContexts

lemma TransmitterReliabilityWindowMetadata.SameWindow.refl
    (tx : TransmitterReliabilityWindowMetadata) : tx.SameWindow tx := ⟨rfl, rfl, rfl, rfl, rfl⟩

lemma TransmitterReliabilityWindowMetadata.SameWindow.trans
    {tx tx' tx'' : TransmitterReliabilityWindowMetadata} (h : tx.SameWindow tx')
    (h' : tx'.SameWindow tx'') : tx.SameWindow tx'' :=
  ⟨h'.base.trans h.base, h'.next.trans h.next, h'.window.trans h.window,
    h'.outstandingPackets.trans h.outstandingPackets,
    h'.outstandingPacketContexts.trans h.outstandingPacketContexts⟩

def Action.isReport : Action → Bool
  | .retransmit .. | .rue _ => true
  | _ => false

namespace Endpoint

variable {e e₁ e₂ : Endpoint} {rsn : Rsn} {t : PacketType} {w : WindowType}

def Silent (e e' : Endpoint) : Prop :=
  ∃ new, e'.log = new ++ e.log ∧ ∀ a ∈ new, a.isReport = false

lemma Silent.refl (e : Endpoint) : Silent e e := ⟨[], rfl, by simp⟩

lemma Silent.of_log_eq (h : e₁.log = e.log) : Silent e e₁ := ⟨[], h, by simp⟩

lemma Silent.trans (h : Silent e e₁) (h' : Silent e₁ e₂) : Silent e e₂ := by
  obtain ⟨new, hlog, hnew⟩ := h
  obtain ⟨new', hlog', hnew'⟩ := h'
  refine ⟨new' ++ new, by rw [hlog', hlog, List.append_assoc], ?_⟩
  intro a ha
  rcases List.mem_append.mp ha with ha | ha
  · exact hnew' a ha
  · exact hnew a ha

lemma Silent.emit (e : Endpoint) {a : Action} (ha : a.isReport = false) : Silent e (e.emit a) :=
  ⟨[a], rfl, by simpa using ha⟩

lemma Silent.filterMap_eq {α : Type} (h : Silent e e₁) {f : Action → Option α}
    (hf : ∀ a, a.isReport = false → f a = none) : e₁.log.filterMap f = e.log.filterMap f := by
  obtain ⟨new, hlog, hnew⟩ := h
  rw [hlog, List.filterMap_append, List.filterMap_eq_nil_iff.mpr fun a ha => hf a (hnew a ha),
    List.nil_append]

/-- Only request counters change. -/
structure Counts (e e' : Endpoint) : Prop where
  config : e'.config = e.config
  now : e'.now = e.now
  congestionControl : e'.congestionControl = e.congestionControl
  rtoExpirationBaseTime : e'.rtoExpirationBaseTime = e.rtoExpirationBaseTime
  pending : e'.pending = e.pending
  transactions : e'.transactions = e.transactions
  tx : ∀ w, (e.tx w).SameWindow (e'.tx w)
  silent : Silent e e'

lemma Counts.refl (e : Endpoint) : Counts e e :=
  ⟨rfl, rfl, rfl, rfl, rfl, rfl, fun w => .refl (e.tx w), .refl e⟩

lemma Counts.trans (h : Counts e e₁) (h' : Counts e₁ e₂) : Counts e e₂ :=
  ⟨h'.config.trans h.config, h'.now.trans h.now, h'.congestionControl.trans h.congestionControl,
    h'.rtoExpirationBaseTime.trans h.rtoExpirationBaseTime, h'.pending.trans h.pending,
    h'.transactions.trans h.transactions, fun w => (h.tx w).trans (h'.tx w),
    h.silent.trans h'.silent⟩

lemma Counts.setTx {tx : TransmitterReliabilityWindowMetadata} (h : (e.tx w).SameWindow tx) :
    Counts e (e.setTx w tx) := by
  refine ⟨rfl, rfl, rfl, rfl, rfl, rfl, fun w' => ?_, .of_log_eq rfl⟩
  by_cases hw : w' = w
  · subst hw
    simpa [Endpoint.setTx] using h
  · simpa [Endpoint.setTx, hw] using .refl (e.tx w')

lemma Counts.emit (e : Endpoint) {a : Action} (ha : a.isReport = false) : Counts e (e.emit a) :=
  ⟨rfl, rfl, rfl, rfl, rfl, rfl, fun w => .refl (e.tx w), .emit e ha⟩

lemma Counts.setRetransmissionQueue (e : Endpoint) (w : WindowType)
    (l : List RetransmissionWorkId) : Counts e (e.setRetransmissionQueue w l) :=
  ⟨rfl, rfl, rfl, rfl, rfl, rfl, fun w => .refl (e.tx w), .of_log_eq rfl⟩

lemma gate_counts (h : Counts e e₁) : Ensures AnyFault (Counts e) e₁.gate :=
  e₁.gate_eq.imp fun _ heq => heq ▸ h

lemma decrementOutstandingRequestCount_counts (e : Endpoint) (t : PacketType) :
    Ensures AnyFault (Counts e) (e.decrementOutstandingRequestCount t) := by
  apply Ensures.ite
  · intro _
    refine gate_counts (Counts.trans ?_ (.emit _ rfl))
    exact .setTx ⟨rfl, rfl, rfl, rfl, rfl⟩
  · exact fun _ => .refl e

lemma decrementOutstandingRetransmittedRequestCount_counts (e : Endpoint) (t : PacketType)
    (isAcked : Bool) :
    Ensures AnyFault (Counts e) (e.decrementOutstandingRetransmittedRequestCount t isAcked) := by
  apply Ensures.ite
  · intro _
    refine gate_counts (Counts.trans ?_ (.emit _ rfl))
    exact .setTx ⟨rfl, rfl, rfl, rfl, rfl⟩
  · exact fun _ => .refl e

lemma enqueueRetransmission_counts (e : Endpoint) (rsn : Rsn) (t : PacketType) :
    Ensures AnyFault (fun p => Counts e p.1 ∧ p.1.log = e.log) (e.enqueueRetransmission rsn t) := by
  refine (ensures_any _).bind fun p _ => ?_
  refine (ensures_any _).bind fun w _ => ?_
  split
  · apply Ensures.ite
    · exact fun _ => ⟨.refl e, rfl⟩
    · intro _
      refine (gate_eq _).bind ?_
      rintro _ rfl
      exact ⟨.setRetransmissionQueue e _ _, rfl⟩
  · trivial

lemma dequeueRetransmission_counts (e : Endpoint) (rsn : Rsn) (t : PacketType) :
    Ensures AnyFault (Counts e) (e.dequeueRetransmission rsn t) := by
  refine (ensures_any _).bind fun p _ => ?_
  refine (ensures_any _).bind fun w _ => ?_
  split
  · exact gate_counts (.setRetransmissionQueue e _ _)
  · trivial

def outgoing (e : Endpoint) (rsn : Rsn) (t : PacketType) : Option PacketMetadata :=
  match getTransactionLocation t false with
  | .ok location => (e.transactions ⟨rsn, location⟩).bind fun tr => tr.packets t
  | .error _ => none

lemma outgoing_eq_some {location : TransactionLocation} {tr : TransactionMetadata}
    {pm : PacketMetadata} (hlocation : getTransactionLocation t false = .ok location)
    (htr : e.transactions ⟨rsn, location⟩ = some tr) (hpm : tr.packets t = some pm) :
    e.outgoing rsn t = some pm := by
  unfold outgoing
  rw [hlocation]
  simp [htr, hpm]

lemma outgoing_congr (h : e₁.transactions = e.transactions) (rsn : Rsn) (t : PacketType) :
    e₁.outgoing rsn t = e.outgoing rsn t := by
  unfold outgoing
  rw [h]

lemma getPacketMetadata_outgoing (e : Endpoint) (rsn : Rsn) (t : PacketType) :
    Ensures AnyFault (fun p => p.1.rsn = rsn ∧ getTransactionLocation t false = .ok p.1.location ∧
      e.transactions p.1 = some p.2.1 ∧ p.2.1.packets t = some p.2.2 ∧
      e.outgoing rsn t = some p.2.2) (e.getPacketMetadata rsn t) := by
  refine (e.getPacketMetadata_found rsn t).imp ?_
  rintro ⟨⟨rsn', location⟩, tr, pm⟩ ⟨hlocation, rfl, htr, hpm⟩
  exact ⟨rfl, hlocation, htr, hpm, outgoing_eq_some hlocation htr hpm⟩

lemma outgoing_setPacketMetadata {location : TransactionLocation} {tr : TransactionMetadata}
    (hlocation : getTransactionLocation t false = .ok location)
    (htr : e.transactions ⟨rsn, location⟩ = some tr) (pm : PacketMetadata) (rsn' : Rsn)
    (t' : PacketType) :
    (e.setPacketMetadata ⟨rsn, location⟩ tr t pm).outgoing rsn' t' =
      if rsn' = rsn ∧ t' = t then some pm else e.outgoing rsn' t' := by
  unfold outgoing setPacketMetadata setTransaction
  split_ifs with h
  · obtain ⟨rfl, rfl⟩ := h
    rw [hlocation]
    simp [TransactionMetadata.packets_createPacket]
  · cases hlocation' : getTransactionLocation t' false with
    | error _ => rfl
    | ok location' =>
      dsimp only
      by_cases hkey : (⟨rsn', location'⟩ : TransactionKey) = ⟨rsn, location⟩
      · obtain ⟨rfl, rfl⟩ := TransactionKey.mk.injEq .. ▸ hkey
        have ht : t' ≠ t := fun ht => h ⟨rfl, ht⟩
        rw [update_self, htr]
        simp [TransactionMetadata.packets_createPacket, ht]
      · rw [update_of_ne hkey]

lemma initiateRetransmission_counts (e : Endpoint) (rsn : Rsn) (t : PacketType) :
    Ensures AnyFault (fun e' => ∃ pm, e.outgoing rsn t = some pm ∧
      Counts (e.emit (.retransmit ⟨rsn, t⟩ pm.retransmissionReason)) e')
      (e.initiateRetransmission rsn t) := by
  refine (e.enqueueRetransmission_counts rsn t).bind ?_
  rintro ⟨e₁, inserted⟩ ⟨h₁, hlog⟩
  refine (e₁.getPacketMetadata_outgoing rsn t).bind ?_
  rintro ⟨key, tr, pm⟩ ⟨-, -, -, -, hpm⟩
  rw [outgoing_congr h₁.transactions] at hpm
  have hreport : Counts (e.emit (.retransmit ⟨rsn, t⟩ pm.retransmissionReason))
      (e₁.emit (.retransmit ⟨rsn, t⟩ pm.retransmissionReason)) := by
    refine ⟨h₁.config, h₁.now, h₁.congestionControl, h₁.rtoExpirationBaseTime, h₁.pending,
      h₁.transactions, h₁.tx, .of_log_eq ?_⟩
    simpa [Endpoint.emit] using hlog
  apply Ensures.ite
  · intro _
    refine (decrementOutstandingRetransmittedRequestCount_counts _ _ _).imp fun e' h => ?_
    exact ⟨pm, hpm, hreport.trans h⟩
  · exact fun _ => ⟨pm, hpm, hreport⟩

end Endpoint

/-! ## The acknowledgement of one packet -/

def PacketMetadata.SameRecovery (pm pm' : PacketMetadata) : Prop :=
  ∃ eligible reserved,
    pm' = { pm with isTransmissionEligible := eligible, resourcesReserved := reserved }

lemma PacketMetadata.SameRecovery.refl (pm : PacketMetadata) : pm.SameRecovery pm :=
  ⟨pm.isTransmissionEligible, pm.resourcesReserved, rfl⟩

lemma PacketMetadata.SameRecovery.trans {pm pm' pm'' : PacketMetadata} (h : pm.SameRecovery pm')
    (h' : pm'.SameRecovery pm'') : pm.SameRecovery pm'' := by
  obtain ⟨eligible, reserved, rfl⟩ := h
  obtain ⟨eligible', reserved', rfl⟩ := h'
  exact ⟨eligible', reserved', rfl⟩

def TransactionMetadata.KeepsPackets (tr tr' : TransactionMetadata) : Prop :=
  ∀ t pm', tr'.packets t = some pm' → ∃ pm, tr.packets t = some pm ∧ pm.SameRecovery pm'

lemma TransactionMetadata.KeepsPackets.refl (tr : TransactionMetadata) : tr.KeepsPackets tr :=
  fun _ pm h => ⟨pm, h, .refl pm⟩

lemma TransactionMetadata.KeepsPackets.createPacket {tr : TransactionMetadata} {t : PacketType}
    {pm pm' : PacketMetadata} (hpm : tr.packets t = some pm) (h : pm.SameRecovery pm') :
    tr.KeepsPackets (tr.createPacket t pm') := by
  intro t' pm₁ hpm₁
  rw [TransactionMetadata.packets_createPacket] at hpm₁
  split at hpm₁
  · rename_i ht
    subst ht
    cases hpm₁
    exact ⟨pm, hpm, h⟩
  · exact ⟨pm₁, hpm₁, .refl pm₁⟩

def KeepsPackets (T T' : TransactionKey → Option TransactionMetadata) : Prop :=
  ∀ key tr', T' key = some tr' → ∃ tr, T key = some tr ∧ tr.KeepsPackets tr'

section KeepsPackets

variable {T T' T'' : TransactionKey → Option TransactionMetadata} {key : TransactionKey}

lemma KeepsPackets.refl (T : TransactionKey → Option TransactionMetadata) : KeepsPackets T T :=
  fun _ tr h => ⟨tr, h, .refl tr⟩

lemma KeepsPackets.trans (h : KeepsPackets T T') (h' : KeepsPackets T' T'') :
    KeepsPackets T T'' := by
  intro key tr'' htr''
  obtain ⟨tr', htr', hpackets'⟩ := h' key tr'' htr''
  obtain ⟨tr, htr, hpackets⟩ := h key tr' htr'
  refine ⟨tr, htr, fun t pm'' hpm'' => ?_⟩
  obtain ⟨pm', hpm', hsame'⟩ := hpackets' t pm'' hpm''
  obtain ⟨pm, hpm, hsame⟩ := hpackets t pm' hpm'
  exact ⟨pm, hpm, hsame.trans hsame'⟩

lemma KeepsPackets.update {tr tr' : TransactionMetadata} (htr : T key = some tr)
    (h : tr.KeepsPackets tr') : KeepsPackets T (update T key (some tr')) := by
  intro key' tr₁ htr₁
  by_cases hkey : key' = key
  · subst hkey
    rw [update_self] at htr₁
    cases htr₁
    exact ⟨tr, htr, h⟩
  · rw [update_of_ne hkey] at htr₁
    exact ⟨tr₁, htr₁, .refl tr₁⟩

lemma KeepsPackets.erase (T : TransactionKey → Option TransactionMetadata)
    (key : TransactionKey) : KeepsPackets T (Function.update T key none) := by
  intro key' tr₁ htr₁
  by_cases hkey : key' = key
  · subst hkey
    rw [update_self] at htr₁
    cases htr₁
  · rw [update_of_ne hkey] at htr₁
    exact ⟨tr₁, htr₁, .refl tr₁⟩

lemma KeepsPackets.of_unlocks (h : Endpoint.Unlocks T T') : KeepsPackets T T' := by
  induction h with
  | refl => exact .refl T
  | tail _ hstep ih =>
    obtain ⟨key, tr, pm, htr, hpm, rfl⟩ := hstep
    exact ih.trans (.update htr (.createPacket hpm ⟨true, pm.resourcesReserved, rfl⟩))

lemma KeepsPackets.outgoing {e e₁ : Endpoint} {rsn : Rsn} {t : PacketType}
    (h : KeepsPackets e.transactions e₁.transactions) {pm' : PacketMetadata}
    (hpm' : e₁.outgoing rsn t = some pm') :
    ∃ pm, e.outgoing rsn t = some pm ∧ pm.SameRecovery pm' := by
  unfold Endpoint.outgoing at *
  cases hlocation : getTransactionLocation t false with
  | error _ =>
    rw [hlocation] at hpm'
    cases hpm'
  | ok location =>
    rw [hlocation] at hpm'
    obtain ⟨tr', htr', hpackets'⟩ := Option.bind_eq_some_iff.mp hpm'
    obtain ⟨tr, htr, hkeeps⟩ := h _ _ htr'
    obtain ⟨pm, hpm, hsame⟩ := hkeeps t pm' hpackets'
    exact ⟨pm, by simp [htr, hpm], hsame⟩

end KeepsPackets

namespace Endpoint

variable {e e₁ e₂ : Endpoint} {rsn : Rsn} {t : PacketType} {w : WindowType}

/-- Packets may be acknowledged, and none is sent. -/
structure Settles (e e' : Endpoint) : Prop where
  config : e'.config = e.config
  now : e'.now = e.now
  next : ∀ w, (e'.tx w).next = (e.tx w).next
  packets : KeepsPackets e.transactions e'.transactions
  silent : Silent e e'

lemma Settles.refl (e : Endpoint) : Settles e e := ⟨rfl, rfl, fun _ => rfl, .refl _, .refl e⟩

lemma Settles.trans (h : Settles e e₁) (h' : Settles e₁ e₂) : Settles e e₂ :=
  ⟨h'.config.trans h.config, h'.now.trans h.now, fun w => (h'.next w).trans (h.next w),
    h.packets.trans h'.packets, h.silent.trans h'.silent⟩

lemma Settles.setTx {tx : TransmitterReliabilityWindowMetadata} (h : tx.next = (e.tx w).next) :
    Settles e (e.setTx w tx) := by
  refine ⟨rfl, rfl, fun w' => ?_, .refl _, .of_log_eq rfl⟩
  by_cases hw : w' = w
  · subst hw
    simpa [Endpoint.setTx] using h
  · simp [Endpoint.setTx, hw]

lemma Settles.emit (e : Endpoint) {a : Action} (ha : a.isReport = false) : Settles e (e.emit a) :=
  ⟨rfl, rfl, fun _ => rfl, .refl _, .emit e ha⟩

lemma Counts.settles (h : Counts e e₁) : Settles e e₁ :=
  ⟨h.config, h.now, fun w => (h.tx w).next, h.transactions ▸ .refl _, h.silent⟩

lemma Reorders.settles (h : Reorders e e₁) : Settles e e₁ := by
  obtain ⟨T, Q, I, R, rfl, hT⟩ := h
  exact ⟨rfl, rfl, fun _ => rfl, .of_unlocks hT, .of_log_eq rfl⟩

lemma Settles.outgoing (h : Settles e e₁) {pm' : PacketMetadata}
    (hpm' : e₁.outgoing rsn t = some pm') :
    ∃ pm, e.outgoing rsn t = some pm ∧ pm.SameRecovery pm' :=
  h.packets.outgoing hpm'

lemma releaseResources_settles (e : Endpoint) (key : TransactionKey) (t : PacketType) :
    Ensures AnyFault (fun e' => Settles e e' ∧ e'.tx = e.tx) (e.releaseResources key t) := by
  refine (e.releaseResources_cases key t).imp ?_
  rintro e' (⟨rfl, -⟩ | ⟨tr, pm, released, returned, -, htr, hpm, -, -, hreturned, rfl⟩)
  · exact ⟨.refl e', rfl⟩
  · refine ⟨⟨rfl, rfl, fun _ => rfl, .update htr (.createPacket hpm ⟨_, false, rfl⟩),
      returned ++ [.release ⟨key, t, released⟩], by simp, ?_⟩, rfl⟩
    intro a ha
    rcases List.mem_append.mp ha with ha | ha
    · obtain ⟨credits, rfl⟩ := hreturned a ha
      rfl
    · rw [List.mem_singleton.mp ha]
      rfl

end Endpoint

lemma RetransmissionWorkId.erase_eq_filter {work : RetransmissionWorkId}
    {l : List RetransmissionWorkId} (hl : (l.map (·.psn)).Nodup) :
    OrderedSet.erase RetransmissionWorkId.lt work l =
      l.filter fun x => decide (x.psn ≠ work.psn) := by
  induction l with
  | nil => rfl
  | cons x l ih =>
    rw [List.map_cons, List.nodup_cons] at hl
    unfold OrderedSet.erase at *
    by_cases hx : work.psn = x.psn
    · rw [List.eraseP_cons_of_pos ((equiv_lt_iff work x).mpr hx),
        List.filter_cons_of_neg (by simp [hx])]
      refine (List.filter_eq_self.mpr fun y hy => ?_).symm
      have hne : y.psn ≠ x.psn := fun h => hl.1 (h ▸ List.mem_map_of_mem hy)
      simpa [hx] using hne
    · rw [List.eraseP_cons_of_neg fun h => hx ((equiv_lt_iff work x).mp h),
        List.filter_cons_of_pos (by simpa using Ne.symm hx), ih hl.2]

namespace Endpoint

variable {e e₁ e₂ : Endpoint} {psn : Psn} {w : WindowType}

/-- Packet `psn` of window `w` has been acknowledged. The set of outstanding packets loses the
packet with this number, of which there is one at most. -/
structure Acknowledges (w : WindowType) (psn : Psn) (e e' : Endpoint) : Prop
    extends Settles e e' where
  base : ∀ w', (e'.tx w').base = (e.tx w').base
  window : ∀ w', (e'.tx w').window = (e.tx w').window
  other : ∀ w' ≠ w, (e'.tx w').outstandingPackets = (e.tx w').outstandingPackets
  removed : ((e.tx w).outstandingPackets.map (·.psn)).Nodup → (e'.tx w).outstandingPackets =
    (e.tx w).outstandingPackets.filter fun x => decide (x.psn ≠ psn)

lemma Acknowledges.of_counts (h : Counts e e₁) (h' : Acknowledges w psn e₁ e₂) :
    Acknowledges w psn e e₂ where
  toSettles := h.settles.trans h'.toSettles
  base w' := (h'.base w').trans (h.tx w').base
  window w' := (h'.window w').trans (h.tx w').window
  other w' hw := (h'.other w' hw).trans (h.tx w').outstandingPackets
  removed hnodup := by
    have h₁ := (h.tx w).outstandingPackets
    rw [h'.removed (by rwa [h₁]), h₁]

lemma Acknowledges.settles_trans (h : Acknowledges w psn e e₁) (h' : Settles e₁ e₂)
    (htx : ∀ w', (e₂.tx w').base = (e₁.tx w').base ∧ (e₂.tx w').window = (e₁.tx w').window ∧
      (e₂.tx w').outstandingPackets = (e₁.tx w').outstandingPackets) :
    Acknowledges w psn e e₂ where
  toSettles := h.toSettles.trans h'
  base w' := (htx w').1.trans (h.base w')
  window w' := (htx w').2.1.trans (h.window w')
  other w' hw := (htx w').2.2.trans (h.other w' hw)
  removed hnodup := (htx w).2.2.trans (h.removed hnodup)

lemma Acknowledges.counts_trans (h : Acknowledges w psn e e₁) (h' : Counts e₁ e₂) :
    Acknowledges w psn e e₂ :=
  h.settles_trans h'.settles fun w' =>
    ⟨(h'.tx w').base, (h'.tx w').window, (h'.tx w').outstandingPackets⟩

lemma removeOutstandingPacket_acknowledges (e : Endpoint) (w : WindowType)
    (work : RetransmissionWorkId) :
    Ensures AnyFault (Acknowledges w work.psn e) (e.removeOutstandingPacket w work) := by
  apply Ensures.ite
  · intro _
    have herased : Acknowledges w work.psn e (e.setTx w { e.tx w with
        outstandingPackets :=
          OrderedSet.erase RetransmissionWorkId.lt work (e.tx w).outstandingPackets }) := by
      refine ⟨.setTx rfl, fun w' => ?_, fun w' => ?_, fun w' hw => ?_, fun hnodup => ?_⟩
      · by_cases hw : w' = w
        · subst hw
          simp [Endpoint.setTx]
        · simp [Endpoint.setTx, hw]
      · by_cases hw : w' = w
        · subst hw
          simp [Endpoint.setTx]
        · simp [Endpoint.setTx, hw]
      · simp [Endpoint.setTx, hw]
      · simp [Endpoint.setTx, RetransmissionWorkId.erase_eq_filter hnodup]
    refine (ensures_any _).bind fun p _ => ?_
    apply Ensures.ite
    · intro _
      exact (decrementOutstandingRetransmittedRequestCount_counts _ _ _).imp fun _ h =>
        herased.counts_trans h
    · exact fun _ => herased
  · intro habsent
    refine (dequeueRetransmission_counts e work.rsn work.type).imp fun e₁ h => ?_
    refine Acknowledges.counts_trans ⟨.refl e, fun _ => rfl, fun _ => rfl,
      fun _ _ => rfl, fun _ => ?_⟩ h
    refine (List.filter_eq_self.mpr fun x hx => ?_).symm
    have hkey : work.psn ∉ (e.tx w).outstandingPackets.map (·.psn) :=
      (OrderedSet.contains_eq_false_iff RetransmissionWorkId.equiv_lt_iff).mp
        (by simpa using habsent)
    have hne : x.psn ≠ work.psn := fun h => hkey (h ▸ List.mem_map_of_mem hx)
    simpa using hne

lemma settleRetransmittedRequest_counts (e : Endpoint) (t : PacketType)
    (tr : TransactionMetadata) :
    Ensures AnyFault (Counts e) (e.settleRetransmittedRequest t tr) := by
  apply Ensures.ite
  · intro _
    refine (ensures_any _).bind fun request _ => ?_
    apply Ensures.ite
    · exact fun _ => decrementOutstandingRetransmittedRequestCount_counts _ _ _
    · exact fun _ => .refl e
  · exact fun _ => .refl e

lemma forgetPacket_acknowledges (e : Endpoint) (w : WindowType) (psn : Psn) (work : WorkId)
    (tr : TransactionMetadata) :
    Ensures AnyFault (Acknowledges w psn e) (e.forgetPacket w psn work tr) := by
  refine (decrementOutstandingRequestCount_counts _ _).bind fun e₁ h₁ => ?_
  refine (settleRetransmittedRequest_counts _ _ _).bind fun e₂ h₂ => ?_
  refine (removeOutstandingPacket_acknowledges _ _ _).bind fun e₃ h₃ => ?_
  refine Acknowledges.settles_trans (.of_counts (h₁.trans h₂) h₃) (.trans ?_ (.setTx rfl))
    fun w' => ?_
  · exact ⟨rfl, rfl, fun _ => rfl, .refl _, .of_log_eq rfl⟩
  · by_cases hw : w' = w
    · subst hw
      simp [Endpoint.setTx]
    · simp [Endpoint.setTx, hw]

lemma enqueueAckToUlp_acknowledges (e : Endpoint) (w : WindowType) (psn : Psn) :
    Ensures AnyFault (Acknowledges w psn e) (e.enqueueAckToUlp w psn) := by
  unfold enqueueAckToUlp
  split
  · rename_i work _
    refine (ensures_eq _).bind fun location hlocation => ?_
    refine (e.getTransaction_found _).bind fun tr htr => ?_
    refine Ensures.bind (P := fun tr' => ∃ state, tr' = { tr with state := state }) ?_ ?_
    · exact (ensures_any _).bind fun state _ => ⟨state, rfl⟩
    rintro _ ⟨state, rfl⟩
    have hstate : Settles e ((e.setTransaction ⟨work.rsn, location⟩
        { tr with state := state }).emit (.ackToUlp w psn work)) :=
      ⟨rfl, rfl, fun _ => rfl, .update htr fun _ pm h => ⟨pm, h, .refl pm⟩,
        .trans (.of_log_eq rfl) (.emit _ rfl)⟩
    refine (forgetPacket_acknowledges _ _ _ _ _).bind fun e₁ h₁ => ?_
    have hforgot : Acknowledges w psn e e₁ :=
      ⟨hstate.trans h₁.toSettles, h₁.base, h₁.window, h₁.other, h₁.removed⟩
    apply Ensures.ite
    · intro _
      refine (insertPacket_reorders _ _ _ _).bind ?_
      rintro ⟨e₂, _⟩ hreorders
      refine hforgot.settles_trans hreorders.settles fun w' => ?_
      obtain ⟨T, Q, I, R, rfl, -⟩ := hreorders
      exact ⟨rfl, rfl, rfl⟩
    intro _
    refine (releaseResources_settles _ _ _).bind ?_
    rintro e₂ ⟨hsettles, htx⟩
    have hreleased : Acknowledges w psn e e₂ :=
      hforgot.settles_trans hsettles fun w' => by rw [htx]; exact ⟨rfl, rfl, rfl⟩
    apply Ensures.ite
    · intro _
      refine hreleased.settles_trans ?_ fun _ => ⟨rfl, rfl, rfl⟩
      exact ⟨rfl, rfl, fun _ => rfl, .erase _ _, .of_log_eq rfl⟩
    · exact fun _ => hreleased
  · trivial

end Endpoint

end Isekai.Falcon
