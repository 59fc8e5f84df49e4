import Isekai.Falcon.Edits

/-!
# The stages of transmissions and of the reorder engine

A transmission numbers its packet, sets timers, piggybacks an acknowledgement, counts the packet and
sends it.
-/

namespace Isekai.Falcon

open Lib

/-- The packet was transmitted once more. -/
structure PacketMetadata.Numbers (pm pm' : PacketMetadata) : Prop where
  transmitAttempts : pm'.transmitAttempts = pm.transmitAttempts + 1
  isTransmissionEligible : pm'.isTransmissionEligible = pm.isTransmissionEligible
  payloadLength : pm'.payloadLength = pm.payloadLength
  direction : pm'.direction = pm.direction
  lengths : pm'.lengths = pm.lengths
  resourcesReserved : pm'.resourcesReserved = pm.resourcesReserved

namespace Endpoint

variable {e e₁ e₂ : Endpoint} {key : TransactionKey} {rsn : Rsn} {t : PacketType}

/-! ## Transmission -/

lemma numberTransmission_spec (e : Endpoint) (key : TransactionKey) (tr : TransactionMetadata)
    (pm : PacketMetadata) (t : PacketType) :
    Ensures AnyFault (fun e' => ∃ pm' n, pm.Numbers pm' ∧
      Path { e.setTransaction key (tr.createPacket t pm') with
        currentSolicitationSequenceNumber := n } e') (e.numberTransmission key tr pm t) := by
  apply Ensures.ite
  · intro _
    split
    · refine ⟨{ pm with transmitAttempts := pm.transmitAttempts + 1 },
        e.currentSolicitationSequenceNumber, ⟨rfl, rfl, rfl, rfl, rfl, rfl⟩, ?_⟩
      unfold reportRetransmission
      split
      all_goals first | exact (Edit.note rfl).path | exact Path.refl _
    · trivial
  intro hfirst
  have hattempts : pm.transmitAttempts = 0 := by omega
  refine (gate_eq _).bind ?_
  rintro _ rfl
  apply Ensures.ite
  · intro _
    refine ⟨{ pm with
      transmitAttempts := 1
      psn := some (e.tx (windowOf t)).next
      ssn := e.currentSolicitationSequenceNumber }, e.currentSolicitationSequenceNumber + 1,
      ⟨by rw [hattempts], rfl, rfl, rfl, rfl, rfl⟩, ?_⟩
    refine (Edit.tx (windowOf t) { e.tx (windowOf t) with
      next := (e.tx (windowOf t)).next + 1 }).path.trans ?_
    simp only [setTransaction, setTx, Function.update_idem]
    exact Path.refl _
  · intro _
    exact ⟨{ pm with transmitAttempts := 1, psn := some (e.tx (windowOf t)).next },
      e.currentSolicitationSequenceNumber, ⟨by rw [hattempts], rfl, rfl, rfl, rfl, rfl⟩,
      (Edit.tx _ _).path⟩

lemma setupRetransmission_path (e : Endpoint) (key : TransactionKey) (t : PacketType) (psn : Psn) :
    Ensures AnyFault (Path e) (e.setupRetransmission key t psn) := by
  refine (e.getTransaction_found key).bind fun tr htr => ?_
  refine (tr.getPacketMetadata_found t).bind fun pm hpm => ?_
  refine (Edit.packet htr hpm ?_).andThen ((Edit.tx _ _).andThen (setupRetransmitTimer_path _))
  unfold countRetransmission
  split
  · split <;> exact ⟨rfl, rfl, rfl, rfl, rfl, rfl, rfl, rfl⟩
  · exact ⟨rfl, rfl, rfl, rfl, rfl, rfl, rfl, rfl⟩

lemma countTransmission_spec (e : Endpoint) (key : TransactionKey) (t : PacketType)
    (isRetransmission : Bool) :
    Ensures AnyFault (fun e' => ∃ e₁, Path e e₁ ∧ (isRetransmission = true → e' = e₁) ∧
      (isRetransmission = false → ∃ tr state, e₁.transactions key = some tr ∧
        nextState tr.state t .ntwkTx = .ok state ∧
        e' = e₁.setTransaction key { tr with state := state }))
      (e.countTransmission key t isRetransmission) := by
  unfold countTransmission
  cases isRetransmission with
  | true =>
    rw [if_pos rfl]
    apply Ensures.ite
    · exact fun _ => (setTx_gate_path _ _).imp fun e' h => ⟨e', h, fun _ => rfl, nofun⟩
    · exact fun _ => ⟨e, Path.refl e, fun _ => rfl, nofun⟩
  | false =>
    have hincrement : Ensures AnyFault (Path e) (e.incrementOutstandingRequestCount t) := by
      apply Ensures.ite
      · exact fun _ => setTx_gate_path _ _
      · exact fun _ => Path.refl e
    refine hincrement.bind fun e₁ h₁ => ?_
    refine (e₁.getTransaction_found key).bind fun tr htr => ?_
    refine Ensures.bind (P := fun tr' => ∃ state, nextState tr.state t .ntwkTx = .ok state ∧
      tr' = { tr with state := state }) ?_ ?_
    · exact (ensures_eq _).bind fun state hstate => ⟨state, hstate, rfl⟩
    rintro _ ⟨state, hstate, rfl⟩
    exact ⟨e₁, h₁, nofun, fun _ => ⟨tr, state, htr, hstate, rfl⟩⟩

/-- The stages of a transmission: the packet gets its numbers, timers are set, the coalescing state
takes the piggybacked acknowledgement into account, and the packet is counted and sent. -/
inductive Transmits (e : Endpoint) (rsn : Rsn) (t : PacketType) : Endpoint → Prop where
  | first {location : TransactionLocation} {tr tr₂ : TransactionMetadata}
      {pm pm' : PacketMetadata} {n : Ssn} {e₁ e₂ : Endpoint} {state : TransactionState}
      {p : TransactionPacket} (hlocation : getTransactionLocation t false = .ok location)
      (htr : e.transactions ⟨rsn, location⟩ = some tr) (hpm : tr.packets t = some pm)
      (hfirst : pm.transmitAttempts = 0) (hnumbers : pm.Numbers pm')
      (h₁ : Path { e.setTransaction ⟨rsn, location⟩ (tr.createPacket t pm') with
        currentSolicitationSequenceNumber := n } e₁)
      (h₂ : Path (e₁.piggybackAck.createReceivedPacketContext ⟨rsn, location⟩) e₂)
      (htr₂ : e₂.transactions ⟨rsn, location⟩ = some tr₂)
      (hstate : nextState tr₂.state t .ntwkTx = .ok state)
      (hp : p.rsn = rsn ∧ p.type = t ∧ p.bpsn = e.rxBpsn) :
      Transmits e rsn t ((e₂.setTransaction ⟨rsn, location⟩ { tr₂ with state := state }).emit
        (.transmit p false))
  | again {location : TransactionLocation} {tr : TransactionMetadata}
      {pm pm' : PacketMetadata} {n : Ssn} {e₁ e₂ : Endpoint}
      {p : TransactionPacket} (hlocation : getTransactionLocation t false = .ok location)
      (htr : e.transactions ⟨rsn, location⟩ = some tr) (hpm : tr.packets t = some pm)
      (hagain : 0 < pm.transmitAttempts) (hnumbers : pm.Numbers pm')
      (h₁ : Path { e.setTransaction ⟨rsn, location⟩ (tr.createPacket t pm') with
        currentSolicitationSequenceNumber := n } e₁)
      (h₂ : Path (e₁.piggybackAck.createReceivedPacketContext ⟨rsn, location⟩) e₂)
      (hp : p.rsn = rsn ∧ p.type = t ∧ p.bpsn = e.rxBpsn) :
      Transmits e rsn t (e₂.emit (.transmit p true))

lemma transmitPacket_transmits (e : Endpoint) (rsn : Rsn) (t : PacketType) (ackReq : Bool) :
    Ensures AnyFault (Transmits e rsn t) (e.transmitPacket rsn t ackReq) := by
  refine (e.getPacketMetadata_found rsn t).bind ?_
  rintro ⟨⟨rsn, location⟩, tr, pm⟩ ⟨hlocation, rfl, htr, hpm⟩
  refine (numberTransmission_spec _ _ _ _ _).bind ?_
  rintro e₀ ⟨pm', n, hnumbers, h₀⟩
  refine (ensures_any _).bind fun tr₀ _ => ?_
  refine (ensures_any _).bind fun pm₀ _ => ?_
  split
  swap
  · trivial
  refine (setupRetransmission_path _ _ _ _).bind fun e₁ h₁ => ?_
  refine (countTransmission_spec _ _ _ _).bind ?_
  rintro e₃ ⟨e₂, h₂, hagain, hfirst⟩
  have hbpsn : e₀.rxBpsn = e.rxBpsn := by
    unfold rxBpsn
    rw [h₀.unedited.rx]
    rfl
  by_cases hattempts : pm.transmitAttempts ≥ 1
  · rw [decide_eq_true hattempts] at hagain ⊢
    rw [hagain rfl]
    exact .again hlocation htr hpm hattempts hnumbers (h₀.trans h₁) h₂ ⟨rfl, rfl, hbpsn⟩
  · rw [decide_eq_false hattempts] at hfirst ⊢
    obtain ⟨tr₂, state, htr₂, hstate, rfl⟩ := hfirst rfl
    have hzero : pm.transmitAttempts = 0 := Nat.lt_one_iff.mp (not_le.mp hattempts)
    exact .first hlocation htr hpm hzero hnumbers (h₀.trans h₁) h₂ htr₂ hstate ⟨rfl, rfl, hbpsn⟩

/-! ## The reorder engine -/

def Unlocks : (TransactionKey → Option TransactionMetadata) →
    (TransactionKey → Option TransactionMetadata) → Prop :=
  Relation.ReflTransGen fun T T' => ∃ key tr pm, T key = some tr ∧
    tr.packets .pushSolicitedData = some pm ∧ T' = Function.update T key
      (some (tr.createPacket .pushSolicitedData { pm with isTransmissionEligible := true }))

def Reorders (e e' : Endpoint) : Prop :=
  ∃ T Q I R, e' = { e with transactions := T, queues := Q, interHostQueue := I, reorder := R } ∧
    Unlocks e.transactions T

lemma Reorders.refl (e : Endpoint) : Reorders e e := ⟨_, _, _, _, rfl, .refl⟩

lemma Reorders.trans (h : Reorders e e₁) (h' : Reorders e₁ e₂) : Reorders e e₂ := by
  obtain ⟨T, Q, I, R, rfl, hT⟩ := h
  obtain ⟨T', Q', I', R', rfl, hT'⟩ := h'
  exact ⟨T', Q', I', R', rfl, hT.trans hT'⟩

lemma Reorders.set (e : Endpoint) (R : ConnectionReorderMetadata) :
    Reorders e { e with reorder := R } :=
  ⟨_, _, _, R, rfl, .refl⟩

lemma reorderCallback_reorders (e : Endpoint) (rsn : Rsn) (t : PacketType) :
    Ensures AnyFault (Reorders e) (e.reorderCallback rsn t) := by
  refine (e.reorderCallback_frame rsn t).imp ?_
  rintro _ ⟨T, Q, I, rfl, hT⟩
  refine ⟨T, Q, I, _, rfl, ?_⟩
  obtain rfl | ⟨tr, pm, -, htr, hpm, rfl⟩ := hT
  · exact .refl
  · exact .single ⟨_, tr, pm, htr, hpm, rfl⟩

lemma sendToUlpTarget_reorders (e : Endpoint) (rsn : Rsn) :
    Ensures AnyFault (Reorders e) (e.sendToUlpTarget rsn) := by
  unfold sendToUlpTarget
  split
  · trivial
  · refine (reorderCallback_reorders _ _ _).bind fun e₁ h => ?_
    refine ((Reorders.set e _).trans h).trans ?_
    split
    · exact .set _ _
    · exact .refl _

lemma scanTargetRsnBuffer_reorders (e : Endpoint) (l : List Rsn) :
    Ensures AnyFault (Reorders e) (e.scanTargetRsnBuffer l) := by
  induction l generalizing e with
  | nil => exact .refl e
  | cons rsn rest ih =>
    unfold scanTargetRsnBuffer
    split
    · trivial
    apply Ensures.ite
    · intro _
      refine (sendToUlpTarget_reorders _ _).bind fun e₁ h => ?_
      exact (ih e₁).imp fun _ => h.trans
    · exact fun _ => .refl e

lemma reorderCallback_bind_reorders {f : Endpoint → Outcome}
    (R : Endpoint → ConnectionReorderMetadata) (hf : ∀ e, Ensures AnyFault (Reorders e) (f e)) :
    Ensures AnyFault (Reorders e)
      (e.reorderCallback rsn t >>= fun e => f { e with reorder := R e }) := by
  refine (reorderCallback_reorders e rsn t).bind fun e₁ h => ?_
  exact (hf _).imp fun _ => (h.trans (.set e₁ _)).trans

lemma scanInitiatorRsnBuffer_reorders (e : Endpoint) (l : List (Rsn × PacketType)) :
    Ensures AnyFault (Reorders e) (e.scanInitiatorRsnBuffer l) := by
  induction l generalizing e with
  | nil => exact .refl e
  | cons p rest ih =>
    exact .ite (fun _ => reorderCallback_bind_reorders _ ih) fun _ => .refl e

lemma scanInitiatorSsnBuffer_reorders (e : Endpoint) (l : List (Ssn × Rsn)) :
    Ensures AnyFault (Reorders e) (e.scanInitiatorSsnBuffer l) := by
  induction l generalizing e with
  | nil => exact .refl e
  | cons p rest ih =>
    exact .ite (fun _ => reorderCallback_bind_reorders _ ih) fun _ => .refl e

lemma scanTargetSsnBuffer_reorders (e : Endpoint) (l : List (Ssn × Rsn)) :
    Ensures AnyFault (Reorders e) (e.scanTargetSsnBuffer l) := by
  induction l generalizing e with
  | nil => exact .refl e
  | cons p rest ih =>
    exact .ite (fun _ => reorderCallback_bind_reorders _ ih) fun _ => .refl e

lemma insertTargetEntry_reorders (e : Endpoint) (rsn : Rsn) (t : PacketType) :
    Ensures AnyFault (Reorders e) (e.insertTargetEntry rsn t) := by
  unfold insertTargetEntry
  split
  · trivial
  · exact .set e _

lemma insertPacket_reorders (e : Endpoint) (t : PacketType) (rsn : Rsn) (ssn : Ssn) :
    Ensures AnyFault (fun p => Reorders e p.1) (e.insertPacket t rsn ssn) := by
  have htarget : Ensures AnyFault (fun p => Reorders e p.1) (do
      let e ← e.insertTargetEntry rsn t
      let e ← e.sendToUlpTarget rsn
      pure (e, false)) := by
    refine (insertTargetEntry_reorders _ _ _).bind fun e₁ h₁ => ?_
    exact (sendToUlpTarget_reorders _ _).bind fun e₂ h₂ => h₁.trans h₂
  apply Ensures.ite
  · intro _
    split
    · exact htarget
    · exact htarget
    · exact htarget
    · exact (reorderCallback_reorders _ _ _).bind fun e₁ h => h
  intro _
  split
  case h_1 | h_2 | h_3 =>
    apply Ensures.ite
    · intro _
      refine (reorderCallback_reorders _ _ _).bind fun e₁ h₁ => ?_
      refine (scanInitiatorRsnBuffer_reorders _ _).bind fun e₂ h₂ => ?_
      exact ((Reorders.set e _).trans h₁).trans h₂
    · exact fun _ => .set e _
  case h_4 | h_5 | h_6 =>
    refine (insertTargetEntry_reorders _ _ _).bind fun e₁ h₁ => ?_
    apply Ensures.ite
    · intro _
      refine (sendToUlpTarget_reorders _ _).bind fun e₂ h₂ => ?_
      refine (scanTargetRsnBuffer_reorders _ _).bind fun e₃ h₃ => ?_
      exact (h₁.trans h₂).trans h₃
    · exact fun _ => h₁
  case h_7 =>
    apply Ensures.ite
    · intro _
      refine (reorderCallback_reorders _ _ _).bind fun e₁ h₁ => ?_
      refine (scanInitiatorSsnBuffer_reorders _ _).bind fun e₂ h₂ => ?_
      exact (h₁.trans (.set e₁ _)).trans h₂
    · exact fun _ => .set e _
  case h_8 =>
    apply Ensures.ite
    · intro _
      refine (reorderCallback_reorders _ _ _).bind fun e₁ h₁ => ?_
      refine (scanTargetSsnBuffer_reorders _ _).bind fun e₂ h₂ => ?_
      exact (h₁.trans (.set e₁ _)).trans h₂
    · exact fun _ => .set e _
  all_goals trivial

lemma retryRnrNackedPacket_reorders (e : Endpoint) (rsn : Rsn) :
    Ensures AnyFault (fun p => Reorders e p.1) (e.retryRnrNackedPacket rsn) := by
  unfold retryRnrNackedPacket
  split
  · trivial
  apply Ensures.ite
  · exact fun _ => trivial
  intro _
  apply Ensures.ite
  · exact fun _ => .refl e
  intro _
  apply Ensures.ite
  · exact fun _ => (sendToUlpTarget_reorders _ _).bind fun _ h => h
  intro _
  apply Ensures.ite
  · intro _
    exact (scanTargetRsnBuffer_reorders _ _).bind fun e₁ h => (Reorders.set e _).trans h
  · exact fun _ => .refl e

lemma handleRnrTimeout_reorders (e : Endpoint) (rsn : Rsn) :
    Ensures AnyFault (Reorders e) (e.handleRnrTimeout rsn) := by
  unfold handleRnrTimeout
  split
  · exact .refl e
  apply Ensures.ite
  · exact fun _ => .refl e
  intro _
  apply Ensures.ite
  · exact fun _ => sendToUlpTarget_reorders _ _
  intro _
  apply Ensures.ite
  · exact fun _ => .refl e
  · exact fun _ => scanTargetRsnBuffer_reorders _ _

end Endpoint

end Isekai.Falcon
