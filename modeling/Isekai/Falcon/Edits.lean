import Isekai.Falcon.Acknowledgement
import Mathlib.Logic.Relation

/-!
# What acknowledgement processing writes

Timeouts, ACKs, EACKs, NACKs and implicit acknowledgements run through many functions, but each of
them only makes writes of a few kinds. An invariant of an endpoint is checked against these `Edit`s,
not against the functions.
-/

namespace Isekai.Falcon

open Lib Function

/-- What a retransmission leaves of a packet. -/
structure PacketMetadata.Resends (pm pm' : PacketMetadata) : Prop where
  psn : pm'.psn = pm.psn
  transmitAttempts : pm'.transmitAttempts = pm.transmitAttempts
  isTransmissionEligible : pm'.isTransmissionEligible = pm.isTransmissionEligible
  ssn : pm'.ssn = pm.ssn
  payloadLength : pm'.payloadLength = pm.payloadLength
  direction : pm'.direction = pm.direction
  lengths : pm'.lengths = pm.lengths
  resourcesReserved : pm'.resourcesReserved = pm.resourcesReserved

def Action.isAckNote : Action → Bool
  | .ackToUlp .. | .txAdvance .. | .retransmit .. | .decrement .. | .rue _ => true
  | _ => false

lemma TransactionMetadata.packets_createPacket (tr : TransactionMetadata) (t t' : PacketType)
    (pm : PacketMetadata) :
    (tr.createPacket t pm).packets t' = if t' = t then some pm else tr.packets t' :=
  update_apply _ _ _ _

lemma TransactionMetadata.getPacketMetadata_found (tr : TransactionMetadata) (t : PacketType) :
    Ensures AnyFault (fun pm => tr.packets t = some pm) (tr.getPacketMetadata t) := by
  unfold TransactionMetadata.getPacketMetadata
  split
  · assumption
  · trivial

namespace Endpoint

inductive Edit (e : Endpoint) : Endpoint → Prop where
  | tx (w : WindowType) (tx : TransmitterReliabilityWindowMetadata) : Edit e (e.setTx w tx)
  | note {a : Action} (ha : a.isAckNote = true) : Edit e (e.emit a)
  | timer (delay : Time) : Edit e (e.scheduleEvent delay .retransmitTimeout)
  | rtoBase (t : Time) : Edit e { e with rtoExpirationBaseTime := t }
  | congestionControl (c : CongestionControlMetadata) : Edit e { e with congestionControl := c }
  | retransmissionQueue (w : WindowType) (l : List RetransmissionWorkId) :
      Edit e (e.setRetransmissionQueue w l)
  | packet {key : TransactionKey} {tr : TransactionMetadata} {t : PacketType}
      {pm pm' : PacketMetadata} (htr : e.transactions key = some tr) (hpm : tr.packets t = some pm)
      (hsame : pm.Resends pm') : Edit e (e.setTransaction key (tr.createPacket t pm'))
  | acked {key : TransactionKey} {tr : TransactionMetadata} {t : PacketType}
      {state : TransactionState} (htr : e.transactions key = some tr)
      (hstate : nextState tr.state t .ntwkAckRx = .ok state) :
      Edit e (e.setTransaction key { tr with state := state })
  | release {key : TransactionKey} {t : PacketType} {e' : Endpoint}
      (hlocation : getTransactionLocation t false = .ok key.location)
      (h : e.releaseResources key t = .ok e') : Edit e e'
  | erase (rsn : Rsn) : Edit e
      ((e.eraseTransaction ⟨rsn, .target⟩).setReceivedPacketContext ⟨rsn, .target⟩ none)
  | initiatorCallback {rsn : Rsn} {t : PacketType} {e' : Endpoint}
      (hsource : t = .ack ∨ (rsn, t) ∈ e.reorder.initiatorRsnBuffer)
      (h : e.reorderCallback rsn t = .ok e') : Edit e e'
  | initiatorBuffer (n : Rsn) {l : List (Rsn × PacketType)}
      (hl : ∀ p ∈ l, p.2 = .ack ∨ p ∈ e.reorder.initiatorRsnBuffer) :
      Edit e { e with reorder := { e.reorder with nextInitiatorRsn := n, initiatorRsnBuffer := l } }

abbrev Path : Endpoint → Endpoint → Prop := Relation.ReflTransGen Edit

variable {e e₁ : Endpoint} {key : TransactionKey} {tr : TransactionMetadata} {pm : PacketMetadata}
  {rsn : Rsn} {t : PacketType} {w : WindowType}

section Rules

variable {α : Type} {Q : α → Prop} {x : Except Fatal α} {y : Outcome} {f : Endpoint → Outcome}

lemma Path.refl (e : Endpoint) : Path e e := Relation.ReflTransGen.refl

lemma Edit.path (h : Edit e e₁) : Path e e₁ := Relation.ReflTransGen.single h

lemma Edit.andThen (h : Edit e e₁) (hy : Ensures AnyFault (Path e₁) y) :
    Ensures AnyFault (Path e) y :=
  hy.imp fun _ => h.path.trans

lemma Path.andThen (h : Path e e₁) (hy : Ensures AnyFault (Path e₁) y) :
    Ensures AnyFault (Path e) y :=
  hy.imp fun _ => h.trans

lemma path_bind (hy : Ensures AnyFault (Path e) y)
    (hf : ∀ e₁, Ensures AnyFault (Path e₁) (f e₁)) : Ensures AnyFault (Path e) (y >>= f) :=
  hy.bind fun _ h => h.andThen (hf _)

lemma ensures_any (x : Except Fatal α) : Ensures AnyFault (fun _ => True) x := by
  cases x <;> trivial

lemma ensures_eq (x : Except Fatal α) : Ensures AnyFault (fun a => x = .ok a) x := by
  cases x <;> trivial

end Rules

lemma gate_eq (e : Endpoint) : Ensures AnyFault (fun e' => e' = e) e.gate := by
  repeat
    refine (ensures_any _).bind fun _ _ => ?_
  exact rfl

lemma gate_path (e : Endpoint) : Ensures AnyFault (Path e) e.gate :=
  e.gate_eq.imp fun _ h => h ▸ Path.refl e

lemma getTransaction_found (e : Endpoint) (key : TransactionKey) :
    Ensures AnyFault (fun tr => e.transactions key = some tr) (e.getTransaction key) := by
  unfold getTransaction
  split
  · assumption
  · trivial

lemma getPacketMetadata_found (e : Endpoint) (rsn : Rsn) (t : PacketType) :
    Ensures AnyFault (fun p => getTransactionLocation t false = .ok p.1.location ∧ p.1.rsn = rsn ∧
      e.transactions p.1 = some p.2.1 ∧ p.2.1.packets t = some p.2.2)
        (e.getPacketMetadata rsn t) := by
  refine (ensures_eq _).bind fun location hlocation => ?_
  refine (e.getTransaction_found ⟨rsn, location⟩).bind fun tr htr => ?_
  exact (tr.getPacketMetadata_found t).bind fun pm hpm => ⟨hlocation, rfl, htr, hpm⟩

lemma releaseResources_cases (e : Endpoint) (key : TransactionKey) (t : PacketType) :
    Ensures AnyFault (fun e' => e' = e ∧ e.config.resources.bypassReservation = true ∨
      ∃ tr pm released returned, e.config.resources.bypassReservation = false ∧
        e.transactions key = some tr ∧ tr.packets t = some pm ∧ pm.resourcesReserved = true ∧
        e.config.resources.releasedCredits t pm = .ok released ∧
        (∀ a ∈ returned, ∃ credits, a = Action.returnFalconCredit key credits) ∧
        e' = { e with
          globalCredits := e.globalCredits + released
          log := returned ++ .release ⟨key, t, released⟩ :: e.log
          transactions := update e.transactions key
            (some (tr.createPacket t { pm with resourcesReserved := false })) })
      (e.releaseResources key t) := by
  apply Ensures.ite
  · exact fun hbypass => .inl ⟨rfl, hbypass⟩
  intro hbypass
  refine (e.getTransaction_found key).bind fun tr htr => ?_
  refine (tr.getPacketMetadata_found t).bind fun pm hpm => ?_
  apply Ensures.ite
  · exact fun _ => trivial
  intro hheld
  refine (ensures_eq _).bind fun released hreleased => ?_
  refine (ensures_any _).bind fun managed _ => ?_
  have hreturn : Ensures AnyFault (fun e' => ∃ returned,
      (∀ a ∈ returned, ∃ credits, a = Action.returnFalconCredit key credits) ∧
        e' = { e with
          globalCredits := e.globalCredits + released
          log := returned ++ .release ⟨key, t, released⟩ :: e.log })
      (({ e with globalCredits := e.globalCredits + released }.emit
        (.release ⟨key, t, released⟩)).returnRdmaManagedFalconResourceCredits key managed) := by
    apply Ensures.ite
    · exact fun _ => ⟨[], by simp, rfl⟩
    · intro _
      refine (ensures_any _).bind fun _ _ => ?_
      exact ⟨[.returnFalconCredit key managed], by simp, rfl⟩
  refine hreturn.bind ?_
  rintro _ ⟨returned, hreturned, rfl⟩
  exact .inr ⟨tr, pm, released, returned, by simpa using hbypass, htr, hpm, by simpa using hheld,
    hreleased, hreturned, rfl⟩

lemma setTx_gate_path (w : WindowType) (tx : TransmitterReliabilityWindowMetadata) :
    Ensures AnyFault (Path e) (e.setTx w tx).gate :=
  (Edit.tx w tx).andThen (gate_path _)

lemma setupRetransmitTimer_path (e : Endpoint) :
    Ensures AnyFault (Path e) e.setupRetransmitTimer := by
  refine (ensures_any _).bind fun _ _ => ?_
  refine (ensures_any _).bind fun _ _ => ?_
  split
  · exact Path.refl e
  · apply Ensures.ite
    · exact fun _ => Path.refl e
    · exact fun _ => (Edit.rtoBase _).path.trans (Edit.timer _).path

lemma decrementOutstandingRequestCount_path (e : Endpoint) (t : PacketType) :
    Ensures AnyFault (Path e) (e.decrementOutstandingRequestCount t) := by
  apply Ensures.ite
  · intro _
    exact (Edit.tx _ _).andThen ((Edit.note rfl).andThen (gate_path _))
  · exact fun _ => Path.refl e

lemma decrementOutstandingRetransmittedRequestCount_path (e : Endpoint) (t : PacketType)
    (isAcked : Bool) :
    Ensures AnyFault (Path e) (e.decrementOutstandingRetransmittedRequestCount t isAcked) := by
  apply Ensures.ite
  · intro _
    exact (Edit.tx _ _).andThen ((Edit.note rfl).andThen (gate_path _))
  · exact fun _ => Path.refl e

lemma enqueueRetransmission_path (e : Endpoint) (rsn : Rsn) (t : PacketType) :
    Ensures AnyFault (fun p => Path e p.1) (e.enqueueRetransmission rsn t) := by
  refine (ensures_any _).bind fun p _ => ?_
  refine (ensures_any _).bind fun w _ => ?_
  split
  · apply Ensures.ite
    · exact fun _ => Path.refl e
    · intro _
      exact ((Edit.retransmissionQueue _ _).andThen (gate_path _)).bind fun _ h => h
  · trivial

lemma dequeueRetransmission_path (e : Endpoint) (rsn : Rsn) (t : PacketType) :
    Ensures AnyFault (Path e) (e.dequeueRetransmission rsn t) := by
  refine (ensures_any _).bind fun p _ => ?_
  refine (ensures_any _).bind fun w _ => ?_
  split
  · exact (Edit.retransmissionQueue _ _).andThen (gate_path _)
  · trivial

lemma initiateRetransmission_path (e : Endpoint) (rsn : Rsn) (t : PacketType) :
    Ensures AnyFault (Path e) (e.initiateRetransmission rsn t) := by
  refine (e.enqueueRetransmission_path rsn t).bind fun p hp => ?_
  refine (ensures_any _).bind fun q _ => ?_
  refine hp.andThen ?_
  apply Ensures.ite
  · exact fun _ => (Edit.note rfl).andThen
      (decrementOutstandingRetransmittedRequestCount_path _ _ _)
  · exact fun _ => (Edit.note rfl).path

/-! ## The acknowledgement of one packet -/

lemma removeOutstandingPacket_path (e : Endpoint) (w : WindowType) (work : RetransmissionWorkId) :
    Ensures AnyFault (Path e) (e.removeOutstandingPacket w work) := by
  apply Ensures.ite
  · intro _
    refine (ensures_any _).bind fun p _ => ?_
    apply Ensures.ite
    · intro _
      exact (Edit.tx _ _).andThen (decrementOutstandingRetransmittedRequestCount_path _ _ _)
    · exact fun _ => (Edit.tx _ _).path
  · exact fun _ => dequeueRetransmission_path _ _ _

lemma settleRetransmittedRequest_path (e : Endpoint) (t : PacketType) (tr : TransactionMetadata) :
    Ensures AnyFault (Path e) (e.settleRetransmittedRequest t tr) := by
  apply Ensures.ite
  · intro _
    refine (ensures_any _).bind fun request _ => ?_
    apply Ensures.ite
    · exact fun _ => decrementOutstandingRetransmittedRequestCount_path _ _ _
    · exact fun _ => Path.refl e
  · exact fun _ => Path.refl e

lemma forgetPacket_path (e : Endpoint) (w : WindowType) (psn : Psn) (work : WorkId)
    (tr : TransactionMetadata) : Ensures AnyFault (Path e) (e.forgetPacket w psn work tr) := by
  refine path_bind (decrementOutstandingRequestCount_path _ _) fun _ => ?_
  refine path_bind (settleRetransmittedRequest_path _ _ _) fun _ => ?_
  refine path_bind (removeOutstandingPacket_path _ _ _) fun e₁ => ?_
  exact (Edit.congestionControl _).path.trans (Edit.tx _ _).path

/-- What enqueueing a packet does to the transactions: in an ordered connection solicited data is
there already and becomes eligible. -/
def Releases (e : Endpoint) (rsn : Rsn) (T : TransactionKey → Option TransactionMetadata) : Prop :=
  T = e.transactions ∨ ∃ tr pm, e.config.ordered = true ∧
    e.transactions ⟨rsn, .initiator⟩ = some tr ∧ tr.packets .pushSolicitedData = some pm ∧
    T = update e.transactions ⟨rsn, .initiator⟩
      (some (tr.createPacket .pushSolicitedData { pm with isTransmissionEligible := true }))

lemma addPacketToQueue_frame (e : Endpoint) (rsn : Rsn) (t : PacketType) :
    Ensures AnyFault (fun e' => ∃ T Q, e' = { e with transactions := T, queues := Q } ∧
      e.Releases rsn T) (e.addPacketToQueue rsn t) := by
  refine (e.getPacketMetadata_found rsn t).bind ?_
  rintro ⟨⟨rsn, location⟩, tr, pm⟩ ⟨hlocation, rfl, htr, hpm⟩
  refine (ensures_any _).bind fun queue _ => ?_
  apply Ensures.ite
  · rintro ⟨hordered, rfl⟩
    cases hlocation
    exact ⟨_, _, rfl, .inr ⟨tr, pm, hordered, htr, hpm, rfl⟩⟩
  intro _
  apply Ensures.ite
  · exact fun _ => (ensures_any _).bind fun _ _ => ⟨_, _, rfl, .inl rfl⟩
  intro _
  apply Ensures.ite
  · exact fun _ => (ensures_any _).bind fun _ _ => ⟨_, _, rfl, .inl rfl⟩
  · exact fun _ => ⟨_, _, rfl, .inl rfl⟩

lemma reorderCallback_frame (e : Endpoint) (rsn : Rsn) (t : PacketType) :
    Ensures AnyFault (fun e' => ∃ T Q I, e' = { e with
      transactions := T, queues := Q, interHostQueue := I } ∧ e.Releases rsn T)
      (e.reorderCallback rsn t) := by
  unfold reorderCallback
  split
  case h_6 | h_7 =>
    refine (ensures_any _).bind fun next _ => ?_
    refine (ensures_any _).bind fun location _ => ?_
    refine (ensures_any _).bind fun tr _ => ?_
    refine (ensures_any _).bind fun _ _ => ?_
    refine (e.addPacketToQueue_frame rsn next).bind ?_
    rintro _ ⟨T, Q, rfl, hT⟩
    exact (gate_eq _).imp fun _ h => ⟨T, Q, _, h, hT⟩
  all_goals first | exact ⟨_, _, _, rfl, .inl rfl⟩ | trivial

/-- What no edit changes. -/
structure Unedited (e e' : Endpoint) : Prop where
  config : e'.config = e.config
  now : e'.now = e.now
  rx : e'.rx = e.rx
  implicitlyAckedCounter : e'.implicitlyAckedCounter = e.implicitlyAckedCounter
  coalescing : e'.coalescing = e.coalescing
  nextRequestSequenceNumber : e'.nextRequestSequenceNumber = e.nextRequestSequenceNumber
  nextTargetNetworkRsn : e'.reorder.nextTargetNetworkRsn = e.reorder.nextTargetNetworkRsn
  pending : e.pending ⊆ e'.pending

lemma Unedited.trans {e₂ : Endpoint} (h : Unedited e e₁) (h' : Unedited e₁ e₂) : Unedited e e₂ :=
  ⟨h'.config.trans h.config, h'.now.trans h.now, h'.rx.trans h.rx,
    h'.implicitlyAckedCounter.trans h.implicitlyAckedCounter, h'.coalescing.trans h.coalescing,
    h'.nextRequestSequenceNumber.trans h.nextRequestSequenceNumber,
    h'.nextTargetNetworkRsn.trans h.nextTargetNetworkRsn, fun _ hp => h'.pending (h.pending hp)⟩

lemma Edit.unedited (h : Edit e e₁) : Unedited e e₁ := by
  cases h with
  | timer delay => exact ⟨rfl, rfl, rfl, rfl, rfl, rfl, rfl, List.subset_append_left _ _⟩
  | release _ h =>
    obtain ⟨rfl, -⟩ | ⟨tr, pm, released, returned, -, -, -, -, -, -, rfl⟩ :=
      (e.releaseResources_cases _ _).of_ok h
    all_goals exact ⟨rfl, rfl, rfl, rfl, rfl, rfl, rfl, List.Subset.refl _⟩
  | initiatorCallback hsource h =>
    obtain ⟨T, Q, I, rfl, -⟩ := (e.reorderCallback_frame _ _).of_ok h
    exact ⟨rfl, rfl, rfl, rfl, rfl, rfl, rfl, List.Subset.refl _⟩
  | _ => exact ⟨rfl, rfl, rfl, rfl, rfl, rfl, rfl, List.Subset.refl _⟩

lemma Path.unedited (h : Path e e₁) : Unedited e e₁ := by
  induction h with
  | refl => exact ⟨rfl, rfl, rfl, rfl, rfl, rfl, rfl, List.Subset.refl _⟩
  | tail _ hedit ih => exact ih.trans hedit.unedited

/-- A transaction before and after edits of its packets. -/
structure Evolves (tr tr' : TransactionMetadata) : Prop where
  type : tr'.type = tr.type
  requestLength : tr'.requestLength = tr.requestLength
  kept : ∀ t, tr'.packets t = none → tr.packets t = none
  packets : ∀ t pm', tr'.packets t = some pm' → ∃ pm, tr.packets t = some pm ∧
    pm'.transmitAttempts = pm.transmitAttempts

lemma Evolves.refl (tr : TransactionMetadata) : Evolves tr tr :=
  ⟨rfl, rfl, fun _ h => h, fun _ pm h => ⟨pm, h, rfl⟩⟩

lemma Evolves.trans {tr tr₁ tr₂ : TransactionMetadata} (h : Evolves tr tr₁)
    (h' : Evolves tr₁ tr₂) : Evolves tr tr₂ := by
  refine ⟨h'.type.trans h.type, h'.requestLength.trans h.requestLength,
    fun t ht => h.kept t (h'.kept t ht), fun t pm₂ hpm₂ => ?_⟩
  obtain ⟨pm₁, hpm₁, h₁⟩ := h'.packets t pm₂ hpm₂
  obtain ⟨pm, hpm, h₀⟩ := h.packets t pm₁ hpm₁
  exact ⟨pm, hpm, h₁.trans h₀⟩

lemma Evolves.createPacket {pm' : PacketMetadata} (hpm : tr.packets t = some pm)
    (h : pm'.transmitAttempts = pm.transmitAttempts) : Evolves tr (tr.createPacket t pm') := by
  refine ⟨rfl, rfl, fun t' ht' => ?_, fun t' pm₁ hpm₁ => ?_⟩
  · rw [TransactionMetadata.packets_createPacket] at ht'
    split at ht'
    · cases ht'
    · exact ht'
  · rw [TransactionMetadata.packets_createPacket] at hpm₁
    split at hpm₁
    · cases hpm₁
      subst t'
      exact ⟨pm, hpm, h⟩
    · exact ⟨pm₁, hpm₁, rfl⟩

def TransactionsEvolve (T T' : TransactionKey → Option TransactionMetadata) : Prop :=
  ∀ key tr', T' key = some tr' → ∃ tr, T key = some tr ∧ Evolves tr tr'

lemma TransactionsEvolve.refl (T : TransactionKey → Option TransactionMetadata) :
    TransactionsEvolve T T :=
  fun _ tr h => ⟨tr, h, Evolves.refl tr⟩

lemma TransactionsEvolve.update {T : TransactionKey → Option TransactionMetadata}
    {tr' : TransactionMetadata} (htr : T key = some tr) (h : Evolves tr tr') :
    TransactionsEvolve T (update T key (some tr')) := by
  intro key' tr₁ htr₁
  rw [update_apply] at htr₁
  split at htr₁
  · cases htr₁
    subst key'
    exact ⟨tr, htr, h⟩
  · exact ⟨tr₁, htr₁, Evolves.refl tr₁⟩

lemma TransactionsEvolve.erase (T : TransactionKey → Option TransactionMetadata)
    (key : TransactionKey) : TransactionsEvolve T (Function.update T key none) := by
  intro key' tr htr
  rw [update_apply] at htr
  split at htr
  · cases htr
  · exact ⟨tr, htr, Evolves.refl tr⟩

lemma Releases.evolve {T : TransactionKey → Option TransactionMetadata} (h : e.Releases rsn T) :
    TransactionsEvolve e.transactions T := by
  obtain rfl | ⟨tr, pm, -, htr, hpm, rfl⟩ := h
  · exact .refl _
  · exact .update htr (.createPacket hpm rfl)

lemma Edit.evolve (h : Edit e e₁) : TransactionsEvolve e.transactions e₁.transactions := by
  cases h with
  | packet htr hpm hsame => exact .update htr (.createPacket hpm hsame.transmitAttempts)
  | acked htr hstate =>
    exact .update htr ⟨rfl, rfl, fun _ h => h, fun _ pm h => ⟨pm, h, rfl⟩⟩
  | release _ h =>
    obtain ⟨rfl, -⟩ | ⟨tr, pm, released, returned, -, htr, hpm, -, -, -, rfl⟩ :=
      (e.releaseResources_cases _ _).of_ok h
    · exact .refl _
    · exact .update htr (.createPacket hpm rfl)
  | erase rsn =>
    exact .erase _ _
  | initiatorCallback hsource h =>
    obtain ⟨T, Q, I, rfl, hT⟩ := (e.reorderCallback_frame _ _).of_ok h
    exact hT.evolve
  | _ => exact .refl _

lemma Path.evolve (h : Path e e₁) : TransactionsEvolve e.transactions e₁.transactions := by
  induction h with
  | refl => exact .refl _
  | tail _ hedit ih =>
    intro key tr₂ htr₂
    obtain ⟨tr₁, htr₁, h₁⟩ := hedit.evolve key tr₂ htr₂
    obtain ⟨tr, htr, h₀⟩ := ih key tr₁ htr₁
    exact ⟨tr, htr, h₀.trans h₁⟩

lemma scanInitiatorRsnBuffer_path {l : List (Rsn × PacketType)}
    (hl : ∀ p ∈ l, p ∈ e.reorder.initiatorRsnBuffer) :
    Ensures AnyFault (Path e) (e.scanInitiatorRsnBuffer l) := by
  induction l generalizing e with
  | nil => exact Path.refl e
  | cons p rest ih =>
    obtain ⟨rsn, t⟩ := p
    apply Ensures.ite
    · intro _
      refine (ensures_eq _).bind fun e₁ h => ?_
      obtain ⟨T, Q, I, rfl, -⟩ := (e.reorderCallback_frame rsn t).of_ok h
      refine (Edit.initiatorCallback (.inr (hl _ List.mem_cons_self)) h).andThen ?_
      refine (Edit.initiatorBuffer _ fun p hp => ?_).andThen (ih fun _ hp => hp)
      exact .inr (hl p (List.mem_cons_of_mem _ hp))
    · exact fun _ => Path.refl e

lemma insertPacket_ack_path (e : Endpoint) (rsn : Rsn) (ssn : Ssn) :
    Ensures AnyFault (fun p => Path e p.1) (e.insertPacket .ack rsn ssn) := by
  apply Ensures.ite
  · intro _
    refine (ensures_eq _).bind fun e₁ h => ?_
    exact (Edit.initiatorCallback (.inl rfl) h).path
  intro _
  apply Ensures.ite
  · intro _
    refine (ensures_eq _).bind fun e₁ h => ?_
    have hbuffer : Edit e { e with reorder := { e.reorder with
        nextInitiatorRsn := e.reorder.nextInitiatorRsn + 1 } } :=
      Edit.initiatorBuffer _ fun p hp => .inr hp
    refine Ensures.bind (P := Path e) ?_ fun _ h => h
    refine hbuffer.andThen ((Edit.initiatorCallback (.inl rfl) h).andThen ?_)
    exact scanInitiatorRsnBuffer_path fun _ hp => hp
  · intro _
    refine (Edit.initiatorBuffer _ fun p hp => ?_).path
    obtain rfl | hp := OrderedMap.mem_insert hp
    · exact .inl rfl
    · exact .inr hp

lemma enqueueAckToUlp_path (e : Endpoint) (w : WindowType) (psn : Psn) :
    Ensures AnyFault (Path e) (e.enqueueAckToUlp w psn) := by
  unfold enqueueAckToUlp
  split
  · rename_i work _
    refine (ensures_eq _).bind fun location hlocation => ?_
    refine (e.getTransaction_found _).bind fun tr htr => ?_
    refine Ensures.bind (P := fun tr' => ∃ state, nextState tr.state work.type .ntwkAckRx =
      .ok state ∧ tr' = { tr with state := state }) ?_ ?_
    · exact (ensures_eq _).bind fun state hstate => ⟨state, hstate, rfl⟩
    rintro _ ⟨state, hstate, rfl⟩
    have hnote : Edit _ ((e.setTransaction ⟨work.rsn, location⟩ { tr with state := state }).emit
      (.ackToUlp w psn work)) := Edit.note rfl
    refine Path.andThen ((Edit.acked htr hstate).path.trans hnote.path) ?_
    refine path_bind (forgetPacket_path _ _ _ _ _) fun e₁ => ?_
    apply Ensures.ite
    · exact fun _ => (insertPacket_ack_path _ _ _).bind fun _ h => h
    intro _
    refine (ensures_eq _).bind fun e₂ hrelease => ?_
    refine (Edit.release hlocation hrelease).andThen ?_
    apply Ensures.ite
    · intro hpull
      have hloc : location = .target := by
        rw [hpull] at hlocation
        cases hlocation
        rfl
      subst hloc
      exact (Edit.erase work.rsn).path
    · exact fun _ => Path.refl e₂
  · trivial

/-! ## Moving a transmitter window -/

lemma setOowNotificationReceived_path (e : Endpoint) (w : WindowType) (value : Bool) :
    Ensures AnyFault (Path e) (e.setOowNotificationReceived w value) := by
  apply Ensures.ite
  · exact fun _ => Path.refl e
  · exact fun _ => setTx_gate_path _ _

lemma updateOowNotification_path (e : Endpoint) (w : WindowType) (psn : Psn) (own : Bool) :
    Ensures AnyFault (Path e) (e.updateOowNotification w psn own) := by
  apply Ensures.ite
  · exact fun _ => setOowNotificationReceived_path _ _ _
  intro _
  apply Ensures.ite
  · exact fun _ => setOowNotificationReceived_path _ _ _
  · exact fun _ => Path.refl e

lemma ackBelowBase_path (w : WindowType) (e : Endpoint) (index : Nat) :
    Ensures AnyFault (Path e) (ackBelowBase w e index) := by
  apply Ensures.ite
  · exact fun _ => trivial
  intro _
  apply Ensures.ite
  · exact fun _ => enqueueAckToUlp_path _ _ _
  · exact fun _ => Path.refl e

lemma foldlM_path {ι : Type} {f : Endpoint → ι → Outcome}
    (hf : ∀ e i, Ensures AnyFault (Path e) (f e i)) (l : List ι) (e : Endpoint) :
    Ensures AnyFault (Path e) (l.foldlM f e) :=
  Ensures.foldlM (I := fun _ => Path e) l
    (fun _ i _ e₁ _ h => h.andThen (hf e₁ i)) (Path.refl e)

lemma advanceTxWindow_path (e : Endpoint) (w : WindowType) (psn : Psn) (own : Bool) :
    Ensures AnyFault (Path e) (e.advanceTxWindow w psn own) := by
  apply Ensures.ite
  · intro _
    refine path_bind (updateOowNotification_path _ _ _ _) fun e₁ => ?_
    refine path_bind (foldlM_path (ackBelowBase_path w) _ e₁) fun e₂ => ?_
    exact (Edit.tx _ _).andThen ((Edit.note rfl).andThen (gate_path _))
  · exact fun _ => Path.refl e

lemma handlePiggybackedACK_path (e : Endpoint) (bpsn : WindowType → Psn) (own : WindowType → Bool) :
    Ensures AnyFault (Path e) (e.handlePiggybackedACK bpsn own) := by
  apply Ensures.ite
  · exact fun _ => Path.refl e
  intro _
  refine path_bind (advanceTxWindow_path _ _ _ _) fun e₁ => ?_
  refine path_bind (advanceTxWindow_path _ _ _ _) fun e₂ => ?_
  exact setupRetransmitTimer_path e₂

lemma advanceOverImplicitAck_path (e : Endpoint) (w : WindowType) (psn : Psn) :
    Ensures AnyFault (Path e) (e.advanceOverImplicitAck w psn) := by
  apply Ensures.ite
  · exact fun _ => (Edit.tx _ _).andThen ((Edit.note rfl).andThen (gate_path _))
  · exact fun _ => Path.refl e

lemma handleImplicitAck_path (e : Endpoint) (rsn : Rsn) (t : PacketType) :
    Ensures AnyFault (Path e) (e.handleImplicitAck rsn t) := by
  unfold handleImplicitAck
  split
  · exact Path.refl e
  refine (ensures_any _).bind fun location _ => ?_
  refine (ensures_any _).bind fun tr _ => ?_
  refine (ensures_any _).bind fun pm _ => ?_
  split
  · apply Ensures.ite
    · exact fun _ => Path.refl e
    intro _
    apply Ensures.ite
    · exact fun _ => trivial
    intro _
    apply Ensures.ite
    · intro _
      refine path_bind (enqueueAckToUlp_path _ _ _) fun e₁ => ?_
      exact (Edit.tx _ _).andThen
        (path_bind (advanceOverImplicitAck_path _ _ _) setupRetransmitTimer_path)
    · exact fun _ => Path.refl e
  · trivial

/-! ## Timeouts, ACKs and NACKs -/

lemma retransmit_path {pm' : PacketMetadata} (htr : e.transactions key = some tr)
    (hpm : tr.packets t = some pm) (hsame : pm.Resends pm') (rsn : Rsn) (t' : PacketType) :
    Ensures AnyFault (Path e)
      ((e.setPacketMetadata key tr t pm').initiateRetransmission rsn t') :=
  (Edit.packet htr hpm hsame).andThen (initiateRetransmission_path _ _ _)

lemma timeoutScan_path (e : Endpoint) (w : WindowType) (l : List RetransmissionWorkId) :
    Ensures AnyFault (Path e) (e.timeoutScan w l) := by
  induction l generalizing e with
  | nil => exact Path.refl e
  | cons work rest ih =>
    apply Ensures.ite
    · exact fun _ => (Edit.tx _ _).andThen (ih _)
    intro _
    refine (e.getPacketMetadata_found _ _).bind ?_
    rintro ⟨key, tr, pm⟩ ⟨-, -, htr, hpm⟩
    apply Ensures.ite
    · exact fun _ => Path.refl e
    intro _
    apply Ensures.ite
    · exact fun _ => trivial
    intro _
    refine path_bind (retransmit_path htr hpm ?_ _ _) fun e₁ => (Edit.tx _ _).andThen (ih _)
    split <;> exact ⟨rfl, rfl, rfl, rfl, rfl, rfl, rfl, rfl⟩

lemma handleRetransmitTimeout_path (e : Endpoint) :
    Ensures AnyFault (Path e) e.handleRetransmitTimeout := by
  apply Ensures.ite
  · exact fun _ => Path.refl e
  intro _
  refine (Edit.rtoBase 0).andThen ?_
  refine path_bind (timeoutScan_path _ _ _) fun e₁ => ?_
  exact path_bind (timeoutScan_path _ _ _) setupRetransmitTimer_path

lemma ackFromBitmap_path (w : WindowType) (bitmap : BitVec rxBitmapWidth) (e : Endpoint)
    (index : Nat) : Ensures AnyFault (Path e) (ackFromBitmap w bitmap e index) := by
  apply Ensures.ite
  · exact fun _ => path_bind (enqueueAckToUlp_path _ _ _) fun _ => (Edit.tx _ _).path
  · exact fun _ => Path.refl e

lemma eackScan_path (w : WindowType) (received : BitVec rxBitmapWidth) (own : Bool) (limit : Int)
    (instantRtt : Time) (e : Endpoint) (force : Bool) (l : List RetransmissionWorkId) :
    Ensures AnyFault (Path e) (eackScan w received own limit instantRtt e force l) := by
  induction l generalizing e force with
  | nil => exact Path.refl e
  | cons work rest ih =>
    apply Ensures.ite
    · exact fun _ => Path.refl e
    intro _
    apply Ensures.ite
    · exact fun _ => ih e force
    intro _
    refine (e.getPacketMetadata_found _ _).bind ?_
    rintro ⟨key, tr, pm⟩ ⟨-, -, htr, hpm⟩
    apply Ensures.ite
    · exact fun _ => Path.refl e
    intro _
    apply Ensures.ite
    · intro _
      apply Ensures.ite
      · exact fun _ => trivial
      intro _
      refine path_bind (retransmit_path htr hpm ?_ _ _) fun e₁ => (Edit.tx _ _).andThen (ih _ _)
      exact ⟨rfl, rfl, rfl, rfl, rfl, rfl, rfl, rfl⟩
    intro _
    apply Ensures.ite
    · exact fun _ => ih e force
    · exact fun _ => Path.refl e

lemma processEACK_path (e : Endpoint) (p : AckPacket) (receivedTimestamp : Time) :
    Ensures AnyFault (fun q => Path e q.1) (e.processEACK p receivedTimestamp) := by
  apply Ensures.ite
  · intro _
    refine (foldlM_path (ackFromBitmap_path _ _) _ e).bind fun e₁ h₁ => ?_
    refine (foldlM_path (ackFromBitmap_path _ _) _ e₁).bind fun e₂ h₂ => ?_
    apply Ensures.ite
    · intro _
      refine (eackScan_path _ _ _ _ _ e₂ _ _).bind fun e₃ h₃ => ?_
      refine (eackScan_path _ _ _ _ _ e₃ _ _).bind fun e₄ h₄ => ?_
      exact ((h₁.trans h₂).trans h₃).trans h₄
    · exact fun _ => h₁.trans h₂
  · exact fun _ => Path.refl e

lemma handleACK_path (e : Endpoint) (p : AckPacket) (receivedTimestamp : Time) :
    Ensures AnyFault (Path e) (e.handleACK p receivedTimestamp) := by
  apply Ensures.ite
  · exact fun _ => Path.refl e
  intro _
  refine path_bind (advanceTxWindow_path _ _ _ _) fun e₁ => ?_
  refine path_bind (advanceTxWindow_path _ _ _ _) fun e₂ => ?_
  refine (processEACK_path _ _ _).bind fun q hq => ?_
  exact hq.andThen ((Edit.note rfl).andThen (setupRetransmitTimer_path _))

lemma nackScan_path (w : WindowType) (instantRtt : Time) (fuel : Nat) (e : Endpoint)
    (l : List RetransmissionWorkId) :
    Ensures AnyFault (Path e) (nackScan w instantRtt fuel e l) := by
  induction fuel generalizing e l with
  | zero =>
    cases l with
    | nil => exact Path.refl e
    | cons => trivial
  | succ fuel ih =>
    cases l with
    | nil => exact Path.refl e
    | cons work rest =>
      apply Ensures.ite
      · exact fun _ => Path.refl e
      intro _
      apply Ensures.ite
      · exact fun _ => ih e _
      intro _
      refine (e.getPacketMetadata_found _ _).bind ?_
      rintro ⟨key, tr, pm⟩ ⟨-, -, htr, hpm⟩
      apply Ensures.ite
      · exact fun _ => Path.refl e
      intro _
      apply Ensures.ite
      · intro _
        refine path_bind (retransmit_path htr hpm ?_ _ _) fun e₁ => (Edit.tx _ _).andThen (ih _ _)
        exact ⟨rfl, rfl, rfl, rfl, rfl, rfl, rfl, rfl⟩
      · exact fun _ => Path.refl e

lemma handleRnrNack_path (e : Endpoint) (p : NackPacket) :
    Ensures AnyFault (Path e) (e.handleRnrNack p) := by
  unfold handleRnrNack
  dsimp only
  split
  · apply Ensures.ite
    · exact fun _ => Path.refl e
    · exact fun _ => trivial
  · refine (e.getPacketMetadata_found _ _).bind ?_
    rintro ⟨key, tr, pm⟩ ⟨-, -, htr, hpm⟩
    refine (Edit.packet htr hpm ?_).andThen (setupRetransmitTimer_path _)
    exact ⟨rfl, rfl, rfl, rfl, rfl, rfl, rfl, rfl⟩

lemma handleNackCode_path (e : Endpoint) (p : NackPacket) (receivedTimestamp : Time) :
    Ensures AnyFault (Path e) (e.handleNackCode p receivedTimestamp) := by
  unfold handleNackCode
  split
  · exact Path.refl e
  · exact handleRnrNack_path e p
  · apply Ensures.ite
    · exact fun _ => nackScan_path _ _ _ _ _
    · exact fun _ => Path.refl e
  all_goals trivial

lemma handleNack_path (e : Endpoint) (p : NackPacket) (receivedTimestamp : Time) :
    Ensures AnyFault (Path e) (e.handleNack p receivedTimestamp) := by
  refine path_bind (handlePiggybackedACK_path _ _ _) fun e₁ => ?_
  refine path_bind (handleNackCode_path _ _ _) fun e₂ => ?_
  exact (Edit.note rfl).andThen (setupRetransmitTimer_path _)

end Endpoint

end Isekai.Falcon
