import Isekai.Rue.RateUpdateEngine

/-!
# Events and responses of the rate update engine

Every connection has at most one event or response, which its flag says. One task processes events
as long as there are some, and there is one task for each response.
-/

namespace Isekai.Rue

open Lib Function RueAction

variable {π μ φ ρ : Type} {agenda : Agenda RueTask} {index time : Nat}

def RueAction.enqueuedEvent : RueAction φ ρ → Option (RueEvent φ)
  | .enqueued event => some event
  | _ => none

def RueAction.processedEvent : RueAction φ ρ → Option (RueEvent φ)
  | .processed event _ => some event
  | _ => none

def RueAction.answer (c : RueConfig π μ φ ρ) : RueAction φ ρ → Option (RueResponse ρ)
  | .processed event now =>
    some { connectionId := event.connectionId, content := c.process event.content now }
  | _ => none

def RueAction.appliedResponse : RueAction φ ρ → Option (RueResponse ρ)
  | .applied response => some response
  | _ => none

/-- The engine without the metadata of its connections, apart from their flags. -/
@[ext] structure RueView (φ ρ : Type) where
  agenda : Agenda RueTask
  outstanding : Nat → Bool
  eventQueue : List (RueEvent φ)
  responseQueue : List (RueResponse ρ)
  queueScheduled : Bool
  history : List (RueAction φ ρ)

namespace RueView

variable (v : RueView φ ρ)

def record {α : Type} (f : RueAction φ ρ → Option α) : List α := v.history.reverse.filterMap f

def inFlight (cid : Nat) : Nat :=
  v.eventQueue.countP (fun event => event.connectionId = cid) +
    v.responseQueue.countP fun response => response.connectionId = cid

/-- Flags and events agree with the queues. -/
structure Kept (c : RueConfig π μ φ ρ) : Prop where
  flags : ∀ cid, v.inFlight cid = (v.outstanding cid).toNat
  scheduled : v.agenda.count (· = .processNextEvent) = v.queueScheduled.toNat
  waiting : v.eventQueue ≠ [] → v.queueScheduled = true
  responses : v.agenda.count (· = .handleNextResponse) = v.responseQueue.length
  processed : v.record enqueuedEvent = v.record processedEvent ++ v.eventQueue
  applied : v.record (answer c) = v.record appliedResponse ++ v.responseQueue
  bounded : c.eventQueueThreshold1 ≤ c.eventQueueSize → c.eventQueueThreshold2 ≤ c.eventQueueSize →
    c.eventQueueThreshold3 ≤ c.eventQueueSize → v.eventQueue.length ≤ c.eventQueueSize

def enqueue (event : RueEvent φ) : RueView φ ρ :=
  { v with
    agenda := if v.queueScheduled then v.agenda else v.agenda.schedule 1 .processNextEvent
    outstanding := update v.outstanding event.connectionId true
    eventQueue := v.eventQueue ++ [event]
    queueScheduled := true
    history := .enqueued event :: v.history }

def process (c : RueConfig π μ φ ρ) (event : RueEvent φ) (rest : List (RueEvent φ))
    (now latency : Nat) : RueView φ ρ :=
  { v with
    agenda := (v.agenda.schedule latency .processNextEvent).schedule (c.falconLatency + latency)
      .handleNextResponse
    eventQueue := rest
    responseQueue := v.responseQueue ++
      [{ connectionId := event.connectionId, content := c.process event.content now }]
    history := .processed event now :: v.history }

def apply (response : RueResponse ρ) (rest : List (RueResponse ρ)) : RueView φ ρ :=
  { v with
    outstanding := update v.outstanding response.connectionId false
    responseQueue := rest
    history := .applied response :: v.history }

variable {v} {c : RueConfig π μ φ ρ}

lemma record_cons {α : Type} {f : RueAction φ ρ → Option α} {v w : RueView φ ρ}
    {action : RueAction φ ρ} (h : w.history = action :: v.history) :
    w.record f = v.record f ++ (f action).toList := by
  unfold record
  rw [h, List.reverse_cons, List.filterMap_append]
  cases hf : f action <;> simp [hf]

lemma Kept.records (h : v.Kept c) {w : RueView φ ρ} (action : RueAction φ ρ)
    (hhistory : w.history = action :: v.history)
    (hevents : v.eventQueue ++ action.enqueuedEvent.toList =
      action.processedEvent.toList ++ w.eventQueue)
    (hresponses : v.responseQueue ++ (action.answer c).toList =
      action.appliedResponse.toList ++ w.responseQueue) :
    w.record enqueuedEvent = w.record processedEvent ++ w.eventQueue ∧
    w.record (answer c) = w.record appliedResponse ++ w.responseQueue := by
  constructor
  · rw [record_cons hhistory, record_cons hhistory, h.processed, List.append_assoc, hevents,
      List.append_assoc]
  · rw [record_cons hhistory, record_cons hhistory, h.applied, List.append_assoc, hresponses,
      List.append_assoc]

lemma inFlight_enqueue (event : RueEvent φ) (cid : Nat) :
    (v.enqueue event).inFlight cid =
      v.inFlight cid + if event.connectionId = cid then 1 else 0 := by
  simp only [inFlight, enqueue, List.countP_append, List.countP_singleton, decide_eq_true_eq]
  omega

lemma Kept.enqueue (h : v.Kept c) {event : RueEvent φ}
    (hnone : v.outstanding event.connectionId = false)
    (hroom : c.eventQueueThreshold1 ≤ c.eventQueueSize → c.eventQueueThreshold2 ≤ c.eventQueueSize →
      c.eventQueueThreshold3 ≤ c.eventQueueSize → v.eventQueue.length < c.eventQueueSize) :
    (v.enqueue event).Kept c := by
  obtain ⟨hprocessed, happlied⟩ := h.records (w := v.enqueue event) (.enqueued event) rfl rfl
    (List.append_nil _)
  refine ⟨fun cid => ?_, ?_, fun _ => rfl, ?_, hprocessed, happlied, fun h₁ h₂ h₃ => ?_⟩
  · rw [inFlight_enqueue, h.flags]
    by_cases heq : cid = event.connectionId
    · subst heq
      simp [RueView.enqueue, hnone]
    · simp [RueView.enqueue, heq, Ne.symm heq]
  · have hscheduled := h.scheduled
    cases hqueue : v.queueScheduled with
    | true => simpa [RueView.enqueue, hqueue] using hscheduled
    | false => simpa [RueView.enqueue, hqueue] using hscheduled
  · have hresponses := h.responses
    cases hqueue : v.queueScheduled with
    | true => simpa [RueView.enqueue, hqueue] using hresponses
    | false => simpa [RueView.enqueue, hqueue] using hresponses
  · have hlt := hroom h₁ h₂ h₃
    have hlength : (v.enqueue event).eventQueue.length = v.eventQueue.length + 1 := by
      simp [RueView.enqueue]
    omega

lemma Kept.count_fire {task : RueTask} (h : v.Kept c)
    (hget : v.agenda.pending[index]? = some (time, task)) :
    (v.agenda.fire time index).count (· = .processNextEvent) +
        (if task = .processNextEvent then 1 else 0) = v.queueScheduled.toNat ∧
      (v.agenda.fire time index).count (· = .handleNextResponse) +
        (if task = .handleNextResponse then 1 else 0) = v.responseQueue.length := by
  constructor
  · simpa [h.scheduled] using Agenda.count_fire (P := (· = .processNextEvent)) hget time
  · simpa [h.responses] using Agenda.count_fire (P := (· = .handleNextResponse)) hget time

lemma count_process (h : v.Kept c)
    (hget : v.agenda.pending[index]? = some (time, .processNextEvent)) :
    v.queueScheduled = true ∧ (v.agenda.fire time index).count (· = .processNextEvent) = 0 ∧
      (v.agenda.fire time index).count (· = .handleNextResponse) = v.responseQueue.length := by
  obtain ⟨hprocess, hhandle⟩ := h.count_fire hget
  cases hqueue : v.queueScheduled with
  | false => simp [hqueue] at hprocess
  | true => exact ⟨rfl, by simpa [hqueue] using hprocess, by simpa using hhandle⟩

lemma Kept.idle (h : v.Kept c) (hempty : v.eventQueue = [])
    (hprocess : agenda.count (· = .processNextEvent) = 0)
    (hhandle : agenda.count (· = .handleNextResponse) = v.responseQueue.length) :
    { v with agenda, queueScheduled := false }.Kept c :=
  ⟨h.flags, hprocess, fun hne => absurd hempty hne, hhandle, h.processed, h.applied, h.bounded⟩

lemma Kept.process (h : v.Kept c) {event : RueEvent φ} {rest : List (RueEvent φ)}
    (hqueue : v.eventQueue = event :: rest) (hscheduled : v.queueScheduled = true)
    (hprocess : agenda.count (· = .processNextEvent) = 0)
    (hhandle : agenda.count (· = .handleNextResponse) = v.responseQueue.length)
    (now latency : Nat) :
    ({ v with agenda }.process c event rest now latency).Kept c := by
  have hevents : v.eventQueue ++ [] = [event] ++ rest := by rw [List.append_nil, hqueue]; rfl
  obtain ⟨hprocessed, happlied⟩ := h.records
    (w := RueView.process { v with agenda } c event rest now latency) (.processed event now) rfl
    hevents rfl
  refine ⟨fun cid => ?_, ?_, fun _ => hscheduled, ?_, hprocessed, happlied, fun h₁ h₂ h₃ => ?_⟩
  · have hflag := h.flags cid
    rw [inFlight, hqueue, List.countP_cons] at hflag
    simp only [inFlight, RueView.process, List.countP_append, List.countP_singleton]
    omega
  · simp [RueView.process, hprocess, hscheduled]
  · simp [RueView.process, hhandle]
  · have hbounded := h.bounded h₁ h₂ h₃
    rw [hqueue, List.length_cons] at hbounded
    exact Nat.le_of_succ_le hbounded

lemma Kept.apply (h : v.Kept c) {response : RueResponse ρ} {rest : List (RueResponse ρ)}
    (hqueue : v.responseQueue = response :: rest)
    (hprocess : agenda.count (· = .processNextEvent) = v.queueScheduled.toNat)
    (hhandle : agenda.count (· = .handleNextResponse) + 1 = v.responseQueue.length) :
    ({ v with agenda }.apply response rest).Kept c := by
  have hresponses : v.responseQueue ++ [] = [response] ++ rest := by
    rw [List.append_nil, hqueue]
    rfl
  obtain ⟨hprocessed, happlied⟩ := h.records (w := RueView.apply { v with agenda } response rest)
    (.applied response) rfl (List.append_nil _) hresponses
  refine ⟨fun cid => ?_, hprocess, h.waiting, ?_, hprocessed, happlied, h.bounded⟩
  · have hflag := h.flags cid
    rw [inFlight, hqueue, List.countP_cons] at hflag
    by_cases heq : response.connectionId = cid
    · subst heq
      have hle := Bool.toNat_le (v.outstanding response.connectionId)
      rw [if_pos (decide_eq_true rfl)] at hflag
      simp only [inFlight, RueView.apply, update_self, Bool.toNat_false]
      omega
    · rw [if_neg (by simpa using heq)] at hflag
      simpa [inFlight, RueView.apply, Ne.symm heq] using hflag
  · rw [hqueue, List.length_cons] at hhandle
    exact Nat.succ.inj hhandle

lemma Kept.outstanding_of_response (h : v.Kept c) {response : RueResponse ρ}
    (hmem : response ∈ v.responseQueue) : v.outstanding response.connectionId = true := by
  have hpos : 0 < v.inFlight response.connectionId := by
    apply Nat.add_pos_right
    exact List.countP_pos_iff.mpr ⟨response, hmem, decide_eq_true rfl⟩
  rw [h.flags] at hpos
  cases hflag : v.outstanding response.connectionId with
  | true => rfl
  | false => simp [hflag] at hpos

lemma Kept.rtoReduction (h : v.Kept c) (cid : Nat) :
    ({ v with history := .rtoReduction cid :: v.history } : RueView φ ρ).Kept c := by
  obtain ⟨hprocessed, happlied⟩ := h.records
    (w := { v with history := .rtoReduction cid :: v.history }) (.rtoReduction cid) rfl
    (List.append_nil _) (List.append_nil _)
  exact ⟨h.flags, h.scheduled, h.waiting, h.responses, hprocessed, happlied, h.bounded⟩

end RueView

def RueFatal.NotBookkeeping (e : RueFatal) : Prop :=
  e ≠ .outstandingEvent ∧ e ≠ .queueNotScheduled ∧ e ≠ .emptyResponseQueue

namespace RateUpdateEngine

variable {c : RueConfig π μ φ ρ} {s : RateUpdateEngine μ φ ρ} {cid : Nat}
  {metadata metadata' : CcMetadata μ}

def view (s : RateUpdateEngine μ φ ρ) : RueView φ ρ where
  agenda := s.agenda
  outstanding cid := (s.connections cid).any CcMetadata.outstandingRueEvent
  eventQueue := s.eventQueue
  responseQueue := s.responseQueue
  queueScheduled := s.queueScheduled
  history := s.history

lemma view_setMetadata (s : RateUpdateEngine μ φ ρ) (cid : Nat) (metadata : CcMetadata μ) :
    (s.setMetadata cid metadata).view =
      { s.view with
        outstanding := update s.view.outstanding cid metadata.outstandingRueEvent } := by
  refine RueView.ext rfl ?_ rfl rfl rfl rfl
  funext cid'
  by_cases heq : cid' = cid
  · subst heq
    simp [view, setMetadata]
  · simp [view, setMetadata, heq]

lemma view_setMetadata_eq (h : s.view.outstanding cid = metadata.outstandingRueEvent) :
    (s.setMetadata cid metadata).view = s.view := by
  rw [view_setMetadata, ← h, update_eq_self]

lemma outstanding_of_connections (h : s.connections cid = some metadata) :
    s.view.outstanding cid = metadata.outstandingRueEvent := by
  simp [view, h]

lemma lookup_ensures (s : RateUpdateEngine μ φ ρ) (cid : Nat) :
    Ensures RueFatal.NotBookkeeping (fun metadata => s.connections cid = some metadata)
      (s.lookup cid) := by
  unfold lookup
  cases hmetadata : s.connections cid with
  | some metadata => rfl
  | none => exact ⟨nofun, nofun, nofun⟩

lemma updateOutstandingEvent_eq {value : Bool} (h : s.connections cid = some metadata)
    (hvalue : metadata.outstandingRueEvent ≠ value) :
    s.updateOutstandingEvent cid value =
      .ok (s.setMetadata cid { metadata with outstandingRueEvent := value }) := by
  have hlookup : s.lookup cid = .ok metadata := by rw [lookup, h]
  rw [updateOutstandingEvent, hlookup]
  exact if_neg hvalue

lemma of_canEnqueueEvent (h : s.canEnqueueEvent c metadata = true) :
    metadata.outstandingRueEvent = false ∧
    (c.eventQueueThreshold1 ≤ c.eventQueueSize → c.eventQueueThreshold2 ≤ c.eventQueueSize →
      c.eventQueueThreshold3 ≤ c.eventQueueSize → s.eventQueue.length < c.eventQueueSize) := by
  unfold canEnqueueEvent at h
  dsimp only at h
  split at h
  · cases h
  · rename_i hflag
    refine ⟨Bool.eq_false_iff.mpr hflag, fun h₁ h₂ h₃ => ?_⟩
    by_contra hfull
    rw [if_neg (by omega), if_neg (by omega), if_neg (by omega), if_neg hfull] at h
    cases h

lemma enqueueEvent_kept (h : s.view.Kept c) {old tested : CcMetadata μ}
    (hold : s.connections cid = some old) (hcan : ¬(!s.canEnqueueEvent c tested) = true)
    (htested : tested.outstandingRueEvent = old.outstandingRueEvent)
    (hsame : metadata.outstandingRueEvent = old.outstandingRueEvent) (content : Option φ) :
    Ensures RueFatal.NotBookkeeping (fun s' => s'.view.Kept c)
      (s.enqueueEvent cid metadata content) := by
  obtain ⟨hnone, hroom⟩ := of_canEnqueueEvent (c := c) (by simpa using hcan)
  have hnone' := htested.symm.trans hnone
  have hflag := (outstanding_of_connections hold).trans hnone'
  have hmetadata := hsame.trans hnone'
  cases content with
  | none => exact ⟨nofun, nofun, nofun⟩
  | some content =>
    let event : RueEvent φ := { connectionId := cid, content }
    let s₁ := ({ s.setMetadata cid metadata with eventQueue := s.eventQueue ++ [event] } :
      RateUpdateEngine μ φ ρ).emit (.enqueued event)
    let s₂ := s₁.setMetadata cid { metadata with outstandingRueEvent := true }
    have hconnections : s₁.connections cid = some metadata := update_self ..
    have hupdate : s₁.updateOutstandingEvent cid true = .ok s₂ :=
      updateOutstandingEvent_eq hconnections (by rw [hmetadata]; nofun)
    have houtstanding : s₂.view.outstanding = update s.view.outstanding cid true := by
      have hbefore : s₁.view.outstanding = (s.setMetadata cid metadata).view.outstanding := rfl
      rw [view_setMetadata, hbefore, view_setMetadata]
      exact update_idem ..
    have hkept : (s.view.enqueue event).Kept c := h.enqueue hflag hroom
    show Ensures _ _ (s₁.triggerEventProcessing cid)
    unfold triggerEventProcessing
    rw [hupdate]
    show Ensures _ _ (if s₂.queueScheduled then pure s₂ else _)
    split
    · rename_i hscheduled
      have hqueue : s.queueScheduled = true := hscheduled
      have hview : s₂.view = s.view.enqueue event :=
        RueView.ext (if_pos hqueue).symm houtstanding rfl rfl hqueue rfl
      rw [Ensures.pure_iff, hview]
      exact hkept
    · rename_i hscheduled
      have hqueue : ¬ s.queueScheduled = true := hscheduled
      have hview : (({ s₂ with queueScheduled := true } :
          RateUpdateEngine μ φ ρ).schedule 1 .processNextEvent).view = s.view.enqueue event :=
        RueView.ext (if_neg hqueue).symm houtstanding rfl rfl rfl rfl
      rw [Ensures.pure_iff, hview]
      exact hkept

lemma explicitAckReceived_kept (h : s.view.Kept c) (cid : Nat) (packet : π) (eack eackDrop : Bool) :
    Ensures RueFatal.NotBookkeeping (fun s' => s'.view.Kept c)
      (s.explicitAckReceived c cid packet eack eackDrop) := by
  refine .ite (fun _ => ⟨nofun, nofun, nofun⟩) fun _ => (s.lookup_ensures cid).bind
    fun metadata hmetadata => .ite (fun _ => h) fun hcan => ?_
  refine enqueueEvent_kept h hmetadata hcan rfl ?_ _
  rfl

lemma nackReceived_kept (h : s.view.Kept c) (cid : Nat) (packet : π) :
    Ensures RueFatal.NotBookkeeping (fun s' => s'.view.Kept c) (s.nackReceived c cid packet) := by
  refine .ite (fun _ => ⟨nofun, nofun, nofun⟩) fun _ => (s.lookup_ensures cid).bind
    fun metadata hmetadata => .ite (fun _ => h) fun hcan => ?_
  refine enqueueEvent_kept h hmetadata hcan rfl ?_ _
  rfl

lemma packetTimeoutRetransmitted_kept (h : s.view.Kept c) (cid : Nat) (packet : π)
    (retransmitCount : Nat) :
    Ensures RueFatal.NotBookkeeping (fun s' => s'.view.Kept c)
      (s.packetTimeoutRetransmitted c cid packet retransmitCount) := by
  refine .ite (fun _ => ⟨nofun, nofun, nofun⟩) fun _ => .ite (fun _ => ⟨nofun, nofun, nofun⟩)
    fun _ => (s.lookup_ensures cid).bind fun metadata hmetadata => .ite (fun _ => ?_) fun hcan => ?_
  · have hflag := outstanding_of_connections hmetadata
    have hview : (s.setMetadata cid { metadata with numAcked := 0 }).view = s.view :=
      view_setMetadata_eq hflag
    rw [Ensures.pure_iff, hview]
    exact h
  · refine enqueueEvent_kept h hmetadata hcan rfl ?_ _
    rfl

lemma packetAcked_kept (h : s.view.Kept c) (cid : Nat) :
    Ensures RueFatal.NotBookkeeping (fun s' => s'.view.Kept c) (s.packetAcked cid) := by
  refine (s.lookup_ensures cid).bind fun metadata hmetadata => ?_
  have hflag := outstanding_of_connections hmetadata
  have hview : (s.setMetadata cid
      { metadata with numAcked := (metadata.numAcked + 1) % 2 ^ 32 }).view = s.view :=
    view_setMetadata_eq hflag
  rw [Ensures.pure_iff, hview]
  exact h

lemma processNextEvent_kept (h : s.view.Kept c)
    (hget : s.agenda.pending[index]? = some (time, .processNextEvent)) (latency : Nat) :
    Ensures RueFatal.NotBookkeeping (fun s' => s'.view.Kept c)
      ({ s with agenda := s.agenda.fire time index }.processNextEvent c latency) := by
  obtain ⟨hscheduled, hprocess, hhandle⟩ := RueView.count_process h hget
  have hqueue : s.queueScheduled = true := hscheduled
  unfold processNextEvent
  rw [if_neg (by simp [hqueue])]
  split
  · rename_i hevents
    exact h.idle hevents hprocess hhandle
  · rename_i event rest hevents
    refine .ite (fun _ => ⟨nofun, nofun, nofun⟩) fun _ => ?_
    exact h.process hevents hscheduled hprocess hhandle _ latency

lemma finishResponse_kept {v : RueView φ ρ} (hconnections : s.connections cid = some metadata)
    (hflag : metadata.outstandingRueEvent = true) (hview : s.view = v)
    (h : ({ v with outstanding := update v.outstanding cid false } : RueView φ ρ).Kept c)
    (before after : Nat) :
    Ensures RueFatal.NotBookkeeping (fun s' => s'.view.Kept c)
      ((s.handleRtoReduction cid before after).updateOutstandingEvent cid false) := by
  subst hview
  unfold handleRtoReduction
  split
  · have hemit : (s.emit (.rtoReduction cid)).connections cid = some metadata := hconnections
    rw [updateOutstandingEvent_eq hemit (by rw [hflag]; nofun), Ensures.ok_iff, view_setMetadata]
    exact h.rtoReduction cid
  · rw [updateOutstandingEvent_eq hconnections (by rw [hflag]; nofun), Ensures.ok_iff,
      view_setMetadata]
    exact h

lemma view_applied {response : RueResponse ρ} {rest : List (RueResponse ρ)}
    (hconnections : s.connections cid = some metadata)
    (hflag : metadata'.outstandingRueEvent = metadata.outstandingRueEvent) :
    ((({ s with agenda, responseQueue := rest } : RateUpdateEngine μ φ ρ).setMetadata cid
      metadata').emit (.applied response)).view =
      { s.view with agenda, responseQueue := rest, history := .applied response :: s.history } := by
  refine RueView.ext rfl ?_ rfl rfl rfl rfl
  have hsame : s.view.outstanding cid = metadata'.outstandingRueEvent :=
    (outstanding_of_connections hconnections).trans hflag.symm
  have hview : (s.setMetadata cid metadata').view.outstanding = s.view.outstanding :=
    congrArg RueView.outstanding (view_setMetadata_eq hsame)
  exact hview

lemma handleNextResponse_kept (h : s.view.Kept c)
    (hget : s.agenda.pending[index]? = some (time, .handleNextResponse)) :
    Ensures RueFatal.NotBookkeeping (fun s' => s'.view.Kept c)
      ({ s with agenda := s.agenda.fire time index }.handleNextResponse c) := by
  obtain ⟨hprocess, hhandle⟩ : _ ∧ _ + 1 = _ := h.count_fire hget
  unfold handleNextResponse
  split
  · rename_i hresponses
    have hlength : s.view.responseQueue.length = 0 := congrArg List.length hresponses
    rw [hlength] at hhandle
    cases hhandle
  · rename_i response rest hresponses
    have hresponses' : s.view.responseQueue = response :: rest := hresponses
    have houtstanding : s.view.outstanding response.connectionId = true :=
      h.outstanding_of_response (by rw [hresponses']; exact List.mem_cons_self)
    have hkept := h.apply hresponses' hprocess hhandle
    refine (lookup_ensures _ _).bind fun metadata hmetadata => ?_
    have hmetadata' : s.connections response.connectionId = some metadata := hmetadata
    have hflag : metadata.outstandingRueEvent = true :=
      (outstanding_of_connections hmetadata').symm.trans houtstanding
    have hupdated : ({ metadata with
        rest := c.updateFromResponse metadata.rest response.content } :
          CcMetadata μ).outstandingRueEvent = metadata.outstandingRueEvent := rfl
    exact finishResponse_kept (update_self ..) (hupdated.trans hflag)
      (view_applied hmetadata' hupdated) hkept _ _

theorem next_kept (h : s.view.Kept c) {l : RueLabel π μ} (hallowed : s.allowed l) :
    Ensures RueFatal.NotBookkeeping (fun s' => s'.view.Kept c) (s.next c l) := by
  have hadvance : ∀ time, s.agenda.Reaches time →
      ({ s with agenda := s.agenda.advance time } : RateUpdateEngine μ φ ρ).view.Kept c :=
    fun time _ => ⟨h.flags, h.scheduled, h.waiting, h.responses, h.processed, h.applied, h.bounded⟩
  cases l with
  | initializeMetadata cid rest =>
    have hnone : s.connections cid = none := Option.isNone_iff_eq_none.mp hallowed
    have hflag : s.view.outstanding cid = ({ rest } : CcMetadata μ).outstandingRueEvent := by
      simp [view, hnone]
    show (s.setMetadata cid { rest }).view.Kept c
    rw [view_setMetadata_eq hflag]
    exact h
  | packetAcked cid => exact packetAcked_kept h cid
  | explicitAckReceived time cid packet eack eackDrop =>
    exact explicitAckReceived_kept (hadvance time hallowed) cid packet eack eackDrop
  | nackReceived time cid packet => exact nackReceived_kept (hadvance time hallowed) cid packet
  | packetTimeoutRetransmitted time cid packet retransmitCount =>
    exact packetTimeoutRetransmitted_kept (hadvance time hallowed) cid packet retransmitCount
  | task index latency =>
    obtain ⟨⟨time, task⟩, hget, -⟩ := hallowed
    have hget' : s.agenda.pending[index]? = some (time, task) := hget
    simp only [next, hget']
    cases task with
    | processNextEvent => exact processNextEvent_kept h hget' latency
    | handleNextResponse => exact handleNextResponse_kept h hget'

end RateUpdateEngine

lemma RueView.initial_kept (c : RueConfig π μ φ ρ) :
    ({} : RateUpdateEngine μ φ ρ).view.Kept c :=
  ⟨fun _ => rfl, rfl, fun hne => absurd rfl hne, rfl, rfl, rfl, fun _ _ _ => Nat.zero_le _⟩

variable {c : RueConfig π μ φ ρ} {s : RateUpdateEngine μ φ ρ}

/-- The bookkeeping of the engine, in every run. -/
theorem rue_bookkeeping (h : c.system.Reachable (fun _ _ => True) s) :
    (∀ cid, s.view.inFlight cid ≤ 1 ∧ (s.view.outstanding cid = true ↔ s.view.inFlight cid = 1)) ∧
    s.agenda.count (· = .processNextEvent) = s.queueScheduled.toNat ∧
    (s.eventQueue ≠ [] → s.queueScheduled = true) ∧
    s.agenda.count (· = .handleNextResponse) = s.responseQueue.length ∧
    s.view.record enqueuedEvent =
      s.view.record processedEvent ++ s.eventQueue ∧
    s.view.record (answer c) =
      s.view.record appliedResponse ++ s.responseQueue ∧
    (c.eventQueueThreshold1 ≤ c.eventQueueSize → c.eventQueueThreshold2 ≤ c.eventQueueSize →
      c.eventQueueThreshold3 ≤ c.eventQueueSize → s.eventQueue.length ≤ c.eventQueueSize) ∧
    ∀ l, s.allowed l → c.system.next s l ≠ .error .outstandingEvent ∧
      c.system.next s l ≠ .error .queueNotScheduled ∧
      c.system.next s l ≠ .error .emptyResponseQueue := by
  have hkept : s.view.Kept c :=
    h.invariant (I := fun s => s.view.Kept c) (E := RueFatal.NotBookkeeping)
      (fun s hs => hs ▸ RueView.initial_kept c)
      fun s l hs hallowed _ => RateUpdateEngine.next_kept hs hallowed
  refine ⟨fun cid => ?_, hkept.scheduled, hkept.waiting, hkept.responses, hkept.processed,
    hkept.applied, hkept.bounded, fun l hallowed => ?_⟩
  · rw [hkept.flags]
    cases s.view.outstanding cid <;> decide
  · have hnext := RateUpdateEngine.next_kept hkept hallowed
    exact ⟨fun herror => (hnext.of_error herror).1 rfl, fun herror =>
      (hnext.of_error herror).2.1 rfl,
      fun herror => (hnext.of_error herror).2.2 rfl⟩

def packetCountConfig : RueConfig Unit Nat Nat Nat where
  falconLatency := 40
  eventQueueSize := 8
  eventQueueThreshold1 := 2
  eventQueueThreshold2 := 4
  eventQueueThreshold3 := 6
  predicate1TimeThreshold := 100
  predicate2PacketCountThreshold := 3
  falconTimeUnits time := time / 131
  fillExplicitAckEvent _ _ numPacketsAcked _ _ := some numPacketsAcked
  fillNackEvent _ _ numPacketsAcked := some numPacketsAcked
  fillTimeoutRetransmittedEvent _ _ _ := some 0
  process content _ := content + 1
  updateFromResponse _ content := content
  retransmitTimeout rest := rest

/-- Two connections with an event each. -/
theorem rue_bookkeeping_twoConnections :
    ∃ s, packetCountConfig.system.Reachable (fun _ _ => True) s ∧
      s.view.record appliedResponse = [⟨1, 2⟩] ∧ s.responseQueue = [⟨2, 1⟩] ∧
      s.view.record (answer packetCountConfig) = [⟨1, 2⟩] ++ [⟨2, 1⟩] := by
  obtain ⟨s, hs, happlied, hresponses⟩ := TransitionSystem.Reachable.exists_of_run
    (T := packetCountConfig.system) (C := fun _ _ => True)
    (P := fun s => s.view.record appliedResponse = [⟨1, 2⟩] ∧
      s.responseQueue = [⟨2, 1⟩]) (s := {})
    [.initializeMetadata 1 500, .initializeMetadata 2 500, .packetAcked 1,
      .explicitAckReceived 5 1 () false false, .nackReceived 6 2 (), .task 0 10, .task 0 0,
      .task 1 0, .task 0 0] rfl (by decide +kernel)
  refine ⟨s, hs, happlied, hresponses, ?_⟩
  have horder := (rue_bookkeeping hs).2.2.2.2.2.1
  rw [happlied, hresponses] at horder
  exact horder

end Isekai.Rue
