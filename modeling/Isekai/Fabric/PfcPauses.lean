import Isekai.Fabric.RouterSteps

/-!
# Received PFC frames

A received PFC frame pauses the queues of its classes after a delay. There is one pause message for
each queue, which carries the duration.
-/

namespace Isekai.Fabric

open Lib TransitionSystem

def RouterAction.receivedAt {n q : Nat} (port : Fin n) (priority : Fin q) :
    RouterAction n q → Option (Nat × Nat)
  | .receivedPfc port' priority' time duration =>
    if port' = port ∧ priority' = priority then some (time, duration) else none
  | _ => none

def RouterAction.pausedAt {n q : Nat} (port : Fin n) (priority : Fin q) :
    RouterAction n q → Option (Nat × Nat)
  | .pausedPfc port' priority' time duration =>
    if port' = port ∧ priority' = priority then some (time, duration) else none
  | _ => none

/-- The pause messages, the times when the queues are not paused any more, and the frames and pauses
of each queue, the latest first. -/
@[ext] structure PauseView (n q : Nat) where
  now : Nat
  messages : Fin n → Fin q → PfcMessage
  unpauseTimes : Fin n → Fin q → Nat
  received : Fin n → Fin q → List (Nat × Nat)
  paused : Fin n → Fin q → List (Nat × Nat)

def PfcMessage.pending (message : PfcMessage) : List (Nat × Nat) :=
  (message.arrivalTime.map fun time => (time, message.pauseDuration)).toList

namespace Router

variable {n q : Nat} {c : RouterConfig n q} {s s' : Router n q} {port : Fin n} {wred : Bool}
  {packet : Packet n q}

def pauses (s : Router n q) : PauseView n q where
  now := s.now
  messages := s.pfcSetPausedMessages
  unpauseTimes := s.txQueueUnpauseTimes
  received port priority := s.history.filterMap (RouterAction.receivedAt port priority)
  paused port priority := s.history.filterMap (RouterAction.pausedAt port priority)

def spaced (s : Router n q) : RouterLabel n q → Prop
  | .receivePacket _ port (.pfc _ frame) => ∀ priority, frame.classEnable priority = true →
    (s.pfcSetPausedMessages port priority).arrivalTime = none
  | _ => True

instance (s : Router n q) : (l : RouterLabel n q) → Decidable (s.spaced l)
  | .receivePacket _ port (.pfc _ frame) => inferInstanceAs (Decidable (∀ priority,
    frame.classEnable priority = true →
    (s.pfcSetPausedMessages port priority).arrivalTime = none))
  | .receivePacket _ _ (.data ..) => instDecidableTrue
  | .routerDelay .. => instDecidableTrue
  | .outputScheduling .. => instDecidableTrue
  | .setPfcPaused .. => instDecidableTrue
  | .pfcRefreshment .. => instDecidableTrue
  | .pfcPauseSend .. => instDecidableTrue

lemma Unchanged.pauses (h : s.Unchanged s') : s'.pauses = s.pauses := by
  unfold Router.pauses
  rw [h.now, h.pfcSetPausedMessages, h.txQueueUnpauseTimes, h.history]

lemma filterMap_cons_toList {α β : Type} (f : α → Option β) (a : α) (l : List α) :
    (a :: l).filterMap f = (f a).toList ++ l.filterMap f := by
  cases h : f a with
  | none => exact List.filterMap_cons_none h
  | some b => exact List.filterMap_cons_some h

lemma received_emit (s : Router n q) (action : RouterAction n q) (port : Fin n) (priority : Fin q) :
    (s.emit action).pauses.received port priority =
      (action.receivedAt port priority).toList ++ s.pauses.received port priority :=
  filterMap_cons_toList ..

lemma paused_emit (s : Router n q) (action : RouterAction n q) (port : Fin n) (priority : Fin q) :
    (s.emit action).pauses.paused port priority =
      (action.pausedAt port priority).toList ++ s.pauses.paused port priority :=
  filterMap_cons_toList ..

lemma pauses_emit {action : RouterAction n q} (s : Router n q)
    (hreceived : ∀ port priority, action.receivedAt port priority = none)
    (hpaused : ∀ port priority, action.pausedAt port priority = none) :
    (s.emit action).pauses = s.pauses := by
  refine PauseView.ext rfl rfl rfl ?_ ?_
  · funext port priority
    rw [received_emit, hreceived]
    rfl
  · funext port priority
    rw [paused_emit, hpaused]
    rfl

lemma dequeue_pauses {priority : Fin q} (h : s.dequeue c port priority wred = .ok s') :
    s'.pauses = s.pauses := by
  unfold dequeue at h
  split at h
  · cases h
    rfl
  · rename_i packet rest hqueue
    obtain ⟨⟨mmu, packet', xon⟩, hdequeued, h⟩ := exists_of_bind_eq_ok h
    obtain ⟨s₁, hs₁, h⟩ := exists_of_bind_eq_ok h
    cases h
    rw [pauses_emit s₁ (fun _ _ => rfl) (fun _ _ => rfl), (sendXon_unchanged hs₁).pauses]
    rfl

lemma scheduleOutput_pauses {transmissionDelay : Nat}
    (h : s.scheduleOutput c port wred transmissionDelay = .ok s') : s'.pauses = s.pauses := by
  unfold scheduleOutput at h
  dsimp only at h
  split at h
  · cases h
  split at h
  · exact (sendPacket_unchanged h).pauses
  · split at h
    · obtain ⟨s₁, hs₁, h⟩ := exists_of_bind_eq_ok h
      exact (sendPacket_unchanged h).pauses.trans (dequeue_pauses hs₁)
    · cases h
      rfl

lemma resumeOutput_pauses {transmissionDelay : Nat}
    (h : s.resumeOutput c port wred transmissionDelay = .ok s') : s'.pauses = s.pauses := by
  unfold resumeOutput at h
  split at h
  · have hpauses := scheduleOutput_pauses h
    exact hpauses
  · cases h
    rfl

lemma enqueuePacket_pauses [NeZero q] (h : s.enqueuePacket c port wred packet = .ok s') :
    s'.pauses = s.pauses := by
  obtain ⟨⟨mmu, packet', enqueued⟩, hrequest, h⟩ := exists_of_bind_eq_ok h
  simp only at h
  split at h
  · exact (wakePort_unchanged h).pauses
  · cases h
    exact pauses_emit _ (fun _ _ => rfl) (fun _ _ => rfl)

lemma routePacket_pauses [NeZero q] {outputPort : Option (Fin n)}
    (h : s.routePacket c packet outputPort wred = .ok s') : s'.pauses = s.pauses := by
  unfold routePacket at h
  split at h
  · cases h
    exact pauses_emit _ (fun _ _ => rfl) (fun _ _ => rfl)
  · dsimp only at h
    split at h
    · cases h
      exact pauses_emit _ (fun _ _ => rfl) (fun _ _ => rfl)
    · split at h
      · cases h
      · exact enqueuePacket_pauses h

lemma receiveData_pauses [NeZero q] {byteLength : Nat}
    (h : s.receivePacket c port (.data byteLength packet) = .ok s') : s'.pauses = s.pauses := by
  simp only [receivePacket] at h
  split at h
  · cases h
    rfl
  · obtain ⟨⟨mmu, memoryOccupancy, triggers⟩, hreceived, h⟩ := exists_of_bind_eq_ok h
    obtain ⟨s₁, hs₁, h⟩ := exists_of_bind_eq_ok h
    have hpauses : s₁.pauses = s.pauses := (enablePfcSending_unchanged hs₁).pauses
    cases h
    rw [← hpauses]
    unfold routeOrDrop
    split
    · rfl
    · exact pauses_emit _ (fun _ _ => rfl) (fun _ _ => rfl)

def NotRescheduled {α : Type} (x : Except RouterFatal α) : Prop :=
  Ensures (fun e => e ≠ .pfcMessageAlreadyScheduled) (fun _ => True) x

lemma NotRescheduled.bind {α β : Type} {x : Except RouterFatal α} {f : α → Except RouterFatal β}
    (hx : NotRescheduled x) (hf : ∀ a, NotRescheduled (f a)) : NotRescheduled (x >>= f) :=
  Ensures.bind hx fun a _ => hf a

lemma NotRescheduled.liftMmu {α : Type} (x : Except MmuFatal α) : NotRescheduled (liftMmu x) := by
  cases x with
  | ok a => trivial
  | error e => exact nofun

lemma scheduleOutputAfter_notRescheduled (s : Router n q) (port : Fin n) (delay : Nat) :
    NotRescheduled (s.scheduleOutputAfter port delay) :=
  .ite (fun _ => nofun) fun _ => trivial

lemma wakePort_notRescheduled (s : Router n q) (port : Fin n) : NotRescheduled (s.wakePort port) :=
  .ite (fun _ => scheduleOutputAfter_notRescheduled ..) fun _ => trivial

lemma generatePfc_notRescheduled (s : Router n q) (port : Fin n) (priority : Fin q)
    (pauseUnits : Int) : NotRescheduled (s.generatePfc port priority pauseUnits) := by
  unfold generatePfc
  dsimp only
  split
  · exact wakePort_notRescheduled ..
  · exact wakePort_notRescheduled ..
  · exact nofun

lemma sendPfc_notRescheduled (s : Router n q) (port : Fin n) (priority : Fin q) :
    NotRescheduled (s.sendPfc c port priority) :=
  .ite (fun _ => trivial) fun _ => (generatePfc_notRescheduled ..).bind fun _ => trivial

lemma sendXon_notRescheduled (s : Router n q) (xon : Option (Fin n × Fin q)) :
    NotRescheduled (s.sendXon xon) := by
  cases xon with
  | some ingress => exact generatePfc_notRescheduled ..
  | none => trivial

lemma dequeue_notRescheduled (s : Router n q) (port : Fin n) (priority : Fin q) (wred : Bool) :
    NotRescheduled (s.dequeue c port priority wred) := by
  unfold dequeue
  split
  · trivial
  · exact (NotRescheduled.liftMmu _).bind fun _ => (sendXon_notRescheduled ..).bind fun _ => trivial

lemma scheduleOutput_notRescheduled (s : Router n q) (port : Fin n) (wred : Bool)
    (transmissionDelay : Nat) : NotRescheduled
      (s.scheduleOutput c port wred transmissionDelay) := by
  refine .ite (fun _ => nofun) fun _ => ?_
  split
  · exact scheduleOutputAfter_notRescheduled ..
  · split
    · exact (dequeue_notRescheduled ..).bind fun _ => scheduleOutputAfter_notRescheduled ..
    · trivial

lemma enqueuePacket_notRescheduled [NeZero q] (s : Router n q) (port : Fin n) (wred : Bool)
    (packet : Packet n q) : NotRescheduled (s.enqueuePacket c port wred packet) :=
  (NotRescheduled.liftMmu _).bind fun _ => .ite (fun _ => wakePort_notRescheduled ..)
    fun _ => trivial

lemma routePacket_notRescheduled [NeZero q] (s : Router n q) (packet : Packet n q)
    (outputPort : Option (Fin n)) (wred : Bool) :
    NotRescheduled (s.routePacket c packet outputPort wred) := by
  refine .ite (fun _ => trivial) fun _ => ?_
  cases outputPort with
  | none => trivial
  | some port => exact .ite (fun _ => nofun) fun _ => enqueuePacket_notRescheduled ..

lemma receiveData_notRescheduled [NeZero q] (s : Router n q) (port : Fin n) (byteLength : Nat)
    (packet : Packet n q) : NotRescheduled (s.receivePacket c port (.data byteLength packet)) := by
  refine .ite (fun _ => trivial) fun _ => (NotRescheduled.liftMmu _).bind fun _ =>
    NotRescheduled.bind ?_ fun _ => trivial
  exact .ite (fun _ => sendPfc_notRescheduled ..) fun _ => trivial

end Router

/-- The frames that were received for a queue are those that have paused it, with their durations
and after the delay, and the one whose message is pending. The latest pause is in effect. -/
structure PauseView.Matched {n q : Nat} (c : RouterConfig n q) (v : PauseView n q) : Prop where
  frames : ∀ port priority,
    (v.received port priority).map (fun frame => (frame.1 + c.rxPfcDelay, frame.2)) =
      (v.messages port priority).pending ++ v.paused port priority
  due : ∀ port priority, ∀ time ∈ (v.messages port priority).arrivalTime, v.now ≤ time
  applied : ∀ port priority, v.unpauseTimes port priority =
    ((v.paused port priority).head?.map fun pause => pause.1 + pause.2).getD 0

namespace Router

variable {n q : Nat} {c : RouterConfig n q} {s s' : Router n q} {port : Fin n} {frame : PfcFrame q}

lemma receivedPfcClass_matched {priority : Fin q} (h : s.pauses.Matched c)
    (hspaced : frame.classEnable priority = true →
      (s.pfcSetPausedMessages port priority).arrivalTime = none) :
    Ensures (fun e => e ≠ .pfcMessageAlreadyScheduled)
      (fun s' => s'.pauses.Matched c ∧ ∀ priority', priority' ≠ priority →
        s'.pfcSetPausedMessages port priority' = s.pfcSetPausedMessages port priority')
      (receivedPfcClass c port frame s priority) := by
  refine .ite (fun henabled => .ite (fun _ => nofun) fun _ => ?_) fun _ => ⟨h, fun _ _ => rfl⟩
  have hnone := hspaced henabled
  rw [if_neg (by rw [hnone]; exact Bool.false_ne_true)]
  refine ⟨⟨fun port' priority' => ?_, fun port' priority' time htime => ?_,
    fun port' priority' => ?_⟩,
    fun priority' hne => ?_⟩
  · rw [received_emit, paused_emit, RouterAction.receivedAt]
    by_cases heq : port' = port ∧ priority' = priority
    · obtain ⟨rfl, rfl⟩ := heq
      have hframes := h.frames port' priority'
      have hpending : (s.pauses.messages port' priority').pending = [] := by
        simp [PfcMessage.pending, pauses, hnone]
      rw [hpending] at hframes
      rw [if_pos ⟨rfl, rfl⟩]
      refine (congrArg (List.cons _) hframes).trans ?_
      simp [PfcMessage.pending, pauses, emit, RouterAction.pausedAt]
    · rw [if_neg fun hsame => heq ⟨hsame.1.symm, hsame.2.symm⟩]
      refine (h.frames port' priority').trans (congrArg₂ _ (congrArg _ ?_) rfl)
      exact (setAt_of_ne heq).symm
  · by_cases heq : port' = port ∧ priority' = priority
    · obtain ⟨rfl, rfl⟩ := heq
      have hscheduled : s.now + c.rxPfcDelay = time := by
        simpa [pauses, emit] using htime
      rw [← hscheduled]
      exact Nat.le_add_right ..
    · refine h.due port' priority' time ?_
      simpa only [pauses, emit, setAt_of_ne heq] using htime
  · rw [paused_emit]
    exact h.applied port' priority'
  · exact setAt_of_ne fun heq => hne heq.2

lemma receivedPfc_receives (h : s.receivedPfc c port frame = .ok s') :
    ∀ priority, frame.classEnable priority = true →
      .receivedPfc port priority s.now (c.convertToPauseDuration port (frame.timeClass priority)) ∈
        s'.history := by
  have hloop := Ensures.foldlM (E := fun _ => True) (f := receivedPfcClass c port frame) (s := s)
    (I := fun done s₁ => s₁.now = s.now ∧ ∀ priority ∈ done, frame.classEnable priority = true →
      .receivedPfc port priority s.now (c.convertToPauseDuration port (frame.timeClass priority)) ∈
        s₁.history)
    (List.finRange q) ?_ ⟨rfl, nofun⟩
  · exact fun priority => (hloop.of_ok h).2 priority (List.mem_finRange priority)
  · intro done priority rest s₁ _ ⟨hnow, hdone⟩
    refine .ite (fun henabled => .ite (fun _ => trivial) fun _ => .ite (fun _ => trivial) fun _ =>
      ⟨hnow, fun priority' hmem hpriority' => ?_⟩)
      fun hdisabled => ⟨hnow, fun priority' hmem hpriority' => ?_⟩
    · rcases List.mem_append.mp hmem with hmem | hmem
      · exact List.mem_cons_of_mem _ (hdone priority' hmem hpriority')
      · rw [List.mem_singleton.mp hmem, ← hnow]
        exact List.mem_cons_self
    · rcases List.mem_append.mp hmem with hmem | hmem
      · exact hdone priority' hmem hpriority'
      · rw [List.mem_singleton.mp hmem] at hpriority'
        exact absurd hpriority' hdisabled

lemma receivedPfc_matched (h : s.pauses.Matched c)
    (hspaced : ∀ priority, frame.classEnable priority = true →
      (s.pfcSetPausedMessages port priority).arrivalTime = none) :
    Ensures (fun e => e ≠ .pfcMessageAlreadyScheduled) (fun s' => s'.pauses.Matched c)
      (s.receivedPfc c port frame) := by
  have hloop := Ensures.foldlM (E := fun e => e ≠ RouterFatal.pfcMessageAlreadyScheduled)
    (f := receivedPfcClass c port frame) (s := s)
    (I := fun done s₁ => s₁.pauses.Matched c ∧ ∀ priority ∉ done,
      s₁.pfcSetPausedMessages port priority = s.pfcSetPausedMessages port priority)
    (List.finRange q) ?_ ⟨h, fun _ _ => rfl⟩
  · exact hloop.imp fun s' hs' => hs'.1
  · intro done priority rest s₁ hl hs₁
    have hnodup := List.nodup_finRange q
    rw [hl] at hnodup
    have hfresh : priority ∉ done := fun hmem =>
      (List.nodup_append.mp hnodup).2.2 _ hmem _ List.mem_cons_self rfl
    refine (receivedPfcClass_matched hs₁.1 ?_).imp
      fun s' hs' => ⟨hs'.1, fun priority' hpriority' => ?_⟩
    · rw [hs₁.2 priority hfresh]
      exact hspaced priority
    · rw [List.mem_append, List.mem_singleton, not_or] at hpriority'
      rw [hs'.2 priority' hpriority'.2, hs₁.2 priority' hpriority'.1]

variable [NeZero q] {l : RouterLabel n q}

lemma handleMessage_notRescheduled
    (hreceive : ∀ time port byteLength frame, l ≠ .receivePacket time port
      (.pfc byteLength frame)) :
    NotRescheduled (s.handleMessage c l) := by
  cases l with
  | receivePacket time port frame =>
    cases frame with
    | data byteLength packet => exact receiveData_notRescheduled ..
    | pfc byteLength frame => exact absurd rfl (hreceive time port byteLength frame)
  | routerDelay index outputPort wred =>
    simp only [handleMessage]
    split
    · exact routePacket_notRescheduled ..
    · trivial
  | outputScheduling port wred transmissionDelay => exact scheduleOutput_notRescheduled ..
  | setPfcPaused port priority => trivial
  | pfcRefreshment port priority wred transmissionDelay =>
    exact .ite (fun _ => scheduleOutput_notRescheduled ..) fun _ => trivial
  | pfcPauseSend port priority => exact sendPfc_notRescheduled ..

lemma handleMessage_pauses (h : s.handleMessage c l = .ok s')
    (hreceive : ∀ time port byteLength frame, l ≠ .receivePacket time port (.pfc byteLength frame))
    (hpause : ∀ port priority, l ≠ .setPfcPaused port priority) : s'.pauses = s.pauses := by
  cases l with
  | receivePacket time port frame =>
    cases frame with
    | data byteLength packet => exact receiveData_pauses h
    | pfc byteLength frame => exact absurd rfl (hreceive time port byteLength frame)
  | routerDelay index outputPort wred =>
    simp only [handleMessage] at h
    split at h
    · have hpauses := routePacket_pauses h
      exact hpauses
    · cases h
      rfl
  | outputScheduling port wred transmissionDelay =>
    have hpauses := scheduleOutput_pauses h
    exact hpauses
  | setPfcPaused port priority => exact absurd rfl (hpause port priority)
  | pfcRefreshment port priority wred transmissionDelay =>
    have hpauses := resumeOutput_pauses h
    exact hpauses
  | pfcPauseSend port priority => exact (sendPfc_unchanged h).pauses

lemma setPfcPaused_matched (h : s.pauses.Matched c) {priority : Fin q}
    (harrival : (s.pfcSetPausedMessages port priority).arrivalTime = some s.now)
    (hs' : s.handleMessage c (.setPfcPaused port priority) = .ok s') : s'.pauses.Matched c := by
  cases hs'
  refine ⟨fun port' priority' => ?_, fun port' priority' time htime => ?_,
    fun port' priority' => ?_⟩
  · rw [received_emit, paused_emit, RouterAction.pausedAt]
    by_cases heq : port' = port ∧ priority' = priority
    · obtain ⟨rfl, rfl⟩ := heq
      refine (h.frames port' priority').trans ?_
      simp [PfcMessage.pending, pauses, emit, setPfcPaused, harrival]
    · rw [if_neg fun hsame => heq ⟨hsame.1.symm, hsame.2.symm⟩]
      refine (h.frames port' priority').trans (congrArg₂ _ (congrArg _ ?_) rfl)
      exact (setAt_of_ne heq).symm
  · by_cases heq : port' = port ∧ priority' = priority
    · obtain ⟨rfl, rfl⟩ := heq
      simp [pauses, emit, setPfcPaused] at htime
    · refine h.due port' priority' time ?_
      simpa only [pauses, emit, setPfcPaused, setAt_of_ne heq] using htime
  · rw [paused_emit, RouterAction.pausedAt]
    by_cases heq : port' = port ∧ priority' = priority
    · obtain ⟨rfl, rfl⟩ := heq
      rw [if_pos ⟨rfl, rfl⟩]
      exact setAt_self ..
    · rw [if_neg fun hsame => heq ⟨hsame.1.symm, hsame.2.symm⟩]
      exact (setAt_of_ne heq).trans (h.applied port' priority')

/-- A step at the time of the next message. -/
theorem next_matched (h : s.pauses.Matched c) (hallowed : s.allowed l) (hspaced : s.spaced l) :
    Ensures (fun e => e ≠ .pfcMessageAlreadyScheduled) (fun s' => s'.pauses.Matched c)
      (s.next c l) := by
  obtain ⟨-, time, htime, -, -, hnothing⟩ := hallowed
  have hnext : s.next c l = { s with now := time }.handleMessage c l := by
    rw [next, show s.timeOf l = some time from htime]
  have hmatched : ({ s with now := time } : Router n q).pauses.Matched c :=
    ⟨h.frames, fun port priority => ((hnothing port).2 priority).1, h.applied⟩
  rw [hnext]
  by_cases hreceive : ∃ time port byteLength frame,
      l = .receivePacket time port (.pfc byteLength frame)
  · obtain ⟨time', port, byteLength, frame, rfl⟩ := hreceive
    exact .ite (fun _ => hmatched) fun _ => receivedPfc_matched hmatched hspaced
  · have hother : ∀ time port byteLength frame,
        l ≠ .receivePacket time port (.pfc byteLength frame) :=
      fun time port byteLength frame heq => hreceive ⟨time, port, byteLength, frame, heq⟩
    refine Ensures.of_forall (fun s' hs' => ?_)
      fun e he => (handleMessage_notRescheduled hother).of_error he
    by_cases hpause : ∃ port priority, l = .setPfcPaused port priority
    · obtain ⟨port, priority, rfl⟩ := hpause
      exact setPfcPaused_matched hmatched htime hs'
    · rw [handleMessage_pauses hs' hother fun port priority heq => hpause ⟨port, priority, heq⟩]
      exact hmatched

end Router

variable {n q : Nat} {c : RouterConfig n q}

lemma RouterConfig.initial_matched (c : RouterConfig n q) : c.initial.pauses.Matched c :=
  ⟨fun _ _ => rfl, nofun, fun _ _ => rfl⟩

lemma PauseView.Matched.paused_of_lt {v : PauseView n q} (h : v.Matched c) {port : Fin n}
    {priority : Fin q} {time duration : Nat}
    (hreceived : (time, duration) ∈ v.received port priority)
    (htime : time + c.rxPfcDelay < v.now) :
    (time + c.rxPfcDelay, duration) ∈ v.paused port priority := by
  have hframe : (time + c.rxPfcDelay, duration) ∈
      (v.messages port priority).pending ++ v.paused port priority := by
    rw [← h.frames]
    exact List.mem_map_of_mem hreceived
  apply (List.mem_append.mp hframe).resolve_left
  intro hpending
  have harrival : time + c.rxPfcDelay ∈ (v.messages port priority).arrivalTime := by
    rw [PfcMessage.pending, Option.mem_toList, Option.map_eq_some_iff] at hpending
    obtain ⟨time', harrival, hpause⟩ := hpending
    have htime' : time' = time + c.rxPfcDelay := congrArg Prod.fst hpause
    rw [← htime']
    exact harrival
  have hdue := h.due port priority _ harrival
  omega

/-- As long as no frame arrives while the pause of an earlier one for the same queue is pending,
each frame pauses the queues of its classes after the delay and for its own duration, and no pause
message is scheduled twice. -/
theorem pfc_frames_take_effect [NeZero q] {s : Router n q}
    (h : c.system.Reachable Router.spaced s) :
    s.pauses.Matched c ∧
    (∀ port priority time duration, (time, duration) ∈ s.pauses.received port priority →
      time + c.rxPfcDelay < s.now →
      (time + c.rxPfcDelay, duration) ∈ s.pauses.paused port priority) ∧
    (∀ l, s.allowed l → s.spaced l → c.system.next s l ≠ .error .pfcMessageAlreadyScheduled) ∧
    (∀ time port byteLength frame s',
      s.allowed (.receivePacket time port (.pfc byteLength frame)) → byteLength ≤ c.mtuSize →
      c.system.next s (.receivePacket time port (.pfc byteLength frame)) = .ok s' →
      ∀ priority, frame.classEnable priority = true →
        (time, c.convertToPauseDuration port (frame.timeClass priority)) ∈
          s'.pauses.received port priority) := by
  have hmatched : s.pauses.Matched c :=
    h.invariant (E := fun e => e ≠ RouterFatal.pfcMessageAlreadyScheduled)
      (fun s hs => hs ▸ c.initial_matched)
      fun s l hs hallowed hspaced => Router.next_matched hs hallowed hspaced
  refine ⟨hmatched, fun port priority time duration => hmatched.paused_of_lt, ?_, ?_⟩
  · intro l hallowed hspaced herror
    exact (Router.next_matched hmatched hallowed hspaced).of_error herror rfl
  · intro time port byteLength frame s' _ hlength hs' priority henabled
    have hreceived : ({ s with now := time } : Router n q).receivedPfc c port frame = .ok s' := by
      rw [← hs']
      exact (if_neg (Nat.not_lt.mpr hlength)).symm
    have hhistory := Router.receivedPfc_receives hreceived priority henabled
    exact List.mem_filterMap.mpr ⟨_, hhistory, if_pos ⟨rfl, rfl⟩⟩

def pauseFrame (time : Nat) : RouterLabel 2 1 :=
  .receivePacket time 0 (.pfc 64 { classEnable := fun _ => true, timeClass := fun _ => 20 })

/-- A frame that arrives before the pause of an earlier one schedules the same message. -/
theorem close_frame_schedules_pending_message :
    ∃ s, twoPortsConfig.system.Reachable (fun _ _ => True) s ∧
      s.pauses.received 0 0 = [(5, 100)] ∧ s.pauses.paused 0 0 = [] ∧
      twoPortsConfig.system.allowed s (pauseFrame 50) ∧
      twoPortsConfig.system.next s (pauseFrame 50) = .error .pfcMessageAlreadyScheduled := by
  obtain ⟨s, hs, hreceived, hpaused, hallowed, haborts⟩ :=
    Reachable.exists_of_run (T := twoPortsConfig.system) (C := fun _ _ => True)
      (P := fun s => s.pauses.received 0 0 = [(5, 100)] ∧ s.pauses.paused 0 0 = [] ∧
        twoPortsConfig.system.allowed s (pauseFrame 50) ∧
        twoPortsConfig.system.aborts s (pauseFrame 50) .pfcMessageAlreadyScheduled = true)
      (s := twoPortsConfig.initial) [pauseFrame 5] rfl (by decide +kernel)
  exact ⟨s, hs, hreceived, hpaused, hallowed, TransitionSystem.next_of_aborts haborts⟩

/-- The second frame comes after the pause of the first. -/
theorem pfc_frames_take_effect_spaced : ∃ s, twoPortsConfig.system.Reachable Router.spaced s ∧
    s.pauses.received 0 0 = [(150, 100), (5, 100)] ∧ (105, 100) ∈ s.pauses.paused 0 0 := by
  obtain ⟨s, hs, hreceived, hnow⟩ := Reachable.exists_of_run
    (T := twoPortsConfig.system) (C := Router.spaced)
    (P := fun s => s.pauses.received 0 0 = [(150, 100), (5, 100)] ∧ s.now = 150)
    (s := twoPortsConfig.initial) [pauseFrame 5, .setPfcPaused 0 0, pauseFrame 150] rfl
    (by decide +kernel)
  refine ⟨s, hs, hreceived, (pfc_frames_take_effect hs).2.1 0 0 5 100 ?_ ?_⟩
  · rw [hreceived]
    decide
  · rw [hnow]
    decide

end Isekai.Fabric
