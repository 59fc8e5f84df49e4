import Isekai.Fabric.NetworkRouter

/-!
# Idle ports

A port is active exactly while its output event is scheduled. An idle port has nothing to send, or
the refreshment event of its paused queues wakes it.
-/

namespace Isekai.Fabric

open Lib Function TransitionSystem

def RouterFatal.NotScheduling (e : RouterFatal) : Prop :=
  e ≠ .wrongPortState ∧ e ≠ .outputAlreadyScheduled ∧ e ≠ .wrongPfcGeneration

namespace Router

variable {n q : Nat} {c : RouterConfig n q} {s s' : Router n q}

/-- The state of a port and its events. A port that is `transmitting` has not yet scheduled the end
of its transmission. -/
structure Scheduled (s : Router n q) (transmitting : Prop) (port : Fin n) : Prop where
  pfcQueue : (s.ports port).pfcQueue.length ≤ 1
  output : (s.outputScheduleMessages port).isSome = true ↔
    (s.ports port).portState = .active ∧ ¬ transmitting
  active : transmitting → (s.ports port).portState = .active
  refreshment : ∀ priority, ∀ time ∈ s.pfcRefreshmentMessages port priority,
    time = s.txQueueUnpauseTimes port priority ∧ s.now ≤ time
  unpaused : ∀ priority, s.pfcRefreshmentMessages port priority = none →
    s.txQueueUnpauseTimes port priority ≤ s.now

/-- Nothing waits at an idle port that its refreshment events do not wake. -/
def Resumes (s : Router n q) (port : Fin n) : Prop :=
  (s.ports port).portState = .idle → (s.ports port).pfcQueue = [] ∧
    ∀ priority, (s.ports port).packetQueues priority ≠ [] →
      s.pfcRefreshmentMessages port priority = some (s.txQueueUnpauseTimes port priority)

def Awake (s : Router n q) (transmitting : Fin n → Prop) : Prop :=
  ∀ port, s.Scheduled (transmitting port) port ∧ s.Resumes port

variable {transmitting : Fin n → Prop} {port : Fin n} {wred : Bool} {transmissionDelay : Nat}

lemma Scheduled.output_eq_none {t : Prop} (h : s.Scheduled t port)
    (ht : (s.ports port).portState = .idle ∨ t) : s.outputScheduleMessages port = none := by
  rw [← Option.not_isSome_iff_eq_none, h.output]
  rintro ⟨hactive, hnot⟩
  rcases ht with hidle | ht
  · rw [hactive] at hidle
    cases hidle
  · exact hnot ht

lemma Resumes.of_active (h : (s.ports port).portState = .active) : s.Resumes port := by
  intro hidle
  rw [h] at hidle
  cases hidle

lemma ne_idle {p : Port n q} (h : p.portState ≠ .idle) : p.portState = .active := by
  cases hstate : p.portState with
  | idle => exact absurd hstate h
  | active => rfl

/-- Nothing that concerns `port` has changed. -/
structure SameAt (s s' : Router n q) (port : Fin n) : Prop where
  now : s'.now = s.now
  ports : s'.ports port = s.ports port
  outputs : s'.outputScheduleMessages port = s.outputScheduleMessages port
  refreshments : s'.pfcRefreshmentMessages port = s.pfcRefreshmentMessages port
  unpauseTimes : s'.txQueueUnpauseTimes port = s.txQueueUnpauseTimes port

lemma SameAt.scheduled {t : Prop} (hsame : SameAt s s' port) (h : s.Scheduled t port) :
    s'.Scheduled t port := by
  refine ⟨?_, ?_, ?_, ?_, ?_⟩
  · rw [hsame.ports]
    exact h.pfcQueue
  · rw [hsame.ports, hsame.outputs]
    exact h.output
  · rw [hsame.ports]
    exact h.active
  · rw [hsame.refreshments, hsame.unpauseTimes, hsame.now]
    exact h.refreshment
  · rw [hsame.refreshments, hsame.unpauseTimes, hsame.now]
    exact h.unpaused

lemma SameAt.resumes (hsame : SameAt s s' port) (h : s.Resumes port) : s'.Resumes port := by
  unfold Resumes
  rw [hsame.ports, hsame.refreshments, hsame.unpauseTimes]
  exact h

lemma Awake.congr (h : s.Awake transmitting) (hsame : ∀ port, SameAt s s' port) :
    s'.Awake transmitting :=
  fun port => ⟨(hsame port).scheduled (h port).1, (hsame port).resumes (h port).2⟩

lemma awake_of_sameAt (h : ∀ port' ≠ port, s.Scheduled (transmitting port') port' ∧ s.Resumes port')
    (hsame : ∀ port' ≠ port, SameAt s s' port') (hscheduled : s'.Scheduled (transmitting port) port)
    (hresumes : s'.Resumes port) : s'.Awake transmitting := by
  intro port'
  by_cases heq : port' = port
  · subst heq
    exact ⟨hscheduled, hresumes⟩
  · obtain ⟨hscheduled', hresumes'⟩ := h port' heq
    exact ⟨(hsame port' heq).scheduled hscheduled', (hsame port' heq).resumes hresumes'⟩

lemma setPort_sameAt (s : Router n q) {port port' : Fin n} (p : Port n q) (hne : port' ≠ port) :
    SameAt s (s.setPort port p) port' :=
  ⟨rfl, update_of_ne hne .., rfl, rfl, rfl⟩

@[simp] lemma ports_setPort (s : Router n q) (port : Fin n) (p : Port n q) :
    (s.setPort port p).ports port = p := update_self ..

lemma Scheduled.setPort {p : Port n q} {t : Prop} (h : s.Scheduled t port)
    (hpfc : p.pfcQueue.length ≤ 1) (hstate : p.portState = (s.ports port).portState) :
    (s.setPort port p).Scheduled t port := by
  refine ⟨?_, ?_, ?_, h.refreshment, h.unpaused⟩
  · rw [ports_setPort]
    exact hpfc
  · rw [ports_setPort, hstate]
    exact h.output
  · rw [ports_setPort, hstate]
    exact h.active

lemma scheduleOutputAfter_awake {delay : Nat} {t : Prop}
    (h : ∀ port' ≠ port, s.Scheduled (transmitting port') port' ∧ s.Resumes port')
    (hport : s.Scheduled t port) (hactive : (s.ports port).portState = .active) (ht : t)
    (hnot : ¬ transmitting port) :
    Ensures RouterFatal.NotScheduling (fun s' => s'.Awake transmitting)
      (s.scheduleOutputAfter port delay) := by
  unfold scheduleOutputAfter
  rw [hport.output_eq_none (.inr ht), if_neg (by decide)]
  refine awake_of_sameAt h (fun port' hne => ⟨rfl, rfl, update_of_ne hne .., rfl, rfl⟩) ?_
    (.of_active hactive)
  refine ⟨hport.pfcQueue, ?_, fun ht => absurd ht hnot, hport.refreshment, hport.unpaused⟩
  simp [hactive, hnot]

lemma wakePort_awake (h : ∀ port' ≠ port, s.Scheduled (transmitting port') port' ∧ s.Resumes port')
    (hport : s.Scheduled (transmitting port) port) :
    Ensures RouterFatal.NotScheduling (fun s' => s'.Awake transmitting) (s.wakePort port) := by
  refine .ite (fun hidle => ?_) fun hactive =>
    awake_of_sameAt h (fun _ _ => ⟨rfl, rfl, rfl, rfl, rfl⟩) hport (.of_active (ne_idle hactive))
  have hnot : ¬ transmitting port := by
    intro ht
    have hactive := hport.active ht
    rw [hidle] at hactive
    cases hactive
  have hnone := hport.output_eq_none (.inl hidle)
  refine scheduleOutputAfter_awake (t := True) (fun port' hne => ?_) ?_ ?_ trivial hnot
  · obtain ⟨hscheduled, hresumes⟩ := h port' hne
    have hsame := s.setPort_sameAt { s.ports port with portState := .active } hne
    exact ⟨hsame.scheduled hscheduled, hsame.resumes hresumes⟩
  · refine ⟨?_, ?_, ?_, hport.refreshment, hport.unpaused⟩
    · rw [ports_setPort]
      exact hport.pfcQueue
    · simpa [setPort] using hnone
    · simp
  · simp

lemma wakePort_setPort_awake {p : Port n q} (h : s.Awake transmitting)
    (hstate : p.portState = (s.ports port).portState) (hpfc : p.pfcQueue.length ≤ 1) :
    Ensures RouterFatal.NotScheduling (fun s' => s'.Awake transmitting)
      ((s.setPort port p).wakePort port) := by
  refine wakePort_awake (fun port' hne => ?_) ?_
  · have hsame := s.setPort_sameAt p hne
    exact ⟨hsame.scheduled (h port').1, hsame.resumes (h port').2⟩
  · exact (h port).1.setPort hpfc hstate

lemma generatePfc_awake (h : s.Awake transmitting) (port : Fin n) (priority : Fin q)
    (pauseUnits : Int) : Ensures RouterFatal.NotScheduling (fun s' => s'.Awake transmitting)
      (s.generatePfc port priority pauseUnits) := by
  unfold generatePfc
  dsimp only
  split
  · exact wakePort_setPort_awake h rfl (Nat.le_refl 1)
  · exact wakePort_setPort_awake h rfl (Nat.le_refl 1)
  · rename_i hnil hone
    have hlength := (h port).1.pfcQueue
    cases hqueue : (s.ports port).pfcQueue with
    | nil => exact absurd hqueue hnil
    | cons frame rest =>
      rw [hqueue, List.length_cons] at hlength
      have hrest : rest = [] := List.eq_nil_of_length_eq_zero (by omega)
      exact absurd (hrest ▸ hqueue) (hone frame)

lemma sendPfc_awake (h : s.Awake transmitting) (port : Fin n) (priority : Fin q) :
    Ensures RouterFatal.NotScheduling (fun s' => s'.Awake transmitting)
      (s.sendPfc c port priority) := by
  refine .ite (fun _ => h) fun _ => (generatePfc_awake h ..).bind fun s₁ hs₁ => ?_
  exact hs₁.congr fun _ => ⟨rfl, rfl, rfl, rfl, rfl⟩

lemma sendXon_awake (h : s.Awake transmitting) (xon : Option (Fin n × Fin q)) :
    Ensures RouterFatal.NotScheduling (fun s' => s'.Awake transmitting) (s.sendXon xon) := by
  cases xon with
  | none => exact h
  | some queue => exact generatePfc_awake h ..

lemma sendPacket_awake (h : s.Awake (· = port)) :
    Ensures RouterFatal.NotScheduling (fun s' => s'.Awake fun _ => False)
      (s.sendPacket c port transmissionDelay) := by
  have hport := (h port).1
  refine scheduleOutputAfter_awake (t := True) (fun port' hne => ?_) ?_ ?_ trivial not_false
  · have hsame := s.setPort_sameAt
      { s.ports port with transmissionFinishTime := s.now + transmissionDelay } hne
    have hscheduled : s.Scheduled (port' = port) port' := (h port').1
    rw [eq_false hne] at hscheduled
    exact ⟨hsame.scheduled hscheduled, hsame.resumes (h port').2⟩
  · refine ⟨?_, ?_, ?_, hport.refreshment, hport.unpaused⟩
    · rw [ports_setPort]
      exact hport.pfcQueue
    · simpa [setPort] using hport.output_eq_none (.inr rfl)
    · rw [ports_setPort]
      exact fun _ => hport.active rfl
  · rw [ports_setPort]
    exact hport.active rfl

lemma setPacketQueue_awake (h : s.Awake transmitting) (hactive : (s.ports port).portState = .active)
    (priority : Fin q) (queue : List (Packet n q)) :
    (s.setPacketQueue port priority queue).Awake transmitting := by
  refine awake_of_sameAt (fun port' _ => h port') (fun port' hne => s.setPort_sameAt _ hne) ?_ ?_
  · exact (h port).1.setPort (h port).1.pfcQueue rfl
  · apply Resumes.of_active
    rw [setPacketQueue, ports_setPort]
    exact hactive

lemma liftMmu_notScheduling {α : Type} (x : Except MmuFatal α) :
    Ensures RouterFatal.NotScheduling (fun _ => True) (liftMmu x) := by
  cases x with
  | ok a => trivial
  | error e => exact ⟨nofun, nofun, nofun⟩

lemma dequeue_awake {priority : Fin q} (h : s.Awake transmitting)
    (hactive : (s.ports port).portState = .active) :
    Ensures RouterFatal.NotScheduling (fun s' => s'.Awake transmitting)
      (s.dequeue c port priority wred) := by
  unfold dequeue
  split
  · exact h
  · rename_i packet rest hqueue
    refine (liftMmu_notScheduling _).bind fun ⟨mmu, _, xon⟩ _ => ?_
    have hrest := setPacketQueue_awake h hactive priority rest
    refine Ensures.bind (P := fun s₁ => s₁.Awake transmitting) (sendXon_awake ?_ xon)
      fun s₁ hs₁ => ?_
    · exact hrest.congr fun _ => ⟨rfl, rfl, rfl, rfl, rfl⟩
    · exact hs₁.congr fun _ => ⟨rfl, rfl, rfl, rfl, rfl⟩

lemma setIdle_awake (h : s.Awake (· = port)) (hpfc : (s.ports port).pfcQueue = [])
    (hnone : s.arbitrate c port = none) :
    (s.setPort port { s.ports port with portState := .idle }).Awake fun _ => False := by
  have hport := (h port).1
  refine awake_of_sameAt (s := s) (fun port' hne => ?_) (fun port' hne => s.setPort_sameAt _ hne) ?_
    fun _ => ⟨?_, fun priority hqueue => ?_⟩
  · have hscheduled : s.Scheduled (port' = port) port' := (h port').1
    rw [eq_false hne] at hscheduled
    exact ⟨hscheduled, (h port').2⟩
  · refine ⟨?_, ?_, nofun, hport.refreshment, hport.unpaused⟩
    · rw [ports_setPort]
      exact hport.pfcQueue
    · simpa [setPort] using hport.output_eq_none (.inr rfl)
  · rw [ports_setPort]
    exact hpfc
  · rw [ports_setPort] at hqueue
    have hcannot := List.find?_eq_none.mp hnone priority (List.mem_finRange priority)
    have hpaused : s.now < s.txQueueUnpauseTimes port priority := by
      simp only [canTransmit, isPaused, Bool.and_eq_true, Bool.not_eq_true', Bool.or_eq_true,
        List.isEmpty_eq_false_iff, decide_eq_false_iff_not, not_and, not_or, not_not] at hcannot
      exact (hcannot hqueue).2
    cases hmessage : s.pfcRefreshmentMessages port priority with
    | none => exact absurd (hport.unpaused priority hmessage) (Nat.not_le.mpr hpaused)
    | some time =>
      exact hmessage.trans (congrArg some (hport.refreshment priority time hmessage).1)

lemma scheduleOutput_awake (h : s.Awake (· = port)) :
    Ensures RouterFatal.NotScheduling (fun s' => s'.Awake fun _ => False)
      (s.scheduleOutput c port wred transmissionDelay) := by
  have hport := (h port).1
  have hactive : (s.ports port).portState = .active := hport.active rfl
  unfold scheduleOutput
  rw [if_neg (not_not.mpr hactive)]
  split
  · rename_i frame rest hqueue
    refine sendPacket_awake ?_
    refine awake_of_sameAt (s := s) (fun port' _ => h port') (fun port' hne =>
      s.setPort_sameAt _ hne)
      ?_ ?_
    · have hlength := hport.pfcQueue
      rw [hqueue, List.length_cons] at hlength
      exact hport.setPort (Nat.le_of_succ_le hlength) rfl
    · apply Resumes.of_active
      rw [ports_setPort]
      exact hactive
  · rename_i hpfc
    split
    · exact (dequeue_awake h hactive).bind fun s₁ hs₁ => sendPacket_awake hs₁
    · exact setIdle_awake h hpfc ‹_›

lemma resumeOutput_awake (h : ∀ port' ≠ port, s.Scheduled False port' ∧ s.Resumes port')
    (hport : s.Scheduled False port) :
    Ensures RouterFatal.NotScheduling (fun s' => s'.Awake fun _ => False)
      (s.resumeOutput c port wred transmissionDelay) := by
  refine .ite (fun hidle => scheduleOutput_awake ?_) fun hactive => ?_
  · refine awake_of_sameAt (s := s) (fun port' hne => ?_) (fun port' hne =>
      s.setPort_sameAt _ hne) ?_ ?_
    · have hscheduled := (h port' hne).1
      rw [← eq_false hne] at hscheduled
      exact ⟨hscheduled, (h port' hne).2⟩
    · refine ⟨?_, ?_, ?_, hport.refreshment, hport.unpaused⟩
      · rw [ports_setPort]
        exact hport.pfcQueue
      · simpa [setPort] using hport.output_eq_none (.inl hidle)
      · simp
    · apply Resumes.of_active
      simp
  · exact awake_of_sameAt h (fun _ _ => ⟨rfl, rfl, rfl, rfl, rfl⟩) hport
      (.of_active (ne_idle hactive))

lemma receivedPfc_awake {frame : PfcFrame q} (h : s.Awake transmitting) :
    Ensures RouterFatal.NotScheduling (fun s' => s'.Awake transmitting)
      (s.receivedPfc c port frame) := by
  refine Ensures.foldlM (I := fun _ (s₁ : Router n q) => s₁.Awake transmitting) _
    (fun done priority rest s₁ _ hs₁ => ?_) h
  refine .ite (fun _ => .ite (fun _ => ⟨nofun, nofun, nofun⟩) fun _ =>
    .ite (fun _ => ⟨nofun, nofun, nofun⟩) fun _ => ?_) fun _ => hs₁
  exact hs₁.congr fun _ => ⟨rfl, rfl, rfl, rfl, rfl⟩

/-- A frame that does not leave the port without the event that wakes it. -/
def wakes (s : Router n q) : RouterLabel n q → Prop
  | .setPfcPaused port priority => (s.pfcSetPausedMessages port priority).pauseDuration = 0 →
    (s.ports port).portState = .active ∨ ((s.ports port).packetQueues priority).isEmpty = true
  | _ => True

instance (s : Router n q) : (l : RouterLabel n q) → Decidable (s.wakes l)
  | .setPfcPaused port priority => inferInstanceAs (Decidable (
    (s.pfcSetPausedMessages port priority).pauseDuration = 0 →
    (s.ports port).portState = .active ∨ ((s.ports port).packetQueues priority).isEmpty = true))
  | .receivePacket .. => instDecidableTrue
  | .routerDelay .. => instDecidableTrue
  | .outputScheduling .. => instDecidableTrue
  | .pfcRefreshment .. => instDecidableTrue
  | .pfcPauseSend .. => instDecidableTrue

lemma refreshment_setPfcPaused (s : Router n q) (port : Fin n) (priority : Fin q) (duration : Nat) :
    (s.setPfcPaused port priority (s.now + duration)).pfcRefreshmentMessages port priority =
      if duration = 0 then none else some (s.now + duration) := by
  by_cases hzero : duration = 0 <;> simp [setPfcPaused, hzero]

lemma setPfcPaused_of_ne (s : Router n q) (port : Fin n) {priority priority' : Fin q}
    (unpauseTime : Nat) (hne : priority' ≠ priority) :
    (s.setPfcPaused port priority unpauseTime).pfcRefreshmentMessages port priority' =
      s.pfcRefreshmentMessages port priority' ∧
    (s.setPfcPaused port priority unpauseTime).txQueueUnpauseTimes port priority' =
      s.txQueueUnpauseTimes port priority' :=
  ⟨setAt_of_ne fun heq => hne heq.2, setAt_of_ne fun heq => hne heq.2⟩

lemma setPfcPaused_awake {priority : Fin q} {duration : Nat} (h : s.Awake transmitting)
    (hwakes : duration = 0 →
      (s.ports port).portState = .active ∨ ((s.ports port).packetQueues priority).isEmpty = true) :
    (s.setPfcPaused port priority (s.now + duration)).Awake transmitting := by
  have hport := (h port).1
  refine awake_of_sameAt (fun port' _ => h port') (fun port' hne => ?_)
    ⟨hport.pfcQueue, hport.output, hport.active, fun priority' time htime => ?_,
      fun priority' hnone => ?_⟩ fun hidle => ⟨((h port).2 hidle).1, fun priority' hqueue => ?_⟩
  · refine ⟨rfl, rfl, rfl, ?_, ?_⟩
    · funext priority'
      exact setAt_of_ne fun heq => hne heq.1
    · funext priority'
      exact setAt_of_ne fun heq => hne heq.1
  · by_cases heq : priority' = priority
    · subst heq
      rw [refreshment_setPfcPaused] at htime
      by_cases hzero : duration = 0
      · rw [if_pos hzero] at htime
        cases htime
      · rw [if_neg hzero] at htime
        cases htime
        exact ⟨(setAt_self ..).symm, Nat.le_add_right ..⟩
    · obtain ⟨hrefreshment, hunpause⟩ := s.setPfcPaused_of_ne port (s.now + duration) heq
      rw [hrefreshment] at htime
      rw [hunpause]
      exact hport.refreshment priority' time htime
  · by_cases heq : priority' = priority
    · subst heq
      rw [refreshment_setPfcPaused] at hnone
      by_cases hzero : duration = 0
      · simp [setPfcPaused, hzero]
      · rw [if_neg hzero] at hnone
        cases hnone
    · obtain ⟨hrefreshment, hunpause⟩ := s.setPfcPaused_of_ne port (s.now + duration) heq
      rw [hrefreshment] at hnone
      rw [hunpause]
      exact hport.unpaused priority' hnone
  · by_cases heq : priority' = priority
    · subst heq
      have hzero : duration ≠ 0 := by
        intro hzero
        rcases hwakes hzero with hactive | hempty
        · exact absurd (hactive.symm.trans hidle) (by decide)
        · exact hqueue (List.isEmpty_iff.mp hempty)
      rw [refreshment_setPfcPaused, if_neg hzero]
      exact congrArg some (setAt_self ..).symm
    · obtain ⟨hrefreshment, hunpause⟩ := s.setPfcPaused_of_ne port (s.now + duration) heq
      rw [hrefreshment, hunpause]
      exact ((h port).2 hidle).2 priority' hqueue

variable [NeZero q]

lemma enqueuePacket_awake {packet : Packet n q} (h : s.Awake transmitting) :
    Ensures RouterFatal.NotScheduling (fun s' => s'.Awake transmitting)
      (s.enqueuePacket c port wred packet) := by
  refine (liftMmu_notScheduling _).bind fun ⟨mmu, packet', enqueued⟩ _ => ?_
  have hmmu : ({ s with mmu } : Router n q).Awake transmitting :=
    h.congr fun _ => ⟨rfl, rfl, rfl, rfl, rfl⟩
  refine .ite (fun _ => ?_) fun _ => hmmu.congr fun _ => ⟨rfl, rfl, rfl, rfl, rfl⟩
  exact wakePort_setPort_awake hmmu rfl (hmmu port).1.pfcQueue

lemma receivePacket_awake (h : s.Awake transmitting) (frame : Frame n q) :
    Ensures RouterFatal.NotScheduling (fun s' => s'.Awake transmitting)
      (s.receivePacket c port frame) := by
  cases frame with
  | data byteLength packet =>
    refine .ite (fun _ => h) fun _ => (liftMmu_notScheduling _).bind
      fun ⟨mmu, memoryOccupancy, triggers⟩ _ => ?_
    have hmmu : ({ s with mmu } : Router n q).Awake transmitting :=
      h.congr fun _ => ⟨rfl, rfl, rfl, rfl, rfl⟩
    refine Ensures.bind (P := fun s₁ => s₁.Awake transmitting)
      (.ite (fun _ => sendPfc_awake hmmu ..) fun _ => hmmu) fun s₁ hs₁ => ?_
    unfold routeOrDrop
    split
    · exact hs₁
    · exact hs₁.congr fun _ => ⟨rfl, rfl, rfl, rfl, rfl⟩
  | pfc byteLength frame => exact .ite (fun _ => h) fun _ => receivedPfc_awake h

lemma routePacket_awake {packet : Packet n q} {outputPort : Option (Fin n)}
    (h : s.Awake transmitting) :
    Ensures RouterFatal.NotScheduling (fun s' => s'.Awake transmitting)
      (s.routePacket c packet outputPort wred) := by
  refine .ite (fun _ => h.congr fun _ => ⟨rfl, rfl, rfl, rfl, rfl⟩) fun _ => ?_
  cases outputPort with
  | none => exact h.congr fun _ => ⟨rfl, rfl, rfl, rfl, rfl⟩
  | some port => exact .ite (fun _ => ⟨nofun, nofun, nofun⟩) fun _ => enqueuePacket_awake h

lemma handleMessage_awake {l : RouterLabel n q} (h : s.Awake fun _ => False)
    (hnow : s.timeOf l = some s.now) (hwakes : s.wakes l) :
    Ensures RouterFatal.NotScheduling (fun s' => s'.Awake fun _ => False)
      (s.handleMessage c l) := by
  cases l with
  | receivePacket time port frame => exact receivePacket_awake h frame
  | routerDelay index outputPort wred =>
    simp only [handleMessage]
    split
    · exact routePacket_awake (h.congr fun _ => ⟨rfl, rfl, rfl, rfl, rfl⟩)
    · exact h
  | outputScheduling port wred transmissionDelay =>
    -- the port is active, since its output event was scheduled
    refine scheduleOutput_awake ?_
    have hport := (h port).1
    have hactive := (hport.output.mp (Option.isSome_of_eq_some hnow)).1
    refine awake_of_sameAt (s := s) (fun port' hne => ?_)
      (fun port' hne => ⟨rfl, rfl, update_of_ne hne .., rfl, rfl⟩) ?_ (.of_active hactive)
    · have hscheduled := (h port').1
      rw [← eq_false hne] at hscheduled
      exact ⟨hscheduled, (h port').2⟩
    · refine ⟨hport.pfcQueue, ?_, fun _ => hactive, hport.refreshment, hport.unpaused⟩
      simp
  | setPfcPaused port priority =>
    have hpaused := setPfcPaused_awake h hwakes
    exact hpaused.congr fun _ => ⟨rfl, rfl, rfl, rfl, rfl⟩
  | pfcRefreshment port priority wred transmissionDelay =>
    have hport := (h port).1
    refine resumeOutput_awake (fun port' hne => ?_)
      ⟨hport.pfcQueue, hport.output, hport.active, fun priority' time htime => ?_,
        fun priority' hnone => ?_⟩
    · obtain ⟨hscheduled, hresumes⟩ := h port'
      constructor
      · exact SameAt.scheduled (s := s) ⟨rfl, rfl, rfl, update_of_ne hne .., rfl⟩ hscheduled
      · exact SameAt.resumes (s := s) ⟨rfl, rfl, rfl, update_of_ne hne .., rfl⟩ hresumes
    · by_cases heq : priority' = priority
      · subst heq
        simp at htime
      · exact hport.refreshment priority' time
          ((setAt_of_ne fun hsame => heq hsame.2).symm.trans htime)
    · by_cases heq : priority' = priority
      · subst heq
        exact Nat.le_of_eq (hport.refreshment priority' s.now hnow).1.symm
      · exact hport.unpaused priority' ((setAt_of_ne fun hsame => heq hsame.2).symm.trans hnone)
  | pfcPauseSend port priority =>
    refine sendPfc_awake (Awake.congr (s := s) h fun _ => ?_) ..
    exact ⟨rfl, rfl, rfl, rfl, rfl⟩

/-- A step at the time of the next message. -/
theorem next_awake (h : s.Awake fun _ => False) {l : RouterLabel n q} (hallowed : s.allowed l)
    (hwakes : s.wakes l) :
    Ensures RouterFatal.NotScheduling (fun s' => s'.Awake fun _ => False) (s.next c l) := by
  obtain ⟨-, time, htime, hnow, -, hnothing⟩ := hallowed
  have htime' : s.timeOf l = some time := htime
  rw [next, htime']
  refine handleMessage_awake (fun port => ?_) ?_ ?_
  · obtain ⟨hscheduled, hresumes⟩ := h port
    refine ⟨⟨hscheduled.pfcQueue, hscheduled.output, hscheduled.active, fun priority t ht => ?_,
      fun priority hnone => ?_⟩, hresumes⟩
    · exact ⟨(hscheduled.refreshment priority t ht).1, ((hnothing port).2 priority).2.1 t ht⟩
    · exact (hscheduled.unpaused priority hnone).trans hnow
  · cases l <;> exact htime'
  · cases l <;> exact hwakes

end Router

variable {n q : Nat} {c : RouterConfig n q}

lemma RouterConfig.initial_awake (c : RouterConfig n q) : c.initial.Awake fun _ => False := by
  intro port
  refine ⟨⟨Nat.zero_le 1, ?_, nofun, nofun, fun _ _ => Nat.le_refl 0⟩, fun _ => ⟨rfl, ?_⟩⟩
  · exact ⟨nofun, fun hactive => nomatch hactive.1⟩
  · exact fun priority hqueue => absurd rfl hqueue

/-- As long as no X-on frame takes effect at an idle port with packets in the queue of its class,
what waits at an idle port is paused until the refreshment event of its queue, a port is active
exactly when its output event is scheduled, and no check of the two fails. -/
theorem no_lost_wakeup [NeZero q] {s : Router n q} (h : c.system.Reachable Router.wakes s) :
    (∀ port, (s.ports port).portState = .idle →
      (s.ports port).pfcQueue = [] ∧
      ∀ priority, (s.ports port).packetQueues priority ≠ [] →
        s.pfcRefreshmentMessages port priority = some (s.txQueueUnpauseTimes port priority) ∧
        (s.isPaused port priority = true ∨ s.now = s.txQueueUnpauseTimes port priority)) ∧
    (∀ port, (s.ports port).portState = .active ↔
      (s.outputScheduleMessages port).isSome = true) ∧
    ∀ l, s.allowed l → s.wakes l → c.system.next s l ≠ .error .wrongPortState ∧
      c.system.next s l ≠ .error .outputAlreadyScheduled := by
  have hawake : s.Awake fun _ => False :=
    h.invariant (E := RouterFatal.NotScheduling) (fun s hs => hs ▸ c.initial_awake)
      fun s l hs hallowed hwakes => Router.next_awake hs hallowed hwakes
  refine ⟨fun port hidle => ?_, fun port => ?_, fun l hallowed hwakes => ?_⟩
  · obtain ⟨hscheduled, hresumes⟩ := hawake port
    refine ⟨(hresumes hidle).1, fun priority hqueue => ?_⟩
    have hrefreshment := (hresumes hidle).2 priority hqueue
    refine ⟨hrefreshment, ?_⟩
    have hnow := (hscheduled.refreshment priority _ hrefreshment).2
    rcases Nat.lt_or_eq_of_le hnow with hlt | heq
    · exact .inl (decide_eq_true hlt)
    · exact .inr heq
  · rw [(hawake port).1.output]
    exact (and_iff_left not_false).symm
  · have hnext := Router.next_awake (c := c) hawake hallowed hwakes
    exact ⟨fun herror => (hnext.of_error herror).1 rfl,
      fun herror => (hnext.of_error herror).2.1 rfl⟩

def xonRun : List (RouterLabel 2 1) :=
  [.receivePacket 5 1 (.pfc 64 { classEnable := fun _ => true, timeClass := fun _ => 1000 }),
    .setPfcPaused 1 0, .receivePacket 110 0 (.data 300 { id := 7, bitLength := 2048 }),
    .routerDelay 0 (some 1) false, .outputScheduling 1 false 24,
    .receivePacket 1000 1 (.pfc 64 { classEnable := fun _ => true, timeClass := fun _ => 0 }),
    .setPfcPaused 1 0]

/-- The packet waits at an idle port that is not paused, and no message is scheduled. -/
theorem xon_loses_wakeup :
    ∃ s, twoPortsConfig.system.Reachable (fun _ _ => True) s ∧
      (s.ports 1).portState = .idle ∧ ((s.ports 1).packetQueues 0).length = 1 ∧
      s.isPaused 1 0 = false ∧ s.routerDelays = [] ∧
      ∀ port, s.outputScheduleMessages port = none ∧
        ∀ priority, (s.pfcSetPausedMessages port priority).arrivalTime = none ∧
          s.pfcRefreshmentMessages port priority = none ∧
          s.pfcSendPauseMessages port priority = none :=
  Reachable.exists_of_run (T := twoPortsConfig.system) (C := fun _ _ => True)
    (P := fun s => (s.ports 1).portState = .idle ∧ ((s.ports 1).packetQueues 0).length = 1 ∧
      s.isPaused 1 0 = false ∧ s.routerDelays = [] ∧
      ∀ port, s.outputScheduleMessages port = none ∧
        ∀ priority, (s.pfcSetPausedMessages port priority).arrivalTime = none ∧
          s.pfcRefreshmentMessages port priority = none ∧
          s.pfcSendPauseMessages port priority = none)
    (s := twoPortsConfig.initial) xonRun rfl (by decide +kernel)

theorem no_lost_wakeup_paused : ∃ s, twoPortsConfig.system.Reachable Router.wakes s ∧
    (s.ports 1).portState = .idle ∧ ((s.ports 1).packetQueues 0).length = 1 ∧
    s.pfcRefreshmentMessages 1 0 = some (s.txQueueUnpauseTimes 1 0) := by
  obtain ⟨s, hs, hidle, hlength⟩ := Reachable.exists_of_run
    (T := twoPortsConfig.system) (C := Router.wakes)
    (P := fun s => (s.ports 1).portState = .idle ∧ ((s.ports 1).packetQueues 0).length = 1)
    (s := twoPortsConfig.initial) (xonRun.take 5) rfl (by decide +kernel)
  refine ⟨s, hs, hidle, hlength, (((no_lost_wakeup hs).1 1 hidle).2 0 ?_).1⟩
  intro hempty
  rw [hempty] at hlength
  cases hlength

end Isekai.Fabric
