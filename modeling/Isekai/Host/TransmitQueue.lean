import Isekai.Host.PacketBuilder

/-!
# The transmit queue

What the packet builder does with its transmit queue, without the contents of the packets: the queue
is a number of packets, and a packet that is taken has some duration until the next one is built.
-/

namespace Isekai.Host

open Lib Function

def PacketBuilderAction.isTransmission : PacketBuilderAction → Bool
  | .taken .. => true
  | .pfcPaused .. => true
  | _ => false

/-- The packet builder as its transmit queue sees it. -/
@[ext] structure TransmitQueue where
  agenda : Agenda PacketBuilderEvent
  queueStates : Priority → PacketBuilderQueueState
  length : Nat
  unpauseTimes : Priority → Nat
  trace : List PacketBuilderAction

namespace TransmitQueue

variable (v : TransmitQueue)

def setQueueState (priority : Priority) (state : PacketBuilderQueueState) : TransmitQueue :=
  { v with queueStates := update v.queueStates priority state }

def schedule (delay : Nat) (event : PacketBuilderEvent) : TransmitQueue :=
  { v with agenda := v.agenda.schedule delay event }

def take (duration : Nat) (priority : Priority) : TransmitQueue :=
  { v with
    agenda := v.agenda.schedule duration (.encapsulateAndSend priority)
    length := v.length - 1
    trace := .taken v.agenda.now duration :: v.trace }

def send (duration : Nat) (priority : Priority) : TransmitQueue :=
  if v.queueStates priority = .paused then v
  else if v.length = 0 then v.setQueueState priority .idle
  else v.take duration priority

def enqueue (duration : Nat) : TransmitQueue :=
  let v := { v with length := v.length + 1 }
  if v.queueStates 0 = .idle then (v.setQueueState 0 .active).send duration 0 else v

def pause (priority : Priority) (pauseDuration : Nat) : TransmitQueue :=
  let v := { v with
    unpauseTimes := update v.unpauseTimes priority (v.agenda.now + pauseDuration)
    trace := .pfcPaused priority v.agenda.now pauseDuration :: v.trace }
  (v.setQueueState priority .paused).schedule pauseDuration
    (.wakeUpTxQueue priority (v.agenda.now + pauseDuration))

@[simp] lemma queueStates_pause (priority : Priority) (pauseDuration : Nat) :
    (v.pause priority pauseDuration).queueStates =
      update v.queueStates priority .paused := rfl

@[simp] lemma unpauseTimes_pause (priority : Priority) (pauseDuration : Nat) :
    (v.pause priority pauseDuration).unpauseTimes =
      update v.unpauseTimes priority (v.agenda.now + pauseDuration) := rfl

def wakeUp (duration : Nat) (priority : Priority) (unpausedTime : Nat) : TransmitQueue :=
  if unpausedTime = v.unpauseTimes priority then
    (v.setQueueState priority .active).send duration priority
  else v

def handleEvent (duration : Nat) : PacketBuilderEvent → TransmitQueue
  | .encapsulateAndSend priority => v.send duration priority
  | .setPfcPaused priority pauseDuration => v.pause priority pauseDuration
  | .wakeUpTxQueue priority unpausedTime => v.wakeUp duration priority unpausedTime

end TransmitQueue

namespace PacketBuilder

variable {c : PacketBuilderConfig} (s : PacketBuilder)

def transmitQueue : TransmitQueue where
  agenda := s.agenda
  queueStates := s.queueStates
  length := s.txQueue.length
  unpauseTimes := s.txQueueUnpauseTimes
  trace := s.history.filter PacketBuilderAction.isTransmission

lemma transmitQueue_emit {action : PacketBuilderAction} (h : action.isTransmission = false) :
    (s.emit action).transmitQueue = s.transmitQueue := by
  simp [transmitQueue, emit, h]

lemma transmitQueue_setFalconFlowControl (length : Nat) (xoff : Bool) :
    (s.setFalconFlowControl c length xoff).transmitQueue = s.transmitQueue := by
  unfold setFalconFlowControl
  split
  · exact s.transmitQueue_emit rfl
  · rfl

lemma transmitQueue_sendoutPacket (draw : Bool) (packet : TxPacket) :
    (s.sendoutPacket c draw packet).1.transmitQueue = s.transmitQueue := by
  unfold sendoutPacket
  dsimp only
  generalize (if isRandomDrop c draw packet then _ else _) = remaining
  split
  · rfl
  · split
    · rfl
    · rfl

lemma transmitQueue_encapsulateAndSendFalconPacket (draw : Bool) (priority : Priority)
    {packet : TxPacket} {rest : List TxPacket} (h : s.txQueue = packet :: rest) :
    ∃ duration, (s.encapsulateAndSendFalconPacket c draw priority packet rest).transmitQueue =
      s.transmitQueue.take duration priority := by
  unfold encapsulateAndSendFalconPacket
  dsimp only
  generalize hs₁ : ({ s with txQueue := rest } : PacketBuilder).setFalconFlowControl c
    (rest.length + 1) false = s₁
  have hview₁ : s₁.transmitQueue = { s.transmitQueue with length := rest.length } := by
    rw [← hs₁]
    exact transmitQueue_setFalconFlowControl ..
  have hview₂ := s₁.transmitQueue_sendoutPacket (c := c) draw
    { packet with
      sentTimestamp :=
        if c.recordT1AfterPacketBuilder then s₁.agenda.now else packet.timestamp }
  generalize s₁.sendoutPacket c draw _ = sent at hview₂
  obtain ⟨s₂, duration⟩ := sent
  have hview : s₂.transmitQueue = { s.transmitQueue with length := rest.length } :=
    hview₂.trans hview₁
  have htaken : ((s₂.emit (.taken s₂.agenda.now duration)).schedule duration
      (.encapsulateAndSend priority)).transmitQueue =
    { s₂.transmitQueue with
      agenda := s₂.transmitQueue.agenda.schedule duration (.encapsulateAndSend priority)
      trace := .taken s₂.transmitQueue.agenda.now duration :: s₂.transmitQueue.trace } := rfl
  rw [htaken, hview]
  simp [TransmitQueue.take, transmitQueue, h]

lemma transmitQueue_encapsulateAndSendTransportPacket (draw : Bool) (priority : Priority) :
    ∃ duration, (s.encapsulateAndSendTransportPacket c draw priority).transmitQueue =
      s.transmitQueue.send duration priority := by
  unfold encapsulateAndSendTransportPacket TransmitQueue.send
  by_cases hpaused : s.queueStates priority = .paused
  · rw [if_pos hpaused]
    exact ⟨0, (if_pos hpaused).symm⟩
  · have hnot : ¬ s.transmitQueue.queueStates priority = .paused := hpaused
    rw [if_neg hpaused]
    cases hqueue : s.txQueue with
    | nil =>
      have hlength : s.transmitQueue.length = 0 := by simp [transmitQueue, hqueue]
      refine ⟨0, ?_⟩
      rw [if_neg hnot, if_pos hlength]
      rfl
    | cons packet rest =>
      have hlength : s.transmitQueue.length ≠ 0 := by simp [transmitQueue, hqueue]
      obtain ⟨duration, hduration⟩ :=
        s.transmitQueue_encapsulateAndSendFalconPacket (c := c) draw priority hqueue
      refine ⟨duration, ?_⟩
      rw [if_neg hnot, if_neg hlength]
      exact hduration

lemma transmitQueue_enqueuePacket (draw : Bool) (packet : TxPacket) :
    ∃ duration, (s.enqueuePacket c draw packet).transmitQueue =
      s.transmitQueue.enqueue duration := by
  unfold enqueuePacket TransmitQueue.enqueue
  dsimp only
  generalize hs₁ : ({ s with
    txQueue := s.txQueue ++ [{ packet with timestamp := s.agenda.now }] } :
      PacketBuilder).setFalconFlowControl c _ true = s₁
  have hview : s₁.transmitQueue = { s.transmitQueue with length := s.txQueue.length + 1 } := by
    rw [← hs₁, transmitQueue_setFalconFlowControl]
    simp [transmitQueue]
  have hstates : s₁.queueStates = s.queueStates := congrArg TransmitQueue.queueStates hview
  by_cases hidle : s.queueStates 0 = .idle
  · obtain ⟨duration, hduration⟩ :=
      (s₁.setQueueState 0 .active).transmitQueue_encapsulateAndSendTransportPacket (c := c) draw 0
    refine ⟨duration, ?_⟩
    rw [hstates, if_pos hidle, hduration]
    refine Eq.trans ?_ (if_pos hidle).symm
    exact congrArg (fun v : TransmitQueue => (v.setQueueState 0 .active).send duration 0) hview
  · refine ⟨0, ?_⟩
    rw [hstates, if_neg hidle, hview]
    exact (if_neg hidle).symm

lemma transmitQueue_setPfcPaused (priority : Priority) (pauseDuration : Nat) :
    (s.setPfcPaused priority pauseDuration).transmitQueue =
      s.transmitQueue.pause priority pauseDuration := rfl

lemma transmitQueue_wakeUpTxQueue (draw : Bool) (priority : Priority) (unpausedTime : Nat) :
    ∃ duration, (s.wakeUpTxQueue c draw priority unpausedTime).transmitQueue =
      s.transmitQueue.wakeUp duration priority unpausedTime := by
  unfold wakeUpTxQueue TransmitQueue.wakeUp
  by_cases hunpaused : unpausedTime = s.txQueueUnpauseTimes priority
  · obtain ⟨duration, hduration⟩ := (s.setQueueState priority
      .active).transmitQueue_encapsulateAndSendTransportPacket (c := c) draw priority
    exact ⟨duration, by rw [if_pos hunpaused, hduration]; exact (if_pos hunpaused).symm⟩
  · exact ⟨0, by rw [if_neg hunpaused]; exact (if_neg hunpaused).symm⟩

lemma transmitQueue_handleEvent (draw : Bool) (event : PacketBuilderEvent) :
    ∃ duration, (s.handleEvent c draw event).transmitQueue =
      s.transmitQueue.handleEvent duration event := by
  cases event with
  | encapsulateAndSend priority =>
    exact s.transmitQueue_encapsulateAndSendTransportPacket draw priority
  | setPfcPaused priority pauseDuration =>
    exact ⟨0, s.transmitQueue_setPfcPaused priority pauseDuration⟩
  | wakeUpTxQueue priority unpausedTime =>
    exact s.transmitQueue_wakeUpTxQueue draw priority unpausedTime

def meets (D : TransmitQueue → Nat → PacketBuilderEvent → Prop) (s : PacketBuilder) :
    PacketBuilderLabel → Prop
  | .event index _ => ∀ p ∈ s.agenda.pending[index]?, D s.transmitQueue p.1 p.2
  | _ => True

instance {D : TransmitQueue → Nat → PacketBuilderEvent → Prop}
    [∀ v time event, Decidable (D v time event)] (s : PacketBuilder) :
    (l : PacketBuilderLabel) → Decidable (s.meets D l)
  | .event index _ =>
    inferInstanceAs (Decidable (∀ p ∈ s.agenda.pending[index]?, D s.transmitQueue p.1 p.2))
  | .enqueuePacket .. => instDecidableTrue
  | .receivePfc .. => instDecidableTrue

end PacketBuilder

/-- `I` holds at the start and is kept by every step. -/
structure TransmitQueue.Invariant (D : TransmitQueue → Nat → PacketBuilderEvent → Prop)
    (I : TransmitQueue → Prop) : Prop where
  init : I (PacketBuilder.transmitQueue {})
  advance : ∀ v time, I v → v.agenda.Reaches time → I { v with agenda := v.agenda.advance time }
  enqueue : ∀ v duration, I v → I (v.enqueue duration)
  schedule : ∀ v delay priority pauseDuration, I v →
    I (v.schedule delay (.setPfcPaused priority pauseDuration))
  event : ∀ v index time event duration, I v → v.agenda.pending[index]? = some (time, event) →
    v.agenda.Reaches time → D v time event →
    I ({ v with agenda := v.agenda.fire time index }.handleEvent duration event)

namespace TransmitQueue.Invariant

variable {c : PacketBuilderConfig} {D : TransmitQueue → Nat → PacketBuilderEvent → Prop}
  {I : TransmitQueue → Prop} {s : PacketBuilder}

lemma handlePfc (h : Invariant D I) (hs : I s.transmitQueue)
    (frame : Fabric.PfcFrame classesOfService) : I (s.handlePfc c frame).transmitQueue := by
  unfold PacketBuilder.handlePfc
  split
  · -- each class of the frame adds at most one event
    generalize List.finRange classesOfService = priorities
    induction priorities generalizing s with
    | nil => exact hs
    | cons priority rest ih =>
      apply ih
      unfold PacketBuilder.handlePfcClass
      split
      · exact h.schedule _ _ _ _ hs
      · exact hs
  · exact hs

lemma next (h : Invariant D I) (hs : I s.transmitQueue) {l : PacketBuilderLabel}
    (hallowed : s.allowed l) (hmeets : s.meets D l) : I (s.next c l).transmitQueue := by
  cases l with
  | enqueuePacket time packet draw =>
    obtain ⟨duration, hduration⟩ := ({ s with agenda := s.agenda.advance time } :
      PacketBuilder).transmitQueue_enqueuePacket (c := c) draw packet
    rw [PacketBuilder.next, hduration]
    exact h.enqueue _ _ (h.advance _ _ hs hallowed)
  | receivePfc time frame =>
    have hadvance : I ({ s with agenda := s.agenda.advance time } : PacketBuilder).transmitQueue :=
      h.advance _ _ hs hallowed
    exact h.handlePfc hadvance frame
  | event index draw =>
    obtain ⟨⟨time, event⟩, hget, hreaches⟩ := hallowed
    have hget' : s.agenda.pending[index]? = some (time, event) := hget
    obtain ⟨duration, hduration⟩ := ({ s with agenda := s.agenda.fire time index } :
      PacketBuilder).transmitQueue_handleEvent (c := c) draw event
    simp only [PacketBuilder.next, hget']
    rw [hduration]
    exact h.event _ index time event duration hs hget' hreaches (hmeets _ hget)

theorem reachable (h : Invariant D I) (hs : c.system.Reachable (PacketBuilder.meets D) s) :
    I s.transmitQueue := by
  induction hs with
  | init hinit =>
    subst hinit
    exact h.init
  | step _ hallowed hmeets hnext ih =>
    cases hnext
    exact h.next ih hallowed hmeets

end TransmitQueue.Invariant

end Isekai.Host
