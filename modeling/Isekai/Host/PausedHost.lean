import Isekai.Host.TransmitChain

/-!
# Paused hosts

All packets of a host have priority 0. The end of a pause of another priority takes packets from the
same queue, also while priority 0 is paused.
-/

namespace Isekai.Host

open Lib Function TransitionSystem

def PacketBuilderAction.pausesPackets : PacketBuilderAction → Option (Nat × Nat)
  | .pfcPaused priority time pauseDuration =>
    if priority = 0 then some (time, pauseDuration) else none
  | _ => none

def latestPause (history : List PacketBuilderAction) : Option (Nat × Nat) :=
  history.findSome? PacketBuilderAction.pausesPackets

def latestUnpause (history : List PacketBuilderAction) : Nat :=
  (latestPause history).elim 0 fun pause => pause.1 + pause.2

def QuietTrace : List PacketBuilderAction → Prop
  | [] => True
  | action :: older =>
    (∀ packet ∈ action.takenAt, latestUnpause older ≤ packet.1) ∧ QuietTrace older

def PacketBuilderEvent.wakeUp : PacketBuilderEvent → Option Nat
  | .wakeUpTxQueue _ unpausedTime => some unpausedTime
  | _ => none

namespace TransmitQueue

/-- The events of other priorities take no packet while priority 0 is paused. -/
def drainsUnpaused (v : TransmitQueue) (time : Nat) : PacketBuilderEvent → Prop
  | .encapsulateAndSend priority =>
    priority = 0 ∨ v.queueStates priority = .paused ∨ v.length = 0 ∨ v.unpauseTimes 0 ≤ time
  | .wakeUpTxQueue priority unpausedTime =>
    priority = 0 ∨ unpausedTime ≠ v.unpauseTimes priority ∨ v.length = 0 ∨ v.unpauseTimes 0 ≤ time
  | .setPfcPaused .. => True

instance (v : TransmitQueue) (time : Nat) :
    (event : PacketBuilderEvent) → Decidable (v.drainsUnpaused time event)
  | .encapsulateAndSend priority => inferInstanceAs (Decidable (
    priority = 0 ∨ v.queueStates priority = .paused ∨ v.length = 0 ∨ v.unpauseTimes 0 ≤ time))
  | .wakeUpTxQueue priority unpausedTime => inferInstanceAs (Decidable (
    priority = 0 ∨ unpausedTime ≠ v.unpauseTimes priority ∨ v.length = 0 ∨
      v.unpauseTimes 0 ≤ time))
  | .setPfcPaused .. => instDecidableTrue

/-- The queue runs only after its unpause time. -/
structure Quiet (v : TransmitQueue) : Prop where
  wakeUps : ∀ p ∈ v.agenda.select PacketBuilderEvent.wakeUp, p.2 = p.1
  unpause : v.unpauseTimes 0 = latestUnpause v.trace
  running : v.queueStates 0 ≠ .paused → v.unpauseTimes 0 ≤ v.agenda.now
  trace : QuietTrace v.trace

variable {v : TransmitQueue}

lemma Quiet.setAgenda (h : v.Quiet) {agenda : Agenda PacketBuilderEvent}
    (hwakeUps : ∀ p ∈ agenda.select PacketBuilderEvent.wakeUp, p.2 = p.1)
    (hnow : v.agenda.now ≤ agenda.now) : { v with agenda }.Quiet :=
  ⟨hwakeUps, h.unpause, fun hstate => (h.running hstate).trans hnow, h.trace⟩

lemma Quiet.setQueueState (h : v.Quiet) (priority : Priority) {state : PacketBuilderQueueState}
    (hrunning : priority = 0 → v.unpauseTimes 0 ≤ v.agenda.now) :
    (v.setQueueState priority state).Quiet := by
  refine ⟨h.wakeUps, h.unpause, fun hstate => ?_, h.trace⟩
  by_cases hzero : priority = 0
  · exact hrunning hzero
  · apply h.running
    simpa [TransmitQueue.setQueueState, update_of_ne (Ne.symm hzero)] using hstate

lemma Quiet.take (h : v.Quiet) (duration : Nat) (priority : Priority)
    (hunpaused : v.unpauseTimes 0 ≤ v.agenda.now) : (v.take duration priority).Quiet := by
  refine ⟨?_, h.unpause, h.running, fun packet hpacket => ?_, h.trace⟩
  · have hselect : (v.take duration priority).agenda.select PacketBuilderEvent.wakeUp =
        v.agenda.select PacketBuilderEvent.wakeUp := Agenda.select_schedule_of_none rfl duration
    rw [hselect]
    exact h.wakeUps
  · cases hpacket
    rw [← h.unpause]
    exact hunpaused

lemma Quiet.send (h : v.Quiet) (duration : Nat) (priority : Priority)
    (hunpaused : v.queueStates priority ≠ .paused → v.length ≠ 0 →
      v.unpauseTimes 0 ≤ v.agenda.now) : (v.send duration priority).Quiet := by
  unfold TransmitQueue.send
  split
  · exact h
  · rename_i hstate
    split
    · apply h.setQueueState
      rintro rfl
      exact h.running hstate
    · rename_i hlength
      exact h.take duration priority (hunpaused hstate hlength)

lemma Quiet.enqueue (h : v.Quiet) (duration : Nat) : (v.enqueue duration).Quiet := by
  have hlength : ({ v with length := v.length + 1 } : TransmitQueue).Quiet :=
    ⟨h.wakeUps, h.unpause, h.running, h.trace⟩
  unfold TransmitQueue.enqueue
  dsimp only
  split
  · rename_i hidle
    have hrunning : v.unpauseTimes 0 ≤ v.agenda.now := h.running (by rw [hidle]; nofun)
    exact (hlength.setQueueState 0 fun _ => hrunning).send duration 0 fun _ _ => hrunning
  · exact hlength

lemma Quiet.pause (h : v.Quiet) (priority : Priority) (pauseDuration : Nat) :
    (v.pause priority pauseDuration).Quiet := by
  refine ⟨fun p hp => ?_, ?_, fun hstate => ?_, nofun, h.trace⟩
  · have hselect : (v.pause priority pauseDuration).agenda.select PacketBuilderEvent.wakeUp =
        v.agenda.select PacketBuilderEvent.wakeUp ++
          [(v.agenda.now + pauseDuration, v.agenda.now + pauseDuration)] :=
      Agenda.select_schedule ..
    rw [hselect] at hp
    rcases List.mem_append.mp hp with hp | hp
    · exact h.wakeUps p hp
    · rw [List.mem_singleton.mp hp]
  · have htrace : (v.pause priority pauseDuration).trace =
        .pfcPaused priority v.agenda.now pauseDuration :: v.trace := rfl
    by_cases hzero : priority = 0
    · subst hzero
      simp [htrace, latestUnpause, latestPause, PacketBuilderAction.pausesPackets]
    · have hlatest : latestUnpause (v.pause priority pauseDuration).trace =
        latestUnpause v.trace := by
        simp [htrace, latestUnpause, latestPause, PacketBuilderAction.pausesPackets, hzero]
      rw [hlatest, ← h.unpause, unpauseTimes_pause, update_of_ne (Ne.symm hzero)]
  · by_cases hzero : priority = 0
    · subst hzero
      simp at hstate
    · rw [queueStates_pause, update_of_ne (Ne.symm hzero)] at hstate
      rw [unpauseTimes_pause, update_of_ne (Ne.symm hzero)]
      exact h.running hstate

theorem quiet_invariant : Invariant drainsUnpaused Quiet := by
  refine ⟨?_, fun v time h hreaches => h.setAgenda h.wakeUps hreaches.1,
    fun v duration h => h.enqueue duration, fun v delay priority pauseDuration h => ?_,
    fun v index time event duration h hget hreaches hdrains => ?_⟩
  · exact ⟨nofun, rfl, fun _ => Nat.le_refl 0, trivial⟩
  · refine h.setAgenda (fun p hp => h.wakeUps p ?_) (Nat.le_refl _)
    rwa [Agenda.select_schedule_of_none rfl] at hp
  · have hfire : ({ v with agenda := v.agenda.fire time index } : TransmitQueue).Quiet := by
      apply h.setAgenda _ hreaches.1
      intro p hp
      apply h.wakeUps
      exact (Agenda.select_fire_perm hget).subset (List.mem_append_right _ hp)
    cases event with
    | encapsulateAndSend priority =>
      refine hfire.send duration priority fun hstate hlength => ?_
      rcases hdrains with rfl | hpaused | hempty | hunpaused
      · exact hfire.running hstate
      · exact absurd hpaused hstate
      · exact absurd hempty hlength
      · exact hunpaused
    | setPfcPaused priority pauseDuration => exact hfire.pause priority pauseDuration
    | wakeUpTxQueue priority unpausedTime =>
      have htime : unpausedTime = time :=
        h.wakeUps (time, unpausedTime) (Agenda.mem_select_of_pending hget rfl)
      unfold handleEvent wakeUp
      dsimp only
      split
      · rename_i hcurrent
        -- the wakeup of the most recent pause comes when the pause ends
        have hzero : priority = 0 → v.unpauseTimes 0 ≤ time := by
          rintro rfl
          rw [← hcurrent, htime]
        refine (hfire.setQueueState priority hzero).send duration priority fun _ hlength => ?_
        rcases hdrains with hpriority | hstale | hempty | hunpaused
        · exact hzero hpriority
        · exact absurd hcurrent hstale
        · exact absurd hempty hlength
        · exact hunpaused
      · exact hfire

end TransmitQueue

lemma latestPause_filter (history : List PacketBuilderAction) :
    latestPause (history.filter PacketBuilderAction.isTransmission) = latestPause history := by
  induction history with
  | nil => rfl
  | cons action older ih =>
    unfold latestPause at ih ⊢
    cases action with
    | taken time nextBuildDuration => exact ih
    | pfcPaused priority time pauseDuration =>
      simp only [List.filter_cons, PacketBuilderAction.isTransmission, if_true, List.findSome?_cons,
        ih]
    | _ => exact ih

lemma QuietTrace.of_append {newer older : List PacketBuilderAction}
    (h : QuietTrace (newer ++ older)) :
    QuietTrace older := by
  induction newer with
  | nil => exact h
  | cons action newer ih => exact ih h.2

variable {c : PacketBuilderConfig} {s : PacketBuilder}

/-- As long as the events of other priorities take no packet while priority 0 is paused, no packet
is taken while the most recent pause of priority 0 lasts. -/
theorem paused_host_is_quiet
    (h : c.system.Reachable (PacketBuilder.meets TransmitQueue.drainsUnpaused) s)
    {newer older : List PacketBuilderAction} {time nextBuildDuration : Nat}
    (htaken : s.history = newer ++ .taken time nextBuildDuration :: older) :
    ∀ pause ∈ latestPause older, ¬ (pause.1 ≤ time ∧ time < pause.1 + pause.2) := by
  have hquiet := TransmitQueue.quiet_invariant.reachable h
  have htrace : QuietTrace (s.history.filter PacketBuilderAction.isTransmission) := hquiet.trace
  rw [htaken, List.filter_append, List.filter_cons_of_pos rfl] at htrace
  have hunpause := htrace.of_append.1 _ rfl
  rw [latestUnpause, latestPause_filter] at hunpause
  intro pause hpause hduring
  have hpause' : latestPause older = some pause := hpause
  rw [hpause'] at hunpause
  exact absurd hduring.2 (Nat.not_lt.mpr hunpause)

def otherPriorityRun : List PacketBuilderLabel :=
  [.enqueuePacket 0 { id := 1, byteLength := 1000 } false,
    .enqueuePacket 1 { id := 2, byteLength := 1000 } false,
    pauseFrame 5 0 1000, .event 1 false, .event 0 false,
    pauseFrame 200 3 10, .event 1 false, .event 1 false]

/-- The second packet is taken at 220, and the pause lasts from 15 to 1015. -/
theorem other_priority_drains_paused_queue :
    ∃ s, pfcHostConfig.system.Reachable (fun _ _ => True) s ∧
      s.history.head? = some (.taken 220 100) ∧ latestPause s.history.tail = some (15, 1000) :=
  Reachable.exists_of_run (T := pfcHostConfig.system) (C := fun _ _ => True)
    (P := fun s => s.history.head? = some (.taken 220 100) ∧
      latestPause s.history.tail = some (15, 1000))
    (s := {}) otherPriorityRun rfl (by decide +kernel)

/-- The packet waits for the end of the pause. -/
theorem paused_host_is_quiet_resumed :
    ∃ s older, pfcHostConfig.system.Reachable (PacketBuilder.meets TransmitQueue.drainsUnpaused) s ∧
      s.history = .taken 1015 100 :: older ∧
      ∀ pause ∈ latestPause older, ¬ (pause.1 ≤ 1015 ∧ 1015 < pause.1 + pause.2) := by
  obtain ⟨s, hs, hhead⟩ := Reachable.exists_of_run (T := pfcHostConfig.system)
    (C := PacketBuilder.meets TransmitQueue.drainsUnpaused)
    (P := fun s => s.history.head? = some (.taken 1015 100)) (s := {})
    [.enqueuePacket 0 { id := 1, byteLength := 1000 } false,
      .enqueuePacket 1 { id := 2, byteLength := 1000 } false,
      pauseFrame 5 0 1000, .event 1 false, .event 0 false, .event 0 false] rfl (by decide +kernel)
  obtain ⟨older, holder⟩ := List.head?_eq_some_iff.mp hhead
  refine ⟨s, older, hs, holder, ?_⟩
  have htaken : s.history = [] ++ .taken 1015 100 :: older := holder
  exact paused_host_is_quiet hs htaken

end Isekai.Host
