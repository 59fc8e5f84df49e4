import Isekai.Host.TransmitQueue
import Mathlib.Data.List.Chain

/-!
# The transmit chain

Each packet that is taken from the transmit queue schedules the event that takes the next one. A
pause does not cancel this event, and the end of a pause takes a packet at once.
-/

namespace Isekai.Host

open Lib TransitionSystem

def PacketBuilderEvent.continuation : PacketBuilderEvent → Option Priority
  | .encapsulateAndSend priority => some priority
  | _ => none

def PacketBuilderAction.takenAt : PacketBuilderAction → Option (Nat × Nat)
  | .taken time nextBuildDuration => some (time, nextBuildDuration)
  | _ => none

namespace TransmitQueue

def continuations (v : TransmitQueue) : List (Nat × Priority) :=
  v.agenda.select PacketBuilderEvent.continuation

def taken (v : TransmitQueue) : List (Nat × Nat) := v.trace.filterMap PacketBuilderAction.takenAt

/-- A pause that ends finds no continuation pending. -/
def resumesAlone (v : TransmitQueue) (_ : Nat) : PacketBuilderEvent → Prop
  | .wakeUpTxQueue priority unpausedTime =>
    unpausedTime = v.unpauseTimes priority → v.continuations = []
  | _ => True

instance (v : TransmitQueue) (time : Nat) :
    (event : PacketBuilderEvent) → Decidable (v.resumesAlone time event)
  | .wakeUpTxQueue priority unpausedTime => inferInstanceAs (Decidable (
    unpausedTime = v.unpauseTimes priority → v.continuations = []))
  | .encapsulateAndSend _ => instDecidableTrue
  | .setPfcPaused .. => instDecidableTrue

def Spaced (later earlier : Nat × Nat) : Prop := earlier.1 + earlier.2 ≤ later.1

/-- No packet is being built. -/
structure Ready (v : TransmitQueue) : Prop where
  continuations : v.continuations = []
  built : ∀ last ∈ v.taken.head?, last.1 + last.2 ≤ v.agenda.now
  spaced : v.taken.IsChain Spaced

/-- A packet is being built. -/
structure Building (v : TransmitQueue) : Prop where
  continuation : ∃ priority, ∃ last ∈ v.taken.head?,
    v.continuations = [(last.1 + last.2, priority)]
  spaced : v.taken.IsChain Spaced

/-- At most one packet is built at a time. -/
structure SingleChain (v : TransmitQueue) : Prop where
  chain : v.Ready ∨ v.Building
  idle : v.queueStates 0 = .idle → v.length = 0 ∧ v.continuations = []

variable {v v' : TransmitQueue}

lemma Ready.of_eq (h : v.Ready) (hagenda : v'.agenda = v.agenda) (htaken : v'.taken = v.taken) :
    v'.Ready := by
  refine ⟨?_, ?_, ?_⟩
  · unfold TransmitQueue.continuations
    rw [hagenda]
    exact h.continuations
  · rw [htaken, hagenda]
    exact h.built
  · rw [htaken]
    exact h.spaced

lemma idle_of_setQueueState {priority : Priority} {state : PacketBuilderQueueState}
    (h : (v.setQueueState priority state).queueStates 0 = .idle) (hne : state ≠ .idle) :
    v.queueStates 0 = .idle := by
  by_cases hzero : (0 : Priority) = priority
  · subst hzero
    exact absurd (by simpa [setQueueState] using h) hne
  · simpa [setQueueState, hzero] using h

lemma SingleChain.ready (h : v.SingleChain) (hnone : v.continuations = []) : v.Ready := by
  rcases h.chain with hready | hbuilding
  · exact hready
  · obtain ⟨priority, last, -, hcontinuation⟩ := hbuilding.continuation
    rw [hnone] at hcontinuation
    cases hcontinuation

lemma Ready.take (h : v.Ready) (duration : Nat) (priority : Priority) :
    (v.take duration priority).Building := by
  have htaken : (v.take duration priority).taken = (v.agenda.now, duration) :: v.taken := rfl
  refine ⟨⟨priority, (v.agenda.now, duration), ?_, ?_⟩, ?_⟩
  · rw [htaken]
    rfl
  · have hcontinuations : (v.take duration priority).continuations =
        v.continuations ++ [(v.agenda.now + duration, priority)] := Agenda.select_schedule ..
    rw [hcontinuations, h.continuations]
    rfl
  · rw [htaken, List.isChain_cons]
    exact ⟨fun last hlast => h.built last hlast, h.spaced⟩

lemma Ready.send (h : v.Ready) (hidle : v.queueStates 0 = .idle → v.length = 0) (duration : Nat)
    (priority : Priority) : (v.send duration priority).SingleChain := by
  unfold TransmitQueue.send
  split
  · exact ⟨.inl h, fun hstate => ⟨hidle hstate, h.continuations⟩⟩
  · split
    · rename_i hlength
      exact ⟨.inl (h.of_eq rfl rfl), fun _ => ⟨hlength, h.continuations⟩⟩
    · rename_i hlength
      exact ⟨.inr (h.take duration priority), fun hstate => absurd (hidle hstate) hlength⟩

lemma SingleChain.enqueue (h : v.SingleChain) (duration : Nat) :
    (v.enqueue duration).SingleChain := by
  unfold TransmitQueue.enqueue
  dsimp only
  split
  · rename_i hidle
    have hready := h.ready (h.idle hidle).2
    refine Ready.send ?_ (fun hstate => ?_) duration 0
    · exact hready.of_eq rfl rfl
    · simp [setQueueState] at hstate
  · rename_i hidle
    refine ⟨?_, fun hstate => absurd hstate hidle⟩
    exact h.chain.imp (fun hready => hready.of_eq rfl rfl)
      fun hbuilding => ⟨hbuilding.continuation, hbuilding.spaced⟩

lemma SingleChain.setAgenda (h : v.SingleChain) {agenda : Agenda PacketBuilderEvent}
    (hcontinuations : agenda.select PacketBuilderEvent.continuation = v.continuations)
    (hnow : v.agenda.now ≤ agenda.now) : { v with agenda }.SingleChain := by
  refine ⟨?_, fun hstate => ?_⟩
  · rcases h.chain with hready | hbuilding
    · refine .inl ⟨hcontinuations.trans hready.continuations, fun last hlast => ?_, hready.spaced⟩
      exact (hready.built last hlast).trans hnow
    · obtain ⟨priority, last, hlast, hcontinuation⟩ := hbuilding.continuation
      exact .inr ⟨⟨priority, last, hlast, hcontinuations.trans hcontinuation⟩, hbuilding.spaced⟩
  · exact ⟨(h.idle hstate).1, hcontinuations.trans (h.idle hstate).2⟩

lemma SingleChain.pause (h : v.SingleChain) (priority : Priority) (pauseDuration : Nat) :
    (v.pause priority pauseDuration).SingleChain := by
  have hagenda : (v.schedule pauseDuration
      (.wakeUpTxQueue priority (v.agenda.now + pauseDuration))).SingleChain :=
    h.setAgenda (Agenda.select_schedule_of_none rfl pauseDuration) (Nat.le_refl _)
  refine ⟨?_, fun hstate => ?_⟩
  · exact hagenda.chain.imp (fun hready => hready.of_eq rfl rfl)
      fun hbuilding => ⟨hbuilding.continuation, hbuilding.spaced⟩
  · exact hagenda.idle (idle_of_setQueueState hstate nofun)

lemma SingleChain.fire (h : v.SingleChain) {index time : Nat} {priority : Priority}
    (hget : v.agenda.pending[index]? = some (time, .encapsulateAndSend priority)) :
    { v with agenda := v.agenda.fire time index }.Ready := by
  have hmem : (time, priority) ∈ v.continuations := Agenda.mem_select_of_pending hget rfl
  have hperm := Agenda.select_fire_perm (f := PacketBuilderEvent.continuation) hget
  rcases h.chain with hready | hbuilding
  · rw [hready.continuations] at hmem
    cases hmem
  · obtain ⟨priority', last, hlast, hcontinuation⟩ := hbuilding.continuation
    rw [hcontinuation, List.mem_singleton] at hmem
    have hrest : (v.agenda.fire time index).select PacketBuilderEvent.continuation = [] := by
      have hlength := hperm.length_eq
      have hone : (v.agenda.select PacketBuilderEvent.continuation).length = 1 :=
        congrArg List.length hcontinuation
      rw [hone, List.length_append] at hlength
      exact List.eq_nil_of_length_eq_zero (Nat.add_left_cancel hlength)
    refine ⟨hrest, fun last' hlast' => ?_, hbuilding.spaced⟩
    cases Option.mem_unique hlast hlast'
    exact Nat.le_of_eq (congrArg Prod.fst hmem).symm

theorem singleChain_invariant : Invariant resumesAlone SingleChain := by
  refine ⟨?_, fun v time h hreaches => ?_, fun v duration h => h.enqueue duration,
    fun v delay priority pauseDuration h => ?_,
    fun v index time event duration h hget hreaches halone => ?_⟩
  · exact ⟨.inl ⟨rfl, nofun, .nil⟩, fun _ => ⟨rfl, rfl⟩⟩
  · exact h.setAgenda rfl hreaches.1
  · exact h.setAgenda (Agenda.select_schedule_of_none rfl delay) (Nat.le_refl _)
  · cases event with
    | encapsulateAndSend priority =>
      exact (h.fire hget).send (fun hstate => (h.idle hstate).1) duration priority
    | setPfcPaused priority pauseDuration =>
      apply SingleChain.pause
      exact h.setAgenda (Agenda.select_fire_of_none hget rfl time) hreaches.1
    | wakeUpTxQueue priority unpausedTime =>
      have hfire : { v with agenda := v.agenda.fire time index }.SingleChain :=
        h.setAgenda (Agenda.select_fire_of_none hget rfl time) hreaches.1
      unfold handleEvent wakeUp
      dsimp only
      split
      · rename_i hunpaused
        have hready := hfire.ready ((Agenda.select_fire_of_none hget rfl time).trans
          (halone hunpaused))
        refine Ready.send ?_ (fun hstate => ?_) duration priority
        · exact hready.of_eq rfl rfl
        · exact (hfire.idle (idle_of_setQueueState hstate nofun)).1
      · exact hfire

end TransmitQueue

variable {c : PacketBuilderConfig} {s : PacketBuilder}

/-- As long as no pause ends while the continuation of a packet is pending, there is at most one
continuation, and a packet is taken only when the one before it is built. -/
theorem single_transmit_chain
    (h : c.system.Reachable (PacketBuilder.meets TransmitQueue.resumesAlone) s) :
    s.transmitQueue.continuations.length ≤ 1 ∧
    s.transmitQueue.taken.IsChain fun later earlier => earlier.1 + earlier.2 ≤ later.1 := by
  have hsingle := TransmitQueue.singleChain_invariant.reachable h
  rcases hsingle.chain with hready | hbuilding
  · exact ⟨by rw [hready.continuations]; exact Nat.zero_le 1, hready.spaced⟩
  · obtain ⟨priority, last, -, hcontinuation⟩ := hbuilding.continuation
    exact ⟨by rw [hcontinuation]; exact Nat.le_refl 1, hbuilding.spaced⟩

def pfcHostConfig : PacketBuilderConfig where
  supportPfc := true
  rxPfcDelay := 10
  packetBuildInterval := 5
  mtuSize := 4500
  transmissionDelay _ := 100
  pauseDuration quanta := quanta.toNat

def pauseFrame (time : Nat) (priority : Priority) (quanta : Int) : PacketBuilderLabel :=
  .receivePfc time (Fabric.PfcFrame.empty.update priority quanta)

def shortPauseRun : List PacketBuilderLabel :=
  [.enqueuePacket 0 { id := 1, byteLength := 1000 } false,
    .enqueuePacket 1 { id := 2, byteLength := 1000 } false,
    .enqueuePacket 2 { id := 3, byteLength := 1000 } false,
    pauseFrame 5 0 10, .event 1 false, .event 1 false]

/-- The end of the pause starts a second chain. -/
theorem short_pause_forks_chain : ∃ s, pfcHostConfig.system.Reachable (fun _ _ => True) s ∧
    s.transmitQueue.continuations = [(100, 0), (125, 0)] ∧
    s.transmitQueue.taken = [(25, 100), (0, 100)] :=
  Reachable.exists_of_run (T := pfcHostConfig.system) (C := fun _ _ => True)
    (P := fun s => s.transmitQueue.continuations = [(100, 0), (125, 0)] ∧
      s.transmitQueue.taken = [(25, 100), (0, 100)])
    (s := {}) shortPauseRun rfl (by decide +kernel)

/-- A pause that is longer than the build duration. -/
theorem single_transmit_chain_longPause : ∃ s,
    pfcHostConfig.system.Reachable (PacketBuilder.meets TransmitQueue.resumesAlone) s ∧
    s.transmitQueue.taken = [(215, 100), (0, 100)] ∧ s.transmitQueue.continuations.length ≤ 1 := by
  obtain ⟨s, hs, htaken⟩ := Reachable.exists_of_run
    (T := pfcHostConfig.system) (C := PacketBuilder.meets TransmitQueue.resumesAlone)
    (P := fun s => s.transmitQueue.taken = [(215, 100), (0, 100)]) (s := {})
    [.enqueuePacket 0 { id := 1, byteLength := 1000 } false,
      .enqueuePacket 1 { id := 2, byteLength := 1000 } false,
      pauseFrame 5 0 200, .event 1 false, .event 0 false, .event 0 false] rfl (by decide +kernel)
  exact ⟨s, hs, htaken, (single_transmit_chain hs).1⟩

end Isekai.Host
