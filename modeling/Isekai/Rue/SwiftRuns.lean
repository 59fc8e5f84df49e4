import Isekai.Rue.Swift

/-!
# How often Swift lowers the fabric window

Events of one flow are processed at real times of which the algorithm sees the low bits.
-/

namespace Isekai.Rue

open Lib SwiftParameters

def Trails (marker : TimeBits) (last now : Nat) : Prop :=
  ∃ m, marker = BitVec.ofNat 24 m ∧ last ≤ m ∧ m ≤ now

lemma getWindowDelta_ofNat {m time : Nat} (h : m ≤ time) :
    getWindowDelta (BitVec.ofNat 24 time) (BitVec.ofNat 24 m) = (time - m) % 2 ^ 24 := by
  unfold getWindowDelta
  rw [BitVec.toNat_sub, BitVec.toNat_ofNat, BitVec.toNat_ofNat]
  omega

lemma Trails.delta_le {marker : TimeBits} {last now time : Nat} (h : Trails marker last now)
    (hle : now ≤ time) : getWindowDelta (BitVec.ofNat 24 time) marker ≤ time - last := by
  obtain ⟨m, rfl, hlast, hnow⟩ := h
  rw [getWindowDelta_ofNat (hnow.trans hle)]
  omega

lemma Trails.now {last time : Nat} (h : last ≤ time) : Trails (BitVec.ofNat 24 time) last time :=
  ⟨time, rfl, h, le_rfl⟩

lemma Trails.trailing {marker : TimeBits} {last now time : Nat} (h : Trails marker last now)
    (hle : now ≤ time) (rtt : Nat) :
    Trails (trailingMarker (BitVec.ofNat 24 time) marker rtt) last time := by
  obtain ⟨m, rfl, hlast, hnow⟩ := h
  unfold trailingMarker
  split
  · rename_i hdelta
    rw [getWindowDelta_ofNat (hnow.trans hle)] at hdelta
    refine ⟨time - rtt, ?_, by omega, by omega⟩
    rw [← BitVec.ofNat_sub_ofNat_of_le _ _ (by omega) (by omega)]
  · exact ⟨m, rfl, hlast, hnow.trans hle⟩

section Clamp

variable {x y low high : ℚ}

lemma low_le_clamp (h : low ≤ high) : low ≤ clamp x low high := by
  unfold clamp
  split
  · exact le_rfl
  · split
    · exact h
    · exact not_lt.mp ‹_›

lemma clamp_le_high (h : low ≤ high) : clamp x low high ≤ high := by
  unfold clamp
  split
  · exact h
  · split
    · exact le_rfl
    · exact not_lt.mp ‹_›

lemma le_clamp (hle : y ≤ x) (hhigh : y ≤ high) : y ≤ clamp x low high := by
  unfold clamp
  split
  · exact hle.trans (le_of_lt ‹_›)
  · split
    · exact hhigh
    · exact hle

lemma clamp_le (hle : x ≤ y) (hlow : low ≤ y) : clamp x low high ≤ y := by
  unfold clamp
  split
  · exact hlow
  · split
    · exact (le_of_lt ‹_›).trans hle
    · exact hle

lemma clamp_lt (hlt : x < y) (hlow : low < y) : clamp x low high < y := by
  unfold clamp
  split
  · exact hlow
  · split
    · exact lt_trans ‹_› hlt
    · exact hlt

lemma clamp_self (hlow : low ≤ x) (hhigh : x ≤ high) : clamp x low high = x := by
  unfold clamp
  rw [if_neg (not_lt.mpr hlow), if_neg (not_lt.mpr hhigh)]

end Clamp

variable {p : SwiftParameters} {targetDelay : ℚ → Nat → Nat} {event : SwiftEvent} {now : TimeBits}
  {state : SwiftState}

/-- The fabric window is within its limits. -/
structure SwiftState.FabricBounded (state : SwiftState) (p : SwiftParameters) : Prop where
  minFabric_le : p.minFabricCongestionWindow ≤ state.fabricCongestionWindow
  fabric_le_max : state.fabricCongestionWindow ≤ p.maxFabricCongestionWindow

/-- Both windows of the flow are within the bounds of the parameters. -/
structure SwiftState.Bounded (state : SwiftState) (p : SwiftParameters) : Prop
    extends state.FabricBounded p where
  minNic_le : p.minNicCongestionWindow ≤ state.nicCongestionWindow
  nic_le_max : state.nicCongestionWindow ≤ p.maxNicCongestionWindow

lemma fabricBounded_process : (p.process event targetDelay now state).FabricBounded p := by
  have hfabric := p.minFabric_le
  have hack : (p.processAckNack event targetDelay now state).FabricBounded p := by
    have hf : p.minFabricCongestionWindow ≤ p.ackNackFabricWindow event targetDelay now state ∧
        p.ackNackFabricWindow event targetDelay now state ≤ p.maxFabricCongestionWindow := by
      unfold ackNackFabricWindow
      split <;> exact ⟨low_le_clamp hfabric, clamp_le_high hfabric⟩
    exact ⟨hf.1, hf.2⟩
  unfold process
  split
  · exact hack
  · exact hack
  · exact ⟨low_le_clamp hfabric, clamp_le_high hfabric⟩

lemma bounded_process (h : state.Bounded p) :
    (p.process event targetDelay now state).Bounded p := by
  have hn : p.minNicCongestionWindow ≤ p.ackNackNicWindow event now state ∧
      p.ackNackNicWindow event now state ≤ p.maxNicCongestionWindow := by
    unfold ackNackNicWindow
    split <;> exact ⟨low_le_clamp p.minNic_le, clamp_le_high p.minNic_le⟩
  refine ⟨fabricBounded_process, ?_, ?_⟩ <;> unfold process <;> split
  · exact hn.1
  · exact hn.1
  · exact h.minNic_le
  · exact hn.2
  · exact hn.2
  · exact h.nic_le_max

lemma testedRtt_le_of_lowered (h : state.FabricBounded p)
    (hlowered : (p.process event targetDelay now state).fabricCongestionWindow <
      state.fabricCongestionWindow) :
    testedRtt event ≤ getWindowDelta now state.fabricWindowTimeMarker := by
  by_contra hlt
  refine absurd hlowered (not_lt.mpr ?_)
  have hkeep : state.fabricCongestionWindow ≤ clamp state.fabricCongestionWindow
      p.minFabricCongestionWindow p.maxFabricCongestionWindow :=
    (clamp_self h.minFabric_le h.fabric_le_max).ge
  have hack : ∀ rtt, event.rtt = rtt → ¬rtt ≤ getWindowDelta now state.fabricWindowTimeMarker →
      state.fabricCongestionWindow ≤ p.ackNackFabricWindow event targetDelay now state := by
    rintro _ rfl hrtt
    unfold ackNackFabricWindow
    dsimp only
    split
    · unfold computeNackFabricCongestionWindow
      rw [if_neg hrtt]
      exact hkeep
    · unfold computeAckFabricCongestionWindow
      split
      · refine le_clamp (le_add_of_nonneg_right ?_) h.fabric_le_max
        have hincrease : 0 ≤ p.fabricAdditiveIncrementFactor * event.numPacketsAcked :=
          mul_nonneg p.fabricIncrement_pos.le (Nat.cast_nonneg _)
        split
        · exact div_nonneg hincrease (zero_le_one.trans ‹_›)
        · exact hincrease
      · exact hkeep
  unfold testedRtt at hlt
  unfold process
  split
  · rename_i htype
    rw [htype, if_neg (by decide)] at hlt
    exact hack _ rfl hlt
  · rename_i htype
    rw [htype, if_neg (by decide)] at hlt
    exact hack _ rfl hlt
  · rename_i htype
    rw [htype, if_pos rfl] at hlt
    dsimp only [processRetransmit]
    unfold computeTimeoutFabricCongestionWindow
    rw [if_neg hlt]
    exact hkeep

/-- One flow, the real time of its last event, the last time its fabric window was lowered and the
changes of its NIC window, the latest first. -/
structure SwiftRun where
  state : SwiftState
  now : Nat := 0
  lowered : Option Nat := none
  nicChanges : List (Nat × WindowDirection) := []

def windowChange (last next : ℚ) : Option WindowDirection :=
  if next < last then some .decrease else if last < next then some .increase else none

/-- An event is processed at a real time of which the algorithm is given the low bits. -/
def SwiftRun.next (p : SwiftParameters) (targetDelay : ℚ → Nat → Nat) (r : SwiftRun) (time : Nat)
    (event : SwiftEvent) : SwiftRun :=
  let state := p.process event targetDelay (BitVec.ofNat 24 time) r.state
  { state := state
    now := time
    lowered :=
      if state.fabricCongestionWindow < r.state.fabricCongestionWindow then some time else r.lowered
    nicChanges :=
      ((windowChange r.state.nicCongestionWindow state.nicCongestionWindow).map
        fun direction => (time, direction)).toList ++ r.nicChanges }

/-- The runs of one flow from a state that meets `start`. -/
def swiftRuns (p : SwiftParameters) (targetDelay : ℚ → Nat → Nat) (start : SwiftState → Prop) :
    TransitionSystem SwiftRun (Nat × SwiftEvent) Empty where
  init r := start r.state ∧ r.lowered = none ∧ r.nicChanges = []
  allowed r l := r.now ≤ l.1
  next r l := .ok (r.next p targetDelay l.1 l.2)

lemma reachable_state {C : SwiftRun → Nat × SwiftEvent → Prop} {I : SwiftState → Prop}
    {r : SwiftRun}
    (hprocess : ∀ event now state, I state → I (p.process event targetDelay now state))
    (h : (swiftRuns p targetDelay I).Reachable C r) : I r.state := by
  refine h.invariant_of_ok (I := fun r => I r.state) (fun _ hinit => ?_) ?_
  · exact And.left hinit
  intro r l r' _ hr _ _ hnext
  cases hnext
  exact hprocess _ _ _ hr

variable (p event targetDelay now state) in
lemma process_fabricWindowTimeMarker : ∃ rtt,
    (p.process event targetDelay now state).fabricWindowTimeMarker =
      getFabricWindowTimeMarker now state.fabricWindowTimeMarker rtt state.fabricCongestionWindow
        (p.process event targetDelay now state).fabricCongestionWindow
        p.minFabricCongestionWindow := by
  unfold process
  split
  · exact ⟨_, rfl⟩
  · exact ⟨_, rfl⟩
  · exact ⟨_, rfl⟩

/-- The marker stands for a time since the last decrease of the window. -/
def SwiftRun.FabricGuarded (r : SwiftRun) : Prop :=
  ∀ last ∈ r.lowered, last ≤ r.now ∧ Trails r.state.fabricWindowTimeMarker last r.now

lemma SwiftRun.FabricGuarded.next {r : SwiftRun} {time : Nat} (h : r.FabricGuarded)
    (htime : r.now ≤ time) : (r.next p targetDelay time event).FabricGuarded := by
  intro last hlast
  obtain ⟨rtt, hmarker⟩ := process_fabricWindowTimeMarker p targetDelay event
    (BitVec.ofNat 24 time) r.state
  dsimp only [SwiftRun.next] at hlast ⊢
  rw [hmarker]
  unfold getFabricWindowTimeMarker
  split at hlast
  · rename_i hlowered
    cases hlast
    rw [if_pos (.inl hlowered)]
    exact ⟨le_rfl, .now le_rfl⟩
  · obtain ⟨hle, htrails⟩ := h last hlast
    refine ⟨hle.trans htime, ?_⟩
    split
    · exact .now (hle.trans htime)
    · exact htrails.trailing htime rtt

/-- Whenever an event lowers the fabric window, the RTT that it tests has passed since the window
was last lowered, however the time wraps; and the window stays within its bounds. -/
theorem fabric_decrease_once_per_rtt {r : SwiftRun}
    (h : (swiftRuns p targetDelay (·.FabricBounded p)).Reachable (fun _ _ => True) r) :
    (p.minFabricCongestionWindow ≤ r.state.fabricCongestionWindow ∧
      r.state.fabricCongestionWindow ≤ p.maxFabricCongestionWindow) ∧
    ∀ time event, r.now ≤ time →
      (r.next p targetDelay time event).state.fabricCongestionWindow <
        r.state.fabricCongestionWindow →
      ∀ last ∈ r.lowered, last + testedRtt event ≤ time := by
  have hbounded := reachable_state (fun _ _ _ _ => fabricBounded_process) h
  refine ⟨⟨hbounded.minFabric_le, hbounded.fabric_le_max⟩, ?_⟩
  intro time event htime hlowered last hlast
  have hguard : r.FabricGuarded := by
    refine h.invariant_of_ok (I := SwiftRun.FabricGuarded) ?_ ?_
    · intro r hinit last hlast
      rw [hinit.2.1] at hlast
      cases hlast
    · intro r l r' _ hr hallowed _ hnext
      cases hnext
      exact hr.next hallowed
  obtain ⟨hle, htrails⟩ := hguard last hlast
  have hdelta := htrails.delta_le htime
  have hrtt := testedRtt_le_of_lowered hbounded hlowered
  omega

instance (start : SwiftState → Prop) (r : SwiftRun) (l : Nat × SwiftEvent) :
    Decidable ((swiftRuns p targetDelay start).allowed r l) :=
  inferInstanceAs (Decidable (r.now ≤ l.1))

def exampleParameters : SwiftParameters where
  minFabricCongestionWindow := 1
  maxFabricCongestionWindow := 16
  fabricAdditiveIncrementFactor := 1
  fabricMultiplicativeDecreaseFactor := 4 / 5
  maxFabricMultiplicativeDecrease := 1 / 2
  minNicCongestionWindow := 1
  maxNicCongestionWindow := 16
  nicAdditiveIncrementFactor := 1
  nicMultiplicativeDecreaseFactor := 4 / 5
  maxNicMultiplicativeDecrease := 1 / 2
  targetRxBufferLevel := 10
  rttSmoothingAlpha := 1 / 2
  delaySmoothingAlpha := 1 / 2
  retransmitLimit := 3
  calcRttSmooth := false
  maxDecreaseOnEackNackDrop := true
  minFabric_le := by norm_num
  fabricIncrement_pos := by norm_num
  minNic_pos := by norm_num
  minNic_le := by norm_num
  nicIncrement_pos := by norm_num
  nicDecrease_pos := by norm_num
  maxNicDecrease_pos := by norm_num
  maxNicDecrease_lt := by norm_num

/-- A drop lowers the window, and another one does so more than a wrap of the time later. -/
theorem fabric_decrease_once_per_rtt_wrapped :
    ∃ r, (swiftRuns exampleParameters (fun _ _ => 10)
        (·.FabricBounded exampleParameters)).Reachable (fun _ _ => True) r ∧
      r.lowered = some 50 ∧ 50 + 40 ≤ 2 ^ 24 + 90 := by
  have hdrop : ∃ r, (swiftRuns exampleParameters (fun _ _ => 10)
        (·.FabricBounded exampleParameters)).Reachable (fun _ _ => True) r ∧
      r.now ≤ 2 ^ 24 + 90 ∧ r.lowered = some 50 ∧
      (r.next exampleParameters (fun _ _ => 10) (2 ^ 24 + 90)
          { eventType := .nack, nackCode := .reserved, rtt := 40 }).state.fabricCongestionWindow <
        r.state.fabricCongestionWindow :=
    TransitionSystem.Reachable.exists_of_run
      (s := { state := ⟨8, 0, 8, 0, .increase⟩ })
      [(50, { eventType := .nack, nackCode := .reserved, rtt := 40 })]
      ⟨⟨by decide +kernel, by decide +kernel⟩, rfl, rfl⟩
      (by decide +kernel)
  obtain ⟨r, hr, hnow, hlast, hlowered⟩ := hdrop
  exact ⟨r, hr, hlast, (fabric_decrease_once_per_rtt hr).2 _ _ hnow hlowered 50 hlast⟩

end Isekai.Rue
