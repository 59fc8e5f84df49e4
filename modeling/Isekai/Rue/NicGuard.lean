import Isekai.Rue.SwiftRuns

/-!
# How often Swift changes the NIC window

One marker and one direction guard both kinds of change.
-/

namespace Isekai.Rue

open Lib TransitionSystem SwiftParameters

variable {p : SwiftParameters} {targetDelay : ℚ → Nat → Nat} {event : SwiftEvent} {now : TimeBits}
  {state : SwiftState}

/-- The NACK for which the window may be lowered past the guard. -/
def SwiftEvent.Exhausted (event : SwiftEvent) : Prop :=
  event.eventType = .nack ∧ event.nackCode = .rxResourceExhaustion

instance : Decidable event.Exhausted := inferInstanceAs (Decidable (_ ∧ _))

lemma one_sub_mul_le {x a : ℚ} (hx : 0 ≤ x) (ha : 0 ≤ a) : x * (1 - a) ≤ x :=
  mul_le_of_le_one_right hx (sub_le_self 1 ha)

lemma decreaseFactor_lt_one {value target : Nat} {factor maxDecrease : ℚ} (hvalue : target < value)
    (hfactor : 0 < factor) (hmax : 0 < maxDecrease) :
    decreaseFactor value target factor maxDecrease < 1 := by
  have hpos : value ≠ 0 := by omega
  unfold decreaseFactor
  rw [if_neg hpos]
  refine sub_lt_self 1 (lt_min hmax (mul_pos (div_pos ?_ ?_) hfactor))
  · exact Nat.cast_pos.mpr (Nat.sub_pos_of_lt hvalue)
  · exact Nat.cast_pos.mpr (Nat.pos_of_ne_zero hpos)

section Window

variable (h : state.Bounded p)

include h

lemma nic_nonneg : 0 ≤ state.nicCongestionWindow := p.minNic_pos.le.trans h.minNic_le

lemma clamp_nic : clamp state.nicCongestionWindow p.minNicCongestionWindow
    p.maxNicCongestionWindow = state.nicCongestionWindow :=
  clamp_self h.minNic_le h.nic_le_max

lemma passes_of_raised
    (hraised : state.nicCongestionWindow < p.ackNackNicWindow event now state) :
    state.nicWindowDirection = .decrease ∨
      event.rtt ≤ getWindowDelta now state.nicWindowTimeMarker := by
  by_contra hguard
  obtain ⟨hdirection, hdelta⟩ := not_or.mp hguard
  refine absurd hraised (not_lt.mpr ?_)
  have hnonneg := nic_nonneg h
  unfold ackNackNicWindow
  dsimp only
  split
  · unfold computeNackNicCongestionWindow
    split
    · exact clamp_le (one_sub_mul_le hnonneg p.maxNicDecrease_pos.le) h.minNic_le
    · exact (clamp_nic h).le
  · unfold computeAckNicCongestionWindow
    rw [if_neg hguard, if_neg hdelta, ite_self, clamp_nic h]

lemma passes_of_lowered
    (hlowered : p.ackNackNicWindow event now state < state.nicCongestionWindow) :
    (event.Exhausted ∧ state.nicWindowDirection = .increase) ∨
      event.rtt ≤ getWindowDelta now state.nicWindowTimeMarker := by
  by_contra hguard
  obtain ⟨hexhausted, hdelta⟩ := not_or.mp hguard
  refine absurd hlowered (not_lt.mpr ?_)
  unfold ackNackNicWindow
  dsimp only
  split
  · rename_i hnack
    unfold computeNackNicCongestionWindow
    rw [if_neg (not_or.mpr ⟨fun hdirection => hexhausted ⟨hnack, hdirection⟩, hdelta⟩), clamp_nic h]
  · unfold computeAckNicCongestionWindow
    split
    · refine le_clamp ?_ h.nic_le_max
      split
      · exact le_add_of_nonneg_right (zero_le_one.trans p.nicIncrement_pos)
      · exact le_rfl
    · exact (clamp_nic h).ge

end Window

inductive NicStep (p : SwiftParameters) (event : SwiftEvent) (now : TimeBits)
    (state next : SwiftState) : Prop where
  | lowered (window : next.nicCongestionWindow < state.nicCongestionWindow)
      (marker : next.nicWindowTimeMarker = now) (direction : next.nicWindowDirection = .decrease)
      (passes : (event.Exhausted ∧ state.nicWindowDirection = .increase) ∨
        event.rtt ≤ getWindowDelta now state.nicWindowTimeMarker)
  | raised (window : state.nicCongestionWindow < next.nicCongestionWindow)
      (marker : next.nicWindowTimeMarker = now) (direction : next.nicWindowDirection = .increase)
      (passes : state.nicWindowDirection = .decrease ∨
        event.rtt ≤ getWindowDelta now state.nicWindowTimeMarker)
  | kept (window : next.nicCongestionWindow = state.nicCongestionWindow)
      (marker : next.nicWindowTimeMarker = state.nicWindowTimeMarker ∨
        next.nicWindowTimeMarker = now ∨
        ∃ rtt, next.nicWindowTimeMarker = trailingMarker now state.nicWindowTimeMarker rtt)
      (direction : next.nicWindowDirection = .decrease →
        state.nicWindowDirection = .decrease ∨
          state.nicCongestionWindow = p.minNicCongestionWindow)

variable (event targetDelay now) in
lemma nicStep_processAckNack (h : state.Bounded p) :
    NicStep p event now state (p.processAckNack event targetDelay now state) := by
  rcases lt_trichotomy (p.ackNackNicWindow event now state) state.nicCongestionWindow with
    hlowered | hkept | hraised
  · have hguard : getNicWindowGuardInfo now state.nicWindowTimeMarker (p.calcRtt event)
        state.nicWindowDirection state.nicCongestionWindow (p.ackNackNicWindow event now state)
        p.minNicCongestionWindow p.maxNicCongestionWindow = (now, .decrease) :=
      if_pos (.inl hlowered)
    exact .lowered hlowered (congrArg Prod.fst hguard) (congrArg Prod.snd hguard)
      (passes_of_lowered h hlowered)
  · refine .kept hkept ?_ ?_
    · dsimp only [processAckNack]
      unfold getNicWindowGuardInfo
      split
      · exact .inr (.inl rfl)
      · split
        · exact .inr (.inl rfl)
        · exact .inr (.inr ⟨_, rfl⟩)
    · dsimp only [processAckNack]
      rw [hkept]
      unfold getNicWindowGuardInfo
      split
      · rename_i hmin
        exact fun _ => .inr (hmin.resolve_left (lt_irrefl _))
      · split
        · exact fun hdirection => nomatch hdirection
        · exact .inl
  · have hmin := h.minNic_le.trans_lt hraised
    have hguard : getNicWindowGuardInfo now state.nicWindowTimeMarker (p.calcRtt event)
        state.nicWindowDirection state.nicCongestionWindow (p.ackNackNicWindow event now state)
        p.minNicCongestionWindow p.maxNicCongestionWindow = (now, .increase) := by
      unfold getNicWindowGuardInfo
      rw [if_neg (not_or.mpr ⟨hraised.not_gt, hmin.ne'⟩), if_pos (.inl hraised)]
    exact .raised hraised (congrArg Prod.fst hguard) (congrArg Prod.snd hguard)
      (passes_of_raised h hraised)

variable (event targetDelay now) in
lemma nicStep_process (h : state.Bounded p) :
    NicStep p event now state (p.process event targetDelay now state) := by
  unfold process
  split
  · exact nicStep_processAckNack targetDelay event now h
  · exact nicStep_processAckNack targetDelay event now h
  · exact .kept rfl (.inl rfl) .inl

/-- With a constant RTT, what the marker and the direction say of the changes so far. -/
structure SwiftRun.NicGuarded (r : SwiftRun) (p : SwiftParameters) (rtt : Nat) : Prop where
  trails : ∀ change ∈ r.nicChanges, Trails r.state.nicWindowTimeMarker change.1 r.now
  decreased : r.state.nicWindowDirection = .decrease ∨
      r.state.nicCongestionWindow = p.minNicCongestionWindow →
    ∀ change ∈ r.nicChanges, change.2 = .increase → change.1 + rtt ≤ r.now
  spaced : r.nicChanges.Pairwise fun later earlier =>
    later.2 = earlier.2 → earlier.1 + rtt ≤ later.1

lemma Trails.le {marker : TimeBits} {last now : Nat} (h : Trails marker last now) : last ≤ now := by
  obtain ⟨m, _, hlast, hnow⟩ := h
  exact hlast.trans hnow

lemma Trails.mono {marker : TimeBits} {last now time : Nat} (h : Trails marker last now)
    (hle : now ≤ time) : Trails marker last time := by
  obtain ⟨m, hmarker, hlast, hnow⟩ := h
  exact ⟨m, hmarker, hlast, hnow.trans hle⟩

namespace SwiftRun.NicGuarded

variable {r : SwiftRun} {rtt time : Nat}

lemma add_le (h : r.NicGuarded p rtt) (htime : r.now ≤ time)
    (hdelta : rtt ≤ getWindowDelta (BitVec.ofNat 24 time) r.state.nicWindowTimeMarker)
    {change : Nat × WindowDirection} (hchange : change ∈ r.nicChanges) :
    change.1 + rtt ≤ time := by
  have htrails := h.trails change hchange
  have hle := htrails.le
  have := htrails.delta_le htime
  omega

lemma push {r' : SwiftRun} (h : r.NicGuarded p rtt) (direction : WindowDirection)
    (htime : r.now ≤ time) (hnow : r'.now = time)
    (hmarker : r'.state.nicWindowTimeMarker = BitVec.ofNat 24 time)
    (hchanges : r'.nicChanges = (time, direction) :: r.nicChanges)
    (hsame : ∀ change ∈ r.nicChanges, direction = change.2 → change.1 + rtt ≤ time)
    (hdecreased : r'.state.nicWindowDirection = .decrease ∨
        r'.state.nicCongestionWindow = p.minNicCongestionWindow →
      direction = .decrease ∧ ∀ change ∈ r.nicChanges, change.1 + rtt ≤ time) :
    r'.NicGuarded p rtt := by
  constructor
  · intro change hchange
    rw [hchanges] at hchange
    rw [hmarker, hnow]
    rcases List.mem_cons.mp hchange with rfl | hold
    · exact .now le_rfl
    · exact .now ((h.trails change hold).le.trans htime)
  · intro hdirection change hchange hincrease
    obtain ⟨rfl, hall⟩ := hdecreased hdirection
    rw [hchanges] at hchange
    rw [hnow]
    rcases List.mem_cons.mp hchange with rfl | hold
    · cases hincrease
    · exact hall change hold
  · rw [hchanges]
    exact List.pairwise_cons.mpr ⟨hsame, h.spaced⟩

lemma next (h : r.NicGuarded p rtt) (hbounded : r.state.Bounded p) (htime : r.now ≤ time)
    (hrtt : event.rtt = rtt)
    (hpasses : event.Exhausted → r.state.nicWindowDirection = .increase →
      rtt ≤ getWindowDelta (BitVec.ofNat 24 time) r.state.nicWindowTimeMarker) :
    (r.next p targetDelay time event).NicGuarded p rtt := by
  subst hrtt
  cases nicStep_process targetDelay event (BitVec.ofNat 24 time) hbounded with
  | lowered window marker direction passes =>
    have hdelta : event.rtt ≤
        getWindowDelta (BitVec.ofNat 24 time) r.state.nicWindowTimeMarker := by
      rcases passes with ⟨hexhausted, hincrease⟩ | hdelta
      · exact hpasses hexhausted hincrease
      · exact hdelta
    refine h.push .decrease htime rfl marker ?_ ?_ ?_
    · dsimp only [SwiftRun.next, windowChange]
      rw [if_pos window]
      rfl
    · exact fun change hchange _ => h.add_le htime hdelta hchange
    · exact fun _ => ⟨rfl, fun change hchange => h.add_le htime hdelta hchange⟩
  | raised window marker direction passes =>
    refine h.push .increase htime rfl marker ?_ ?_ ?_
    · dsimp only [SwiftRun.next, windowChange]
      rw [if_neg window.not_gt, if_pos window]
      rfl
    · intro change hchange hsame
      rcases passes with hdecrease | hdelta
      · exact (h.decreased (.inl hdecrease) change hchange hsame.symm).trans htime
      · exact h.add_le htime hdelta hchange
    · rintro (hdecrease | hmin)
      · cases direction.symm.trans hdecrease
      · exact absurd hmin (hbounded.minNic_le.trans_lt window).ne'
  | kept window marker direction =>
    have hchanges : (r.next p targetDelay time event).nicChanges = r.nicChanges := by
      dsimp only [SwiftRun.next, windowChange]
      rw [window, if_neg (lt_irrefl _), if_neg (lt_irrefl _)]
      rfl
    constructor
    · intro change hchange
      have htrails := h.trails change (hchanges ▸ hchange)
      rcases marker with hmarker | hmarker | ⟨rtt, hmarker⟩
      · exact hmarker ▸ htrails.mono htime
      · exact hmarker ▸ .now (htrails.le.trans htime)
      · exact hmarker ▸ htrails.trailing htime rtt
    · intro hdecreased change hchange hincrease
      have hold : r.state.nicWindowDirection = .decrease ∨
          r.state.nicCongestionWindow = p.minNicCongestionWindow := by
        rcases hdecreased with hdecrease | hmin
        · exact direction hdecrease
        · exact .inr (window.symm.trans hmin)
      exact (h.decreased hold change (hchanges ▸ hchange) hincrease).trans htime
    · exact hchanges ▸ h.spaced

end SwiftRun.NicGuarded

/-- With a constant RTT, two raises and two decreases of the NIC window are at least an RTT apart,
unless a resource exhaustion lowers the window within an RTT of its last change. -/
theorem nic_changes_spaced {rtt : Nat} {r : SwiftRun}
    (h : (swiftRuns p targetDelay (·.Bounded p)).Reachable
      (fun r l => l.2.rtt = rtt ∧
        (l.2.Exhausted → r.state.nicWindowDirection = .increase →
          rtt ≤ getWindowDelta (BitVec.ofNat 24 l.1) r.state.nicWindowTimeMarker)) r) :
    r.nicChanges.Pairwise fun later earlier =>
      later.2 = earlier.2 → earlier.1 + rtt ≤ later.1 := by
  have hguarded : r.NicGuarded p rtt := by
    refine h.invariant_of_ok (I := fun r => r.NicGuarded p rtt) ?_ ?_
    · intro r hinit
      have hchanges : r.nicChanges = [] := hinit.2.2
      constructor
      · intro change hchange
        rw [hchanges] at hchange
        cases hchange
      · intro _ change hchange
        rw [hchanges] at hchange
        cases hchange
      · rw [hchanges]
        exact .nil
    · intro r l r' hreachable hr hallowed hC hnext
      cases hnext
      exact hr.next (reachable_state (fun _ _ _ => bounded_process) hreachable) hallowed hC.1 hC.2
  exact hguarded.spaced

/-- Raised at 100 and 102, and lowered at 101 and 103, with an RTT of 10. -/
theorem nic_changes_alternate :
    ∃ r, (swiftRuns exampleParameters (fun _ _ => 10) (·.Bounded exampleParameters)).Reachable
        (fun _ l => l.2.rtt = 10) r ∧
      r.nicChanges = [(103, .decrease), (102, .increase), (101, .decrease), (100, .increase)] :=
  Reachable.exists_of_run
    (s := { state := ⟨8, 0, 8, 0, .increase⟩ })
    [(100, { eventType := .ack, rtt := 10 }),
      (101, { eventType := .nack, nackCode := .rxResourceExhaustion, rtt := 10 }),
      (102, { eventType := .ack, rtt := 10 }),
      (103, { eventType := .nack, nackCode := .rxResourceExhaustion, rtt := 10 })]
    ⟨⟨⟨by decide +kernel, by decide +kernel⟩, by decide +kernel, by decide +kernel⟩, rfl, rfl⟩
    (by decide +kernel)

/-- A raise, and a decrease on a resource exhaustion an RTT later. -/
theorem nic_changes_spaced_exhausted :
    ∃ r : SwiftRun, r.nicChanges = [(120, .increase), (110, .decrease), (100, .increase)] ∧
      r.nicChanges.Pairwise fun later earlier =>
        later.2 = earlier.2 → earlier.1 + 10 ≤ later.1 := by
  obtain ⟨r, hr, hchanges⟩ := Reachable.exists_of_run
    (T := swiftRuns exampleParameters (fun _ _ => 10) (·.Bounded exampleParameters))
    (C := fun r l => l.2.rtt = 10 ∧
      (l.2.Exhausted → r.state.nicWindowDirection = .increase →
        10 ≤ getWindowDelta (BitVec.ofNat 24 l.1) r.state.nicWindowTimeMarker))
    (s := { state := ⟨8, 0, 8, 0, .increase⟩ })
    (P := fun r => r.nicChanges = [(120, .increase), (110, .decrease), (100, .increase)])
    [(100, { eventType := .ack, rtt := 10 }),
      (110, { eventType := .nack, nackCode := .rxResourceExhaustion, rtt := 10 }),
      (120, { eventType := .ack, rtt := 10 })]
    ⟨⟨⟨by decide +kernel, by decide +kernel⟩, by decide +kernel, by decide +kernel⟩, rfl, rfl⟩
    (by decide +kernel)
  exact ⟨r, hchanges, nic_changes_spaced hr⟩

section Overload

/-- An acknowledgement that shows the receive buffer above its target. -/
structure SwiftEvent.Overloaded (event : SwiftEvent) (p : SwiftParameters) (rtt : Nat) : Prop where
  isAck : event.eventType = .ack
  rtt_eq : event.rtt = rtt
  target_lt : p.targetRxBufferLevel < event.rxBufferLevel

def SwiftParameters.processAll (p : SwiftParameters) (targetDelay : ℚ → Nat → Nat)
    (state : SwiftState) (events : List (Nat × SwiftEvent)) : SwiftState :=
  events.foldl (fun s e => p.process e.2 targetDelay (BitVec.ofNat 24 e.1) s) state

/-- How far an event that changes nothing leaves the marker behind the time. -/
def SwiftParameters.markerLag (p : SwiftParameters) (window : ℚ) (event : SwiftEvent) : Nat :=
  if window = p.maxNicCongestionWindow then 0 else p.calcRtt event

variable {rtt : Nat}

lemma process_overloaded (h : event.Overloaded p rtt) :
    p.process event targetDelay now state = p.processAckNack event targetDelay now state := by
  unfold process
  rw [h.isAck]

variable (targetDelay now) in
lemma overloaded_window (h : event.Overloaded p rtt) (hbounded : state.Bounded p)
    (hmin : p.minNicCongestionWindow < state.nicCongestionWindow) :
    (rtt ≤ getWindowDelta now state.nicWindowTimeMarker →
      (p.process event targetDelay now state).nicCongestionWindow < state.nicCongestionWindow) ∧
    (getWindowDelta now state.nicWindowTimeMarker < rtt →
      (p.process event targetDelay now state).nicCongestionWindow =
        state.nicCongestionWindow) := by
  have hack : ¬(event.eventType = .nack ∧ event.nackCode = .rxResourceExhaustion) := by
    rw [h.isAck]
    exact fun hnack => nomatch hnack.1
  rw [process_overloaded h]
  dsimp only [processAckNack, ackNackNicWindow]
  rw [if_neg hack]
  unfold computeAckNicCongestionWindow
  rw [if_neg (Nat.lt_asymm h.target_lt), h.rtt_eq]
  constructor
  · intro hdelta
    rw [if_pos hdelta]
    have hlt := mul_lt_of_lt_one_right (p.minNic_pos.trans hmin)
      (decreaseFactor_lt_one h.target_lt p.nicDecrease_pos p.maxNicDecrease_pos)
    exact clamp_lt hlt hmin
  · intro hdelta
    rw [if_neg (Nat.not_le.mpr hdelta), clamp_nic hbounded]

lemma trailingMarker_ofNat {m time : Nat} (hm : m ≤ time) (hspan : time < m + 2 ^ 24) (lag : Nat) :
    trailingMarker (BitVec.ofNat 24 time) (BitVec.ofNat 24 m) lag =
      BitVec.ofNat 24 (max m (time - lag)) := by
  have hdelta : getWindowDelta (BitVec.ofNat 24 time) (BitVec.ofNat 24 m) = time - m := by
    rw [getWindowDelta_ofNat hm, Nat.mod_eq_of_lt (by omega)]
  unfold trailingMarker
  split
  · rw [BitVec.ofNat_sub_ofNat_of_le _ _ (by omega) (by omega), max_eq_right (by omega)]
  · rw [max_eq_left (by omega)]

lemma overloaded_marker {m time : Nat} (h : event.Overloaded p rtt)
    (hmin : p.minNicCongestionWindow < state.nicCongestionWindow)
    (hmarker : state.nicWindowTimeMarker = BitVec.ofNat 24 m) (hm : m ≤ time)
    (hspan : time < m + 2 ^ 24)
    (hkept : (p.process event targetDelay (BitVec.ofNat 24 time) state).nicCongestionWindow =
      state.nicCongestionWindow) :
    (p.process event targetDelay (BitVec.ofNat 24 time) state).nicWindowTimeMarker =
      BitVec.ofNat 24 (max m (time - p.markerLag state.nicCongestionWindow event)) := by
  rw [process_overloaded h] at hkept ⊢
  dsimp only [processAckNack] at hkept ⊢
  rw [hkept, hmarker]
  unfold getNicWindowGuardInfo markerLag
  rw [if_neg (not_or.mpr ⟨lt_irrefl _, hmin.ne'⟩)]
  by_cases hmax : state.nicCongestionWindow = p.maxNicCongestionWindow
  · rw [if_pos (.inr hmax), if_pos hmax, Nat.sub_zero, max_eq_right hm]
  · rw [if_neg (not_or.mpr ⟨lt_irrefl _, hmax⟩), if_neg hmax]
    exact trailingMarker_ofNat hm hspan _

/-- Within an RTT of the marker, events under overload change nothing. The marker they leave is the
latest of those that each of them asks for. -/
lemma processAll_overloaded {start m last finish : Nat} {events : List (Nat × SwiftEvent)}
    {s : SwiftState} (hbounded : s.Bounded p)
    (hmin : p.minNicCongestionWindow < s.nicCongestionWindow)
    (hmarker : s.nicWindowTimeMarker = BitVec.ofNat 24 m) (hstart : start ≤ m) (hm : m ≤ last)
    (hevents : ∀ e ∈ events, e.2.Overloaded p rtt ∧ e.1 < start + rtt)
    (hsorted : (last :: events.map Prod.fst).Pairwise (· ≤ ·))
    (hfinish : start + rtt ≤ finish) (hspan : finish < start + 2 ^ 24) (hlast : last ≤ finish) :
    (p.processAll targetDelay s events).Bounded p ∧
      (p.processAll targetDelay s events).nicCongestionWindow = s.nicCongestionWindow ∧
      ∃ m', (p.processAll targetDelay s events).nicWindowTimeMarker = BitVec.ofNat 24 m' ∧
        start ≤ m' ∧ m' ≤ finish ∧
        (m' + rtt ≤ finish ↔ m + rtt ≤ finish ∧
          ∀ e ∈ events, e.1 + rtt ≤ finish + p.markerLag s.nicCongestionWindow e.2) := by
  induction events generalizing s m last with
  | nil =>
    refine ⟨hbounded, rfl, m, hmarker, hstart, hm.trans hlast, ?_⟩
    simp
  | cons e events ih =>
    obtain ⟨hoverloaded, hbefore⟩ := hevents e List.mem_cons_self
    obtain ⟨hfirst, hrest⟩ := List.pairwise_cons.mp hsorted
    have hle : last ≤ e.1 := hfirst e.1 List.mem_cons_self
    have hdelta : getWindowDelta (BitVec.ofNat 24 e.1) s.nicWindowTimeMarker < rtt := by
      rw [hmarker, getWindowDelta_ofNat (hm.trans hle), Nat.mod_eq_of_lt (by omega)]
      omega
    have hkept := (overloaded_window targetDelay _ hoverloaded hbounded hmin).2 hdelta
    have hnext := overloaded_marker hoverloaded hmin hmarker (hm.trans hle) (by omega) hkept
    obtain ⟨hbounded', hwindow, m', hmarker', hstart', hm', hiff⟩ :=
      ih (bounded_process hbounded) (hkept ▸ hmin) hnext (hstart.trans (le_max_left _ _))
        (max_le (hm.trans hle) (Nat.sub_le _ _))
        (fun e' he' => hevents e' (List.mem_cons_of_mem _ he')) hrest (by omega)
    refine ⟨hbounded', hwindow.trans hkept, m', hmarker', hstart', hm', hiff.trans ?_⟩
    rw [hkept, List.forall_mem_cons, ← and_assoc]
    refine and_congr_left fun _ => ?_
    omega

lemma marker_of_changed (h : state.Bounded p)
    (hchanged : (p.process event targetDelay now state).nicCongestionWindow ≠
      state.nicCongestionWindow) :
    (p.process event targetDelay now state).nicWindowTimeMarker = now := by
  cases nicStep_process targetDelay event now h with
  | lowered _ marker => exact marker
  | raised _ marker => exact marker
  | kept window => exact absurd window hchanged

/-- After a change of the NIC window at `start`, events under overload leave it alone for an RTT.
The first event after that lowers it if and only if none of the events between has moved the marker
to less than an RTT before it: at the maximum every event moves the marker to its own time, and
elsewhere to an RTT before. -/
theorem overload_lowers_iff {start finish : Nat} {first last : SwiftEvent}
    {events : List (Nat × SwiftEvent)} (hbounded : state.Bounded p)
    (hchanged : (p.process first targetDelay (BitVec.ofNat 24 start) state).nicCongestionWindow ≠
      state.nicCongestionWindow)
    (hmin : p.minNicCongestionWindow <
      (p.process first targetDelay (BitVec.ofNat 24 start) state).nicCongestionWindow)
    (hevents : ∀ e ∈ events, e.2.Overloaded p rtt ∧ e.1 < start + rtt)
    (hsorted : (start :: events.map Prod.fst).Pairwise (· ≤ ·))
    (hlast : last.Overloaded p rtt) (hfinish : start + rtt ≤ finish)
    (hspan : finish < start + 2 ^ 24) :
    let changed := p.process first targetDelay (BitVec.ofNat 24 start) state
    let waited := p.processAll targetDelay changed events
    waited.nicCongestionWindow = changed.nicCongestionWindow ∧
    ((p.process last targetDelay (BitVec.ofNat 24 finish) waited).nicCongestionWindow <
        waited.nicCongestionWindow ↔
      ∀ e ∈ events, e.1 + rtt ≤ finish + p.markerLag changed.nicCongestionWindow e.2) := by
  intro changed waited
  have hmarker := marker_of_changed hbounded hchanged
  obtain ⟨hbounded', hwindow, m, hmarker', hstart, hm, hiff⟩ :=
    processAll_overloaded (bounded_process hbounded) hmin hmarker le_rfl le_rfl hevents hsorted
      hfinish hspan (by omega)
  refine ⟨hwindow, ?_⟩
  have hdelta : getWindowDelta (BitVec.ofNat 24 finish) waited.nicWindowTimeMarker =
      finish - m := by
    rw [hmarker', getWindowDelta_ofNat hm, Nat.mod_eq_of_lt (by omega)]
  obtain ⟨hlower, hkeep⟩ := overloaded_window targetDelay (BitVec.ofNat 24 finish) hlast
    hbounded' (hwindow ▸ hmin)
  have hmoved : m + rtt ≤ finish ↔
      ∀ e ∈ events, e.1 + rtt ≤ finish + p.markerLag changed.nicCongestionWindow e.2 :=
    hiff.trans (and_iff_right hfinish)
  rw [← hmoved]
  constructor
  · intro hlowered
    by_contra hlate
    exact hlowered.ne (hkeep (hdelta.trans_lt (by omega)))
  · intro htime
    have hpassed : rtt ≤ finish - m := by omega
    exact hlower (hpassed.trans hdelta.ge)

def raiseAck : SwiftEvent := { eventType := .ack, rtt := 40, rttState := 40 }

def overloadAck : SwiftEvent := { raiseAck with rxBufferLevel := 20 }

def raisedAt100 (window : ℚ) : SwiftState :=
  exampleParameters.process raiseAck (fun _ _ => 10) (BitVec.ofNat 24 100)
    ⟨8, 0, window, 0, .increase⟩

def waitedAt120 (window : ℚ) : SwiftState :=
  exampleParameters.processAll (fun _ _ => 10) (raisedAt100 window) [(120, overloadAck)]

/-- When the window is raised to its maximum, the event at 120 keeps the one at 140, an RTT after
the change, from lowering the window. -/
theorem overload_at_max_not_lowered :
    (raisedAt100 15).nicCongestionWindow = exampleParameters.maxNicCongestionWindow ∧
      (waitedAt120 15).nicCongestionWindow = exampleParameters.maxNicCongestionWindow ∧
      (exampleParameters.process overloadAck (fun _ _ => 10) (BitVec.ofNat 24 140)
          (waitedAt120 15)).nicCongestionWindow = exampleParameters.maxNicCongestionWindow := by
  decide +kernel

/-- Below the maximum the same events lower the window. -/
theorem overload_lowers_below_max :
    (exampleParameters.process overloadAck (fun _ _ => 10) (BitVec.ofNat 24 140)
      (waitedAt120 14)).nicCongestionWindow < (waitedAt120 14).nicCongestionWindow := by
  have hoverload : overloadAck.Overloaded exampleParameters 40 := ⟨rfl, rfl, by decide⟩
  have hevents : ∀ e ∈ [(120, overloadAck)],
      e.2.Overloaded exampleParameters 40 ∧ e.1 < 100 + 40 := by
    intro e he
    cases List.mem_singleton.mp he
    exact ⟨hoverload, by decide⟩
  have hbounded : (⟨8, 0, 14, 0, .increase⟩ : SwiftState).Bounded exampleParameters :=
    ⟨⟨by decide +kernel, by decide +kernel⟩, by decide +kernel, by decide +kernel⟩
  have hchanged : (raisedAt100 14).nicCongestionWindow ≠ 14 := by decide +kernel
  have hmin : exampleParameters.minNicCongestionWindow < (raisedAt100 14).nicCongestionWindow := by
    decide +kernel
  exact (overload_lowers_iff hbounded hchanged hmin hevents (by decide) hoverload (by decide)
    (by decide)).2.mpr (by decide +kernel)

end Overload

end Isekai.Rue
