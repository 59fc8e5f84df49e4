import Isekai.Rue.Swift

/-!
# Protective load balancing

`ComputePlb` counts acknowledged packets in rounds of about a window, and asks for another path
after enough congested rounds. Its counters are bit fields of one word.
-/

namespace Isekai.Rue

open Falcon (NackCode)

structure PlbParameters where
  randomizePath : Bool
  plbAttemptThreshold : Nat
  plbTargetRttMultiplier : ℚ
  plbCongestionThreshold : ℚ

structure PlbEvent where
  nackCode : NackCode := .notANack
  numPacketsAcked : Nat
  smoothedDelay : Nat
  targetDelay : Nat
  fabricCongestionWindow : ℚ
  nicCongestionWindow : ℚ

structure PlbState where
  packetsCongestionAcknowledged : BitVec 10 := 0
  packetsAcknowledged : BitVec 10 := 0
  plbRerouteAttempted : BitVec 4 := 0
  deriving DecidableEq

def PlbEvent.oldWindowSize (event : PlbEvent) : ℚ :=
  min event.fabricCongestionWindow event.nicCongestionWindow

namespace PlbParameters

variable (p : PlbParameters)

def isCongested (event : PlbEvent) : Bool :=
  event.targetDelay * p.plbTargetRttMultiplier < event.smoothedDelay

/-- Closes a round after a window of ACKs; enough congested ones reroute. -/
def computePlb (s : PlbState) (event : PlbEvent) : PlbState × Bool :=
  if event.nackCode ≠ .notANack then (s, false)
  else if p.randomizePath then
    let acknowledged := s.packetsAcknowledged.toNat + event.numPacketsAcked
    let congested := s.packetsCongestionAcknowledged.toNat +
      if p.isCongested event then event.numPacketsAcked else 0
    if event.oldWindowSize ≤ acknowledged then
      -- Zero over zero is not a number, and is not below the threshold.
      if acknowledged ≠ 0 ∧
          (congested : ℚ) / acknowledged < p.plbCongestionThreshold then ({}, false)
      else
        let attempted := s.plbRerouteAttempted + 1
        if p.plbAttemptThreshold ≤ attempted.toNat then ({}, true)
        else ({ plbRerouteAttempted := attempted }, false)
    else
      ({ s with
        packetsCongestionAcknowledged := BitVec.ofNat 10 congested
        packetsAcknowledged := BitVec.ofNat 10 acknowledged }, false)
  else (s, false)

end PlbParameters

/-- The ACKs since the end of the last round, and for each round whether it was congested and
whether it ended with a reroute, both the latest first. -/
structure PlbHistory where
  since : List PlbEvent := []
  rounds : List (Bool × Bool) := []

def ackedPackets (events : List PlbEvent) : Nat := (events.map PlbEvent.numPacketsAcked).sum

/-- The consecutive congested rounds since the last uncongested round or reroute. -/
def PlbHistory.streak (h : PlbHistory) : Nat :=
  (h.rounds.takeWhile fun round => round.1 && !round.2).length

namespace PlbParameters

variable (p : PlbParameters)

def expect (h : PlbHistory) (event : PlbEvent) : PlbHistory × Bool :=
  if event.nackCode ≠ .notANack then (h, false)
  else
    let since := event :: h.since
    if event.oldWindowSize ≤ ackedPackets since then
      let congested := decide (p.plbCongestionThreshold * ackedPackets since ≤
        ackedPackets (since.filter p.isCongested))
      let reroute := congested && decide (h.streak + 1 = p.plbAttemptThreshold)
      ({ rounds := (congested, reroute) :: h.rounds }, reroute)
    else ({ h with since }, false)

def feed {σ : Type} (step : σ → PlbEvent → σ × Bool) : σ → List PlbEvent → σ × List Bool
  | s, [] => (s, [])
  | s, event :: events =>
    let (s', reroute) := step s event
    let (s'', reroutes) := feed step s' events
    (s'', reroute :: reroutes)

variable {p} {s : PlbState} {h : PlbHistory} {event : PlbEvent}

/-- The counters count what the history has. -/
structure Tracks (p : PlbParameters) (s : PlbState) (h : PlbHistory) : Prop where
  acknowledged : s.packetsAcknowledged.toNat = ackedPackets h.since
  congested : s.packetsCongestionAcknowledged.toNat = ackedPackets (h.since.filter p.isCongested)
  attempted : s.plbRerouteAttempted.toNat = h.streak
  streak_lt : h.streak < p.plbAttemptThreshold

lemma ackedPackets_filter_le (f : PlbEvent → Bool) (events : List PlbEvent) :
    ackedPackets (events.filter f) ≤ ackedPackets events :=
  List.Sublist.sum_le_sum (List.filter_sublist.map _) (fun _ _ => Nat.zero_le _)

lemma fraction_lt_iff {congested acked : Nat} (hle : congested ≤ acked) (threshold : ℚ) :
    acked ≠ 0 ∧ (congested : ℚ) / acked < threshold ↔ ¬ threshold * acked ≤ congested := by
  rcases Nat.eq_zero_or_pos acked with rfl | hpos
  · rw [Nat.le_zero.mp hle]
    simp
  · rw [not_le, div_lt_iff₀ (Nat.cast_pos.mpr hpos)]
    exact and_iff_right hpos.ne'

lemma Tracks.step (ht : Tracks p s h) (hrandomize : p.randomizePath = true)
    (hthreshold : p.plbAttemptThreshold ≤ 15) (hwindow : event.oldWindowSize ≤ 1024) :
    Tracks p (p.computePlb s event).1 (p.expect h event).1 ∧
      (p.computePlb s event).2 = (p.expect h event).2 := by
  have hacked : s.packetsAcknowledged.toNat + event.numPacketsAcked =
      ackedPackets (event :: h.since) := by
    simp [ackedPackets, ht.acknowledged, Nat.add_comm]
  have hcongested : (s.packetsCongestionAcknowledged.toNat +
      if p.isCongested event then event.numPacketsAcked else 0) =
      ackedPackets ((event :: h.since).filter p.isCongested) := by
    rw [ht.congested, List.filter_cons]
    split <;> simp [ackedPackets, Nat.add_comm]
  have hle := ackedPackets_filter_le p.isCongested (event :: h.since)
  have hattempted : (s.plbRerouteAttempted + 1).toNat = h.streak + 1 := by
    have hlt := ht.streak_lt
    have hattempted := ht.attempted
    bv_omega
  unfold computePlb expect
  simp only [hrandomize, if_true, hacked, hcongested, fraction_lt_iff hle, hattempted]
  by_cases hnack : event.nackCode ≠ .notANack
  · rw [if_pos hnack, if_pos hnack]
    exact ⟨ht, rfl⟩
  rw [if_neg hnack, if_neg hnack]
  by_cases hend : event.oldWindowSize ≤ ackedPackets (event :: h.since)
  · rw [if_pos hend, if_pos hend]
    have hpos := Nat.zero_lt_of_lt ht.streak_lt
    by_cases hround : p.plbCongestionThreshold * ackedPackets (event :: h.since) ≤
        ackedPackets ((event :: h.since).filter p.isCongested)
    · rw [if_neg (not_not.mpr hround)]
      by_cases hlast : h.streak + 1 = p.plbAttemptThreshold
      · rw [if_pos hlast.ge]
        simp only [hround, hlast, decide_true, Bool.and_true]
        exact ⟨⟨rfl, rfl, by simp [PlbHistory.streak], by simpa [PlbHistory.streak]⟩, trivial⟩
      · have hlt := ht.streak_lt
        rw [if_neg (by omega)]
        simp only [hround, hlast, decide_true, decide_false, Bool.and_false]
        have hstreak : PlbHistory.streak { rounds := (true, false) :: h.rounds } =
          h.streak + 1 := rfl
        exact ⟨⟨rfl, rfl, hattempted.trans hstreak.symm, by rw [hstreak]; omega⟩, trivial⟩
    · rw [if_pos hround]
      simp only [hround, decide_false, Bool.false_and]
      exact ⟨⟨rfl, rfl, by simp [PlbHistory.streak], by simpa [PlbHistory.streak]⟩, trivial⟩
  · rw [if_neg hend, if_neg hend]
    have hlt : ackedPackets (event :: h.since) < 1024 := by
      have := (not_le.mp hend).trans_le hwindow
      exact_mod_cast this
    refine ⟨⟨?_, ?_, ht.attempted, ht.streak_lt⟩, rfl⟩
    · exact Nat.mod_eq_of_lt hlt
    · exact Nat.mod_eq_of_lt (hle.trans_lt hlt)

/-- The reroutes are those that the rounds of the history ask for, and the fields are the unbounded
counts after any events. -/
theorem plb_reroutes (hrandomize : p.randomizePath = true) (hthreshold : 1 ≤ p.plbAttemptThreshold)
    (hbits : p.plbAttemptThreshold ≤ 15) (events : List PlbEvent)
    (hevents : ∀ event ∈ events, event.oldWindowSize ≤ 1024) :
    (feed p.computePlb {} events).2 = (feed p.expect {} events).2 ∧
      Tracks p (feed p.computePlb {} events).1 (feed p.expect {} events).1 := by
  suffices hfeed : ∀ s h, Tracks p s h → (feed p.computePlb s events).2 =
    (feed p.expect h events).2 ∧
      Tracks p (feed p.computePlb s events).1 (feed p.expect h events).1 from
    hfeed {} {} ⟨rfl, rfl, rfl, hthreshold⟩
  induction events with
  | nil => exact fun s h ht => ⟨rfl, ht⟩
  | cons event events ih =>
    intro s h ht
    obtain ⟨hevent, hevents⟩ := List.forall_mem_cons.mp hevents
    obtain ⟨ht', hreroute⟩ := ht.step hrandomize hbits hevent
    obtain ⟨hreroutes, hlast⟩ := ih hevents _ _ ht'
    exact ⟨congrArg₂ List.cons hreroute hreroutes, hlast⟩

end PlbParameters

def twoRoundsParameters : PlbParameters := ⟨true, 2, 1, 1 / 2⟩

def congestedAck : PlbEvent where
  numPacketsAcked := 1
  smoothedDelay := 20
  targetDelay := 10
  fabricCongestionWindow := 1
  nicCongestionWindow := 1

theorem plb_reroutes_twoRounds : (PlbParameters.feed twoRoundsParameters.computePlb {}
    [congestedAck, congestedAck]).2 = [false, true] := by
  have hreroutes := (PlbParameters.plb_reroutes (p := twoRoundsParameters) rfl (by decide)
    (by decide)
    [congestedAck, congestedAck] (by decide +kernel)).1
  rw [hreroutes]
  decide +kernel

end Isekai.Rue
