import Isekai.Lib.Outcome
import Isekai.Rue.Swift
import Isekai.Rue.RateUpdateEngine

/-!
# Times of the rate update engine

Times are converted to units, of which 24 bits are kept; the conversion aborts where they do not
suffice. The units are whole nanoseconds, so that for times below `2 ^ 53` ns the quotient of
doubles is that of integers. Of the events and the metadata only what concerns time is in the model.
-/

namespace Isekai.Rue

open Lib

inductive DelaySelect where
  | full | fabric | forward | reverse
  deriving DecidableEq, Repr

/-- The units of Falcon and of the timing wheel. -/
structure TimeUnits where
  falcon : Nat
  timingWheel : Nat

/-- The times of an ACK or NACK packet: `timestamp_3` is its sending and `timestamp_4` its
reception. -/
structure PacketTimes where
  timestamp1 : Nat
  timestamp2 : Nat
  timestamp3 : Nat
  timestamp4 : Nat

structure TimeMetadata where
  interPacketGap : Nat
  retransmitTimeout : Nat
  delaySelect : DelaySelect

structure TimedEvent where
  eventType : RueEventType
  timestamp1 : TimeBits
  timestamp2 : TimeBits
  timestamp3 : TimeBits
  timestamp4 : TimeBits
  interPacketGap : BitVec 20
  retransmitTimeout : TimeBits
  delaySelect : DelaySelect
  deriving DecidableEq

def toUnits (bits unit time : Nat) : Except RueFatal (BitVec bits) :=
  if time / unit < 2 ^ bits then .ok (BitVec.ofNat bits (time / unit)) else .error .timeBits

namespace TimeUnits

variable (u : TimeUnits)

def toFalconTimeUnits (time : Nat) : Except RueFatal TimeBits := toUnits 24 u.falcon time

def toTimingWheelTimeUnits (time : Nat) : Except RueFatal (BitVec 20) :=
    toUnits 20 u.timingWheel time

def fillEvent (eventType : RueEventType) (packet : PacketTimes) (ccmeta : TimeMetadata) :
    Except RueFatal TimedEvent := do
  let timestamp1 ← u.toFalconTimeUnits packet.timestamp1
  let timestamp2 ← u.toFalconTimeUnits packet.timestamp2
  let timestamp3 ← u.toFalconTimeUnits packet.timestamp3
  let timestamp4 ← u.toFalconTimeUnits packet.timestamp4
  let interPacketGap ← u.toTimingWheelTimeUnits ccmeta.interPacketGap
  let retransmitTimeout ← u.toFalconTimeUnits ccmeta.retransmitTimeout
  pure ⟨eventType, timestamp1, timestamp2, timestamp3, timestamp4, interPacketGap,
    retransmitTimeout,
    ccmeta.delaySelect⟩

def fillExplicitAckEvent := u.fillEvent .ack

def fillNackEvent := u.fillEvent .nack

def processNextEvent {ρ : Type} (process : TimedEvent → TimeBits → ρ) (elapsedTime : Nat)
    (event : TimedEvent) : Except RueFatal ρ := do
  let now ← u.toFalconTimeUnits elapsedTime
  pure (process event now)

end TimeUnits

structure PacketTiming where
  rtt : TimeBits
  delay : TimeBits

def getPacketTiming (event : TimedEvent) : PacketTiming :=
  let rtt := event.timestamp4 - event.timestamp1
  match event.delaySelect with
  | .full => ⟨rtt, rtt⟩
  | .fabric => ⟨rtt, rtt - (event.timestamp3 - event.timestamp2)⟩
  | .forward => ⟨rtt, event.timestamp2 - event.timestamp1⟩
  | .reverse => ⟨rtt, event.timestamp4 - event.timestamp3⟩

namespace PacketTimes

variable (p : PacketTimes)

structure Ordered : Prop where
  out : p.timestamp1 ≤ p.timestamp2
  turn : p.timestamp2 ≤ p.timestamp3
  back : p.timestamp3 ≤ p.timestamp4

def rtt : Nat := p.timestamp4 - p.timestamp1

def delay : DelaySelect → Nat
  | .full => p.rtt
  | .fabric => p.rtt - (p.timestamp3 - p.timestamp2)
  | .forward => p.timestamp2 - p.timestamp1
  | .reverse => p.timestamp4 - p.timestamp3

end PacketTimes

/-- The number of units differs from the time by at most some units. -/
def Within (unit tolerance : Nat) (units : TimeBits) (time : Nat) : Prop :=
  unit * units.toNat ≤ time + tolerance * unit ∧ time ≤ unit * units.toNat + tolerance * unit

section Units

variable {unit a b : Nat}

lemma toUnits_eq_ok_iff {bits : Nat} {x : BitVec bits} :
    toUnits bits unit a = .ok x ↔ a / unit < 2 ^ bits ∧ BitVec.ofNat bits (a / unit) = x := by
  unfold toUnits
  split <;> simp [*]

lemma toNat_sub_ofNat {x y : Nat} (hxy : x ≤ y) (hy : y < 2 ^ 24) :
    (BitVec.ofNat 24 y - BitVec.ofNat 24 x).toNat = y - x := by
  bv_omega

lemma div_le_div_add {x : Nat} (hunit : 0 < unit) :
    unit * (x / unit) ≤ x ∧ x < unit * (x / unit) + unit :=
  ⟨Nat.mul_div_le x unit, Nat.lt_mul_div_succ x hunit⟩

lemma within_sub (hunit : 0 < unit) (hab : a ≤ b) (hb : b / unit < 2 ^ 24) :
    Within unit 1 (BitVec.ofNat 24 (b / unit) - BitVec.ofNat 24 (a / unit)) (b - a) := by
  have ha := div_le_div_add (x := a) hunit
  have hb' := div_le_div_add (x := b) hunit
  unfold Within
  rw [toNat_sub_ofNat (Nat.div_le_div_right hab) hb, Nat.mul_sub]
  omega

lemma Within.sub {x y : TimeBits} (hunit : 0 < unit) (hx : Within unit 1 x a)
    (hy : Within unit 1 y b)
    (hab : b + 2 * unit ≤ a) : Within unit 2 (x - y) (a - b) := by
  unfold Within at *
  have hle : unit * y.toNat ≤ unit * x.toNat := by omega
  rw [BitVec.toNat_sub_of_le (BitVec.le_def.mpr (Nat.le_of_mul_le_mul_left hle hunit)), Nat.mul_sub]
  omega

end Units

variable {u : TimeUnits} {p : PacketTimes} {ccmeta : TimeMetadata} {eventType : RueEventType}

lemma fillEvent_eq_ok_iff (h : p.Ordered) {event : TimedEvent} :
    u.fillEvent eventType p ccmeta = .ok event ↔
      (p.timestamp4 / u.falcon < 2 ^ 24 ∧ ccmeta.interPacketGap / u.timingWheel < 2 ^ 20 ∧
        ccmeta.retransmitTimeout / u.falcon < 2 ^ 24) ∧
      event = ⟨eventType, BitVec.ofNat 24 (p.timestamp1 / u.falcon),
        BitVec.ofNat 24 (p.timestamp2 / u.falcon), BitVec.ofNat 24 (p.timestamp3 / u.falcon),
        BitVec.ofNat 24 (p.timestamp4 / u.falcon),
        BitVec.ofNat 20 (ccmeta.interPacketGap / u.timingWheel),
        BitVec.ofNat 24 (ccmeta.retransmitTimeout / u.falcon), ccmeta.delaySelect⟩ := by
  constructor
  · intro hfill
    obtain ⟨_, h₁, hfill⟩ := exists_of_bind_eq_ok hfill
    obtain ⟨_, h₂, hfill⟩ := exists_of_bind_eq_ok hfill
    obtain ⟨_, h₃, hfill⟩ := exists_of_bind_eq_ok hfill
    obtain ⟨_, h₄, hfill⟩ := exists_of_bind_eq_ok hfill
    obtain ⟨_, h₅, hfill⟩ := exists_of_bind_eq_ok hfill
    obtain ⟨_, h₆, hfill⟩ := exists_of_bind_eq_ok hfill
    obtain ⟨-, rfl⟩ := toUnits_eq_ok_iff.mp h₁
    obtain ⟨-, rfl⟩ := toUnits_eq_ok_iff.mp h₂
    obtain ⟨-, rfl⟩ := toUnits_eq_ok_iff.mp h₃
    obtain ⟨htime, rfl⟩ := toUnits_eq_ok_iff.mp h₄
    obtain ⟨hgap, rfl⟩ := toUnits_eq_ok_iff.mp h₅
    obtain ⟨htimeout, rfl⟩ := toUnits_eq_ok_iff.mp h₆
    cases hfill
    exact ⟨⟨htime, hgap, htimeout⟩, rfl⟩
  · rintro ⟨⟨h₄, h₅, h₆⟩, rfl⟩
    have h₃ := Nat.lt_of_le_of_lt (Nat.div_le_div_right (c := u.falcon) h.back) h₄
    have h₂ := Nat.lt_of_le_of_lt (Nat.div_le_div_right (c := u.falcon) h.turn) h₃
    have h₁ := Nat.lt_of_le_of_lt (Nat.div_le_div_right (c := u.falcon) h.out) h₂
    simp only [TimeUnits.fillEvent, TimeUnits.toFalconTimeUnits, TimeUnits.toTimingWheelTimeUnits,
      toUnits, if_pos h₁, if_pos h₂, if_pos h₃, if_pos h₄, if_pos h₅, if_pos h₆]
    rfl

/-- An event is filled and processed, with the time modulo `2 ^ 24` and with its RTT and delay up to
the rounding, exactly if no time exceeds the bits: not that of the packet, nor the current one. -/
theorem event_times_iff (hunit : 0 < u.falcon) (h : p.Ordered) (elapsedTime : Nat) {ρ : Type}
    (process : TimedEvent → TimeBits → ρ) :
    ∀ fill ∈ [u.fillExplicitAckEvent, u.fillNackEvent],
      (∃ event, fill p ccmeta = .ok event ∧
        u.processNextEvent process elapsedTime event =
          .ok (process event (BitVec.ofNat 24 (elapsedTime / u.falcon))) ∧
        Within u.falcon 1 (getPacketTiming event).rtt p.rtt ∧
        ((ccmeta.delaySelect = .fabric → 2 * u.falcon ≤ p.delay .fabric) →
          Within u.falcon (if ccmeta.delaySelect = .fabric then 2 else 1)
            (getPacketTiming event).delay
            (p.delay ccmeta.delaySelect))) ↔
      elapsedTime / u.falcon < 2 ^ 24 ∧ p.timestamp4 / u.falcon < 2 ^ 24 ∧
        ccmeta.interPacketGap / u.timingWheel < 2 ^ 20 ∧
        ccmeta.retransmitTimeout / u.falcon < 2 ^ 24 := by
  intro fill hfill
  obtain ⟨eventType, rfl⟩ : ∃ eventType, fill = u.fillEvent eventType := by
    simp only [List.mem_cons, List.not_mem_nil, or_false] at hfill
    rcases hfill with rfl | rfl
    · exact ⟨.ack, rfl⟩
    · exact ⟨.nack, rfl⟩
  constructor
  · rintro ⟨event, hfill, hprocess, -⟩
    obtain ⟨now, hnow, -⟩ := exists_of_bind_eq_ok hprocess
    exact ⟨(toUnits_eq_ok_iff.mp hnow).1, ((fillEvent_eq_ok_iff h).mp hfill).1⟩
  · rintro ⟨hnow, hbits⟩
    have hrtt := within_sub hunit ((h.out.trans h.turn).trans h.back) hbits.1
    have h₃ := Nat.lt_of_le_of_lt (Nat.div_le_div_right (c := u.falcon) h.back) hbits.1
    have h₂ := Nat.lt_of_le_of_lt (Nat.div_le_div_right (c := u.falcon) h.turn) h₃
    refine ⟨_, (fillEvent_eq_ok_iff h).mpr ⟨hbits, rfl⟩, ?_, ?_, fun hfabric => ?_⟩
    · simp only [TimeUnits.processNextEvent, TimeUnits.toFalconTimeUnits, toUnits, if_pos hnow]
      rfl
    · unfold getPacketTiming
      split <;> exact hrtt
    · cases hselect : ccmeta.delaySelect with
      | full => exact hrtt
      | fabric =>
        have hturn := within_sub hunit h.turn h₃
        have hdelay := hfabric hselect
        refine hrtt.sub hunit hturn ?_
        simp only [PacketTimes.delay, PacketTimes.rtt] at hdelay ⊢
        omega
      | forward => exact within_sub hunit h.out h₂
      | reverse => exact within_sub hunit h.back hbits.1

def shortTrip : PacketTimes := ⟨1000, 3000, 4000, 9000⟩

theorem event_times_iff_shortTrip :
    shortTrip.Ordered ∧ ∃ event, (⟨128, 512⟩ : TimeUnits).fillNackEvent shortTrip
      ⟨512, 100000, .fabric⟩ = .ok event ∧
      Within 128 2 (getPacketTiming event).delay 7000 := by
  have hordered : shortTrip.Ordered := ⟨by decide, by decide, by decide⟩
  obtain ⟨event, hfill, -, -, hdelay⟩ := (@event_times_iff ⟨128, 512⟩ shortTrip
    ⟨512, 100000, .fabric⟩ (by decide) hordered 10000 _ (fun _ _ => ()) _
    (List.mem_cons_of_mem _ List.mem_cons_self)).mpr (by decide)
  exact ⟨hordered, event, hfill, hdelay fun _ => by decide⟩

/-- A little more than two seconds after the start no event is filled or processed any more. -/
theorem lateTrip_aborts :
    (⟨128, 512⟩ : TimeUnits).fillExplicitAckEvent ⟨2147483648, 2147484000, 2147484100, 2147485000⟩
      ⟨512, 100000, .full⟩ = .error .timeBits ∧
    ∀ event, (⟨128, 512⟩ : TimeUnits).processNextEvent (fun _ now => now) 2147483648 event =
      .error .timeBits :=
  ⟨rfl, fun _ => rfl⟩

end Isekai.Rue
