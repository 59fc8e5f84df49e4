import Isekai.Falcon.Types
import Isekai.Lib.TransitionSystem
import Mathlib.Algebra.Order.Floor.Semiring
import Mathlib.Data.Rat.Floor
import Mathlib.Tactic.Linarith
import Mathlib.Tactic.Positivity

/-!
# The congestion windows of Swift

The windows of `rue/algorithm/swift.h` for one flow and its profile, with the guards of
`rue/util.h`. The fabric window is the same in all generations; the NIC window is that of the first.
Windows are rational numbers; times are kept modulo `2 ^ 24`. The target delay is a parameter.
Inter-packet gaps, timeouts and load balancing do not concern the windows.
-/

namespace Isekai.Rue

open Falcon (NackCode)

inductive WindowDirection where
  | decrease | increase
  deriving DecidableEq, Repr

inductive RueEventType where
  | ack | nack | retransmit
  deriving DecidableEq, Repr

/-- The parameters that `ConvertProfileToParameters` accepts. -/
structure SwiftParameters where
  minFabricCongestionWindow : ℚ
  maxFabricCongestionWindow : ℚ
  fabricAdditiveIncrementFactor : ℚ
  fabricMultiplicativeDecreaseFactor : ℚ
  maxFabricMultiplicativeDecrease : ℚ
  minNicCongestionWindow : ℚ
  maxNicCongestionWindow : ℚ
  nicAdditiveIncrementFactor : ℚ
  nicMultiplicativeDecreaseFactor : ℚ
  maxNicMultiplicativeDecrease : ℚ
  targetRxBufferLevel : Nat
  rttSmoothingAlpha : ℚ
  delaySmoothingAlpha : ℚ
  retransmitLimit : Nat
  calcRttSmooth : Bool
  maxDecreaseOnEackNackDrop : Bool
  minFabric_le : minFabricCongestionWindow ≤ maxFabricCongestionWindow
  fabricIncrement_pos : 0 < fabricAdditiveIncrementFactor
  minNic_pos : 0 < minNicCongestionWindow
  minNic_le : minNicCongestionWindow ≤ maxNicCongestionWindow
  nicIncrement_pos : 1 ≤ nicAdditiveIncrementFactor
  nicDecrease_pos : 0 < nicMultiplicativeDecreaseFactor
  maxNicDecrease_pos : 0 < maxNicMultiplicativeDecrease
  maxNicDecrease_lt : maxNicMultiplicativeDecrease < 1

/-- What Swift reads of an event. -/
structure SwiftEvent where
  eventType : RueEventType
  nackCode : NackCode := .notANack
  eack : Bool := false
  eackDrop : Bool := false
  rtt : Nat := 0
  delay : Nat := 0
  rttState : Nat := 0
  delayState : Nat := 0
  numPacketsAcked : Nat := 0
  retransmitCount : Nat := 0
  rxBufferLevel : Nat := 0
  forwardHops : Nat := 0

abbrev TimeBits := BitVec 24

structure SwiftState where
  fabricCongestionWindow : ℚ
  fabricWindowTimeMarker : TimeBits
  nicCongestionWindow : ℚ
  nicWindowTimeMarker : TimeBits
  nicWindowDirection : WindowDirection

def getWindowDelta (now windowTimeMarker : TimeBits) : Nat := (now - windowTimeMarker).toNat

def clamp (x low high : ℚ) : ℚ := if x < low then low else if high < x then high else x

/-- The marker of a window that does not change: it trails the time by at most an RTT. -/
def trailingMarker (now lastWindowTimeMarker : TimeBits) (rtt : Nat) : TimeBits :=
  if getWindowDelta now lastWindowTimeMarker > rtt then now - BitVec.ofNat 24 rtt
  else lastWindowTimeMarker

def getFabricWindowTimeMarker (now lastWindowTimeMarker : TimeBits) (rtt : Nat)
    (lastCongestionWindow nextCongestionWindow minCongestionWindow : ℚ) : TimeBits :=
  if nextCongestionWindow < lastCongestionWindow ∨ nextCongestionWindow = minCongestionWindow then
    now
  else trailingMarker now lastWindowTimeMarker rtt

def getNicWindowGuardInfo (now lastWindowTimeMarker : TimeBits) (rtt : Nat)
    (lastDirection : WindowDirection)
    (lastCongestionWindow nextCongestionWindow minCongestionWindow maxCongestionWindow : ℚ) :
    TimeBits × WindowDirection :=
  if nextCongestionWindow < lastCongestionWindow ∨ nextCongestionWindow = minCongestionWindow then
    (now, .decrease)
  else if nextCongestionWindow > lastCongestionWindow ∨
      nextCongestionWindow = maxCongestionWindow then
    (now, .increase)
  else (trailingMarker now lastWindowTimeMarker rtt, lastDirection)

def getSmoothed (alpha : ℚ) (smoothedValue value : Nat) : Nat :=
  ⌊(smoothedValue : ℚ) * alpha + value * (1 - alpha)⌋₊

namespace SwiftParameters

variable (p : SwiftParameters) (event : SwiftEvent)

def useMaxFabricDecrease : Bool :=
  p.maxDecreaseOnEackNackDrop &&
    ((event.eventType = .nack && event.nackCode = .reserved) ||
      (event.eventType = .ack && event.eack && event.eackDrop))

/-- The factor of a decrease that is scaled by the excess of a value over its target. -/
def decreaseFactor (value target : Nat) (factor maxDecrease : ℚ) : ℚ :=
  -- Zero over zero is not a number, and `std::min` then returns its first argument.
  let decreaseAmount :=
    if value = 0 then maxDecrease
    else min maxDecrease (((value - target : Nat) : ℚ) / value * factor)
  1 - decreaseAmount

def computeAckFabricCongestionWindow (fabricCongestionWindow : ℚ) (smoothedDelay targetDelay : Nat)
    (fabricDecreaseDelta : Nat) : ℚ :=
  let next :=
    if smoothedDelay < targetDelay then
      let increase := p.fabricAdditiveIncrementFactor * event.numPacketsAcked
      fabricCongestionWindow +
        if fabricCongestionWindow ≥ 1 then increase / fabricCongestionWindow else increase
    else if fabricDecreaseDelta ≥ event.rtt then
      fabricCongestionWindow * decreaseFactor smoothedDelay targetDelay
        p.fabricMultiplicativeDecreaseFactor p.maxFabricMultiplicativeDecrease
    else fabricCongestionWindow
  clamp next p.minFabricCongestionWindow p.maxFabricCongestionWindow

def computeNackFabricCongestionWindow (fabricCongestionWindow : ℚ)
    (fabricDecreaseDelta : Nat) : ℚ :=
  let next :=
    if fabricDecreaseDelta ≥ event.rtt then
      fabricCongestionWindow * (1 - p.maxFabricMultiplicativeDecrease)
    else fabricCongestionWindow
  clamp next p.minFabricCongestionWindow p.maxFabricCongestionWindow

def computeTimeoutFabricCongestionWindow (fabricCongestionWindow : ℚ) (fabricDecreaseDelta : Nat) :
    ℚ :=
  let next :=
    if fabricDecreaseDelta ≥ event.rttState then
      if event.retransmitCount = 1 then
        fabricCongestionWindow * (1 - p.maxFabricMultiplicativeDecrease)
      else if event.retransmitCount ≥ p.retransmitLimit then p.minFabricCongestionWindow
      else fabricCongestionWindow
    else fabricCongestionWindow
  clamp next p.minFabricCongestionWindow p.maxFabricCongestionWindow

def computeAckNicCongestionWindow (direction : WindowDirection) (nicCongestionWindow : ℚ)
    (nicChangeDelta : Nat) : ℚ :=
  let next :=
    if event.rxBufferLevel < p.targetRxBufferLevel then
      if direction = .decrease ∨ nicChangeDelta ≥ event.rtt then
        nicCongestionWindow + p.nicAdditiveIncrementFactor
      else nicCongestionWindow
    else if nicChangeDelta ≥ event.rtt then
      nicCongestionWindow * decreaseFactor event.rxBufferLevel p.targetRxBufferLevel
        p.nicMultiplicativeDecreaseFactor p.maxNicMultiplicativeDecrease
    else nicCongestionWindow
  clamp next p.minNicCongestionWindow p.maxNicCongestionWindow

def computeNackNicCongestionWindow (direction : WindowDirection) (nicCongestionWindow : ℚ)
    (nicChangeDelta : Nat) : ℚ :=
  let next :=
    if direction = .increase ∨ nicChangeDelta ≥ event.rtt then
      nicCongestionWindow * (1 - p.maxNicMultiplicativeDecrease)
    else nicCongestionWindow
  clamp next p.minNicCongestionWindow p.maxNicCongestionWindow

def calcRtt : Nat :=
  if p.calcRttSmooth then getSmoothed p.rttSmoothingAlpha event.rttState event.rtt else event.rtt

def ackNackFabricWindow (targetDelay : ℚ → Nat → Nat) (now : TimeBits) (state : SwiftState) : ℚ :=
  let delta := getWindowDelta now state.fabricWindowTimeMarker
  let window := state.fabricCongestionWindow
  if p.useMaxFabricDecrease event then p.computeNackFabricCongestionWindow event window delta
  else
    p.computeAckFabricCongestionWindow event window
      (getSmoothed p.delaySmoothingAlpha event.delayState event.delay)
      (targetDelay window event.forwardHops) delta

def ackNackNicWindow (now : TimeBits) (state : SwiftState) : ℚ :=
  let delta := getWindowDelta now state.nicWindowTimeMarker
  if event.eventType = .nack ∧ event.nackCode = .rxResourceExhaustion then
    p.computeNackNicCongestionWindow event state.nicWindowDirection state.nicCongestionWindow delta
  else
    p.computeAckNicCongestionWindow event state.nicWindowDirection state.nicCongestionWindow delta

/-- Both windows after an ACK or NACK, with the guards of their last changes. -/
def processAckNack (targetDelay : ℚ → Nat → Nat) (now : TimeBits) (state : SwiftState) :
    SwiftState :=
  let fabric := p.ackNackFabricWindow event targetDelay now state
  let nic := p.ackNackNicWindow event now state
  let guardInfo := getNicWindowGuardInfo now state.nicWindowTimeMarker (p.calcRtt event)
    state.nicWindowDirection state.nicCongestionWindow nic p.minNicCongestionWindow
    p.maxNicCongestionWindow
  { fabricCongestionWindow := fabric
    fabricWindowTimeMarker := getFabricWindowTimeMarker now state.fabricWindowTimeMarker
      (p.calcRtt event) state.fabricCongestionWindow fabric p.minFabricCongestionWindow
    nicCongestionWindow := nic
    nicWindowTimeMarker := guardInfo.1
    nicWindowDirection := guardInfo.2 }

/-- The fabric window after a timeout or early retransmission. -/
def processRetransmit (now : TimeBits) (state : SwiftState) : SwiftState :=
  let fabric := p.computeTimeoutFabricCongestionWindow event state.fabricCongestionWindow
    (getWindowDelta now state.fabricWindowTimeMarker)
  { state with
    fabricCongestionWindow := fabric
    fabricWindowTimeMarker := getFabricWindowTimeMarker now state.fabricWindowTimeMarker
      event.rttState state.fabricCongestionWindow fabric p.minFabricCongestionWindow }

def process (targetDelay : ℚ → Nat → Nat) (now : TimeBits) (state : SwiftState) : SwiftState :=
  match event.eventType with
  | .ack | .nack => p.processAckNack event targetDelay now state
  | .retransmit => p.processRetransmit event now state

def testedRtt : Nat := if event.eventType = .retransmit then event.rttState else event.rtt

end SwiftParameters

end Isekai.Rue
