import Mathlib.Algebra.Order.Group.Int
import Mathlib.Algebra.Order.Pi
import Mathlib.Algebra.Ring.Int.Defs
import Mathlib.Data.Fintype.Pi

/-!
# Resource credits

`FalconResourceCredits` of `falcon_resource_credits.h`: one counter for each pool of packet contexts
and buffers that a Falcon host shares between its connections. Credits are functions of the pool, so
that `+=`, `-=` and `<=` of the source are the pointwise operations; the counters are integers.
-/

namespace Isekai.Falcon

inductive ResourcePool where
  | txPacketUlpRequests | txPacketUlpData | txPacketNetworkRequests
  | txBufferUlpRequests | txBufferUlpData | txBufferNetworkRequests
  | rxPacketUlpRequests | rxPacketNetworkRequests
  | rxBufferUlpRequests | rxBufferNetworkRequests
  deriving DecidableEq, Repr

instance : Fintype ResourcePool :=
  ⟨{.txPacketUlpRequests, .txPacketUlpData, .txPacketNetworkRequests, .txBufferUlpRequests,
    .txBufferUlpData, .txBufferNetworkRequests, .rxPacketUlpRequests, .rxPacketNetworkRequests,
    .rxBufferUlpRequests, .rxBufferNetworkRequests}, fun p => by cases p <;> simp⟩

abbrev FalconResourceCredits := ResourcePool → Int

instance (a b : FalconResourceCredits) : Decidable (a ≤ b) :=
  inferInstanceAs (Decidable (∀ pool, a pool ≤ b pool))

def creditsOf (pool : ResourcePool) (n : Int) : FalconResourceCredits :=
  fun pool' => if pool' = pool then n else 0

/-- The bytes for one credit. -/
structure AllocationUnit where
  bytes : BitVec 32
  pos : 0 < bytes.toInt
  deriving DecidableEq, Repr

lemma unit_pos : 0 < (1 : BitVec 32).toInt := by decide

lemma zero_lengths_fit : 0 + 0 < 2 ^ 31 := by decide

lemma zero_credits_fit : ∀ pool, 0 ≤ (0 : FalconResourceCredits) pool ∧
    (0 : FalconResourceCredits) pool < 2 ^ 31 := by decide

/-- The lengths of the header with its inline data and of the scatter-gather list of a packet from
the ULP. The credit formulas handle them as signed 32-bit integers. -/
structure UlpLengths where
  dataLength : Nat := 0
  sglLength : Nat := 0
  fits : dataLength + sglLength < 2 ^ 31 := by first | exact zero_lengths_fit | decide
  deriving DecidableEq, Repr

/-- Where the zones of a resource end. -/
structure ZoneThresholds where
  greenZoneEnd : BitVec 32 := 0
  yellowZoneEnd : BitVec 32 := 0
  deriving DecidableEq, Repr

/-- The part of `FalconConfig` that the resource manager reads. Without `bypassReservation` the
reservation mode is `FIRST_PHASE_RESERVATION`. The sizes of the pools are 32-bit integers. -/
structure ResourceConfig where
  bypassReservation : Bool := true
  resourceCredits : FalconResourceCredits := 0
  creditsFit : ∀ pool, 0 ≤ resourceCredits pool ∧ resourceCredits pool < 2 ^ 31 := by
    first | exact zero_credits_fit | decide
  txBufferMinimumAllocationUnit : AllocationUnit := ⟨1, unit_pos⟩
  rxBufferMinimumAllocationUnit : AllocationUnit := ⟨1, unit_pos⟩
  rxBufferPoolThresholds : ZoneThresholds := {}
  rxPacketPoolThresholds : ZoneThresholds := {}
  txPacketPoolThresholds : ZoneThresholds := {}

end Isekai.Falcon
