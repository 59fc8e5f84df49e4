import Isekai.Falcon.Types
import Mathlib.Data.BitVec
import Mathlib.Algebra.Group.Pi.Basic

/-!
# Falcon credits

`FalconCredit` of `common/model_interfaces.h`, one 32-bit counter for each of the six resource pools
that RDMA manages, and the credit formulas of `gen1/falcon_utils.cc`. A credit is a function of the
pool, so that `+=`, `-=` and `<=` of the source are the pointwise operations.
-/

namespace Isekai.Rdma

abbrev Word := BitVec 32

inductive CreditPool where
  | requestTxPacket | requestTxBuffer | requestRxPacket | requestRxBuffer
  | responseTxPacket | responseTxBuffer
  deriving DecidableEq, Repr

instance : Fintype CreditPool :=
  ⟨{.requestTxPacket, .requestTxBuffer, .requestRxPacket, .requestRxBuffer, .responseTxPacket,
    .responseTxBuffer}, fun p => by cases p <;> simp⟩

abbrev FalconCredit := CreditPool → Word

instance (a b : FalconCredit) : Decidable (a ≤ b) :=
  inferInstanceAs (Decidable (∀ pool, a pool ≤ b pool))

def minWord (a b : Word) : Word := if a ≤ b then a else b

def subtract (x y : Int) : Int := if y ≤ x then x - y else 0

def ceilDiv (n q : Int) : Int := (n + q - 1).tdiv q

def fixedTxContextSize : Int := 64
def fixedTxMetadataSize : Int := 8
def fixedRxContextSize : Int := 0
def fixedRxMetadataSize : Int := 0

/-- The lengths are 32-bit words that the helpers take as signed integers. -/
def calculateFalconTxBufferCredits (txPktDataLen txPmdSglLen minimumBufferAllocationUnit : Word) :
    Word :=
  .ofInt 32 (ceilDiv (subtract txPktDataLen.toInt fixedTxContextSize)
      minimumBufferAllocationUnit.toInt +
    ceilDiv (subtract txPmdSglLen.toInt fixedTxMetadataSize) minimumBufferAllocationUnit.toInt)

def calculateFalconRxBufferCredits (length minimumBufferAllocationUnit : Word) : Word :=
  .ofInt 32 (ceilDiv (subtract length.toInt fixedRxContextSize)
    minimumBufferAllocationUnit.toInt + fixedRxMetadataSize)

end Isekai.Rdma
