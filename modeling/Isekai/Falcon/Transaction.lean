import Isekai.Falcon.Types

/-!
# Transactions

`PacketMetadata` and `TransactionMetadata` of `gen1/falcon_types.h`, and the transaction state
machine `TransactionMetadata::UpdateState` of `falcon_connection_state.cc`.
-/

namespace Isekai.Falcon

/-- A packet of a transaction. `psn` is unset until the first transmission; `ssn` and
`payloadLength` are the header fields of its `active_packet`. `resourcesReserved` is the status of
that name: it is set until the credits of the packet are released. -/
structure PacketMetadata where
  psn : Option Psn := none
  transmitAttempts : Nat := 0
  timeoutRetransmissionAttempts : Nat := 0
  earlyRetxAttempts : Nat := 0
  retransmissionReason : RetransmitReason := .timeout
  transmissionTime : Time := 0
  isTransmissionEligible : Bool := true
  received : Bool := false
  nackCode : NackCode := .notANack
  rnrTimeout : Time := 0
  bypassRecencyCheck : Bool := true
  bypassScanningExitCriteria : Bool := false
  ssn : Ssn := 0
  payloadLength : Nat := 0
  direction : PacketDirection := .outgoing
  lengths : UlpLengths := {}
  resourcesReserved : Bool := true
  deriving DecidableEq, Repr

structure TransactionMetadata where
  rsn : Rsn
  type : TransactionType
  location : TransactionLocation
  requestLength : Nat := 0
  state : TransactionState := .invalid
  packets : PacketType → Option PacketMetadata := fun _ => none

def TransactionMetadata.createPacket (tr : TransactionMetadata) (type : PacketType)
    (pm : PacketMetadata) : TransactionMetadata :=
  { tr with packets := Function.update tr.packets type (some pm) }

/-- The state after `UpdateState(type, stage)`. Every `CHECK` and `LOG(FATAL)` of the source is the
error `updateState`. -/
def nextState (state : TransactionState) (type : PacketType) (stage : TransactionStage) :
    Except Fatal TransactionState :=
  let checked (allowed : List TransactionState) (next : TransactionState) :
      Except Fatal TransactionState :=
    if state ∈ allowed then pure next else throw (.updateState type stage state)
  let fatal : Except Fatal TransactionState := throw (.updateState type stage state)
  match type, stage with
  | .pullRequest, .ulpRx => pure .pullReqUlpRx
  | .pullRequest, .ulpTx => checked [.pullReqNtwkRx, .pullReqRnrUlpRx] .pullReqUlpTx
  | .pullRequest, .ulpAckRx => checked [.pullReqUlpTx] .pullReqAckUlpRx
  | .pullRequest, .ulpCompletionTx => fatal
  | .pullRequest, .ntwkRx => pure .pullReqNtwkRx
  | .pullRequest, .ntwkTx => checked [.pullReqUlpRx] .pullReqNtwkTx
  | .pullRequest, .ntwkAckRx => pure state
  | .pullRequest, .ulpRnrRx => checked [.pullReqUlpTx, .pullReqNtwkRx] .pullReqRnrUlpRx
  | .pullData, .ulpRx => checked [.pullReqAckUlpRx] .pullDataUlpRx
  | .pullData, .ulpTx => checked [.pullDataNtwkRx] .pullDataUlpTx
  | .pullData, .ulpAckRx => fatal
  | .pullData, .ulpCompletionTx => fatal
  | .pullData, .ntwkRx => checked [.pullReqNtwkTx] .pullDataNtwkRx
  | .pullData, .ntwkTx => checked [.pullDataUlpRx] .pullDataNtwkTx
  | .pullData, .ntwkAckRx => checked [.pullDataNtwkTx] .pullDataAckNtwkRx
  | .pullData, .ulpRnrRx => fatal
  | .pushRequest, .ulpRx => pure .pushSolicitedReqUlpRx
  | .pushRequest, .ulpTx => fatal
  | .pushRequest, .ulpAckRx => fatal
  | .pushRequest, .ulpCompletionTx => fatal
  | .pushRequest, .ntwkRx => pure .pushReqNtwkRx
  | .pushRequest, .ntwkTx => checked [.pushSolicitedReqUlpRx] .pushReqNtwkTx
  | .pushRequest, .ntwkAckRx => pure state
  | .pushRequest, .ulpRnrRx => fatal
  | .pushGrant, .ulpRx => fatal
  | .pushGrant, .ulpTx => fatal
  | .pushGrant, .ulpAckRx => fatal
  | .pushGrant, .ulpCompletionTx => fatal
  | .pushGrant, .ntwkRx => checked [.pushReqNtwkTx] .pushGrantNtwkRx
  | .pushGrant, .ntwkTx => checked [.pushReqNtwkRx] .pushGrantNtwkTx
  | .pushGrant, .ntwkAckRx => pure state
  | .pushGrant, .ulpRnrRx => fatal
  | .pushSolicitedData, .ulpRx => fatal
  | .pushSolicitedData, .ulpTx =>
    checked [.pushSolicitedDataNtwkRx, .pushSolicitedDataRnrUlpRx] .pushSolicitedDataUlpTx
  | .pushSolicitedData, .ulpAckRx => checked [.pushSolicitedDataUlpTx] .pushSolicitedDataAckUlpRx
  | .pushSolicitedData, .ulpCompletionTx =>
    checked [.pushSolicitedDataAckNtwkRx] .pushCompletionUlpTx
  | .pushSolicitedData, .ntwkRx => checked [.pushGrantNtwkTx] .pushSolicitedDataNtwkRx
  | .pushSolicitedData, .ntwkTx => checked [.pushGrantNtwkRx] .pushSolicitedDataNtwkTx
  | .pushSolicitedData, .ntwkAckRx =>
    checked [.pushSolicitedDataNtwkTx] .pushSolicitedDataAckNtwkRx
  | .pushSolicitedData, .ulpRnrRx =>
    checked [.pushSolicitedDataUlpTx, .pushSolicitedDataNtwkRx] .pushSolicitedDataRnrUlpRx
  | .pushUnsolicitedData, .ulpRx => pure .pushUnsolicitedReqUlpRx
  | .pushUnsolicitedData, .ulpTx =>
    checked [.pushUnsolicitedDataNtwkRx, .pushUnsolicitedDataRnrUlpRx] .pushUnsolicitedDataUlpTx
  | .pushUnsolicitedData, .ulpAckRx =>
    checked [.pushUnsolicitedDataUlpTx] .pushUnsolicitedDataAckUlpRx
  | .pushUnsolicitedData, .ulpCompletionTx =>
    checked [.pushUnsolicitedDataAckNtwkRx] .pushCompletionUlpTx
  | .pushUnsolicitedData, .ntwkRx => pure .pushUnsolicitedDataNtwkRx
  | .pushUnsolicitedData, .ntwkTx => checked [.pushUnsolicitedReqUlpRx] .pushUnsolicitedDataNtwkTx
  | .pushUnsolicitedData, .ntwkAckRx =>
    checked [.pushUnsolicitedDataNtwkTx] .pushUnsolicitedDataAckNtwkRx
  | .pushUnsolicitedData, .ulpRnrRx =>
    checked [.pushUnsolicitedDataUlpTx, .pushUnsolicitedDataNtwkRx] .pushUnsolicitedDataRnrUlpRx
  | .resync, _ | .ack, _ | .nack, _ | .back, _ | .eack, _ | .invalid, _ => fatal

def TransactionMetadata.updateState (tr : TransactionMetadata) (type : PacketType)
    (stage : TransactionStage) : Except Fatal TransactionMetadata := do
  let state ← nextState tr.state type stage
  pure { tr with state := state }

end Isekai.Falcon
