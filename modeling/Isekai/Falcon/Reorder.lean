import Isekai.Falcon.Scheduling

/-!
# The buffer reorder engine

`gen1/buffer_reorder_engine.cc`, with `FalconModel::ReorderCallback`, which it calls for every
packet that is in order: packets for the ULP go to the inter-host queue, push requests and push
grants release the next packet of their transaction.
-/

namespace Isekai.Falcon

open Lib

def getNextFalconPacket (type : PacketType) : Except Fatal PacketType :=
  match type with
  | .pushRequest => pure .pushGrant
  | .pushGrant => pure .pushSolicitedData
  | _ => throw .invalidPacket

def TargetBufferEntry.isDue (entry : TargetBufferEntry) (now : Time) : Bool :=
  match entry.retryTime with
  | some t => decide (t ≤ now)
  | none => false

namespace Endpoint

variable (e : Endpoint)

def reorderCallback (rsn : Rsn) (type : PacketType) : Outcome :=
  match type with
  | .pullRequest | .pullData | .pushSolicitedData | .pushUnsolicitedData | .ack =>
    pure { e with interHostQueue := e.interHostQueue ++ [⟨rsn, type⟩] }
  | .pushRequest | .pushGrant => do
    let next ← getNextFalconPacket type
    let location ← getTransactionLocation type true
    let tr ← e.getTransaction ⟨rsn, location⟩
    discard <| tr.getPacketMetadata next
    e.enqueuePacket rsn next
  | .nack => pure e
  | .back | .eack | .resync | .invalid => throw .invalidPacket

def setTargetEntry (rsn : Rsn) (entry : TargetBufferEntry) : Endpoint :=
  { e with reorder := { e.reorder with
    targetRsnBuffer := OrderedMap.insert rsn entry e.reorder.targetRsnBuffer } }

def sendToUlpTarget (rsn : Rsn) : Outcome :=
  match OrderedMap.lookup rsn e.reorder.targetRsnBuffer with
  | none => throw .reorderEntryNotFound
  | some entry => do
    let e := e.setTargetEntry rsn { entry with retryTime := none }
    let e ← e.reorderCallback rsn entry.type
    pure (if e.config.ordered then
      { e with reorder := { e.reorder with nextTargetRsn := e.reorder.nextTargetRsn + 1 } }
    else e)

def scanTargetRsnBuffer (e : Endpoint) : List Rsn → Outcome
  | [] => pure e
  | rsn :: rest =>
    match OrderedMap.lookup rsn e.reorder.targetRsnBuffer with
    | none => throw .reorderEntryNotFound
    | some entry =>
      if e.reorder.nextTargetRsn = rsn ∧ entry.isDue e.now then do
        let e ← e.sendToUlpTarget rsn
        scanTargetRsnBuffer e rest
      else pure e

def checkTargetRsnBuffer : Outcome :=
  e.scanTargetRsnBuffer
    ((OrderedMap.keys e.reorder.targetRsnBuffer).dropWhile (· ≠ e.reorder.nextTargetRsn))

def scanInitiatorRsnBuffer (e : Endpoint) : List (Rsn × PacketType) → Outcome
  | [] => pure e
  | (rsn, type) :: rest =>
    if e.reorder.nextInitiatorRsn = rsn then do
      let e ← e.reorderCallback rsn type
      scanInitiatorRsnBuffer
        { e with reorder := { e.reorder with
          initiatorRsnBuffer := rest
          nextInitiatorRsn := e.reorder.nextInitiatorRsn + 1 } } rest
    else pure e

def checkInitiatorRsnBuffer : Outcome :=
  e.scanInitiatorRsnBuffer e.reorder.initiatorRsnBuffer

def scanInitiatorSsnBuffer (e : Endpoint) : List (Ssn × Rsn) → Outcome
  | [] => pure e
  | (ssn, rsn) :: rest =>
    if e.reorder.nextInitiatorSsn = ssn then do
      let e ← e.reorderCallback rsn .pushGrant
      scanInitiatorSsnBuffer
        { e with reorder := { e.reorder with
          initiatorSsnBuffer := rest
          nextInitiatorSsn := e.reorder.nextInitiatorSsn + 1 } } rest
    else pure e

def checkInitiatorSsnBuffer : Outcome :=
  e.scanInitiatorSsnBuffer e.reorder.initiatorSsnBuffer

def scanTargetSsnBuffer (e : Endpoint) : List (Ssn × Rsn) → Outcome
  | [] => pure e
  | (ssn, rsn) :: rest =>
    if e.reorder.nextTargetSsn = ssn then do
      let e ← e.reorderCallback rsn .pushRequest
      scanTargetSsnBuffer
        { e with reorder := { e.reorder with
          targetSsnBuffer := rest
          nextTargetSsn := e.reorder.nextTargetSsn + 1 } } rest
    else pure e

def checkTargetSsnBuffer : Outcome :=
  e.scanTargetSsnBuffer e.reorder.targetSsnBuffer

def insertTargetEntry (rsn : Rsn) (type : PacketType) : Outcome :=
  match OrderedMap.lookup rsn e.reorder.targetRsnBuffer with
  | some _ => throw .reorderDuplicate
  | none => pure (e.setTargetEntry rsn { type := type })

/-- `InsertPacket`. The flag is set when the source returns `FailedPreconditionError`: the
connection is in RNR state and the packet is not at the head of the line. -/
def insertPacket (type : PacketType) (rsn : Rsn) (ssn : Ssn) : Except Fatal (Endpoint × Bool) := do
  if !e.config.ordered then
    match type with
    | .pullRequest | .pushSolicitedData | .pushUnsolicitedData =>
      let e ← e.insertTargetEntry rsn type
      let e ← e.sendToUlpTarget rsn
      pure (e, false)
    | _ =>
      let e ← e.reorderCallback rsn type
      pure (e, false)
  else
    match type with
    | .pullData | .ack | .nack =>
      if rsn = e.reorder.nextInitiatorRsn then
        let e := { e with reorder := { e.reorder with
          nextInitiatorRsn := e.reorder.nextInitiatorRsn + 1 } }
        let e ← e.reorderCallback rsn type
        let e ← e.checkInitiatorRsnBuffer
        pure (e, false)
      else
        pure ({ e with reorder := { e.reorder with
          initiatorRsnBuffer := OrderedMap.insert rsn type e.reorder.initiatorRsnBuffer } }, false)
    | .pullRequest | .pushSolicitedData | .pushUnsolicitedData =>
      let e ← e.insertTargetEntry rsn type
      if rsn = e.reorder.nextTargetRsn then
        let e ← e.sendToUlpTarget rsn
        let e ← e.checkTargetRsnBuffer
        pure (e, false)
      else pure (e, e.reorder.inRnr && type != .pullRequest)
    | .pushGrant =>
      if ssn = e.reorder.nextInitiatorSsn then
        let e ← e.reorderCallback rsn type
        let e := { e with reorder := { e.reorder with
          nextInitiatorSsn := e.reorder.nextInitiatorSsn + 1 } }
        let e ← e.checkInitiatorSsnBuffer
        pure (e, false)
      else
        pure ({ e with reorder := { e.reorder with
          initiatorSsnBuffer := OrderedMap.insert ssn rsn e.reorder.initiatorSsnBuffer } }, false)
    | .pushRequest =>
      if ssn = e.reorder.nextTargetSsn then
        let e ← e.reorderCallback rsn type
        let e := { e with reorder := { e.reorder with
          nextTargetSsn := e.reorder.nextTargetSsn + 1 } }
        let e ← e.checkTargetSsnBuffer
        pure (e, false)
      else
        pure ({ e with reorder := { e.reorder with
          targetSsnBuffer := OrderedMap.insert ssn rsn e.reorder.targetSsnBuffer } }, false)
    | .back | .eack | .resync | .invalid => throw .invalidPacket

/-- `RetryRnrNackedPacket`, for a duplicate of push data that the ULP answered with RNR. -/
def retryRnrNackedPacket (rsn : Rsn) : Except Fatal (Endpoint × Bool) :=
  match OrderedMap.lookup rsn e.reorder.targetRsnBuffer with
  | none => throw .reorderEntryNotFound
  | some entry =>
    if entry.type = .pullRequest then throw .invalidPacket
    else if entry.retryTime = none then pure (e, false)
    else if !e.config.ordered then do
      let e ← e.sendToUlpTarget rsn
      pure (e, false)
    else if rsn = e.reorder.nextTargetRsn then do
      let e ← (e.setTargetEntry rsn { entry with retryTime := some e.now }).checkTargetRsnBuffer
      pure (e, false)
    else pure (e, e.reorder.inRnr)

def reorderHandleRnrNackFromUlp (rsn : Rsn) (rnrTimeout : Time) : Endpoint :=
  let e :=
    if e.config.ordered then
      { e with reorder := { e.reorder with
        nextTargetRsn := if rsn < e.reorder.nextTargetRsn then rsn else e.reorder.nextTargetRsn
        inRnr := true
        rnrTimeout := rnrTimeout } }
    else e
  -- `operator[]` creates the entry when it is absent.
  let entry := (OrderedMap.lookup rsn e.reorder.targetRsnBuffer).getD { type := .invalid }
  (e.setTargetEntry rsn { entry with retryTime := some (e.now + rnrTimeout) }).scheduleEvent
    rnrTimeout (.rnrTimeout rsn)

def reorderHandleAckFromUlp (rsn : Rsn) : Endpoint :=
  let e := { e with reorder := { e.reorder with
    targetRsnBuffer := OrderedMap.erase rsn e.reorder.targetRsnBuffer } }
  if e.config.ordered then
    { e with reorder := { e.reorder with
      nextTargetNetworkRsn := e.reorder.nextTargetNetworkRsn + 1
      inRnr := false } }
  else e

def handleRnrTimeout (rsn : Rsn) : Outcome :=
  match OrderedMap.lookup rsn e.reorder.targetRsnBuffer with
  | none => pure e
  | some entry =>
    if entry.retryTime ≠ some e.now then pure e
    else if !e.config.ordered then e.sendToUlpTarget rsn
    else if rsn ≠ e.reorder.nextTargetRsn then pure e
    else e.checkTargetRsnBuffer

end Endpoint

end Isekai.Falcon
