import Isekai.Falcon.Reorder
import Isekai.Lib.Resequencer
import Isekai.Lib.TransitionSystem

/-!
# The reorder engine with wrapping sequence numbers

`gen1/buffer_reorder_engine.cc` for one connection, with the 32-bit numbers of the source. Calls of
`ReorderCallback` are recorded. The environment inserts packets, answers as the ULP and lets RNR
timeouts happen.
-/

namespace Isekai.Falcon

open Lib

/-- The numbers that the engine puts in order: RSNs of completions and SSNs of push grants at the
initiator, SSNs of push requests at the target. -/
inductive ReorderStream where
  | initiatorRsn
  | initiatorSsn
  | targetSsn
  deriving DecidableEq

def ReorderStream.ofType : PacketType → Option ReorderStream
  | .pullData | .ack | .nack => some .initiatorRsn
  | .pushGrant => some .initiatorSsn
  | .pushRequest => some .targetSsn
  | _ => none

def ReorderStream.number (stream : ReorderStream) (rsn ssn : BitVec 32) : BitVec 32 :=
  match stream with
  | .initiatorRsn => rsn
  | .initiatorSsn | .targetSsn => ssn

/-- `queues` has the next expected number and the buffer of each stream. A buffered packet is kept
with the arguments of its `ReorderCallback`, the latest of which is first in `callbacks`. -/
structure ReorderEngine where
  ordered : Bool := true
  now : Time := 0
  queues : ReorderStream → Resequencer 32 (BitVec 32 × PacketType)
  nextTargetRsn : BitVec 32
  nextTargetNetworkRsn : BitVec 32
  inRnr : Bool := false
  rnrTimeout : Time := 0
  targetRsnBuffer : List (Nat × TargetBufferEntry) := []
  callbacks : List (BitVec 32 × PacketType) := []

namespace ReorderEngine

variable (s : ReorderEngine)

def reorderCallback (rsn : BitVec 32) (type : PacketType) : ReorderEngine :=
  { s with callbacks := (rsn, type) :: s.callbacks }

def setTargetEntry (rsn : BitVec 32) (entry : TargetBufferEntry) : ReorderEngine :=
  { s with targetRsnBuffer := OrderedMap.insert rsn.toNat entry s.targetRsnBuffer }

def sendToUlpTarget (rsn : BitVec 32) : Except Fatal ReorderEngine :=
  match OrderedMap.lookup rsn.toNat s.targetRsnBuffer with
  | none => throw .reorderEntryNotFound
  | some entry =>
    let s := (s.setTargetEntry rsn { entry with retryTime := none }).reorderCallback rsn entry.type
    pure (if s.ordered then { s with nextTargetRsn := s.nextTargetRsn + 1 } else s)

def scanTargetRsnBuffer (s : ReorderEngine) : List Nat → Except Fatal ReorderEngine
  | [] => pure s
  | key :: rest =>
    match OrderedMap.lookup key s.targetRsnBuffer with
    | none => throw .reorderEntryNotFound
    | some entry =>
      if s.nextTargetRsn.toNat = key ∧ entry.isDue s.now then do
        let s ← s.sendToUlpTarget s.nextTargetRsn
        scanTargetRsnBuffer s rest
      else pure s

def checkTargetRsnBuffer : Except Fatal ReorderEngine :=
  s.scanTargetRsnBuffer
    ((OrderedMap.keys s.targetRsnBuffer).dropWhile (· ≠ s.nextTargetRsn.toNat))

def insertTargetEntry (rsn : BitVec 32) (type : PacketType) : Except Fatal ReorderEngine :=
  match OrderedMap.lookup rsn.toNat s.targetRsnBuffer with
  | some _ => throw .reorderDuplicate
  | none => pure (s.setTargetEntry rsn { type := type })

/-- A packet that is delivered in the order of its stream. The buffer is drained by
`CheckInitiatorRsnBuffer`, `CheckInitiatorSsnBuffer` or `CheckTargetSsnBuffer`. -/
def insertInStream (stream : ReorderStream) (number rsn : BitVec 32) (type : PacketType) :
    ReorderEngine :=
  let r := (s.queues stream).insert number (rsn, type)
  { s with
    queues := Function.update s.queues stream r.1
    callbacks := (r.2.map Prod.snd).reverse ++ s.callbacks }

/-- `InsertPacket`. The flag is set when the source returns `FailedPreconditionError`. -/
def insertPacket (type : PacketType) (rsn ssn : BitVec 32) : Except Fatal (ReorderEngine × Bool) :=
  if !s.ordered then
    match type with
    | .pullRequest | .pushSolicitedData | .pushUnsolicitedData => do
      let s ← s.insertTargetEntry rsn type
      let s ← s.sendToUlpTarget rsn
      pure (s, false)
    | _ => pure (s.reorderCallback rsn type, false)
  else
    match type with
    | .pullData | .ack | .nack => pure (s.insertInStream .initiatorRsn rsn rsn type, false)
    | .pullRequest | .pushSolicitedData | .pushUnsolicitedData => do
      let s ← s.insertTargetEntry rsn type
      if rsn = s.nextTargetRsn then
        let s ← s.sendToUlpTarget rsn
        let s ← s.checkTargetRsnBuffer
        pure (s, false)
      else pure (s, s.inRnr && type != .pullRequest)
    | .pushGrant => pure (s.insertInStream .initiatorSsn ssn rsn type, false)
    | .pushRequest => pure (s.insertInStream .targetSsn ssn rsn type, false)
    | .back | .eack | .resync | .invalid => throw .invalidPacket

def retryRnrNackedPacket (rsn : BitVec 32) : Except Fatal (ReorderEngine × Bool) :=
  match OrderedMap.lookup rsn.toNat s.targetRsnBuffer with
  | none => throw .reorderEntryNotFound
  | some entry =>
    if entry.type = .pullRequest then throw .invalidPacket
    else if entry.retryTime = none then pure (s, false)
    else if !s.ordered then do
      let s ← s.sendToUlpTarget rsn
      pure (s, false)
    else if rsn = s.nextTargetRsn then do
      let s ← (s.setTargetEntry rsn { entry with retryTime := some s.now }).checkTargetRsnBuffer
      pure (s, false)
    else pure (s, s.inRnr)

def isHeadOfLineNetworkRequest (rsn : BitVec 32) : Bool :=
  !s.ordered || rsn == s.nextTargetNetworkRsn

def handleRnrNackFromUlp (rsn : BitVec 32) (rnrTimeout : Time) : ReorderEngine :=
  let s :=
    if s.ordered then
      { s with
        nextTargetRsn := if rsn.toNat < s.nextTargetRsn.toNat then rsn else s.nextTargetRsn
        inRnr := true
        rnrTimeout := rnrTimeout }
    else s
  let entry := (OrderedMap.lookup rsn.toNat s.targetRsnBuffer).getD { type := .invalid }
  s.setTargetEntry rsn { entry with retryTime := some (s.now + rnrTimeout) }

def handleAckFromUlp (rsn : BitVec 32) : ReorderEngine :=
  let s := { s with targetRsnBuffer := OrderedMap.erase rsn.toNat s.targetRsnBuffer }
  if s.ordered then
    { s with nextTargetNetworkRsn := s.nextTargetNetworkRsn + 1, inRnr := false }
  else s

def handleRnrTimeout (rsn : BitVec 32) : Except Fatal ReorderEngine :=
  match OrderedMap.lookup rsn.toNat s.targetRsnBuffer with
  | none => pure s
  | some entry =>
    if entry.retryTime ≠ some s.now then pure s
    else if !s.ordered then s.sendToUlpTarget rsn
    else if rsn ≠ s.nextTargetRsn then pure s
    else s.checkTargetRsnBuffer

def initial (start : ReorderStream → BitVec 32) (targetRsn : BitVec 32) : ReorderEngine where
  queues stream := ⟨start stream, []⟩
  nextTargetRsn := targetRsn
  nextTargetNetworkRsn := targetRsn

def callbacksOf (stream : ReorderStream) : List (BitVec 32 × PacketType) :=
  (s.callbacks.filter fun c => ReorderStream.ofType c.2 = some stream).reverse

end ReorderEngine

/-! ## Runs -/

/-- A run of the engine. `arrived` has the packets of each stream by their positions, which are
their numbers without wrapping, with the callbacks that they are due, and `acked` the RSNs that the
ULP has acknowledged. -/
structure ReorderRun where
  engine : ReorderEngine
  arrived : ReorderStream → List (Nat × (BitVec 32 × PacketType)) := fun _ => []
  acked : List (BitVec 32) := []

namespace ReorderRun

inductive Label where
  /-- `position` is that of the packet in its stream. -/
  | insertPacket (type : PacketType) (rsn ssn : BitVec 32) (position : Nat)
  | retryRnrNackedPacket (rsn : BitVec 32)
  | handleRnrNackFromUlp (rsn : BitVec 32) (rnrTimeout : Time)
  | handleAckFromUlp (rsn : BitVec 32)
  | handleRnrTimeout (rsn : BitVec 32)
  | advance (time : Time)

/-- Numbers arrive once and less than `2 ^ 31` ahead of the next expected one. The ULP acknowledges
the RSNs that it was given, each once and fewer than `2 ^ 32`. -/
def Allowed (start : ReorderStream → BitVec 32) (r : ReorderRun) : Label → Prop
  | .insertPacket type rsn ssn position => ∀ stream ∈ ReorderStream.ofType type,
      stream.number rsn ssn = Serial.shift (start stream) position ∧
      position ∉ (r.arrived stream).map Prod.fst ∧
      ∀ n ≤ position, n ∉ (r.arrived stream).map Prod.fst → position < n + 2 ^ 31
  | .handleAckFromUlp rsn => rsn ∉ r.acked ∧ r.acked.length + 1 < 2 ^ 32 ∧
      ∃ c ∈ r.engine.callbacks, c.1 = rsn ∧ ReorderStream.ofType c.2 = none
  | .advance time => r.engine.now ≤ time
  | _ => True

def next (r : ReorderRun) : Label → Except Fatal ReorderRun
  | .insertPacket type rsn ssn position => do
    let out ← r.engine.insertPacket type rsn ssn
    pure { r with
      engine := out.1
      arrived := fun stream =>
        if ReorderStream.ofType type = some stream then
          (position, (rsn, type)) :: r.arrived stream
        else r.arrived stream }
  | .retryRnrNackedPacket rsn => do
    let out ← r.engine.retryRnrNackedPacket rsn
    pure { r with engine := out.1 }
  | .handleRnrNackFromUlp rsn rnrTimeout =>
    pure { r with engine := r.engine.handleRnrNackFromUlp rsn rnrTimeout }
  | .handleAckFromUlp rsn =>
    pure { r with engine := r.engine.handleAckFromUlp rsn, acked := rsn :: r.acked }
  | .handleRnrTimeout rsn => do
    let engine ← r.engine.handleRnrTimeout rsn
    pure { r with engine := engine }
  | .advance time => pure { r with engine := { r.engine with now := time } }

def runs (start : ReorderStream → BitVec 32) (targetRsn : BitVec 32) :
    TransitionSystem ReorderRun Label Fatal where
  init r := r = { engine := .initial start targetRsn }
  allowed := Allowed start
  next := next

instance (start : ReorderStream → BitVec 32) (r : ReorderRun) : ∀ l, Decidable (Allowed start r l)
  | .insertPacket type rsn ssn position => inferInstanceAs (Decidable (∀ stream ∈
      ReorderStream.ofType type, stream.number rsn ssn = Serial.shift (start stream) position ∧
      position ∉ (r.arrived stream).map Prod.fst ∧
      ∀ n ≤ position, n ∉ (r.arrived stream).map Prod.fst → position < n + 2 ^ 31))
  | .handleAckFromUlp _ => inferInstanceAs (Decidable (_ ∧ _ ∧ ∃ c ∈ r.engine.callbacks, _))
  | .advance time => inferInstanceAs (Decidable (r.engine.now ≤ time))
  | .retryRnrNackedPacket _ => isTrue trivial
  | .handleRnrNackFromUlp .. => isTrue trivial
  | .handleRnrTimeout _ => isTrue trivial

instance (start : ReorderStream → BitVec 32) (targetRsn : BitVec 32) (r : ReorderRun) (l : Label) :
    Decidable ((runs start targetRsn).allowed r l) :=
  inferInstanceAs (Decidable (Allowed start r l))

end ReorderRun

end Isekai.Falcon
