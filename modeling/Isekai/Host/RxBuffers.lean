import Isekai.Lib.TransitionSystem
import Mathlib.Algebra.GroupWithZero.Nat
import Mathlib.Data.List.Count
import Mathlib.Data.List.Perm.Basic
import Mathlib.Logic.Basic

/-!
# The receive buffers of the hosts and their PCIe queues

`RdmaPerHostRxBuffers` over the write queues of `MemoryInterface`. An item is written to the PCIe
queue at once if there is room, and waits in the buffer of its host otherwise; the queue wakes the
buffer up when it is not full any more. The delays of transmissions and links are not in the model:
an event may fire at any time after it was scheduled. Callbacks are names, and are recorded when
they run.
-/

namespace Isekai.Host

open Lib Function

/-- A write that waits at the memory interface. -/
structure MemoryTxMetadata (κ : Type) where
  callback : Option κ
  sizeBytes : BitVec 64
  deriving DecidableEq, Repr

inductive TxMachineState where
  | ready | busy
  deriving DecidableEq, Repr

/-- The queue of a memory interface. -/
structure MemoryInterfaceQueue (κ : Type) where
  maxQueueSizePackets : Nat
  txMachineState : TxMachineState := .ready
  txQueue : List (MemoryTxMetadata κ) := []

/-- A packet in the receive buffer. -/
structure HostBufferItem (κ : Type) where
  pcieIssueCallback : Option κ
  pcieCompleteCallback : Option κ
  payloadLength : BitVec 64
  deriving DecidableEq, Repr

structure HostBuffer (κ : Type) where
  maxSizeBytes : BitVec 32
  currentSizeBytes : BitVec 32 := 0
  buffer : List (HostBufferItem κ) := []

inductive Event (n : Nat) (κ : Type) where
  | transmitComplete (host : Fin n)
  | callback (callback : κ)
  deriving DecidableEq, Repr

/-- The two callers of `WriteToMemory`: `Push`, and the wakeup callback that empties the rx
buffer. -/
inductive WritePath where
  | direct | deferred
  deriving DecidableEq, Repr

inductive Action (n : Nat) (κ : Type) where
  | push (host : Fin n) (item : HostBufferItem κ)
  | writeToMemory (host : Fin n) (path : WritePath) (item : HostBufferItem κ)
      (sizeBytes : BitVec 64)
  | callback (callback : κ)
  | setXoffByRdma (host : Fin n) (xoff : Bool)
  deriving DecidableEq, Repr

inductive Fatal where
  | hostIdOutOfBound | mustBeReady | mustBeBusy
  deriving DecidableEq, Repr

structure RxBuffers (n : Nat) (κ : Type) where
  interfaces : Fin n → MemoryInterfaceQueue κ
  buffers : Fin n → HostBuffer κ
  pending : List (Event n κ) := []
  log : List (Action n κ) := []

def rdmaHeader : BitVec 32 := 28

def pushedSize (payloadLength : BitVec 32) : BitVec 64 :=
  (if rdmaHeader ≤ payloadLength then payloadLength - rdmaHeader else 0).setWidth 64

/-- The size of a write that the wakeup callback makes. The difference is unsigned and is kept in an
`int`. -/
def deferredSize (payloadLength : BitVec 64) : BitVec 64 :=
  (if 0 ≤ payloadLength - rdmaHeader.setWidth 64 then
    (payloadLength - rdmaHeader.setWidth 64).setWidth 32 else 0).signExtend 64

def MemoryInterfaceQueue.canEnqueuePacket {κ : Type} (queue : MemoryInterfaceQueue κ) : Bool :=
  queue.txQueue.length ≠ queue.maxQueueSizePackets

namespace RxBuffers

variable {n : Nat} {κ : Type} (s : RxBuffers n κ) (host : Fin n)

def setInterface (interface : MemoryInterfaceQueue κ) : RxBuffers n κ :=
  { s with interfaces := update s.interfaces host interface }

def setBuffer (buffer : HostBuffer κ) : RxBuffers n κ :=
  { s with buffers := update s.buffers host buffer }

def emit (action : Action n κ) : RxBuffers n κ := { s with log := action :: s.log }

def invoke : Option κ → RxBuffers n κ
  | none => s
  | some callback => s.emit (.callback callback)

def transmitStart (tx : MemoryTxMetadata κ) : Except Fatal (RxBuffers n κ) :=
  let interface := s.interfaces host
  if interface.txMachineState ≠ .ready then .error .mustBeReady
  else
    .ok
      { s.setInterface host { interface with txMachineState := .busy } with
        pending := s.pending ++ .transmitComplete host :: (tx.callback.map Event.callback).toList }

def transmitFront : Except Fatal (RxBuffers n κ) :=
  let interface := s.interfaces host
  match interface.txQueue with
  | [] => .ok s
  | tx :: rest => (s.setInterface host { interface with txQueue := rest }).transmitStart host tx

def enqueuePacket (sizeBytes : BitVec 64) (callback : Option κ) : Except Fatal (RxBuffers n κ) :=
  let interface := s.interfaces host
  let s := s.setInterface host { interface with txQueue := interface.txQueue ++
    [⟨callback, sizeBytes⟩] }
  if interface.txMachineState = .ready then s.transmitFront host else .ok s

def handOver (path : WritePath) (item : HostBufferItem κ) (sizeBytes : BitVec 64) :
    Except Fatal (RxBuffers n κ) := do
  let s ← (s.emit (.writeToMemory host path item sizeBytes)).enqueuePacket host sizeBytes
    item.pcieCompleteCallback
  pure (s.invoke item.pcieIssueCallback)

/-- Writes deferred items until the queue is full. -/
def drain (s : RxBuffers n κ) (host : Fin n) :
    List (HostBufferItem κ) → Except Fatal (RxBuffers n κ)
  | [] => .ok s
  | item :: rest =>
    if (s.interfaces host).canEnqueuePacket then do
      let s ← s.handOver host .deferred item (deferredSize item.payloadLength)
      let buffer := s.buffers host
      let s := s.setBuffer host
        { buffer with
          buffer := rest
          currentSizeBytes := buffer.currentSizeBytes - item.payloadLength.setWidth 32 }
      drain s host rest
    else .ok s

def signalXon : RxBuffers n κ :=
  let buffer := s.buffers host
  if buffer.currentSizeBytes < buffer.maxSizeBytes then s.emit (.setXoffByRdma host false) else s

def signalXoff : RxBuffers n κ :=
  let buffer := s.buffers host
  if buffer.maxSizeBytes ≤ buffer.currentSizeBytes then s.emit (.setXoffByRdma host true) else s

def wakeup : Except Fatal (RxBuffers n κ) := do
  let s ← s.drain host (s.buffers host).buffer
  pure (s.signalXon host)

def transmitComplete : Except Fatal (RxBuffers n κ) :=
  let interface := s.interfaces host
  if interface.txMachineState ≠ .busy then .error .mustBeBusy
  else
    let s := s.setInterface host { interface with txMachineState := .ready }
    if interface.txQueue = [] then s.wakeup host
    else do
      let wasQueueFull := interface.txQueue.length = interface.maxQueueSizePackets
      let s ← s.transmitFront host
      if wasQueueFull then s.wakeup host else pure s

/-- Writes an item to memory, or defers it. -/
def push (hostId : BitVec 8) (payloadLength : BitVec 32)
    (pcieIssueCallback pcieCompleteCallback : Option κ) : Except Fatal (RxBuffers n κ) :=
  if h : hostId.toNat < n then
    let host : Fin n := ⟨hostId.toNat, h⟩
    let item := ⟨pcieIssueCallback, pcieCompleteCallback, payloadLength.setWidth 64⟩
    let s := s.emit (.push host item)
    if (s.interfaces host).canEnqueuePacket then
      s.handOver host .direct item (pushedSize payloadLength)
    else
      let buffer := s.buffers host
      let s := s.setBuffer host
        { buffer with
          buffer := buffer.buffer ++ [item]
          currentSizeBytes := buffer.currentSizeBytes + payloadLength }
      .ok (s.signalXoff host)
  else .error .hostIdOutOfBound

end RxBuffers

inductive Label (κ : Type) where
  | push (hostId : BitVec 8) (payloadLength : BitVec 32)
      (pcieIssueCallback pcieCompleteCallback : Option κ)
  | fire (index : Nat)

structure Config (n : Nat) where
  bufferSizeBytes : Fin n → BitVec 32
  queueSizePackets : Fin n → Nat

namespace RxBuffers

variable {n : Nat} {κ : Type}

def next (s : RxBuffers n κ) : Label κ → Except Fatal (RxBuffers n κ)
  | .push hostId payloadLength pcieIssueCallback pcieCompleteCallback =>
    s.push hostId payloadLength pcieIssueCallback pcieCompleteCallback
  | .fire index =>
    match s.pending[index]? with
    | some (.transmitComplete host) =>
      ({ s with pending := s.pending.eraseIdx index } : RxBuffers n κ).transmitComplete host
    | some (.callback callback) =>
      .ok (({ s with pending := s.pending.eraseIdx index } : RxBuffers n κ).emit
        (.callback callback))
    | none => .ok s

def allowed (s : RxBuffers n κ) : Label κ → Prop
  | .push hostId _ _ _ => hostId.toNat < n
  | .fire index => index < s.pending.length

instance (s : RxBuffers n κ) : (l : Label κ) → Decidable (s.allowed l)
  | .push hostId _ _ _ => inferInstanceAs (Decidable (hostId.toNat < n))
  | .fire index => inferInstanceAs (Decidable (index < s.pending.length))

end RxBuffers

def initial {n : Nat} (κ : Type) (c : Config n) : RxBuffers n κ where
  interfaces host := { maxQueueSizePackets := c.queueSizePackets host }
  buffers host := { maxSizeBytes := c.bufferSizeBytes host }

/-- The buffers with their environment, whose issue callbacks push nothing. -/
def system {n : Nat} (κ : Type) (c : Config n) : TransitionSystem (RxBuffers n κ)
    (Label κ) Fatal where
  init s := s = initial κ c
  allowed := RxBuffers.allowed
  next := RxBuffers.next

instance {n : Nat} {κ : Type} (c : Config n) (s : RxBuffers n κ) (l : Label κ) :
    Decidable ((system κ c).allowed s l) := inferInstanceAs (Decidable (s.allowed l))

def Event.completes {n : Nat} {κ : Type} (host : Fin n) : Event n κ → Bool
  | .transmitComplete host' => host' = host
  | .callback _ => false

/-- What concerns one host: its queue and buffer, the number of its `TransmitComplete` events, and
the items that were pushed and handed over, in order. -/
structure HostView (κ : Type) where
  interface : MemoryInterfaceQueue κ
  buffer : HostBuffer κ
  completions : Nat
  pushed : List (HostBufferItem κ)
  handed : List (HostBufferItem κ)

def pushedItems {n : Nat} {κ : Type} (host : Fin n) (log : List (Action n κ)) :
    List (HostBufferItem κ) :=
  (log.filterMap fun action => match action with
    | .push host' item => if host' = host then some item else none
    | _ => none).reverse

def handedItems {n : Nat} {κ : Type} (host : Fin n) (log : List (Action n κ)) :
    List (HostBufferItem κ) :=
  (log.filterMap fun action => match action with
    | .writeToMemory host' _ item _ => if host' = host then some item else none
    | _ => none).reverse

def RxBuffers.view {n : Nat} {κ : Type} (s : RxBuffers n κ) (host : Fin n) : HostView κ where
  interface := s.interfaces host
  buffer := s.buffers host
  completions := s.pending.countP (Event.completes host)
  pushed := pushedItems host s.log
  handed := handedItems host s.log

def HostView.write {κ : Type} (v : HostView κ) (item : HostBufferItem κ) (sizeBytes : BitVec 64) :
    HostView κ :=
  if v.interface.txMachineState = .ready then
    { v with
      interface := { v.interface with txMachineState := .busy }
      completions := v.completions + 1
      handed := v.handed ++ [item] }
  else
    { v with
      interface :=
        { v.interface with
          txQueue := v.interface.txQueue ++ [⟨item.pcieCompleteCallback, sizeBytes⟩] }
      handed := v.handed ++ [item] }

namespace RxBuffers

variable {n : Nat} {κ : Type} {s s' : RxBuffers n κ} {host : Fin n} {item : HostBufferItem κ}

lemma view_setInterface (s : RxBuffers n κ) (host : Fin n) (interface : MemoryInterfaceQueue κ) :
    (s.setInterface host interface).view = update s.view host { s.view host with interface } := by
  funext host'
  by_cases h : host' = host
  · subst h
    simp [view, setInterface]
  · simp [view, setInterface, h]

lemma view_setBuffer (s : RxBuffers n κ) (host : Fin n) (buffer : HostBuffer κ) :
    (s.setBuffer host buffer).view = update s.view host { s.view host with buffer } := by
  funext host'
  by_cases h : host' = host
  · subst h
    simp [view, setBuffer]
  · simp [view, setBuffer, h]

lemma view_push : (s.emit (.push host item)).view =
    update s.view host
      { s.view host with pushed := (s.view host).pushed ++ [item] } := by
  funext host'
  by_cases h : host' = host
  · subst h
    simp [view, emit, pushedItems, handedItems]
  · simp [view, emit, pushedItems, handedItems, h, Ne.symm h]

lemma view_writeToMemory (path : WritePath) (sizeBytes : BitVec 64) :
    (s.emit (.writeToMemory host path item sizeBytes)).view =
      update s.view host
        { s.view host with handed := (s.view host).handed ++ [item] } := by
  funext host'
  by_cases h : host' = host
  · subst h
    simp [view, emit, pushedItems, handedItems]
  · simp [view, emit, pushedItems, handedItems, h, Ne.symm h]

lemma view_setXoff (xoff : Bool) : (s.emit (.setXoffByRdma host xoff)).view = s.view := rfl

lemma view_signalXoff : (s.signalXoff host).view = s.view := by
  unfold signalXoff
  dsimp only
  split
  · exact view_setXoff true
  · rfl

lemma view_signalXon : (s.signalXon host).view = s.view := by
  unfold signalXon
  dsimp only
  split
  · exact view_setXoff false
  · rfl

lemma view_invoke (callback : Option κ) : (s.invoke callback).view = s.view := by
  cases callback with
  | none => rfl
  | some callback => rfl

lemma transmitStart_view (s : RxBuffers n κ) (host : Fin n) (tx : MemoryTxMetadata κ)
    (hready : (s.view host).interface.txMachineState = .ready) :
    ∃ s', s.transmitStart host tx = .ok s' ∧ s'.view = update s.view host
      { s.view host with
        interface := { (s.view host).interface with txMachineState := .busy }
        completions := (s.view host).completions + 1 } := by
  refine ⟨_, if_neg (not_not.mpr hready), ?_⟩
  funext host'
  have hcallback : (tx.callback.map (Event.callback (n := n))).toList.countP
      (Event.completes host') = 0 := by
    cases tx.callback <;> rfl
  by_cases h : host' = host
  · subst h
    simp [view, setInterface, hcallback, Event.completes]
  · simp [view, setInterface, hcallback, Event.completes, h, Ne.symm h]

lemma transmitFront_view {tx : MemoryTxMetadata κ} {rest : List (MemoryTxMetadata κ)}
    (hready : (s.view host).interface.txMachineState = .ready)
    (hqueue : (s.view host).interface.txQueue = tx :: rest) :
    ∃ s', s.transmitFront host = .ok s' ∧ s'.view = update s.view host
      { s.view host with
        interface := { (s.view host).interface with txMachineState := .busy, txQueue := rest }
        completions := (s.view host).completions + 1 } := by
  have hqueue : (s.interfaces host).txQueue = tx :: rest := hqueue
  let s₁ := s.setInterface host { s.interfaces host with txQueue := rest }
  have hview : s₁.view = update s.view host
      { s.view host with interface := { s.interfaces host with txQueue := rest } } :=
    s.view_setInterface host _
  have hready₁ : (s₁.view host).interface.txMachineState = .ready := by
    rw [hview, update_self]
    exact hready
  obtain ⟨s', hs', hview'⟩ := s₁.transmitStart_view host tx hready₁
  refine ⟨s', ?_, ?_⟩
  · simp only [transmitFront, hqueue]
    exact hs'
  · rw [hview', hview, update_self, update_idem]
    rfl

lemma handOver_view (s : RxBuffers n κ) (host : Fin n) (path : WritePath) (item : HostBufferItem κ)
    (sizeBytes : BitVec 64)
    (hidle : (s.view host).interface.txMachineState = .ready →
      (s.view host).interface.txQueue = []) :
    ∃ s', s.handOver host path item sizeBytes = .ok s' ∧
      s'.view = update s.view host ((s.view host).write item sizeBytes) := by
  let tx : MemoryTxMetadata κ := ⟨item.pcieCompleteCallback, sizeBytes⟩
  let s₁ := (s.emit (.writeToMemory host path item sizeBytes)).setInterface host
    { s.interfaces host with txQueue := (s.interfaces host).txQueue ++ [tx] }
  have hview : s₁.view = update s.view host
      { s.view host with
        interface := { s.interfaces host with txQueue := (s.interfaces host).txQueue ++ [tx] }
        handed := (s.view host).handed ++ [item] } := by
    rw [view_setInterface, view_writeToMemory, update_self, update_idem]
  have hview₁ : s₁.view host =
      { s.view host with
        interface := { s.interfaces host with txQueue := (s.interfaces host).txQueue ++ [tx] }
        handed := (s.view host).handed ++ [item] } := by
    rw [hview, update_self]
  by_cases hready : (s.interfaces host).txMachineState = .ready
  · have hempty : (s.interfaces host).txQueue = [] := hidle hready
    have hready₁ : (s₁.view host).interface.txMachineState = .ready := by
      rw [hview₁]
      exact hready
    have hqueue₁ : (s₁.view host).interface.txQueue = [tx] := by
      rw [hview₁, hempty, List.nil_append]
    obtain ⟨s', hs', hview'⟩ := transmitFront_view hready₁ hqueue₁
    refine ⟨s'.invoke item.pcieIssueCallback, ?_, ?_⟩
    · have henqueue :
        (s.emit (.writeToMemory host path item sizeBytes)).enqueuePacket host sizeBytes
          item.pcieCompleteCallback = s₁.transmitFront host := if_pos hready
      rw [handOver, henqueue, hs']
      rfl
    · rw [view_invoke, hview', hview, update_self, update_idem, HostView.write,
        if_pos (by exact hready)]
      simp [view, hempty]
  · refine ⟨s₁.invoke item.pcieIssueCallback, ?_, ?_⟩
    · have henqueue :
        (s.emit (.writeToMemory host path item sizeBytes)).enqueuePacket host sizeBytes
          item.pcieCompleteCallback = .ok s₁ := if_neg hready
      rw [handOver, henqueue]
      rfl
    · rw [view_invoke, hview, HostView.write, if_neg (by exact hready)]
      rfl

end RxBuffers

/-- The items go over to the queue in the order of the pushes, and those that wait in the buffer
wait for a full queue. -/
structure HostView.Orderly {κ : Type} (v : HostView κ) (maximum : Nat) : Prop where
  fifo : v.handed ++ v.buffer.buffer = v.pushed
  maximum : v.interface.maxQueueSizePackets = maximum
  capacity : 0 < v.interface.maxQueueSizePackets
  bounded : v.interface.txQueue.length ≤ v.interface.maxQueueSizePackets
  waits : v.buffer.buffer ≠ [] → v.interface.txQueue.length = v.interface.maxQueueSizePackets
  idle : v.interface.txMachineState = .ready → v.interface.txQueue = []
  events : v.completions = if v.interface.txMachineState = .busy then 1 else 0

lemma HostView.Orderly.busy {κ : Type} {v : HostView κ} {maximum : Nat} (h : v.Orderly maximum)
    (hne : v.buffer.buffer ≠ []) : v.interface.txMachineState = .busy := by
  have hfull := h.waits hne
  cases hstate : v.interface.txMachineState with
  | busy => rfl
  | ready =>
    rw [h.idle hstate, List.length_nil] at hfull
    exact absurd h.capacity (by omega)

lemma HostView.Orderly.write {κ : Type} {v : HostView κ} {maximum : Nat} (h : v.Orderly maximum)
    (item : HostBufferItem κ) (sizeBytes : BitVec 64)
    (hroom : v.interface.txQueue.length ≠ v.interface.maxQueueSizePackets) :
    (HostView.write { v with pushed := v.pushed ++ [item] } item sizeBytes).Orderly maximum := by
  have hbuffer : v.buffer.buffer = [] := by
    by_contra hne
    exact hroom (h.waits hne)
  have hfifo := h.fifo
  rw [hbuffer, List.append_nil] at hfifo
  have hbounded := h.bounded
  have hcapacity := h.capacity
  unfold HostView.write
  split
  · rename_i hready
    have hevents := h.events
    rw [if_neg (by rw [hready]; decide)] at hevents
    exact ⟨by simp [hfifo, hbuffer], h.maximum, hcapacity, hbounded,
      fun hne => absurd hbuffer hne, nofun, by simp [hevents]⟩
  · rename_i hbusy
    refine ⟨by simp [hfifo, hbuffer], h.maximum, hcapacity, ?_, fun hne => absurd hbuffer hne,
      fun hready => absurd hready hbusy, h.events⟩
    simp only [List.length_append, List.length_singleton]
    omega

/-- What the loop of the wakeup callback does while the transmitter is busy. -/
structure HostView.Drained {κ : Type} (v v' : HostView κ) : Prop where
  fifo : v'.handed ++ v'.buffer.buffer = v.handed ++ v.buffer.buffer
  pushed : v'.pushed = v.pushed
  completions : v'.completions = v.completions
  maximum : v'.interface.maxQueueSizePackets = v.interface.maxQueueSizePackets
  bounded : v'.interface.txQueue.length ≤ v'.interface.maxQueueSizePackets
  busy : v'.interface.txMachineState = .busy
  waits : v'.buffer.buffer ≠ [] → v'.interface.txQueue.length = v'.interface.maxQueueSizePackets
  shrinks : v'.buffer.buffer.length ≤ v.buffer.buffer.length
  progress : v.buffer.buffer ≠ [] → v.interface.txQueue.length ≠ v.interface.maxQueueSizePackets →
    v'.buffer.buffer.length < v.buffer.buffer.length

namespace RxBuffers

variable {n : Nat} {κ : Type} {s : RxBuffers n κ} {host : Fin n} {maximum : Nat}

lemma drain_view (items : List (HostBufferItem κ)) (hitems : (s.view host).buffer.buffer = items)
    (hbusy : (s.view host).interface.txMachineState = .busy)
    (hbounded : (s.view host).interface.txQueue.length ≤
      (s.view host).interface.maxQueueSizePackets) :
    ∃ s' v', s.drain host items = .ok s' ∧ s'.view = update s.view host v' ∧
      (s.view host).Drained v' := by
  induction items generalizing s with
  | nil =>
    refine ⟨s, s.view host, rfl, (update_eq_self ..).symm, ?_⟩
    exact ⟨rfl, rfl, rfl, rfl, hbounded, hbusy, fun hne => absurd hitems hne, Nat.le_refl _,
      fun hne => absurd hitems hne⟩
  | cons item rest ih =>
    by_cases hroom : (s.interfaces host).canEnqueuePacket = true
    · -- the item goes to the queue, and the rest of the buffer follows
      have hlength : (s.view host).interface.txQueue.length ≠
          (s.view host).interface.maxQueueSizePackets := of_decide_eq_true hroom
      have hnotReady : (s.view host).interface.txMachineState ≠ .ready := by
        rw [hbusy]
        decide
      obtain ⟨s₁, hs₁, hview₁⟩ := s.handOver_view host .deferred item
        (deferredSize item.payloadLength)
        fun hready => absurd hready hnotReady
      rw [HostView.write, if_neg hnotReady] at hview₁
      let s₂ := s₁.setBuffer host
        { s₁.buffers host with
          buffer := rest
          currentSizeBytes := (s₁.buffers host).currentSizeBytes - item.payloadLength.setWidth 32 }
      have hview₂ := s₁.view_setBuffer host
        { s₁.buffers host with
          buffer := rest
          currentSizeBytes := (s₁.buffers host).currentSizeBytes - item.payloadLength.setWidth 32 }
      rw [hview₁, update_self, update_idem] at hview₂
      have hhost : s₂.view host = _ := congrFun hview₂ host
      rw [update_self] at hhost
      have hlength₂ : (s₂.view host).interface.txQueue.length ≤
          (s₂.view host).interface.maxQueueSizePackets := by
        rw [hhost]
        simp only [List.length_append, List.length_singleton]
        omega
      obtain ⟨s', v', hs', hview', hdrained⟩ :=
        ih (s := s₂) (by rw [hhost]) (by rw [hhost]; exact hbusy) hlength₂
      refine ⟨s', v', ?_, ?_, ?_⟩
      · rw [drain, if_pos hroom, hs₁]
        exact hs'
      · rw [hview', hview₂, update_idem]
      · rw [hhost] at hdrained
        have hshorter : v'.buffer.buffer.length < (s.view host).buffer.buffer.length := by
          rw [hitems]
          exact Nat.lt_succ_of_le hdrained.shrinks
        refine { hdrained with
          fifo := ?_
          shrinks := Nat.le_of_lt hshorter
          progress := fun _ _ => hshorter }
        rw [hdrained.fifo, hitems, List.append_assoc]
        rfl
    · refine ⟨s, s.view host, ?_, (update_eq_self ..).symm, ?_⟩
      · rw [drain, if_neg hroom]
      · have hfull : (s.interfaces host).txQueue.length =
          (s.interfaces host).maxQueueSizePackets := by
          simpa [MemoryInterfaceQueue.canEnqueuePacket] using hroom
        exact ⟨rfl, rfl, rfl, rfl, hbounded, hbusy, fun _ => hfull, Nat.le_refl _,
          fun _ hroom => absurd hfull hroom⟩

lemma wakeup_view (hbusy : (s.view host).interface.txMachineState = .busy)
    (hbounded : (s.view host).interface.txQueue.length ≤
      (s.view host).interface.maxQueueSizePackets) :
    ∃ s' v', s.wakeup host = .ok s' ∧ s'.view = update s.view host v' ∧
      (s.view host).Drained v' := by
  obtain ⟨s', v', hs', hview, hdrained⟩ := drain_view (s.buffers host).buffer rfl hbusy hbounded
  refine ⟨s'.signalXon host, v', ?_, view_signalXon.trans hview, hdrained⟩
  rw [wakeup, hs']
  rfl

lemma wakeup_view_of_empty (hempty : (s.view host).buffer.buffer = []) :
    ∃ s', s.wakeup host = .ok s' ∧ s'.view = s.view := by
  have hempty : (s.buffers host).buffer = [] := hempty
  refine ⟨s.signalXon host, ?_, view_signalXon⟩
  rw [wakeup, hempty]
  rfl

lemma transmitComplete_view (h : (s.view host).Orderly maximum)
    (hbusy : (s.view host).interface.txMachineState = .busy) {pending : List (Event n κ)}
    (hpending : ∀ host', pending.countP (Event.completes host') =
      if host' = host then 0 else s.pending.countP (Event.completes host')) :
    ∃ s' v', ({ s with pending } : RxBuffers n κ).transmitComplete host = .ok s' ∧
      s'.view = update s.view host v' ∧ v'.Orderly maximum ∧
      ((s.view host).buffer.buffer ≠ [] →
        v'.buffer.buffer.length < (s.view host).buffer.buffer.length) := by
  let s₁ := ({ s with pending } : RxBuffers n κ).setInterface host
    { s.interfaces host with txMachineState := .ready }
  have hview₁ : s₁.view = update s.view host
      { s.view host with
        interface := { s.interfaces host with txMachineState := .ready }
        completions := 0 } := by
    funext host'
    by_cases hne : host' = host
    · subst hne
      simp [s₁, view, setInterface, hpending]
    · simp [s₁, view, setInterface, hpending, hne]
  have hhost := congrFun hview₁ host
  rw [update_self] at hhost
  have hstart : ({ s with pending } : RxBuffers n κ).transmitComplete host =
      if (s.interfaces host).txQueue = [] then s₁.wakeup host
      else s₁.transmitFront host >>= fun s' =>
        if (s.interfaces host).txQueue.length = (s.interfaces host).maxQueueSizePackets then
          s'.wakeup host
        else pure s' := if_neg (not_not.mpr hbusy)
  rw [hstart]
  have hcapacity : 0 < (s.interfaces host).maxQueueSizePackets := h.capacity
  cases hqueue : (s.interfaces host).txQueue with
  | nil =>
    have hempty : (s.view host).buffer.buffer = [] := by
      by_contra hne
      have hfull : (s.interfaces host).txQueue.length = (s.interfaces host).maxQueueSizePackets :=
        h.waits hne
      rw [hqueue, List.length_nil] at hfull
      omega
    obtain ⟨s', hs', hview'⟩ := wakeup_view_of_empty (s := s₁) (by rw [hhost]; exact hempty)
    refine ⟨s', _, by rw [if_pos rfl, hs'], hview'.trans hview₁, ?_⟩
    exact ⟨⟨h.fifo, h.maximum, hcapacity, h.bounded, h.waits, fun _ => hqueue, rfl⟩,
      fun hne => absurd hempty hne⟩
  | cons tx rest =>
    have hbounded : (s.interfaces host).txQueue.length ≤ (s.interfaces host).maxQueueSizePackets :=
      h.bounded
    rw [hqueue, List.length_cons] at hbounded
    obtain ⟨s₂, hs₂, hview₂⟩ := transmitFront_view (s := s₁) (by rw [hhost])
      (by rw [hhost]; exact hqueue)
    rw [hview₁, update_self, update_idem] at hview₂
    have hhost₂ := congrFun hview₂ host
    rw [update_self] at hhost₂
    rw [if_neg (List.cons_ne_nil _ _), hs₂, Ensures.ok_bind]
    by_cases hfull : (tx :: rest).length = (s.interfaces host).maxQueueSizePackets
    · -- the place in the queue that is free again goes to an item that waits
      obtain ⟨s', v', hs', hview', hdrained⟩ := wakeup_view (s := s₂) (by rw [hhost₂])
        (by rw [hhost₂]; exact Nat.le_of_succ_le hbounded)
      rw [hview₂, update_idem] at hview'
      refine ⟨s', v', by rw [if_pos hfull, hs'], hview', ?_⟩
      rw [hhost₂] at hdrained
      refine ⟨⟨?_, hdrained.maximum.trans h.maximum, hdrained.maximum.symm ▸ hcapacity,
        hdrained.bounded, hdrained.waits, fun hready => ?_, ?_⟩,
        fun hne => hdrained.progress hne (Nat.ne_of_lt hbounded)⟩
      · rw [hdrained.fifo, hdrained.pushed]
        exact h.fifo
      · rw [hdrained.busy] at hready
        cases hready
      · rw [hdrained.busy, hdrained.completions]
        rfl
    · refine ⟨s₂, _, by rw [if_neg hfull]; rfl, hview₂, ?_⟩
      have hempty : (s.view host).buffer.buffer = [] := by
        by_contra hne
        have hwaits : (s.interfaces host).txQueue.length =
          (s.interfaces host).maxQueueSizePackets :=
          h.waits hne
        rw [hqueue] at hwaits
        exact hfull hwaits
      exact ⟨⟨h.fifo, h.maximum, hcapacity, Nat.le_of_succ_le hbounded,
        fun hne => absurd hempty hne, nofun, rfl⟩, fun hne => absurd hempty hne⟩

lemma push_view {hostId : BitVec 8} (hhostId : hostId.toNat = host)
    (h : (s.view host).Orderly maximum)
    (payloadLength : BitVec 32) (pcieIssueCallback pcieCompleteCallback : Option κ) :
    ∃ s' v', s.push hostId payloadLength pcieIssueCallback pcieCompleteCallback = .ok s' ∧
      s'.view = update s.view host v' ∧ v'.Orderly maximum := by
  let item : HostBufferItem κ := ⟨pcieIssueCallback, pcieCompleteCallback,
    payloadLength.setWidth 64⟩
  let s₁ := s.emit (.push host item)
  have hview₁ : s₁.view = update s.view host
      { s.view host with pushed := (s.view host).pushed ++ [item] } := view_push
  have hhost := congrFun hview₁ host
  rw [update_self] at hhost
  have hlt : hostId.toNat < n := hhostId ▸ host.isLt
  have hid : (⟨hostId.toNat, hlt⟩ : Fin n) = host := Fin.ext hhostId
  rw [push, dif_pos hlt, hid]
  by_cases hroom : (s.interfaces host).canEnqueuePacket = true
  · have hlength : (s.view host).interface.txQueue.length ≠
        (s.view host).interface.maxQueueSizePackets := of_decide_eq_true hroom
    obtain ⟨s', hs', hview'⟩ := s₁.handOver_view host .direct item (pushedSize payloadLength)
      (by rw [hhost]; exact h.idle)
    rw [hhost, hview₁, update_idem] at hview'
    exact ⟨s', _, (if_pos hroom).trans hs', hview', h.write item _ hlength⟩
  · have hfull : (s.interfaces host).txQueue.length = (s.interfaces host).maxQueueSizePackets := by
      simpa [MemoryInterfaceQueue.canEnqueuePacket] using hroom
    have hview₂ := s₁.view_setBuffer host
      { s.buffers host with
        buffer := (s.buffers host).buffer ++ [item]
        currentSizeBytes := (s.buffers host).currentSizeBytes + payloadLength }
    rw [hhost, hview₁, update_idem] at hview₂
    refine ⟨_, _, if_neg hroom, view_signalXoff.trans hview₂, ?_⟩
    refine ⟨?_, h.maximum, h.capacity, h.bounded, fun _ => hfull, h.idle, h.events⟩
    have hfifo := h.fifo
    rw [← hfifo, List.append_assoc]
    rfl

lemma countP_eraseIdx {index : Nat} {event : Event n κ} (hget : s.pending[index]? = some event)
    (host' : Fin n) : s.pending.countP (Event.completes host') =
      (s.pending.eraseIdx index).countP (Event.completes host') +
        if event.completes host' then 1 else 0 := by
  obtain ⟨hlt, rfl⟩ := List.getElem?_eq_some_iff.mp hget
  rw [← List.Perm.countP_eq _ (List.getElem_cons_eraseIdx_perm hlt), List.countP_cons]

lemma next_transmitComplete (h : (s.view host).Orderly maximum) {index : Nat}
    (hget : s.pending[index]? = some (.transmitComplete host)) :
    ∃ s' v', s.next (.fire index) = .ok s' ∧ s'.view = update s.view host v' ∧
      v'.Orderly maximum ∧ ((s.view host).buffer.buffer ≠ [] →
        v'.buffer.buffer.length < (s.view host).buffer.buffer.length) := by
  have hcount := countP_eraseIdx hget
  have hevents := h.events
  rw [show (s.view host).completions = s.pending.countP (Event.completes host) from rfl,
    hcount host] at hevents
  have hbusy : (s.view host).interface.txMachineState = .busy := by
    by_contra hbusy
    simp [Event.completes, hbusy] at hevents
  rw [if_pos hbusy] at hevents
  have hpending : ∀ host', (s.pending.eraseIdx index).countP (Event.completes host') =
      if host' = host then 0 else s.pending.countP (Event.completes host') := by
    intro host'
    by_cases hne : host' = host
    · subst hne
      simpa [Event.completes] using hevents
    · simp [hcount host', Event.completes, hne, Ne.symm hne]
  obtain ⟨s', v', hs', hview⟩ := transmitComplete_view h hbusy hpending
  refine ⟨s', v', ?_, hview⟩
  simp only [next, hget]
  exact hs'

/-- Every step returns and keeps the order of all hosts. -/
theorem next_orderly {c : Config n} (h : ∀ host, (s.view host).Orderly (c.queueSizePackets host))
    {l : Label κ} (hallowed : s.allowed l) :
    ∃ s', s.next l = .ok s' ∧ ∀ host, (s'.view host).Orderly (c.queueSizePackets host) := by
  have hupdate : ∀ (host : Fin n) (s' : RxBuffers n κ) (v : HostView κ),
      s'.view = update s.view host v → v.Orderly (c.queueSizePackets host) →
      ∀ host', (s'.view host').Orderly (c.queueSizePackets host') := by
    intro host s' v hview hv host'
    rw [hview]
    by_cases hne : host' = host
    · subst hne
      rw [update_self]
      exact hv
    · rw [update_of_ne hne]
      exact h host'
  cases l with
  | push hostId payloadLength pcieIssueCallback pcieCompleteCallback =>
    let host : Fin n := ⟨hostId.toNat, hallowed⟩
    have hhostId : hostId.toNat = host := rfl
    obtain ⟨s', v, hs', hview, hv⟩ := push_view hhostId (h host) payloadLength pcieIssueCallback
      pcieCompleteCallback
    exact ⟨s', hs', hupdate _ s' v hview hv⟩
  | fire index =>
    have hget := List.getElem?_eq_getElem hallowed
    cases hevent : s.pending[index] with
    | transmitComplete host =>
      rw [hevent] at hget
      obtain ⟨s', v, hs', hview, hv, -⟩ := next_transmitComplete (h host) hget
      exact ⟨s', hs', hupdate host s' v hview hv⟩
    | callback callback =>
      rw [hevent] at hget
      refine ⟨_, by simp only [next, hget]; rfl, fun host => ?_⟩
      have hview : (({ s with pending := s.pending.eraseIdx index } : RxBuffers n κ).emit
          (.callback callback)).view host = s.view host := by
        simp only [view, emit, countP_eraseIdx hget host]
        rfl
      rw [hview]
      exact h host

end RxBuffers

section System

variable {n : Nat} {κ : Type} {c : Config n} {C : RxBuffers n κ → Label κ → Prop}
  {s : RxBuffers n κ}

lemma initial_orderly (hcapacity : ∀ host, 0 < c.queueSizePackets host) (host : Fin n) :
    ((initial κ c).view host).Orderly (c.queueSizePackets host) where
  fifo := rfl
  maximum := rfl
  capacity := hcapacity host
  bounded := Nat.zero_le _
  waits := fun h => absurd rfl h
  idle := fun _ => rfl
  events := rfl

lemma orderly_of_reachable (hcapacity : ∀ host, 0 < c.queueSizePackets host)
    (hs : (system κ c).Reachable C s) (host : Fin n) :
    (s.view host).Orderly (c.queueSizePackets host) := by
  refine hs.invariant_of_ok (I := fun s => ∀ host, (s.view host).Orderly (c.queueSizePackets host))
    ?_ ?_ host
  · intro s hinit
    subst hinit
    exact initial_orderly hcapacity
  · intro s l s' _ h hallowed _ hnext
    obtain ⟨s₁, hs₁, horderly⟩ := RxBuffers.next_orderly h hallowed
    cases hnext.symm.trans hs₁
    exact horderly

lemma mem_pending_of_waiting {host : Fin n} {maximum : Nat} (h : (s.view host).Orderly maximum)
    (hne : (s.view host).buffer.buffer ≠ []) : .transmitComplete host ∈ s.pending := by
  have hevents := h.events
  rw [if_pos (h.busy hne)] at hevents
  have hpos : 0 < s.pending.countP (Event.completes host) :=
    Nat.lt_of_lt_of_eq Nat.one_pos hevents.symm
  obtain ⟨event, hmem, hcompletes⟩ := List.countP_pos_iff.mp hpos
  cases event with
  | transmitComplete host' =>
    rw [show host' = host from of_decide_eq_true hcompletes] at hmem
    exact hmem
  | callback callback => cases hcompletes

/-- The items of a host go over to the memory interface once each and in the order of the pushes.
Those that are still in the buffer wait for a full queue with a busy transmitter, whose completion
is an event to come and hands over at least one of them. When no event is left, all items are handed
over. No step aborts. -/
theorem writes_fifo_and_complete (hcapacity : ∀ host, 0 < c.queueSizePackets host)
    (hs : (system κ c).Reachable (fun _ _ => True) s) :
    (∀ host, handedItems host s.log ++ (s.buffers host).buffer = pushedItems host s.log ∧
      ((s.buffers host).buffer ≠ [] →
        (s.interfaces host).txQueue.length = c.queueSizePackets host ∧
        (s.interfaces host).txMachineState = .busy ∧
        .transmitComplete host ∈ s.pending ∧
        ∀ index, s.pending[index]? = some (.transmitComplete host) →
          ∃ s', (system κ c).next s (.fire index) = .ok s' ∧
            (s'.buffers host).buffer.length < (s.buffers host).buffer.length) ∧
      (s.pending = [] → handedItems host s.log = pushedItems host s.log)) ∧
    ∀ l, (system κ c).allowed s l → ∃ s', (system κ c).next s l = .ok s' := by
  have horderly := orderly_of_reachable hcapacity hs
  refine ⟨fun host => ⟨(horderly host).fifo, fun hne => ?_, fun hpending => ?_⟩,
    fun l hallowed => ?_⟩
  · have h := horderly host
    refine ⟨(h.waits hne).trans h.maximum, h.busy hne, mem_pending_of_waiting h hne, ?_⟩
    intro index hget
    obtain ⟨s', v', hs', hview, -, hprogress⟩ := RxBuffers.next_transmitComplete h hget
    refine ⟨s', hs', ?_⟩
    have hhost := congrFun hview host
    rw [update_self] at hhost
    have hbuffer : s'.buffers host = v'.buffer := congrArg HostView.buffer hhost
    rw [hbuffer]
    exact hprogress hne
  · have hempty : (s.buffers host).buffer = [] := by
      by_contra hne
      have hmem := mem_pending_of_waiting (horderly host) hne
      rw [hpending] at hmem
      exact List.not_mem_nil hmem
    have hfifo : handedItems host s.log ++ (s.buffers host).buffer = pushedItems host s.log :=
      (horderly host).fifo
    rw [hempty, List.append_nil] at hfifo
    exact hfifo
  · obtain ⟨s', hs', -⟩ := RxBuffers.next_orderly horderly hallowed
    exact ⟨s', hs'⟩

end System

def onePacketConfig : Config 1 where
  bufferSizeBytes _ := 2000
  queueSizePackets _ := 1

/-- One write is transmitted, one is in the queue, and two wait. After the first transmission the
second of them still waits. -/
def fourPushesRun : List (Label Nat) :=
  [.push 0 100 none (some 1), .push 0 200 none (some 2), .push 0 300 none (some 3),
    .push 0 10 (some 5) (some 4), .fire 0]

theorem writes_fifo_and_complete_fourPushes : ∃ s : RxBuffers 1 Nat,
    (system Nat onePacketConfig).Reachable (fun _ _ => True) s ∧
      (s.buffers 0).buffer.map HostBufferItem.payloadLength = [10] ∧
      (s.interfaces 0).txQueue.length = 1 ∧ .transmitComplete 0 ∈ s.pending := by
  obtain ⟨s, hs, hbuffer⟩ := TransitionSystem.Reachable.exists_of_run
    (T := system Nat onePacketConfig) (C := fun _ _ => True)
    (P := fun s => (s.buffers 0).buffer.map HostBufferItem.payloadLength = [10])
    (s := initial Nat onePacketConfig) fourPushesRun rfl (by decide +kernel)
  have hne : (s.buffers 0).buffer ≠ [] := by
    intro hempty
    rw [hempty] at hbuffer
    cases hbuffer
  obtain ⟨hfull, -, hmem, -⟩ :=
    ((writes_fifo_and_complete (fun _ => Nat.one_pos) hs).1 0).2.1 hne
  exact ⟨s, hs, hbuffer, hfull, hmem⟩

end Isekai.Host
