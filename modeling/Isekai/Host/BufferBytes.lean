import Isekai.Host.RxBuffers

/-!
# The bytes of the receive buffers

The sizes of the writes to memory, and the size of a buffer by which Falcon is stopped and started,
an unsigned 32-bit counter.
-/

namespace Isekai.Host

open Lib Function TransitionSystem

/-! ## Sizes of writes -/

lemma toNat_pushedSize (payloadLength : BitVec 32) :
    (pushedSize payloadLength).toNat = payloadLength.toNat - 28 := by
  unfold pushedSize rdmaHeader
  split
  · bv_omega
  · bv_omega

/-- The difference wraps below the header, and its sign bit is extended from half of the range
on. -/
lemma toNat_deferredSize_iff (payloadLength : BitVec 32) :
    (deferredSize (payloadLength.setWidth 64)).toNat = payloadLength.toNat - 28 ↔
      28 ≤ payloadLength.toNat ∧ payloadLength.toNat < 2 ^ 31 + 28 := by
  have hpositive : 0 ≤ payloadLength.setWidth 64 - rdmaHeader.setWidth 64 :=
    BitVec.le_def.mpr (Nat.zero_le _)
  have hdifference : (payloadLength.setWidth 64 - rdmaHeader.setWidth 64).setWidth 32 =
      payloadLength - 28 := by
    unfold rdmaHeader
    bv_omega
  unfold deferredSize
  rw [if_pos hpositive, hdifference, BitVec.toNat_signExtend, BitVec.msb_eq_decide]
  have hheader : BitVec.toNat (28 : BitVec 32) = 28 := rfl
  simp only [BitVec.toNat_setWidth, BitVec.toNat_sub, hheader, decide_eq_true_eq]
  split
  · omega
  · omega

namespace RxBuffers

variable {n : Nat} {κ : Type} {s s' : RxBuffers n κ} {host : Fin n} {item : HostBufferItem κ}
  {path : WritePath} {sizeBytes : BitVec 64}

/-- The payload of an item has 32 bits, and its write has the size that the path computes for it. -/
def WriteSize (path : WritePath) (item : HostBufferItem κ) (sizeBytes : BitVec 64) : Prop :=
  ∃ payloadLength : BitVec 32, item.payloadLength = payloadLength.setWidth 64 ∧
    sizeBytes = match path with
      | .direct => pushedSize payloadLength
      | .deferred => deferredSize (payloadLength.setWidth 64)

def CanDefer (item : HostBufferItem κ) : Prop :=
  WriteSize .deferred item (deferredSize item.payloadLength)

/-- Items wait and are written with their sizes. -/
structure Sized (s : RxBuffers n κ) : Prop where
  waiting : ∀ host, ∀ item ∈ (s.buffers host).buffer, CanDefer item
  written : ∀ host path item sizeBytes, .writeToMemory host path item sizeBytes ∈ s.log →
    WriteSize path item sizeBytes

def Writes (s s' : RxBuffers n κ) (actions : List (Action n κ)) : Prop :=
  s'.buffers = s.buffers ∧ s'.log = actions ++ s.log

lemma transmitStart_writes (s : RxBuffers n κ) (host : Fin n) (tx : MemoryTxMetadata κ) :
    Ensures (fun _ => True) (fun s' => s.Writes s' []) (s.transmitStart host tx) := by
  exact .ite (fun _ => trivial) fun _ => ⟨rfl, rfl⟩

lemma transmitFront_writes (s : RxBuffers n κ) (host : Fin n) :
    Ensures (fun _ => True) (fun s' => s.Writes s' []) (s.transmitFront host) := by
  unfold transmitFront
  dsimp only
  split
  · exact ⟨rfl, rfl⟩
  · exact transmitStart_writes _ _ _

lemma handOver_writes (s : RxBuffers n κ) (host : Fin n) (path : WritePath)
    (item : HostBufferItem κ) (sizeBytes : BitVec 64) :
    Ensures (fun _ => True) (fun s' => s.Writes s'
      ((item.pcieIssueCallback.map Action.callback).toList ++
        [.writeToMemory host path item sizeBytes]))
      (s.handOver host path item sizeBytes) := by
  have henqueue : Ensures (fun _ => True)
      (fun s' => s.Writes s' [.writeToMemory host path item sizeBytes])
      ((s.emit (.writeToMemory host path item sizeBytes)).enqueuePacket host sizeBytes
        item.pcieCompleteCallback) := by
    exact .ite (fun _ => transmitFront_writes _ _) fun _ => ⟨rfl, rfl⟩
  refine henqueue.bind fun s₁ ⟨hbuffers, hlog⟩ => ?_
  cases item.pcieIssueCallback with
  | none => exact ⟨hbuffers, hlog⟩
  | some callback => exact ⟨hbuffers, congrArg (Action.callback callback :: ·) hlog⟩

lemma Sized.handOver (h : s.Sized) (hsize : WriteSize path item sizeBytes) :
    Ensures (fun _ => True) Sized (s.handOver host path item sizeBytes) := by
  refine (s.handOver_writes host path item sizeBytes).imp fun s' hs' => ⟨hs'.1 ▸ h.waiting, ?_⟩
  intro host' path' item' sizeBytes' hmem
  simp only [hs'.2, List.mem_append, Option.mem_toList, Option.map_eq_some_iff,
    List.mem_singleton] at hmem
  rcases hmem with (⟨_, -, hcallback⟩ | hwrite) | hmem
  · cases hcallback
  · cases hwrite
    exact hsize
  · exact h.written _ _ _ _ hmem

lemma Sized.setBuffer (h : s.Sized) {buffer : HostBuffer κ}
    (hbuffer : ∀ item ∈ buffer.buffer, CanDefer item) :
    (s.setBuffer host buffer).Sized := by
  refine ⟨fun host' item hmem => ?_, h.written⟩
  by_cases hne : host' = host
  · subst hne
    simp only [RxBuffers.setBuffer, update_self] at hmem
    exact hbuffer item hmem
  · simp only [RxBuffers.setBuffer, update_of_ne hne] at hmem
    exact h.waiting host' item hmem

lemma Sized.emit (h : s.Sized) {action : Action n κ}
    (haction : ∀ host path item sizeBytes, action ≠ .writeToMemory host path item sizeBytes) :
    (s.emit action).Sized := by
  refine ⟨h.waiting, fun host path item sizeBytes hmem => ?_⟩
  rcases List.mem_cons.mp hmem with hwrite | hmem
  · exact absurd hwrite.symm (haction _ _ _ _)
  · exact h.written _ _ _ _ hmem

lemma Sized.drain (h : s.Sized) (items : List (HostBufferItem κ))
    (hitems : ∀ item ∈ items, CanDefer item) :
    Ensures (fun _ => True) Sized (s.drain host items) := by
  induction items generalizing s with
  | nil => exact h
  | cons item rest ih =>
    refine .ite (fun _ => ?_) fun _ => h
    refine (h.handOver (hitems item List.mem_cons_self)).bind fun s₁ h₁ => ?_
    have hrest : ∀ item ∈ rest, CanDefer item :=
      fun item hmem => hitems item (List.mem_cons_of_mem _ hmem)
    exact ih (h₁.setBuffer hrest) hrest

lemma Sized.signalXon (h : s.Sized) : (s.signalXon host).Sized := by
  unfold RxBuffers.signalXon
  dsimp only
  split
  · exact h.emit nofun
  · exact h

lemma Sized.signalXoff (h : s.Sized) : (s.signalXoff host).Sized := by
  unfold RxBuffers.signalXoff
  dsimp only
  split
  · exact h.emit nofun
  · exact h

lemma Sized.wakeup (h : s.Sized) : Ensures (fun _ => True) Sized (s.wakeup host) :=
  (h.drain _ (h.waiting host)).bind fun _ h₁ => h₁.signalXon

lemma Sized.push (h : s.Sized) (hostId : BitVec 8) (payloadLength : BitVec 32)
    (pcieIssueCallback pcieCompleteCallback : Option κ) :
    Ensures (fun _ => True) Sized
      (s.push hostId payloadLength pcieIssueCallback pcieCompleteCallback) := by
  unfold RxBuffers.push
  by_cases hlt : hostId.toNat < n
  · rw [dif_pos hlt]
    let host : Fin n := ⟨hostId.toNat, hlt⟩
    let item : HostBufferItem κ :=
      ⟨pcieIssueCallback, pcieCompleteCallback, payloadLength.setWidth 64⟩
    have hpush : (s.emit (.push host item)).Sized := h.emit nofun
    refine .ite (fun _ => hpush.handOver ⟨payloadLength, rfl, rfl⟩) fun _ => ?_
    have hitems : ∀ item' ∈ (s.buffers host).buffer ++ [item], CanDefer item' :=
      List.forall_mem_append.mpr ⟨h.waiting host,
        List.forall_mem_singleton.mpr ⟨payloadLength, rfl, rfl⟩⟩
    exact (hpush.setBuffer hitems).signalXoff
  · rw [dif_neg hlt]
    trivial

lemma fire_rule {I : RxBuffers n κ → Prop} (hframe : ∀ s s', s.Writes s' [] → I s → I s')
    (hcallback : ∀ s callback, I s → I (s.emit (.callback callback)))
    (hwakeup : ∀ s host, I s → Ensures (fun _ => True) I (s.wakeup host)) (h : I s) (index : Nat) :
    Ensures (fun _ => True) I (s.next (.fire index)) := by
  simp only [next]
  split
  · unfold transmitComplete
    refine .ite (fun _ => trivial) fun _ => .ite (fun _ => ?_) fun _ => ?_
    · exact hwakeup _ _ (hframe s _ ⟨rfl, rfl⟩ h)
    · refine (transmitFront_writes _ _).bind fun s₁ hs₁ => ?_
      have h₁ : I s₁ := hframe s s₁ hs₁ h
      exact .ite (fun _ => hwakeup _ _ h₁) fun _ => h₁
  · exact hcallback _ _ (hframe s _ ⟨rfl, rfl⟩ h)
  · exact h

end RxBuffers

section Sizes

variable {n : Nat} {κ : Type} {c : Config n} {C : RxBuffers n κ → Label κ → Prop}
  {s : RxBuffers n κ}

lemma sized_of_reachable (hs : (system κ c).Reachable C s) : s.Sized := by
  refine hs.invariant (E := fun _ => True) ?_ ?_
  · intro s hinit
    subst hinit
    exact ⟨nofun, nofun⟩
  · intro s l h _ _
    cases l with
    | push hostId payloadLength pcieIssueCallback pcieCompleteCallback => exact h.push _ _ _ _
    | fire index =>
      refine RxBuffers.fire_rule (fun s s' hs' h => ?_) (fun s callback h => h.emit nofun)
        (fun s host h => h.wakeup) h index
      exact ⟨hs'.1 ▸ h.waiting, hs'.2 ▸ h.written⟩

/-- What `Push` writes at once has the size of the payload without the header. What the wakeup
callback writes has it for the payloads of at least a header that exceed it by less than half of the
range, and for no others. -/
theorem write_sizes (hs : (system κ c).Reachable C s) {host : Fin n} {path : WritePath}
    {item : HostBufferItem κ} {sizeBytes : BitVec 64}
    (hwrite : .writeToMemory host path item sizeBytes ∈ s.log) :
    ∃ payloadLength : BitVec 32, item.payloadLength = payloadLength.setWidth 64 ∧
      (path = .direct → sizeBytes.toNat = payloadLength.toNat - 28) ∧
      (path = .deferred → (sizeBytes.toNat = payloadLength.toNat - 28 ↔
        28 ≤ payloadLength.toNat ∧ payloadLength.toNat < 2 ^ 31 + 28)) := by
  obtain ⟨payloadLength, hpayload, hsize⟩ := (sized_of_reachable hs).written _ _ _ _ hwrite
  refine ⟨payloadLength, hpayload, ?_, ?_⟩
  · rintro rfl
    rw [hsize]
    exact toNat_pushedSize payloadLength
  · rintro rfl
    rw [hsize]
    exact toNat_deferredSize_iff payloadLength

end Sizes

/-- One write is transmitted, one is in the queue, and the third is handed over when the first is
done. -/
def deferredRun (payloadLength : BitVec 32) : List (Label Nat) :=
  [.push 0 100 none none, .push 0 200 none none, .push 0 payloadLength none none, .fire 0]

theorem write_sizes_deferred : ∃ s : RxBuffers 1 Nat,
    (system Nat onePacketConfig).Reachable (fun _ _ => True) s ∧
      .writeToMemory 0 .direct ⟨none, none, 100⟩ 72 ∈ s.log ∧
      .writeToMemory 0 .deferred ⟨none, none, 300⟩ 272 ∈ s.log ∧
      (∃ payloadLength : BitVec 32, (100 : BitVec 64) = payloadLength.setWidth 64 ∧
        (72 : BitVec 64).toNat = payloadLength.toNat - 28) ∧
      ∃ payloadLength : BitVec 32, (300 : BitVec 64) = payloadLength.setWidth 64 ∧
        ((272 : BitVec 64).toNat = payloadLength.toNat - 28 ↔
          28 ≤ payloadLength.toNat ∧ payloadLength.toNat < 2 ^ 31 + 28) := by
  obtain ⟨s, hs, hdirect, hdeferred⟩ := Reachable.exists_of_run
    (T := system Nat onePacketConfig) (C := fun _ _ => True)
    (P := fun s => .writeToMemory 0 .direct ⟨none, none, 100⟩ 72 ∈ s.log ∧
      .writeToMemory 0 .deferred ⟨none, none, 300⟩ 272 ∈ s.log)
    (s := initial Nat onePacketConfig) (deferredRun 300) rfl (by decide +kernel)
  obtain ⟨payloadLength, hpayload, hsize, -⟩ := write_sizes hs hdirect
  obtain ⟨payloadLength', hpayload', -, hsize'⟩ := write_sizes hs hdeferred
  exact ⟨s, hs, hdirect, hdeferred, ⟨payloadLength, hpayload, hsize rfl⟩,
    payloadLength', hpayload', hsize' rfl⟩

/-- The payload is shorter than the header: the write that should have no bytes has almost
`2 ^ 64`. -/
theorem shortPayload_wraps : ∃ s : RxBuffers 1 Nat,
    (system Nat onePacketConfig).Reachable (fun _ _ => True) s ∧
      ∃ sizeBytes, .writeToMemory 0 .deferred ⟨none, none, 10⟩ sizeBytes ∈ s.log ∧
        sizeBytes.toNat = 2 ^ 64 - 18 := by
  obtain ⟨s, hs, hmem⟩ := Reachable.exists_of_run
    (T := system Nat onePacketConfig) (C := fun _ _ => True)
    (P := fun s => .writeToMemory 0 .deferred ⟨none, none, 10⟩ (-18) ∈ s.log)
    (s := initial Nat onePacketConfig) (deferredRun 10) rfl (by decide +kernel)
  exact ⟨s, hs, -18, hmem, rfl⟩

/-! ## The signals to Falcon -/

def waitingBytes {κ : Type} (buffer : HostBuffer κ) : Nat :=
  (buffer.buffer.map fun item => item.payloadLength.toNat).sum

/-- The size of a buffer is that of its items, and Falcon was stopped if it is full. -/
structure Counted {κ : Type} (maximum : BitVec 32) (buffer : HostBuffer κ) (xoff : Bool) :
    Prop where
  maximum : buffer.maxSizeBytes = maximum
  bytes : buffer.currentSizeBytes.toNat = waitingBytes buffer
  stopped : buffer.maxSizeBytes ≤ buffer.currentSizeBytes → xoff = true

/-- The buffer is full whenever its host is xoffed. -/
structure Exact {κ : Type} (maximum : BitVec 32) (buffer : HostBuffer κ) (xoff : Bool) : Prop
    extends Counted maximum buffer xoff where
  full : xoff = true → buffer.maxSizeBytes ≤ buffer.currentSizeBytes

lemma Counted.pop {κ : Type} {maximum : BitVec 32} {buffer : HostBuffer κ} {xoff : Bool}
    (h : Counted maximum buffer xoff) {item : HostBufferItem κ} {rest : List (HostBufferItem κ)}
    (hbuffer : buffer.buffer = item :: rest) :
    Counted maximum
      { buffer with
        buffer := rest
        currentSizeBytes := buffer.currentSizeBytes - item.payloadLength.setWidth 32 } xoff := by
  have hbytes := h.bytes
  rw [waitingBytes, hbuffer, List.map_cons, List.sum_cons] at hbytes
  have hpayload : (item.payloadLength.setWidth 32).toNat = item.payloadLength.toNat := by
    exact Nat.mod_eq_of_lt (by omega)
  have hcurrent : (buffer.currentSizeBytes - item.payloadLength.setWidth 32).toNat =
      buffer.currentSizeBytes.toNat - item.payloadLength.toNat := by
    rw [BitVec.toNat_sub_of_le (by rw [BitVec.le_def]; omega), hpayload]
  refine ⟨h.maximum, ?_, fun hfull => h.stopped ?_⟩
  · show (buffer.currentSizeBytes - item.payloadLength.setWidth 32).toNat = _
    rw [hcurrent, hbytes]
    exact Nat.add_sub_cancel_left ..
  · rw [BitVec.le_def] at hfull ⊢
    dsimp only at hfull
    omega

namespace RxBuffers

variable {n : Nat} {κ : Type} {s s' : RxBuffers n κ} {host : Fin n} {item : HostBufferItem κ}
  {sizeBytes : BitVec 64} {c : Config n}

def lastXoff (s : RxBuffers n κ) (host : Fin n) : Bool :=
  (s.log.findSome? fun action => match action with
    | .setXoffByRdma host' xoff => if host' = host then some xoff else none
    | _ => none).getD false

def Fits (s : RxBuffers n κ) : Label κ → Prop
  | .push hostId payloadLength _ _ => ∀ host : Fin n, hostId.toNat = host →
      (s.interfaces host).canEnqueuePacket = false →
      (s.buffers host).currentSizeBytes.toNat + payloadLength.toNat < 2 ^ 32
  | .fire _ => True

instance (s : RxBuffers n κ) : (l : Label κ) → Decidable (s.Fits l)
  | .push hostId payloadLength _ _ =>
    inferInstanceAs (Decidable (∀ host : Fin n, hostId.toNat = host →
      (s.interfaces host).canEnqueuePacket = false →
      (s.buffers host).currentSizeBytes.toNat + payloadLength.toNat < 2 ^ 32))
  | .fire _ => inferInstanceAs (Decidable True)

def ExactBut (c : Config n) (host : Fin n) (s : RxBuffers n κ) : Prop :=
  Counted (c.bufferSizeBytes host) (s.buffers host) (s.lastXoff host) ∧
    ∀ host', host' ≠ host → Exact (c.bufferSizeBytes host') (s.buffers host') (s.lastXoff host')

def AllExact (c : Config n) (s : RxBuffers n κ) : Prop :=
  ∀ host, Exact (c.bufferSizeBytes host) (s.buffers host) (s.lastXoff host)

lemma lastXoff_setXoffByRdma (xoff : Bool) (host' : Fin n) :
    (s.emit (.setXoffByRdma host xoff)).lastXoff host' =
      if host' = host then xoff else s.lastXoff host' := by
  by_cases h : host' = host
  · simp [lastXoff, emit, h]
  · simp [lastXoff, emit, h, Ne.symm h]

lemma Writes.lastXoff
    (h : s.Writes s' ((item.pcieIssueCallback.map Action.callback).toList ++
      [.writeToMemory host path item sizeBytes])) : s'.lastXoff = s.lastXoff := by
  unfold RxBuffers.lastXoff
  rw [h.2]
  cases item.pcieIssueCallback with
  | none => rfl
  | some callback => rfl

lemma ExactBut.setBuffer {buffer : HostBuffer κ} (h : s.ExactBut c host)
    (hbuffer : Counted (c.bufferSizeBytes host) buffer (s.lastXoff host)) :
    (s.setBuffer host buffer).ExactBut c host := by
  refine ⟨?_, fun host' hne => ?_⟩
  · show Counted _ (update s.buffers host buffer host) (s.lastXoff host)
    rw [update_self]
    exact hbuffer
  · show Exact _ (update s.buffers host buffer host') (s.lastXoff host')
    rw [update_of_ne hne]
    exact h.2 host' hne

lemma ExactBut.drain (h : s.ExactBut c host) (items : List (HostBufferItem κ))
    (hitems : (s.buffers host).buffer = items) :
    Ensures (fun _ => True) (ExactBut c host) (s.drain host items) := by
  induction items generalizing s with
  | nil => exact h
  | cons item rest ih =>
    refine .ite (fun _ => ?_) fun _ => h
    refine (s.handOver_writes host .deferred item _).bind fun s₁ hs₁ => ?_
    have h₁ : s₁.ExactBut c host := by
      unfold ExactBut
      rw [hs₁.1, hs₁.lastXoff]
      exact h
    have hpop := h₁.1.pop (hs₁.1 ▸ hitems)
    refine ih (h₁.setBuffer hpop) ?_
    simp [RxBuffers.setBuffer]

lemma ExactBut.signalXon (h : s.ExactBut c host) : (s.signalXon host).AllExact c := by
  intro host'
  unfold RxBuffers.signalXon
  dsimp only
  split
  · rename_i hroom
    rw [lastXoff_setXoffByRdma]
    by_cases hne : host' = host
    · subst hne
      rw [if_pos rfl]
      exact ⟨⟨h.1.maximum, h.1.bytes, fun hfull => absurd hroom (BitVec.not_lt.mpr hfull)⟩, nofun⟩
    · rw [if_neg hne]
      exact h.2 host' hne
  · rename_i hfull
    by_cases hne : host' = host
    · subst hne
      exact ⟨h.1, fun _ => BitVec.not_lt.mp hfull⟩
    · exact h.2 host' hne

lemma AllExact.wakeup (h : s.AllExact c) : Ensures (fun _ => True) (AllExact c)
    (s.wakeup host) := by
  have hbut : s.ExactBut c host := ⟨(h host).toCounted, fun host' _ => h host'⟩
  exact (hbut.drain _ rfl).bind fun _ h₁ => h₁.signalXon

lemma allExact_signalXoff (hmaximum : (s.buffers host).maxSizeBytes = c.bufferSizeBytes host)
    (hbytes : (s.buffers host).currentSizeBytes.toNat = waitingBytes (s.buffers host))
    (hstopped : s.lastXoff host = true →
      (s.buffers host).maxSizeBytes ≤ (s.buffers host).currentSizeBytes)
    (hothers : ∀ host', host' ≠ host →
      Exact (c.bufferSizeBytes host') (s.buffers host') (s.lastXoff host')) :
    (s.signalXoff host).AllExact c := by
  intro host'
  unfold RxBuffers.signalXoff
  dsimp only
  split
  · rename_i hfull
    rw [lastXoff_setXoffByRdma]
    by_cases hne : host' = host
    · subst hne
      rw [if_pos rfl]
      exact ⟨⟨hmaximum, hbytes, fun _ => rfl⟩, fun _ => hfull⟩
    · rw [if_neg hne]
      exact hothers host' hne
  · rename_i hroom
    by_cases hne : host' = host
    · subst hne
      exact ⟨⟨hmaximum, hbytes, fun hfull => absurd hfull hroom⟩, hstopped⟩
    · exact hothers host' hne

lemma AllExact.buffer (h : s.AllExact c) {payloadLength : BitVec 32}
    (hpayload : item.payloadLength = payloadLength.setWidth 64)
    (hfits : (s.buffers host).currentSizeBytes.toNat + payloadLength.toNat < 2 ^ 32) :
    ((s.setBuffer host
      { s.buffers host with
        buffer := (s.buffers host).buffer ++ [item]
        currentSizeBytes := (s.buffers host).currentSizeBytes + payloadLength }).signalXoff
          host).AllExact c := by
  have hcurrent : ((s.buffers host).currentSizeBytes + payloadLength).toNat =
      (s.buffers host).currentSizeBytes.toNat + payloadLength.toNat :=
    BitVec.toNat_add_of_lt hfits
  refine allExact_signalXoff ?_ ?_ ?_ fun host' hne => ?_
  · simp only [RxBuffers.setBuffer, update_self]
    exact (h host).maximum
  · have hlength : item.payloadLength.toNat = payloadLength.toNat := by
      rw [hpayload, BitVec.toNat_setWidth]
      exact Nat.mod_eq_of_lt (by omega)
    simp only [RxBuffers.setBuffer, update_self, hcurrent, (h host).bytes]
    simp [waitingBytes, hlength]
  · simp only [RxBuffers.setBuffer, update_self]
    intro hstopped
    have hfull := (h host).full hstopped
    rw [BitVec.le_def] at hfull ⊢
    omega
  · simp only [RxBuffers.setBuffer, update_of_ne hne]
    exact h host'

lemma AllExact.push (h : s.AllExact c) {hostId : BitVec 8} {payloadLength : BitVec 32}
    {pcieIssueCallback pcieCompleteCallback : Option κ}
    (hfits : s.Fits (.push hostId payloadLength pcieIssueCallback pcieCompleteCallback)) :
    Ensures (fun _ => True) (AllExact c)
      (s.push hostId payloadLength pcieIssueCallback pcieCompleteCallback) := by
  unfold RxBuffers.push
  by_cases hlt : hostId.toNat < n
  · rw [dif_pos hlt]
    have hpush : (s.emit (.push ⟨hostId.toNat, hlt⟩
      ⟨pcieIssueCallback, pcieCompleteCallback, payloadLength.setWidth 64⟩)).AllExact c := h
    refine .ite (fun _ => ?_) fun hfull => ?_
    · refine (handOver_writes _ _ _ _ _).imp fun s₁ hs₁ host' => ?_
      rw [hs₁.1, hs₁.lastXoff]
      exact hpush host'
    · exact hpush.buffer rfl (hfits ⟨hostId.toNat, hlt⟩ rfl (Bool.eq_false_iff.mpr hfull))
  · rw [dif_neg hlt]
    trivial

end RxBuffers

section Signals

variable {n : Nat} {κ : Type} {c : Config n} {s : RxBuffers n κ}

/-- As long as the payloads that wait fit the size, it is their sum, and the last signal has stopped
Falcon exactly if the buffer is full. -/
theorem xoff_exact (hmaximum : ∀ host, 0 < c.bufferSizeBytes host)
    (hs : (system κ c).Reachable RxBuffers.Fits s) (host : Fin n) :
    (s.buffers host).currentSizeBytes.toNat = waitingBytes (s.buffers host) ∧
      (s.lastXoff host = true ↔
        (s.buffers host).maxSizeBytes ≤ (s.buffers host).currentSizeBytes) ∧
      (s.buffers host).maxSizeBytes = c.bufferSizeBytes host := by
  have hexact : s.AllExact c := by
    refine hs.invariant (E := fun _ => True) ?_ ?_
    · intro s hinit host
      subst hinit
      exact ⟨⟨rfl, rfl, fun hfull => absurd (hmaximum host) (BitVec.not_lt.mpr hfull)⟩, nofun⟩
    · intro s l h _ hfits
      cases l with
      | push hostId payloadLength pcieIssueCallback pcieCompleteCallback => exact h.push hfits
      | fire index =>
        refine RxBuffers.fire_rule (fun s s' hs' h host => ?_) (fun s callback h => h)
          (fun s host h => h.wakeup) h index
        have hxoff : s'.lastXoff = s.lastXoff := by
          unfold RxBuffers.lastXoff
          rw [hs'.2]
          rfl
        rw [hs'.1, hxoff]
        exact h host
  exact ⟨(hexact host).bytes, ⟨(hexact host).full, (hexact host).stopped⟩, (hexact host).maximum⟩

end Signals

theorem xoff_exact_deferred : ∃ s : RxBuffers 1 Nat,
    (system Nat onePacketConfig).Reachable RxBuffers.Fits s ∧
      waitingBytes (s.buffers 0) = 4000 ∧ s.lastXoff 0 = true := by
  obtain ⟨s, hs, hbytes⟩ := Reachable.exists_of_run
    (T := system Nat onePacketConfig) (C := RxBuffers.Fits)
    (P := fun s => (s.buffers 0).currentSizeBytes = 4000)
    (s := initial Nat onePacketConfig) ((deferredRun 300).take 2 ++ [.push 0 4000 none none]) rfl
    (by decide +kernel)
  obtain ⟨hsum, hxoff, hmaximum⟩ := xoff_exact (by decide) hs 0
  refine ⟨s, hs, ?_, hxoff.mpr ?_⟩
  · rw [← hsum, hbytes]
    rfl
  · rw [hmaximum, hbytes]
    decide

/-- Two payloads of half of the range wait: the size is zero again, and Falcon stays stopped. -/
theorem wrappedSize_xoff : ∃ s : RxBuffers 1 Nat,
    (system Nat onePacketConfig).Reachable (fun _ _ => True) s ∧
      (s.buffers 0).currentSizeBytes = 0 ∧ waitingBytes (s.buffers 0) = 2 ^ 32 ∧
      s.lastXoff 0 = true := by
  exact Reachable.exists_of_run
    (T := system Nat onePacketConfig) (C := fun _ _ => True)
    (s := initial Nat onePacketConfig)
    ((deferredRun 300).take 2 ++ [.push 0 (2 ^ 31) none none, .push 0 (2 ^ 31) none none]) rfl
    (by decide +kernel)

end Isekai.Host
