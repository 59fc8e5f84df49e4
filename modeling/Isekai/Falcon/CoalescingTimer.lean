import Isekai.Falcon.AckCoalescing
import Isekai.Lib.TransitionSystem

/-!
# The timer of the ACK coalescing engine

Runs of the coalescing engine of one connection, under any calls of the reliability manager. Timers
are never cancelled; a timer that fires late finds another trigger time.
-/

namespace Isekai.Falcon

open Lib

/-- The engine, with the last time at which the counter became positive and the last time at which
the timer was set up. -/
structure CoalescingRun where
  endpoint : Endpoint
  positiveSince : Time
  setUpAt : Time

namespace CoalescingRun

variable (r : CoalescingRun)

abbrev counter : Nat := r.endpoint.coalescing.coalescingCounter

abbrev timeout : Time := r.endpoint.config.ackCoalescingTimeout

def deadline : Time := r.endpoint.coalescing.timerTriggerTime + r.timeout

inductive Label where
  | generateAckOrUpdateCoalescingState (immediateAckReq : Bool) (countIncrement : Nat)
  | transmitACK
  | transmitNACK (originalPsn : Psn) (isRequestWindow : Bool) (code : NackCode) (rnrTimeout : Time)
  | piggybackAck
  | updateCongestionControlMetadataToReflect (sentTimestamp : Time)
  /-- The receiver windows and the number of implicitly acknowledged packets change. -/
  | receiver (rx : WindowType → ReceiverReliabilityWindowMetadata) (implicitlyAckedCounter : Nat)
  | handleAckCoalescingTimeout
  | advance (time : Time)

def Allowed : Label → Prop
  | .generateAckOrUpdateCoalescingState _ countIncrement => 0 < countIncrement
  | .handleAckCoalescingTimeout => (r.endpoint.now, .ackCoalescingTimeout) ∈ r.endpoint.pending
  | .advance time => r.endpoint.now ≤ time ∧ ∀ p ∈ r.endpoint.pending, time ≤ p.1
  | _ => True

def call (r : CoalescingRun) : Label → Endpoint
  | .generateAckOrUpdateCoalescingState immediateAckReq countIncrement =>
    r.endpoint.generateAckOrUpdateCoalescingState immediateAckReq countIncrement
  | .transmitACK => r.endpoint.transmitACK
  | .transmitNACK originalPsn isRequestWindow code rnrTimeout =>
    r.endpoint.transmitNACK originalPsn isRequestWindow code rnrTimeout
  | .piggybackAck => r.endpoint.piggybackAck
  | .updateCongestionControlMetadataToReflect sentTimestamp =>
    r.endpoint.updateCongestionControlMetadataToReflect sentTimestamp
  | .receiver rx implicitlyAckedCounter =>
    { r.endpoint with rx := rx, implicitlyAckedCounter := implicitlyAckedCounter }
  | .handleAckCoalescingTimeout =>
    { r.endpoint with
      pending := r.endpoint.pending.erase
        (r.endpoint.now, .ackCoalescingTimeout) }.handleAckCoalescingTimeout
  | .advance time => { r.endpoint with now := time }

def next (r : CoalescingRun) (l : Label) : Except Fatal CoalescingRun :=
  let endpoint := r.call l
  pure
    { endpoint := endpoint
      positiveSince :=
        if r.counter = 0 ∧ 0 < endpoint.coalescing.coalescingCounter then endpoint.now
        else r.positiveSince
      setUpAt :=
        if r.endpoint.pending.length < endpoint.pending.length then endpoint.now else r.setUpAt }

def runs : TransitionSystem CoalescingRun Label Fatal where
  init r := r.endpoint.coalescing = {} ∧ r.endpoint.pending = []
  allowed := Allowed
  next := next

instance : ∀ l : Label, Decidable (r.Allowed l)
  | .generateAckOrUpdateCoalescingState _ countIncrement =>
    inferInstanceAs (Decidable (0 < countIncrement))
  | .handleAckCoalescingTimeout => inferInstanceAs (Decidable (_ ∈ r.endpoint.pending))
  | .advance _ => inferInstanceAs (Decidable (_ ∧ _))
  | .transmitACK | .transmitNACK _ _ _ _ | .piggybackAck
  | .updateCongestionControlMetadataToReflect _ | .receiver _ _ => isTrue trivial

instance (r : CoalescingRun) (l : Label) : Decidable (runs.allowed r l) :=
  inferInstanceAs (Decidable (r.Allowed l))

/-! ## Coverage -/

variable {r} {C : CoalescingRun → Label → Prop} {r' : CoalescingRun} (e : Endpoint)

/-- An outstanding ACK has a timer, and without one no trigger time is left behind. -/
structure Covered (r : CoalescingRun) : Prop where
  pending : 0 < r.counter → (r.deadline, .ackCoalescingTimeout) ∈ r.endpoint.pending
  setUp : 0 < r.counter → r.endpoint.coalescing.timerTriggerTime = r.setUpAt
  idle : r.counter = 0 → r.endpoint.coalescing.timerTriggerTime = 0

def Settles (c c' : AckCoalescingEntry) : Prop :=
  c'.coalescingCounter = 0 ∧ c'.timerTriggerTime = 0 ∨
    0 < c.coalescingCounter ∧ 0 < c'.coalescingCounter ∧ c'.timerTriggerTime = c.timerTriggerTime

lemma Covered.settles (h : r.Covered) {l : Label} (hnext : r.next l = .ok r')
    (hsettles : Settles r.endpoint.coalescing (r.call l).coalescing)
    (hconfig : (r.call l).config = r.endpoint.config)
    (hlength : (r.call l).pending.length ≤ r.endpoint.pending.length)
    (hpending : 0 < (r.call l).coalescing.coalescingCounter →
      (r.deadline, .ackCoalescingTimeout) ∈ r.endpoint.pending →
      (r.deadline, .ackCoalescingTimeout) ∈ (r.call l).pending) : r'.Covered := by
  cases hnext
  rcases hsettles with ⟨hcounter, htrigger⟩ | ⟨hbefore, hafter, htrigger⟩
  · exact ⟨fun hpos => absurd hcounter (Nat.ne_of_gt hpos),
      fun hpos => absurd hcounter (Nat.ne_of_gt hpos), fun _ => htrigger⟩
  · refine ⟨fun hpos => ?_, fun hpos => ?_, fun hzero => ?_⟩
    · have hsame : (r.call l).coalescing.timerTriggerTime + (r.call l).config.ackCoalescingTimeout =
          r.deadline := by
        rw [htrigger, hconfig]
        rfl
      dsimp only [deadline]
      rw [hsame]
      exact hpending hpos (h.pending hbefore)
    · dsimp only
      rw [if_neg (Nat.not_lt.mpr hlength), htrigger]
      exact h.setUp hbefore
    · exact absurd hzero (Nat.ne_of_gt hafter)

lemma Settles.refl (h : r.Covered) {c : AckCoalescingEntry}
    (hcounter : c.coalescingCounter = r.counter)
    (htrigger : c.timerTriggerTime = r.endpoint.coalescing.timerTriggerTime) :
    Settles r.endpoint.coalescing c := by
  rcases Nat.eq_zero_or_pos r.counter with hzero | hpos
  · exact .inl ⟨hcounter.trans hzero, htrigger.trans (h.idle hzero)⟩
  · exact .inr ⟨hpos, hcounter ▸ hpos, htrigger⟩

lemma transmitACK_coalescing :
    e.transmitACK.coalescing.coalescingCounter = 0 ∧
      e.transmitACK.coalescing.timerTriggerTime = 0 := by
  unfold Endpoint.transmitACK
  dsimp only
  split
  · exact ⟨rfl, rfl⟩
  · exact ⟨rfl, rfl⟩

lemma transmitACK_frame : e.transmitACK.config = e.config ∧ e.transmitACK.pending = e.pending := by
  unfold Endpoint.transmitACK
  dsimp only
  split
  · exact ⟨rfl, rfl⟩
  · exact ⟨rfl, rfl⟩

lemma settles_piggybackAck : Settles e.coalescing e.piggybackAck.coalescing := by
  unfold Endpoint.piggybackAck
  dsimp only
  split
  · split
    · exact .inl ⟨‹_›, rfl⟩
    · rename_i hpos
      dsimp only at hpos
      refine .inr ⟨?_, Nat.pos_of_ne_zero hpos, rfl⟩
      omega
  · split
    · exact .inl ⟨‹_›, rfl⟩
    · rename_i hpos
      exact .inr ⟨Nat.pos_of_ne_zero hpos, Nat.pos_of_ne_zero hpos, rfl⟩

lemma piggybackAck_frame :
    e.piggybackAck.config = e.config ∧ e.piggybackAck.pending = e.pending := by
  obtain ⟨c, n, heq⟩ := e.piggybackAck_eq
  rw [heq]
  exact ⟨rfl, rfl⟩

lemma Covered.keeps (h : r.Covered) {l : Label} (hnext : r.next l = .ok r')
    (hsettles : Settles r.endpoint.coalescing (r.call l).coalescing)
    (hframe : (r.call l).config = r.endpoint.config ∧ (r.call l).pending = r.endpoint.pending) :
    r'.Covered := by
  refine h.settles hnext hsettles hframe.1 ?_ fun _ => ?_
  · rw [hframe.2]
  · rw [hframe.2]
    exact id

lemma Covered.generate (h : r.Covered) {immediateAckReq : Bool} {countIncrement : Nat}
    (hpos : 0 < countIncrement)
    (hnext : r.next (.generateAckOrUpdateCoalescingState immediateAckReq countIncrement) = .ok r') :
    r'.Covered := by
  have hcall : r.call (.generateAckOrUpdateCoalescingState immediateAckReq countIncrement) =
      r.endpoint.generateAckOrUpdateCoalescingState immediateAckReq countIncrement := rfl
  unfold Endpoint.generateAckOrUpdateCoalescingState at hcall
  dsimp only at hcall
  split at hcall
  · refine h.keeps hnext ?_ ?_
    · rw [hcall]
      exact .inl (transmitACK_coalescing _)
    · rw [hcall]
      exact transmitACK_frame _
  · split at hcall
    · -- The counter is positive now, and a timer is set up for it.
      cases hnext
      rw [hcall]
      have hlength : r.endpoint.pending.length < (r.endpoint.pending ++
          [(r.endpoint.now + r.timeout, Callback.ackCoalescingTimeout)]).length := by
        rw [List.length_append]
        exact Nat.lt_succ_self _
      refine ⟨fun _ => ?_, fun _ => ?_, fun hzero => ?_⟩
      · exact List.mem_append_right _ (List.mem_singleton_self _)
      · exact (if_pos hlength).symm
      · exact absurd hzero (Nat.ne_of_gt (Nat.lt_of_lt_of_le hpos (Nat.le_add_left ..)))
    · rename_i hrunning
      have hbefore : 0 < r.counter := by
        refine Nat.pos_of_ne_zero fun hzero => hrunning ?_
        exact h.idle hzero
      refine h.keeps hnext ?_ ?_
      · rw [hcall]
        exact .inr ⟨hbefore, Nat.add_pos_left hbefore _, rfl⟩
      · rw [hcall]
        exact ⟨rfl, rfl⟩

lemma Covered.timeout (h : r.Covered) (hnext : r.next .handleAckCoalescingTimeout = .ok r') :
    r'.Covered := by
  have hcall : r.call .handleAckCoalescingTimeout =
      { r.endpoint with
        pending := r.endpoint.pending.erase
          (r.endpoint.now, .ackCoalescingTimeout) }.handleAckCoalescingTimeout := rfl
  have hlength := (List.erase_sublist (a := (r.endpoint.now, Callback.ackCoalescingTimeout))
    (l := r.endpoint.pending)).length_le
  unfold Endpoint.handleAckCoalescingTimeout at hcall
  split at hcall
  · have hzero := transmitACK_coalescing { r.endpoint with
      pending := r.endpoint.pending.erase (r.endpoint.now, .ackCoalescingTimeout) }
    obtain ⟨hconfig, hpending⟩ := transmitACK_frame { r.endpoint with
      pending := r.endpoint.pending.erase (r.endpoint.now, .ackCoalescingTimeout) }
    refine h.settles hnext (.inl (hcall ▸ hzero)) (hcall ▸ hconfig) ?_ fun hpos => ?_
    · rw [hcall, hpending]
      exact hlength
    · rw [hcall] at hpos
      exact absurd hzero.1 (Nat.ne_of_gt hpos)
  · rename_i hnot
    refine h.settles hnext ?_ ?_ ?_ fun hpos hmem => ?_
    · rw [hcall]
      exact .refl h rfl rfl
    · rw [hcall]
    · rw [hcall]
      exact hlength
    · rw [hcall] at hpos ⊢
      refine (List.mem_erase_of_ne fun heq => hnot ⟨?_, hpos⟩).mpr hmem
      have hdue : r.deadline = r.endpoint.now := congrArg Prod.fst heq
      rw [← hdue, deadline]
      exact add_sub_cancel_left _ _

lemma reachable_covered (hr : runs.Reachable C r) : r.Covered := by
  refine hr.invariant_of_ok (I := Covered) ?_ ?_
  · rintro r ⟨hcoalescing, hpending⟩
    have hcounter : r.counter = 0 := by rw [counter, hcoalescing]
    exact ⟨fun hpos => absurd hcounter (Nat.ne_of_gt hpos),
      fun hpos => absurd hcounter (Nat.ne_of_gt hpos), fun _ => by rw [hcoalescing]⟩
  · intro r l r' _ h hallowed _ hnext
    cases l with
    | generateAckOrUpdateCoalescingState immediateAckReq countIncrement =>
      exact h.generate hallowed hnext
    | transmitACK =>
      exact h.keeps hnext (.inl (transmitACK_coalescing _)) (transmitACK_frame _)
    | transmitNACK originalPsn isRequestWindow code rnrTimeout =>
      exact h.keeps hnext (settles_piggybackAck r.endpoint) (piggybackAck_frame r.endpoint)
    | piggybackAck =>
      exact h.keeps hnext (settles_piggybackAck r.endpoint) (piggybackAck_frame r.endpoint)
    | updateCongestionControlMetadataToReflect sentTimestamp =>
      exact h.keeps hnext (.refl h rfl rfl) ⟨rfl, rfl⟩
    | receiver rx implicitlyAckedCounter => exact h.keeps hnext (.refl h rfl rfl) ⟨rfl, rfl⟩
    | handleAckCoalescingTimeout => exact h.timeout hnext
    | advance time => exact h.keeps hnext (.refl h rfl rfl) ⟨rfl, rfl⟩

/-- While ACKs are outstanding the timer is pending for its trigger time plus the timeout, at most
one timeout after the counter last became positive or the timer was last set up; a timer that fires
at any other time sends nothing. -/
theorem coalescing_timer_covers (hr : runs.Reachable (fun _ _ => True) r) :
    (0 < r.counter → (r.deadline, .ackCoalescingTimeout) ∈ r.endpoint.pending ∧
      r.deadline ≤ max r.positiveSince r.setUpAt + r.timeout) ∧
    ∀ r', r.endpoint.now ≠ r.deadline → r.next .handleAckCoalescingTimeout = .ok r' →
      r'.endpoint.log = r.endpoint.log := by
  have h : r.Covered := reachable_covered hr
  refine ⟨fun hpos => ⟨h.pending hpos, ?_⟩, fun r' hother hnext => ?_⟩
  · rw [deadline, h.setUp hpos]
    exact add_le_add_left (le_max_right _ _) _
  · cases hnext
    have hcond : ¬(r.endpoint.now - r.endpoint.coalescing.timerTriggerTime = r.timeout ∧
        r.counter > 0) := by
      rintro ⟨helapsed, -⟩
      refine hother ?_
      rw [deadline, ← helapsed]
      exact (add_sub_cancel _ _).symm
    dsimp only [call]
    unfold Endpoint.handleAckCoalescingTimeout
    rw [if_neg hcond]

/-- A timer that is set up at time zero is set up again by the next packet. -/
theorem coalescing_timer_covers_atZero :
    ∃ r, runs.Reachable (fun _ _ => True) r ∧ r.counter = 4 ∧ r.deadline = 20 + r.timeout ∧
      (r.deadline, .ackCoalescingTimeout) ∈ r.endpoint.pending := by
  obtain ⟨r, hr, hcounter, hdeadline⟩ := TransitionSystem.Reachable.exists_of_run
    (T := runs) (C := fun _ _ => True)
    (s := ⟨{ config := { ordered := true }
             congestionControl := ⟨2048, 16, 4000, 0⟩
             tx := fun _ => { base := 0, next := 0 }
             rx := fun _ => { base := 0 } }, 0, 0⟩)
    (P := fun r => r.counter = 4 ∧ r.deadline = 20 + r.timeout)
    [.generateAckOrUpdateCoalescingState false 2, .advance 20,
      .generateAckOrUpdateCoalescingState false 2]
    ⟨rfl, rfl⟩ (by decide +kernel)
  have hcovers := (coalescing_timer_covers hr).1 (by rw [hcounter]; decide)
  exact ⟨r, hr, hcounter, hdeadline, hcovers.1⟩

end CoalescingRun

end Isekai.Falcon
