import Isekai.Lib.Agenda
import Isekai.Lib.TransitionSystem

/-!
# The network channel of a host

`NetworkChannelManager`. A callback sends the signal on top of the queue, whichever signal it was
scheduled for. Signals with the same requested time leave the queue in any order.
-/

namespace Isekai.Host

open Lib

/-- A signal with its requested time. -/
structure DelayedEthernetSignal where
  signal : Nat
  scheduledTime : Nat
  transmissionDelay : Nat
  deriving DecidableEq

/-- `scheduled` has the signals of all calls, and `sent` those that were sent, with the times. -/
structure NetworkChannelManager where
  agenda : Agenda Unit := {}
  delayedSignals : List DelayedEthernetSignal := []
  nextAvailableTime : Nat := 0
  scheduled : List DelayedEthernetSignal := []
  sent : List (DelayedEthernetSignal × Nat) := []

inductive ChannelFatal
  | emptyQueue

inductive ChannelLabel
  | scheduleSend (time signal sendDelay transmissionDelay : Nat)
  | sendOnWire (index : Nat) (top : DelayedEthernetSignal)

namespace NetworkChannelManager

variable (s : NetworkChannelManager)

def scheduleSend (signal sendDelay transmissionDelay : Nat) : NetworkChannelManager :=
  let delayedSignal := ⟨signal, s.agenda.now + sendDelay, transmissionDelay⟩
  { s with
    delayedSignals := delayedSignal :: s.delayedSignals
    scheduled := delayedSignal :: s.scheduled
    agenda := s.agenda.schedule (max sendDelay (s.nextAvailableTime - s.agenda.now)) () }

def sendOnWire (top : DelayedEthernetSignal) : Except ChannelFatal NetworkChannelManager :=
  if s.agenda.now < s.nextAvailableTime then
    .ok { s with agenda := s.agenda.schedule (s.nextAvailableTime - s.agenda.now) () }
  else if s.delayedSignals = [] then .error .emptyQueue
  else .ok
    { s with
      delayedSignals := s.delayedSignals.erase top
      sent := (top, s.agenda.now) :: s.sent
      nextAvailableTime := s.agenda.now + top.transmissionDelay }

def IsTop (top : DelayedEthernetSignal) : Prop :=
  top ∈ s.delayedSignals ∧ ∀ x ∈ s.delayedSignals, top.scheduledTime ≤ x.scheduledTime

instance (top : DelayedEthernetSignal) : Decidable (s.IsTop top) :=
  inferInstanceAs (Decidable (_ ∧ _))

def allowed : ChannelLabel → Prop
  | .scheduleSend time _ _ _ => s.agenda.Reaches time
  | .sendOnWire index top => s.agenda.IsNext index ∧ (s.delayedSignals ≠ [] → s.IsTop top)

def next : ChannelLabel → Except ChannelFatal NetworkChannelManager
  | .scheduleSend time signal sendDelay transmissionDelay =>
    .ok ({ s with agenda := s.agenda.advance time }.scheduleSend signal sendDelay transmissionDelay)
  | .sendOnWire index top =>
    match s.agenda.pending[index]? with
    | some p => { s with agenda := s.agenda.fire p.1 index }.sendOnWire top
    | none => .ok s

def system : TransitionSystem NetworkChannelManager ChannelLabel ChannelFatal where
  init s := s = {}
  allowed := allowed
  next := next

instance : (l : ChannelLabel) → Decidable (system.allowed s l)
  | .scheduleSend time _ _ _ => inferInstanceAs (Decidable (s.agenda.Reaches time))
  | .sendOnWire .. => inferInstanceAs (Decidable (_ ∧ (_ → _)))

def due (time : Nat) : Nat := s.delayedSignals.countP (·.scheduledTime ≤ time)

def Sends (s' s : NetworkChannelManager) : Prop :=
  ∃ index top, s.allowed (.sendOnWire index top) ∧ s.next (.sendOnWire index top) = .ok s'

def remaining : Nat × Nat :=
  (s.delayedSignals.length, s.agenda.dueBy (s.nextAvailableTime - 1))

def Follows (later earlier : DelayedEthernetSignal × Nat) : Prop :=
  earlier.2 + earlier.1.transmissionDelay ≤ later.2 ∧
    earlier.1.scheduledTime ≤ later.1.scheduledTime

/-- Every queued signal has a callback. -/
structure Inv : Prop where
  pending : ∀ p ∈ s.agenda.pending, s.agenda.now ≤ p.1
  dueBy_le : ∀ time, s.agenda.dueBy time ≤ s.due time
  due_le : ∀ time, s.nextAvailableTime ≤ time → s.due time ≤ s.agenda.dueBy time
  length : s.agenda.pending.length = s.delayedSignals.length
  once : s.scheduled.Perm (s.sent.map Prod.fst ++ s.delayedSignals)
  sent : ∀ x ∈ s.sent, x.1.scheduledTime ≤ x.2 ∧ x.2 ≤ s.agenda.now ∧
    x.2 + x.1.transmissionDelay ≤ s.nextAvailableTime ∧
    ∀ y ∈ s.delayedSignals, x.1.scheduledTime ≤ y.scheduledTime
  ordered : s.sent.Pairwise Follows

variable {s} {index time : Nat} {p : Nat × Unit} {top : DelayedEthernetSignal}

lemma Inv.advance (h : s.Inv) (htime : s.agenda.Reaches time) :
    Inv { s with agenda := s.agenda.advance time } := by
  refine ⟨htime.2, h.dueBy_le, h.due_le, h.length, h.once, fun x hx => ?_, h.ordered⟩
  obtain ⟨hrequested, hnow, hrest⟩ := h.sent x hx
  exact ⟨hrequested, Nat.le_trans hnow htime.1, hrest⟩

lemma Inv.scheduleSend (h : s.Inv) (signal sendDelay transmissionDelay : Nat) :
    (s.scheduleSend signal sendDelay transmissionDelay).Inv := by
  have hdue : ∀ time, (s.scheduleSend signal sendDelay transmissionDelay).due time =
      s.due time + if s.agenda.now + sendDelay ≤ time then 1 else 0 := by
    intro time
    simp [due, NetworkChannelManager.scheduleSend, List.countP_cons]
  refine ⟨Agenda.forall_mem_schedule.mpr ⟨h.pending, Nat.le_add_right ..⟩, fun time => ?_,
    fun time htime => ?_, ?_, (h.once.cons _).trans List.perm_middle.symm, fun x hx => ?_,
      h.ordered⟩
  · have := h.dueBy_le time
    rw [hdue, NetworkChannelManager.scheduleSend, Agenda.dueBy_schedule]
    split <;> split <;> omega
  · have := h.due_le time htime
    have hle : s.nextAvailableTime ≤ time := htime
    rw [hdue, NetworkChannelManager.scheduleSend, Agenda.dueBy_schedule]
    split <;> split <;> omega
  · simp [NetworkChannelManager.scheduleSend, Agenda.schedule, h.length]
  · obtain ⟨hrequested, hnow, havailable, hqueue⟩ := h.sent x hx
    refine ⟨hrequested, hnow, havailable, List.forall_mem_cons.mpr ⟨?_, hqueue⟩⟩
    exact Nat.le_trans (Nat.le_trans hrequested hnow) (Nat.le_add_right ..)

lemma Inv.exists_due (h : s.Inv) (hp : s.agenda.pending[index]? = some p) :
    ∃ x ∈ s.delayedSignals, x.scheduledTime ≤ p.1 := by
  have hle := h.dueBy_le p.1
  rw [Agenda.dueBy_fire hp, if_pos (Nat.le_refl _)] at hle
  simpa using List.countP_pos_iff.mp (Nat.lt_of_lt_of_le (Nat.succ_pos _) hle)

lemma Inv.reschedule (h : s.Inv) (hp : s.agenda.pending[index]? = some p)
    (hreaches : s.agenda.Reaches p.1) (hbusy : p.1 < s.nextAvailableTime) :
    Inv { s with agenda := (s.agenda.fire p.1 index).schedule (s.nextAvailableTime - p.1) () } := by
  have hdueBy : ∀ time,
      ((s.agenda.fire p.1 index).schedule (s.nextAvailableTime - p.1) ()).dueBy time =
      (s.agenda.fire p.1 index).dueBy time + if s.nextAvailableTime ≤ time then 1 else 0 := by
    intro time
    rw [Agenda.dueBy_schedule]
    simp [Agenda.fire, Nat.add_sub_cancel' (Nat.le_of_lt hbusy)]
  refine ⟨Agenda.forall_mem_schedule.mpr ⟨hreaches.fire, Nat.le_add_right ..⟩, fun time => ?_,
    fun time htime => ?_, ?_, h.once, fun x hx => ?_, h.ordered⟩
  · have hle := h.dueBy_le time
    rw [Agenda.dueBy_fire hp] at hle
    rw [hdueBy]
    refine Nat.le_trans ?_ hle
    split <;> split <;> omega
  · have hle := h.due_le time htime
    have hlt : s.nextAvailableTime ≤ time := htime
    rw [Agenda.dueBy_fire hp, if_pos (by omega)] at hle
    rw [hdueBy, if_pos hlt]
    exact hle
  · have hlength := (Agenda.pending_perm_fire hp).length_eq
    simpa [Agenda.schedule, h.length] using hlength
  · obtain ⟨hrequested, hnow, hrest⟩ := h.sent x hx
    exact ⟨hrequested, Nat.le_trans hnow hreaches.1, hrest⟩

lemma Inv.send (h : s.Inv) (hp : s.agenda.pending[index]? = some p)
    (hreaches : s.agenda.Reaches p.1) (hfree : s.nextAvailableTime ≤ p.1) (htop : s.IsTop top) :
    Inv { s with
      agenda := s.agenda.fire p.1 index
      delayedSignals := s.delayedSignals.erase top
      sent := (top, p.1) :: s.sent
      nextAvailableTime := p.1 + top.transmissionDelay } := by
  obtain ⟨x, hx, hdue⟩ := h.exists_due hp
  have hrequested : top.scheduledTime ≤ p.1 := Nat.le_trans (htop.2 x hx) hdue
  have hperm := List.perm_cons_erase htop.1
  have hdues : ∀ time, p.1 ≤ time →
      s.due time = (s.delayedSignals.erase top).countP (·.scheduledTime ≤ time) + 1 := by
    intro time htime
    rw [due, hperm.countP_eq, List.countP_cons_of_pos
      (by simpa using Nat.le_trans hrequested htime)]
  refine ⟨hreaches.fire, fun time => ?_, fun time htime => ?_, ?_,
    (h.once.trans (hperm.append_left _)).trans List.perm_middle,
    List.forall_mem_cons.mpr ⟨⟨hrequested, Nat.le_refl _, Nat.le_refl _, fun y hy =>
      htop.2 y (List.mem_of_mem_erase hy)⟩, fun x hx => ?_⟩,
    List.pairwise_cons.mpr ⟨fun x hx => ?_, h.ordered⟩⟩
  · by_cases htime : p.1 ≤ time
    · have hle := h.dueBy_le time
      rw [Agenda.dueBy_fire hp, hdues time htime, if_pos htime] at hle
      exact Nat.le_of_succ_le_succ hle
    · have hnone : (s.agenda.fire p.1 index).dueBy time = 0 :=
        List.countP_eq_zero.mpr fun q hq hle =>
          htime (Nat.le_trans (hreaches.fire q hq) (of_decide_eq_true hle))
      exact hnone ▸ Nat.zero_le _
  · have hle : p.1 ≤ time := Nat.le_trans (Nat.le_add_right ..) htime
    have hdue := h.due_le time (Nat.le_trans hfree hle)
    rw [Agenda.dueBy_fire hp, hdues time hle, if_pos hle] at hdue
    exact Nat.le_of_succ_le_succ hdue
  · have hlength := h.length
    rw [← (Agenda.pending_perm_fire hp).length_eq, hperm.length_eq] at hlength
    exact Nat.succ.inj hlength
  · obtain ⟨hrequested, hnow, havailable, hqueue⟩ := h.sent x hx
    refine ⟨hrequested, Nat.le_trans hnow hreaches.1, ?_, fun y hy =>
      hqueue y (List.mem_of_mem_erase hy)⟩
    exact Nat.le_trans (Nat.le_trans havailable hfree) (Nat.le_add_right ..)
  · obtain ⟨-, -, havailable, hqueue⟩ := h.sent x hx
    exact ⟨Nat.le_trans havailable hfree, hqueue top htop.1⟩

lemma Inv.sendOnWire (h : s.Inv) (hl : s.allowed (.sendOnWire index top)) :
    ∃ s', s.next (.sendOnWire index top) = .ok s' ∧ s'.Inv ∧
      Prod.Lex (· < ·) (· < ·) s'.remaining s.remaining := by
  obtain ⟨⟨p, hp, hreaches⟩, htop⟩ := hl
  have hnext : s.next (.sendOnWire index top) =
      NetworkChannelManager.sendOnWire { s with agenda := s.agenda.fire p.1 index } top := by
    simp only [NetworkChannelManager.next, Option.mem_def.mp hp]
  rw [hnext]
  by_cases hbusy : p.1 < s.nextAvailableTime
  · refine ⟨_, if_pos hbusy, h.reschedule hp hreaches hbusy, .right _ ?_⟩
    rw [Agenda.dueBy_fire hp, if_pos (by omega), Agenda.dueBy_schedule, if_neg]
    · exact Nat.lt_succ_self _
    · simp only [Agenda.fire]
      omega
  · obtain ⟨x, hx, -⟩ := h.exists_due hp
    have hne := List.ne_nil_of_mem hx
    refine ⟨_, (if_neg hbusy).trans (if_neg hne),
      h.send hp hreaches (Nat.le_of_not_lt hbusy) (htop hne), .left _ _ ?_⟩
    exact Nat.lt_of_lt_of_eq (Nat.lt_succ_self _) (List.perm_cons_erase (htop hne).1).length_eq.symm

lemma inv_of_reachable (hs : system.Reachable (fun _ _ => True) s) : s.Inv := by
  refine hs.invariant (E := fun _ => False) ?_ fun s l h hl _ => ?_
  · rintro s rfl
    exact ⟨nofun, fun _ => Nat.le_refl _, fun _ _ => Nat.le_refl _, rfl, .refl _, nofun, .nil⟩
  · cases l with
    | scheduleSend time signal sendDelay transmissionDelay => exact (h.advance hl).scheduleSend ..
    | sendOnWire index top =>
      obtain ⟨s', hs', h', -⟩ := h.sendOnWire hl
      have hnext : system.next s (.sendOnWire index top) = .ok s' := hs'
      rw [hnext]
      exact h'

lemma Inv.acc {s : NetworkChannelManager} (h : s.Inv) : Acc Sends s := by
  refine ⟨s, ?_⟩
  rintro s' ⟨index, top, hl, hs'⟩
  obtain ⟨s'', hs'', h', hlt⟩ := h.sendOnWire hl
  cases hs'.symm.trans hs''
  exact h'.acc
termination_by s.remaining
decreasing_by exact hlt

/-- Every signal is sent once, after its requested time, while no other is transmitted and in the
order of the requested times. A signal that is due while the channel is free has a callback at that
instant. Every callback finds a signal, and after finitely many callbacks none is pending and none
queued. -/
theorem channel_sends (hs : system.Reachable (fun _ _ => True) s) :
    s.scheduled.Perm (s.sent.map Prod.fst ++ s.delayedSignals) ∧
    s.agenda.pending.length = s.delayedSignals.length ∧
    (∀ x ∈ s.sent, x.1.scheduledTime ≤ x.2) ∧ s.sent.Pairwise Follows ∧
    (∀ time, s.agenda.Reaches time → s.nextAvailableTime ≤ time →
      (∃ x ∈ s.delayedSignals, x.scheduledTime ≤ time) → (time, ()) ∈ s.agenda.pending) ∧
    (∀ index top, s.allowed (.sendOnWire index top) →
      ∃ s', s.next (.sendOnWire index top) = .ok s') ∧ Acc Sends s := by
  have h := inv_of_reachable hs
  refine ⟨h.once, h.length, fun x hx => (h.sent x hx).1, h.ordered, ?_,
    fun index top hl => ?_, h.acc⟩
  · rintro time hreaches hfree ⟨x, hx, hdue⟩
    have hpos : 0 < s.due time := List.countP_pos_iff.mpr ⟨x, hx, decide_eq_true hdue⟩
    obtain ⟨p, hp, hle⟩ := List.countP_pos_iff.mp (Nat.lt_of_lt_of_le hpos (h.due_le time hfree))
    have htime : p.1 = time := Nat.le_antisymm (of_decide_eq_true hle) (hreaches.2 p hp)
    exact htime ▸ hp
  · obtain ⟨s', hs', -, -⟩ := h.sendOnWire hl
    exact ⟨s', hs'⟩

theorem channel_sends_overtaking : ∃ s, system.Reachable (fun _ _ => True) s ∧
    s.sent = [(⟨1, 5, 20⟩, 23), (⟨2, 3, 20⟩, 3)] ∧ s.sent.Pairwise Follows := by
  obtain ⟨s, hs, hsent⟩ := TransitionSystem.Reachable.exists_of_run
    (T := system) (C := fun _ _ => True)
    (P := fun s => s.sent = [(⟨1, 5, 20⟩, 23), (⟨2, 3, 20⟩, 3)])
    [.scheduleSend 0 1 5 20, .scheduleSend 1 2 2 20, .sendOnWire 1 ⟨2, 3, 20⟩,
      .sendOnWire 0 ⟨1, 5, 20⟩, .sendOnWire 0 ⟨1, 5, 20⟩] rfl (by decide +kernel)
  exact ⟨s, hs, hsent, (channel_sends hs).2.2.2.1⟩

end NetworkChannelManager

end Isekai.Host
