import Isekai.Lib.Agenda
import Isekai.Lib.TransitionSystem
import Mathlib.Algebra.Order.Floor.Div
import Mathlib.Data.Nat.ModEq

/-!
# The traffic shaper

`TrafficShaperModel`. A slot that is not in the map of the wheel has no packets, and its number is
an `int`. Times are those for which the number of granularities is an `int64_t`.
-/

namespace Isekai.Host

open Lib Function TransitionSystem

/-- A packet with its time of release. -/
structure ShapedPacket where
  id : Nat
  timestamp : Nat
  deriving DecidableEq

/-- The granularity and the slots of the timing wheel. -/
structure TrafficShaperOptions where
  slotGranularity : Nat
  numberOfSlots : Nat

/-- `accepted` has the packets for the wheel with the times of their arrival, and `enqueued` the
calls of `EnqueuePacket` with their times, the earliest first. -/
structure TrafficShaperModel where
  agenda : Agenda Unit := {}
  wheel : BitVec 32 → List ShapedPacket := fun _ => []
  accepted : List (ShapedPacket × Nat) := []
  enqueued : List (ShapedPacket × Nat) := []

inductive ShaperFatal
  | pastHorizon | futureHorizon | noSuchSlot

inductive ShaperLabel
  | transferTxPacket (time : Nat) (pkt : ShapedPacket)
  | drainTimingWheelSlot (index : Nat)

namespace TrafficShaperOptions

variable (c : TrafficShaperOptions)

def timingWheelHorizon : Nat := c.slotGranularity * c.numberOfSlots

def ceil (time : Nat) : Nat := c.slotGranularity * (time ⌈/⌉ c.slotGranularity)

def departureRoundupTime (now timestamp : Nat) : Nat :=
  if timestamp < now then c.ceil now else c.ceil timestamp

def slot (time : Nat) : BitVec 32 := .ofNat 32 (time / c.slotGranularity % c.numberOfSlots)

/-- A slot of the wheel between now and the horizon. -/
structure InWindow (now time : Nat) : Prop where
  dvd : c.slotGranularity ∣ time
  le : now ≤ time
  lt : time < c.ceil now + c.timingWheelHorizon

variable {c} {now now' time time' : Nat} (hg : 0 < c.slotGranularity)

include hg

lemma ceil_isLeast (time : Nat) : IsLeast {t | c.slotGranularity ∣ t ∧ time ≤ t} (c.ceil time) := by
  refine ⟨⟨Nat.dvd_mul_right .., le_smul_ceilDiv hg⟩, ?_⟩
  rintro t ⟨⟨k, rfl⟩, ht⟩
  exact Nat.mul_le_mul_left _ ((ceilDiv_le_iff_le_mul hg).mpr (Nat.mul_comm .. ▸ ht))

lemma departure_isLeast (now timestamp : Nat) :
    IsLeast {t | c.slotGranularity ∣ t ∧ max timestamp now ≤ t}
      (c.departureRoundupTime now timestamp) := by
  unfold departureRoundupTime
  split
  · rw [max_eq_right (by omega)]
    exact ceil_isLeast hg now
  · rw [max_eq_left (by omega)]
    exact ceil_isLeast hg timestamp

lemma InWindow.mono (h : c.InWindow now time) (hnow : now ≤ now') (hle : now' ≤ time) :
    c.InWindow now' time := by
  obtain ⟨hdvd, hceil⟩ := (ceil_isLeast hg now').1
  have hmono := (ceil_isLeast hg now).2 ⟨hdvd, hnow.trans hceil⟩
  exact ⟨h.dvd, hle, h.lt.trans_le (Nat.add_le_add_right hmono _)⟩

lemma InWindow.eq_of_slot (hslots : c.numberOfSlots ≤ 2 ^ 32) (h : c.InWindow now time)
    (h' : c.InWindow now time') (hslot : c.slot time = c.slot time') : time = time' := by
  have hbound : ∀ {k}, c.InWindow now (c.slotGranularity * k) →
      now ⌈/⌉ c.slotGranularity ≤ k ∧ k < now ⌈/⌉ c.slotGranularity + c.numberOfSlots := by
    intro k hk
    have hlt := hk.lt
    rw [ceil, timingWheelHorizon, ← Nat.mul_add] at hlt
    exact ⟨Nat.le_of_mul_le_mul_left ((ceil_isLeast hg now).2 ⟨hk.dvd, hk.le⟩) hg,
      Nat.lt_of_mul_lt_mul_left hlt⟩
  obtain ⟨k, rfl⟩ := h.dvd
  obtain ⟨k', rfl⟩ := h'.dvd
  have hk := hbound h
  have hk' := hbound h'
  have hmod : ∀ k, k % c.numberOfSlots < 2 ^ 32 :=
    fun k => (Nat.mod_lt k (by omega)).trans_le hslots
  have heq := congrArg BitVec.toNat hslot
  simp only [slot, Nat.mul_div_cancel_left _ hg, BitVec.toNat_ofNat,
    Nat.mod_eq_of_lt (hmod _)] at heq
  rw [Nat.ModEq.eq_of_abs_lt heq (by rw [abs_lt]; omega)]

end TrafficShaperOptions

namespace TrafficShaperModel

variable (c : TrafficShaperOptions) (s : TrafficShaperModel)

/-- Puts a packet into the slot of its departure. -/
def transferTxPacket (pkt : ShapedPacket) : Except ShaperFatal TrafficShaperModel :=
  let now := s.agenda.now
  if pkt.timestamp = 0 then .ok { s with enqueued := s.enqueued ++ [(pkt, now)] }
  else if pkt.timestamp + c.timingWheelHorizon < now then .error .pastHorizon
  else if now + c.timingWheelHorizon < pkt.timestamp then .error .futureHorizon
  else
    let departureRoundupTime := c.departureRoundupTime now pkt.timestamp
    let enqueueSlot := c.slot departureRoundupTime
    .ok
      { s with
        wheel := update s.wheel enqueueSlot (s.wheel enqueueSlot ++ [pkt])
        accepted := s.accepted ++ [(pkt, now)]
        agenda := if s.wheel enqueueSlot = [] then s.agenda.schedule (departureRoundupTime - now) ()
          else s.agenda }

def drainTimingWheelSlot : Except ShaperFatal TrafficShaperModel :=
  let currentSlot := c.slot s.agenda.now
  if s.wheel currentSlot = [] then .error .noSuchSlot
  else .ok
    { s with
      wheel := update s.wheel currentSlot []
      enqueued := s.enqueued ++ (s.wheel currentSlot).map fun pkt => (pkt, s.agenda.now) }

def allowed : ShaperLabel → Prop
  | .transferTxPacket time _ => s.agenda.Reaches time
  | .drainTimingWheelSlot index => s.agenda.IsNext index

def next : ShaperLabel → Except ShaperFatal TrafficShaperModel
  | .transferTxPacket time pkt => { s with agenda := s.agenda.advance time }.transferTxPacket c pkt
  | .drainTimingWheelSlot index =>
    match s.agenda.pending[index]? with
    | some p => { s with agenda := s.agenda.fire p.1 index }.drainTimingWheelSlot c
    | none => .ok s

def system : TransitionSystem TrafficShaperModel ShaperLabel ShaperFatal where
  init s := s = {}
  allowed := allowed
  next := next c

instance : (l : ShaperLabel) → Decidable ((system c).allowed s l)
  | .transferTxPacket time _ => inferInstanceAs (Decidable (s.agenda.Reaches time))
  | .drainTimingWheelSlot index => inferInstanceAs (Decidable (s.agenda.IsNext index))

/-- The packet departs less than a horizon after the present slot. -/
def beforeHorizon (_ : TrafficShaperModel) : ShaperLabel → Bool
  | .transferTxPacket time pkt =>
    c.departureRoundupTime time pkt.timestamp < c.ceil time + c.timingWheelHorizon
  | .drainTimingWheelSlot _ => true

def departingAt (time : Nat) : List ShapedPacket :=
  (s.accepted.filter fun x => c.departureRoundupTime x.2 x.1.timestamp = time).map Prod.fst

def releasedAt (time : Nat) : List ShapedPacket :=
  (s.enqueued.filter fun x => x.1.timestamp ≠ 0 ∧ x.2 = time).map Prod.fst

def waitingAt (time : Nat) : List ShapedPacket :=
  if (time, ()) ∈ s.agenda.pending then s.wheel (c.slot time) else []

/-- Each occupied slot has one event. -/
structure Inv : Prop where
  window : ∀ p ∈ s.agenda.pending, c.InWindow s.agenda.now p.1
  nodup : s.agenda.pending.Nodup
  occupied : ∀ p ∈ s.agenda.pending, s.wheel (c.slot p.1) ≠ []
  scheduled : ∀ slot, s.wheel slot ≠ [] → ∃ p ∈ s.agenda.pending, c.slot p.1 = slot
  timestamp : ∀ x ∈ s.accepted, x.1.timestamp ≠ 0
  account : ∀ time, s.departingAt c time = s.releasedAt time ++ s.waitingAt c time

lemma released_map {pkts : List ShapedPacket} (h : ∀ x ∈ pkts, x.timestamp ≠ 0) (time time' : Nat) :
    ((pkts.map fun x => (x, time')).filter fun x => x.1.timestamp ≠ 0 ∧ x.2 = time).map Prod.fst =
      if time' = time then pkts else [] := by
  rw [List.filter_map, List.map_map]
  split
  · rename_i htime
    rw [List.filter_eq_self.mpr fun x hx => by simpa [htime] using h x hx]
    exact List.map_id _
  · rename_i htime
    rw [List.filter_eq_nil_iff.mpr fun x _ => by simp [htime]]
    rfl

variable {c s} {s' : TrafficShaperModel} {index time time' : Nat} {p : Nat × Unit}
  {pkt : ShapedPacket}
  (hg : 0 < c.slotGranularity) (hslots : c.numberOfSlots ≤ 2 ^ 32) (h : s.Inv c)

include hg h

lemma Inv.advance (htime : s.agenda.Reaches time) :
    Inv c { s with agenda := s.agenda.advance time } :=
  ⟨fun p hp => (h.window p hp).mono hg htime.1 (htime.2 p hp), h.nodup, h.occupied, h.scheduled,
    h.timestamp, h.account⟩

include hslots

lemma Inv.mem_pending_iff (htime : c.InWindow s.agenda.now time) :
    (time, ()) ∈ s.agenda.pending ↔ s.wheel (c.slot time) ≠ [] := by
  refine ⟨h.occupied _, fun hwheel => ?_⟩
  obtain ⟨p, hp, hslot⟩ := h.scheduled _ hwheel
  exact (h.window p hp).eq_of_slot hg hslots htime hslot ▸ hp

lemma Inv.waitingAt_of_window (htime : c.InWindow s.agenda.now time) :
    s.waitingAt c time = s.wheel (c.slot time) := by
  unfold waitingAt
  split
  · rfl
  · rename_i hp
    exact (not_not.mp (mt (h.mem_pending_iff hg hslots htime).mpr hp)).symm

lemma Inv.waitingAt_congr (hwindow : c.InWindow s.agenda.now time)
    (hwheel : ∀ slot ≠ c.slot time, s'.wheel slot = s.wheel slot)
    (hmem : (time', ()) ∈ s'.agenda.pending ↔ (time', ()) ∈ s.agenda.pending) (hne : time' ≠ time) :
    s'.waitingAt c time' = s.waitingAt c time' := by
  simp only [waitingAt, hmem]
  split
  · rename_i hp
    exact hwheel _ fun hslot => hne ((h.window _ hp).eq_of_slot hg hslots hwindow hslot)
  · rfl

/-- A packet joins the slot of its departure time, for which an event is pending then. -/
lemma Inv.push (hpkt : pkt.timestamp ≠ 0)
    (hdeparture : c.departureRoundupTime s.agenda.now pkt.timestamp = time)
    (hwindow : c.InWindow s.agenda.now time) {agenda : Agenda Unit}
    (hnow : agenda.now = s.agenda.now) (hnodup : agenda.pending.Nodup)
    (hmem : ∀ p, p ∈ agenda.pending ↔ p ∈ s.agenda.pending ∨ p = (time, ())) :
    Inv c { s with
      agenda
      wheel := update s.wheel (c.slot time) (s.wheel (c.slot time) ++ [pkt])
      accepted := s.accepted ++ [(pkt, s.agenda.now)] } where
  window p hp := by
    rw [hnow]
    obtain hp | rfl := (hmem p).mp hp
    · exact h.window p hp
    · exact hwindow
  nodup := hnodup
  occupied p hp := by
    dsimp only
    rw [update_apply]
    split
    · exact List.append_ne_nil_of_right_ne_nil _ (List.cons_ne_nil _ _)
    · rename_i hslot
      exact h.occupied p (((hmem p).mp hp).resolve_right fun heq => hslot (heq ▸ rfl))
  scheduled slot hslot := by
    by_cases heq : slot = c.slot time
    · exact ⟨(time, ()), (hmem _).mpr (.inr rfl), heq.symm⟩
    · obtain ⟨p, hp, hp'⟩ := h.scheduled slot (update_of_ne heq _ s.wheel ▸ hslot)
      exact ⟨p, (hmem p).mpr (.inl hp), hp'⟩
  timestamp x hx := by
    obtain hx | hx := List.mem_append.mp hx
    · exact h.timestamp x hx
    · exact List.mem_singleton.mp hx ▸ hpkt
  account time' := by
    have haccount := h.account time'
    simp only [departingAt, List.filter_append, List.map_append] at haccount ⊢
    rw [haccount, List.append_assoc]
    refine congrArg (s.releasedAt time' ++ ·) ?_
    by_cases htime : time' = time
    · subst htime
      rw [h.waitingAt_of_window hg hslots hwindow]
      simp [waitingAt, hmem, hdeparture]
    · refine Eq.trans ?_ (h.waitingAt_congr hg hslots hwindow
        (fun _ hne => update_of_ne hne ..) ?_ htime).symm
      · simp [hdeparture, Ne.symm htime]
      · simp [hmem, htime]

lemma Inv.transferTxPacket (hlt : c.departureRoundupTime s.agenda.now pkt.timestamp <
      c.ceil s.agenda.now + c.timingWheelHorizon) :
    Ensures (fun _ => True) (Inv c) (s.transferTxPacket c pkt) := by
  obtain ⟨⟨hdvd, hle⟩, -⟩ := TrafficShaperOptions.departure_isLeast hg s.agenda.now pkt.timestamp
  have hwindow : c.InWindow s.agenda.now _ := ⟨hdvd, (le_max_right ..).trans hle, hlt⟩
  have hiff := h.mem_pending_iff hg hslots hwindow
  unfold TrafficShaperModel.transferTxPacket
  refine .ite (fun hzero => ?_) fun hpkt => .ite (fun _ => trivial) fun _ =>
    .ite (fun _ => trivial) fun _ => ?_
  · refine ⟨h.window, h.nodup, h.occupied, h.scheduled, h.timestamp, fun time => ?_⟩
    simpa [departingAt, releasedAt, waitingAt, hzero] using h.account time
  · refine h.push hg hslots hpkt rfl hwindow (by split <;> rfl) ?_ fun p => ?_
    · split
      · rename_i hempty
        refine (List.perm_append_singleton _ _).nodup_iff.mpr (List.nodup_cons.mpr ⟨?_, h.nodup⟩)
        rw [Nat.add_sub_cancel' hwindow.le]
        exact mt hiff.mp (not_not.mpr hempty)
      · exact h.nodup
    · split
      · simp [Agenda.schedule, Nat.add_sub_cancel' hwindow.le]
      · rename_i hne
        exact ⟨.inl, fun hp => hp.elim id (· ▸ hiff.mpr hne)⟩

lemma Inv.drainTimingWheelSlot (hnext : s.agenda.IsNext index) :
    ∃ s', s.next c (.drainTimingWheelSlot index) = .ok s' ∧ s'.Inv c := by
  obtain ⟨p, hp, hreaches⟩ := hnext
  have hperm := Agenda.pending_perm_fire hp
  obtain ⟨hnew, hnodup⟩ := List.nodup_cons.mp (hperm.nodup_iff.mpr h.nodup)
  have hmem : ∀ q, q ∈ s.agenda.pending ↔ q = p ∨ q ∈ (s.agenda.fire p.1 index).pending :=
    fun q => by
    rw [← hperm.mem_iff, List.mem_cons]
  have hpending := (hmem p).mpr (.inl rfl)
  have hwindow := h.window p hpending
  refine ⟨{ s with
      agenda := s.agenda.fire p.1 index
      wheel := update s.wheel (c.slot p.1) []
      enqueued := s.enqueued ++ (s.wheel (c.slot p.1)).map fun pkt => (pkt, p.1) }, ?_,
    fun q hq => (h.window q ((hmem q).mpr (.inr hq))).mono hg hreaches.1
      (hreaches.fire q hq), hnodup,
    fun q hq => ?_, fun slot hslot => ?_, h.timestamp, fun time => ?_⟩
  · simp only [next, Option.mem_def.mp hp]
    exact if_neg (h.occupied p hpending)
  · have hq' := (hmem q).mpr (.inr hq)
    have hne : c.slot q.1 ≠ c.slot p.1 := fun hslot =>
      hnew ((Prod.ext ((h.window q hq').eq_of_slot hg hslots hwindow hslot) rfl : q = p) ▸ hq)
    exact (update_of_ne hne _ s.wheel).trans_ne (h.occupied q hq')
  · by_cases heq : slot = c.slot p.1
    · exact absurd (heq ▸ update_self _ _ _) hslot
    · obtain ⟨q, hq, hq'⟩ := h.scheduled slot (update_of_ne heq _ s.wheel ▸ hslot)
      exact ⟨q, ((hmem q).mp hq).resolve_left fun hqp => heq (hqp ▸ hq'.symm), hq'⟩
  · have hpkts : ∀ x ∈ s.wheel (c.slot p.1), x.timestamp ≠ 0 := fun x hx => by
      have hx' : x ∈ s.departingAt c p.1 := by
        rw [h.account, h.waitingAt_of_window hg hslots hwindow]
        exact List.mem_append_right _ hx
      obtain ⟨y, hy, rfl⟩ := List.mem_map.mp hx'
      exact h.timestamp y (List.mem_filter.mp hy).1
    simp only [releasedAt, List.filter_append, List.map_append, released_map hpkts]
    refine (h.account time).trans
      ((congrArg (s.releasedAt time ++ ·) ?_).trans (List.append_assoc ..).symm)
    by_cases htime : p.1 = time
    · subst htime
      rw [h.waitingAt_of_window hg hslots hwindow, if_pos rfl, waitingAt, if_neg hnew]
      exact (List.append_nil _).symm
    · rw [if_neg htime]
      refine (h.waitingAt_congr hg hslots hwindow (fun _ hne => update_of_ne hne ..) ?_
        (Ne.symm htime)).symm
      simp [hmem, Prod.ext_iff, Ne.symm htime]

omit h

lemma inv_of_reachable (hs : (system c).Reachable (fun s l => beforeHorizon c s l = true) s) :
    s.Inv c := by
  refine hs.invariant (E := fun _ => True) ?_ fun s l h hl hC => ?_
  · rintro s rfl
    exact ⟨nofun, .nil, nofun, fun _ h => absurd rfl h, nofun, fun _ => rfl⟩
  · cases l with
    | transferTxPacket time pkt =>
      exact (h.advance hg hl).transferTxPacket hg hslots (of_decide_eq_true hC)
    | drainTimingWheelSlot index =>
      obtain ⟨s', hs', h'⟩ := h.drainTimingWheelSlot hg hslots hl
      have hnext : (system c).next s (.drainTimingWheelSlot index) = .ok s' := hs'
      rw [hnext]
      exact h'

omit hg hslots

/-- The packets that depart at a time are released then, in the order of their arrival; until then
they are those of the slot that is to be drained at that time. No check fails when a slot is
drained. -/
theorem released_on_time (hg : 0 < c.slotGranularity) (hslots : c.numberOfSlots ≤ 2 ^ 32)
    (hs : (system c).Reachable (fun s l => beforeHorizon c s l = true) s) :
    (∀ now timestamp, IsLeast {t | c.slotGranularity ∣ t ∧ max timestamp now ≤ t}
      (c.departureRoundupTime now timestamp)) ∧
    (∀ time, s.departingAt c time = s.releasedAt time ++ s.waitingAt c time) ∧
    ∀ index, s.agenda.IsNext index → ∃ s', s.next c (.drainTimingWheelSlot index) = .ok s' := by
  have h := inv_of_reachable hg hslots hs
  refine ⟨TrafficShaperOptions.departure_isLeast hg, h.account, fun index hnext => ?_⟩
  obtain ⟨s', hs', -⟩ := h.drainTimingWheelSlot hg hslots hnext
  exact ⟨s', hs'⟩

theorem released_on_time_tenSlots : ∃ s,
    (system ⟨1, 10⟩).Reachable (fun s l => beforeHorizon ⟨1, 10⟩ s l = true) s ∧
    s.enqueued = [(⟨1, 10⟩, 10), (⟨2, 19⟩, 19)] ∧
    s.departingAt ⟨1, 10⟩ 19 = s.releasedAt 19 ++ s.waitingAt ⟨1, 10⟩ 19 := by
  obtain ⟨s, hs, henqueued⟩ := Reachable.exists_of_run (T := system ⟨1, 10⟩)
    (C := fun s l => beforeHorizon ⟨1, 10⟩ s l = true)
    (P := fun s => s.enqueued = [(⟨1, 10⟩, 10), (⟨2, 19⟩, 19)])
    [.transferTxPacket 10 ⟨1, 10⟩, .transferTxPacket 10 ⟨2, 19⟩, .drainTimingWheelSlot 0,
      .drainTimingWheelSlot 0] rfl (by decide +kernel)
  exact ⟨s, hs, henqueued, (released_on_time (by decide) (by decide) hs).2.1 19⟩

/-- A packet that departs a whole horizon after the present slot is released with those of this
slot. -/
theorem horizon_packet_released_early : ∃ s, (system ⟨1, 10⟩).Reachable (fun _ _ => True) s ∧
    s.departingAt ⟨1, 10⟩ 20 = [⟨2, 20⟩] ∧ s.enqueued = [(⟨1, 10⟩, 10), (⟨2, 20⟩, 10)] ∧
    s.departingAt ⟨1, 10⟩ 20 ≠ s.releasedAt 20 ++ s.waitingAt ⟨1, 10⟩ 20 :=
  Reachable.exists_of_run
    [.transferTxPacket 10 ⟨1, 10⟩, .transferTxPacket 10 ⟨2, 20⟩, .drainTimingWheelSlot 0] rfl
    (by decide +kernel)

end TrafficShaperModel

end Isekai.Host
