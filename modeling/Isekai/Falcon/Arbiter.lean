import Isekai.Falcon.Endpoint
import Isekai.Lib.Agenda
import Isekai.Lib.TransitionSystem
import Mathlib.Data.Nat.Count
import Mathlib.Data.Nat.Periodic

/-!
# The round robin arbiter

`gen1/round_robin_arbiter.cc`. The three schedulers are given by what they answer; a scheduler may
call `ScheduleSchedulerArbiter` while it is served. The arbitrations that serve a scheduler are
recorded.
-/

namespace Isekai.Falcon

open Lib

inductive SchedulerType where
  | connection | retransmission | ackNack
  deriving DecidableEq, Repr

/-- The schedulers. `scheduleWork` gives the result, the state after it, and the states in which the
scheduler calls `ScheduleSchedulerArbiter` before it returns. -/
structure Schedulers (σ : Type) where
  hasWork : SchedulerType → σ → Bool
  scheduleWork : SchedulerType → σ → Bool × σ × List σ

def Schedulers.anyWork {σ : Type} (S : Schedulers σ) (state : σ) : Bool :=
  S.hasWork .connection state || S.hasWork .retransmission state || S.hasWork .ackNack state

def schedulerOrdering (weight : SchedulerType → Nat) : List SchedulerType :=
  List.replicate (weight .connection) .connection ++
    List.replicate (weight .retransmission) .retransmission ++
    List.replicate (weight .ackNack) .ackNack

/-- An arbitration that served a scheduler: the slots where it started and which it served, and the
schedulers that had work. -/
structure Arbitration where
  time : Nat
  start : Nat
  slot : Nat
  hadWork : SchedulerType → Bool

def Arbitration.served (e : Arbitration) (ordering : List SchedulerType) : SchedulerType :=
  ordering.getD e.slot .connection

structure Arbiter (σ : Type) where
  ordering : List SchedulerType
  tickTime : Nat
  candidateSchedulerIndex : Nat := 0
  scheduled : Bool := false
  /-- `none` before the first arbitration. -/
  lastRunTime : Option Nat := none
  agenda : Agenda Unit := {}
  schedulers : σ
  log : List Arbitration := []

namespace Arbiter

variable {σ : Type} (S : Schedulers σ) (a : Arbiter σ)

def scheduleSchedulerArbiter : Arbiter σ :=
  if a.scheduled || !S.anyWork a.schedulers then a
  else
    let now := a.agenda.now
    let nextRunTime :=
      match a.lastRunTime with
      | none => now
      | some last => if now ≥ last + a.tickTime then now else last + a.tickTime
    { a with scheduled := true, agenda := a.agenda.schedule (nextRunTime - now) () }

def scheduleWork (type : SchedulerType) : Bool × Arbiter σ :=
  let (success, after, calls) := S.scheduleWork type a.schedulers
  let a := calls.foldl (fun a state =>
    ({ a with schedulers := state }).scheduleSchedulerArbiter S) a
  (success, { a with schedulers := after })

def schedulerAt (index : Nat) : SchedulerType := a.ordering.getD index .connection

def slots : List Nat :=
  (List.range a.ordering.length).map fun k => (a.candidateSchedulerIndex + k) % a.ordering.length

/-- Serves the first scheduler of the slots that has work it can do. -/
def serve (start : Nat) (hadWork : SchedulerType → Bool) (a : Arbiter σ) : List Nat → Arbiter σ
  | [] => a
  | index :: rest =>
    let type := a.schedulerAt index
    if S.hasWork type a.schedulers then
      let (success, a) := a.scheduleWork S type
      if success then
        { a with
          candidateSchedulerIndex := (index + 1) % a.ordering.length
          log := ⟨a.agenda.now, start, index, hadWork⟩ :: a.log }
      else serve start hadWork a rest
    else serve start hadWork a rest

def doArbitration : Arbiter σ :=
  if !S.anyWork a.schedulers then { a with scheduled := false }
  else
    let a := { a with lastRunTime := some a.agenda.now }
    let a := a.serve S a.candidateSchedulerIndex (fun type => S.hasWork type a.schedulers) a.slots
    if S.anyWork a.schedulers then { a with agenda := a.agenda.schedule a.tickTime () }
    else { a with scheduled := false }

/-! ## Runs -/

inductive Label (σ : Type) where
  /-- The schedulers gain or lose work. -/
  | work (state : σ)
  | scheduleSchedulerArbiter
  | event (index : Nat)
  | advance (time : Nat)

def Allowed : Label σ → Prop
  | .event index => a.agenda.IsNext index
  | .advance time => a.agenda.Reaches time
  | _ => True

instance : ∀ l : Label σ, Decidable (a.Allowed l)
  | .event index => inferInstanceAs (Decidable (a.agenda.IsNext index))
  | .advance time => inferInstanceAs (Decidable (a.agenda.Reaches time))
  | .work _ => isTrue trivial
  | .scheduleSchedulerArbiter => isTrue trivial

def fire (index : Nat) : Arbiter σ :=
  match a.agenda.pending[index]? with
  | some (time, _) => { a with agenda := a.agenda.fire time index }
  | none => a

def next (a : Arbiter σ) : Label σ → Except Fatal (Arbiter σ)
  | .work state => pure { a with schedulers := state }
  | .scheduleSchedulerArbiter => pure (a.scheduleSchedulerArbiter S)
  | .event index => pure ((a.fire index).doArbitration S)
  | .advance time => pure { a with agenda := a.agenda.advance time }

def runs (weight : SchedulerType → Nat) (tickTime : Nat) :
    TransitionSystem (Arbiter σ) (Label σ) Fatal where
  init a := schedulerOrdering weight ≠ [] ∧
    ∃ state, a = { ordering := schedulerOrdering weight, tickTime := tickTime, schedulers := state }
  allowed := Allowed
  next := next S

instance (weight : SchedulerType → Nat) (tickTime : Nat) (a : Arbiter σ) (l : Label σ) :
    Decidable ((runs S weight tickTime).allowed a l) :=
  inferInstanceAs (Decidable (a.Allowed l))

/-! ## Pacing -/

section Pacing

variable {S} {a} {weight : SchedulerType → Nat} {tickTime : Nat} {C : Arbiter σ → Label σ → Prop}

lemma scheduleWork_eq (h : a.scheduled = true) (type : SchedulerType) :
    a.scheduleWork S type = ((S.scheduleWork type a.schedulers).1,
      { a with schedulers := (S.scheduleWork type a.schedulers).2.1 }) := by
  have hcalls : ∀ (calls : List σ) (state : σ), ∃ state', calls.foldl (fun a state =>
      ({ a with schedulers := state }).scheduleSchedulerArbiter S) { a with schedulers := state } =
        { a with schedulers := state' } := by
    intro calls
    induction calls with
    | nil => exact fun state => ⟨state, rfl⟩
    | cons call calls ih =>
      intro state
      rw [List.foldl_cons]
      have hsame : ({ a with schedulers := call } : Arbiter σ).scheduleSchedulerArbiter S =
          { a with schedulers := call } := by
        rw [h]
        rfl
      rw [hsame]
      exact ih call
  obtain ⟨state', hstate'⟩ := hcalls (S.scheduleWork type a.schedulers).2.2 a.schedulers
  unfold scheduleWork
  dsimp only at hstate' ⊢
  rw [hstate']

lemma serve_cases (start : Nat) (hadWork : SchedulerType → Bool) (l : List Nat)
    (h : a.scheduled = true) :
    (∃ state, a.serve S start hadWork l = { a with schedulers := state }) ∨
    ∃ state before index after, l = before ++ index :: after ∧
      a.serve S start hadWork l = { a with
        schedulers := state
        candidateSchedulerIndex := (index + 1) % a.ordering.length
        log := ⟨a.agenda.now, start, index, hadWork⟩ :: a.log } ∧
      ((∀ type state, S.hasWork type state = true → (S.scheduleWork type state).1 = true) →
        S.hasWork (a.schedulerAt index) a.schedulers = true ∧
          ∀ other ∈ before, S.hasWork (a.schedulerAt other) a.schedulers = false) := by
  induction l generalizing a with
  | nil => exact .inl ⟨a.schedulers, rfl⟩
  | cons index rest ih =>
    unfold serve
    dsimp only
    by_cases hwork : S.hasWork (a.schedulerAt index) a.schedulers = true
    · rw [if_pos hwork, scheduleWork_eq h]
      by_cases hsuccess : (S.scheduleWork (a.schedulerAt index) a.schedulers).1 = true
      · rw [if_pos hsuccess]
        exact .inr ⟨_, [], index, rest, rfl, rfl, fun _ => ⟨hwork, nofun⟩⟩
      · rw [if_neg hsuccess]
        rcases ih (a := { a with
          schedulers := (S.scheduleWork (a.schedulerAt index) a.schedulers).2.1 }) h with
          ⟨state, hstate⟩ | ⟨state, before, index', after, hl, hstate, -⟩
        · exact .inl ⟨state, hstate⟩
        · refine .inr ⟨state, index :: before, index', after, by rw [hl]; rfl, hstate,
            fun hall => ?_⟩
          exact absurd (hall _ _ hwork) hsuccess
    · rw [if_neg hwork]
      rcases ih h with ⟨state, hstate⟩ | ⟨state, before, index', after, hl, hstate, hfirst⟩
      · exact .inl ⟨state, hstate⟩
      · refine .inr ⟨state, index :: before, index', after, by rw [hl]; rfl, hstate, fun hall => ?_⟩
        obtain ⟨hserved, hskipped⟩ := hfirst hall
        refine ⟨hserved, fun other hother => ?_⟩
        rcases List.mem_cons.mp hother with rfl | hother
        · exact Bool.eq_false_of_not_eq_true hwork
        · exact hskipped other hother

lemma doArbitration_cases (h : a.scheduled = true) (hwork : S.anyWork a.schedulers = true) :
    ∃ state candidate added, (added = [] ∧ candidate = a.candidateSchedulerIndex ∨
      ∃ before index after, a.slots = before ++ index :: after ∧
        added = [⟨a.agenda.now, a.candidateSchedulerIndex, index,
          fun type => S.hasWork type a.schedulers⟩] ∧
        candidate = (index + 1) % a.ordering.length ∧
        ((∀ type state, S.hasWork type state = true → (S.scheduleWork type state).1 = true) →
          ∀ other ∈ before, S.hasWork (a.schedulerAt other) a.schedulers = false)) ∧
      a.doArbitration S = { a with
        lastRunTime := some a.agenda.now
        schedulers := state
        candidateSchedulerIndex := candidate
        log := added ++ a.log
        scheduled := S.anyWork state
        agenda := if S.anyWork state then a.agenda.schedule a.tickTime () else a.agenda } := by
  have hserve := serve_cases (S := S) (a := { a with lastRunTime := some a.agenda.now })
    a.candidateSchedulerIndex (fun type => S.hasWork type a.schedulers) a.slots h
  unfold doArbitration
  rw [hwork, Bool.not_true, if_neg Bool.false_ne_true]
  rcases hserve with ⟨state, hstate⟩ | ⟨state, before, index, after, hl, hstate, hfirst⟩
  · refine ⟨state, a.candidateSchedulerIndex, [], .inl ⟨rfl, rfl⟩, ?_⟩
    dsimp only [slots] at hstate ⊢
    simp only [hstate]
    cases S.anyWork state with
    | true => simp [h]
    | false => simp
  · refine ⟨state, (index + 1) % a.ordering.length, _, .inr ⟨before, index, after, hl, rfl, rfl,
      fun hall => (hfirst hall).2⟩, ?_⟩
    dsimp only [slots] at hstate ⊢
    simp only [hstate]
    cases S.anyWork state with
    | true => simp [h]
    | false => simp

/-- An arbitration is pending exactly while `scheduled` is set. -/
structure Inv (weight : SchedulerType → Nat) (tickTime : Nat) (a : Arbiter σ) : Prop where
  ordering : a.ordering = schedulerOrdering weight
  nonempty : 0 < a.ordering.length
  ticks : a.tickTime = tickTime
  pending : a.scheduled = true → ∃ time, a.agenda.pending = [(time, ())] ∧ a.agenda.now ≤ time ∧
    ∀ last ∈ a.lastRunTime, last + tickTime ≤ time
  idle : a.scheduled = false → a.agenda.pending = []
  lastRunTime : ∀ last ∈ a.lastRunTime, last ≤ a.agenda.now
  recent : ∀ e ∈ a.log, ∃ last ∈ a.lastRunTime, e.time ≤ last
  apart : a.log.Pairwise fun newer older => older.time + tickTime ≤ newer.time

lemma Inv.schedule (h : Inv weight tickTime a) :
    Inv weight tickTime (a.scheduleSchedulerArbiter S) := by
  unfold scheduleSchedulerArbiter
  split
  · exact h
  · rename_i hidle
    rw [Bool.or_eq_true, not_or] at hidle
    have hnone : a.agenda.pending = [] := h.idle (Bool.eq_false_of_not_eq_true hidle.1)
    refine { h with pending := fun _ => ?_, idle := nofun, lastRunTime := h.lastRunTime }
    dsimp only [Agenda.schedule]
    rw [hnone]
    refine ⟨_, rfl, Nat.le_add_right .., ?_⟩
    cases hlast : a.lastRunTime with
    | none => exact nofun
    | some last =>
      rintro _ ⟨rfl⟩
      dsimp only
      rw [h.ticks]
      split <;> omega

lemma Inv.fire (h : Inv weight tickTime a) {index : Nat} (hnext : a.agenda.IsNext index) :
    a.scheduled = true ∧ (∀ last ∈ a.lastRunTime, last + tickTime ≤ (a.fire index).agenda.now) ∧
      (a.fire index).agenda.pending = [] ∧
      a.fire index = { a with agenda := (a.fire index).agenda } := by
  obtain ⟨p, hp, -⟩ := hnext
  cases hscheduled : a.scheduled with
  | false =>
    rw [h.idle hscheduled] at hp
    exact absurd hp (by simp)
  | true =>
    obtain ⟨time, htime, -, hlast⟩ := h.pending hscheduled
    rw [htime] at hp
    obtain ⟨rfl, rfl⟩ : index = 0 ∧ p = (time, ()) := by
      cases index with
      | zero => exact ⟨rfl, (Option.some.inj hp).symm⟩
      | succ index => exact absurd hp (by simp)
    have hfire : a.fire 0 = { a with agenda := a.agenda.fire time 0 } := by
      unfold Arbiter.fire
      rw [htime]
      rfl
    rw [hfire]
    refine ⟨rfl, hlast, ?_, by rw [hscheduled]⟩
    dsimp only [Agenda.fire]
    rw [htime]
    rfl

lemma Inv.event (h : Inv weight tickTime a) {index : Nat} (hnext : a.agenda.IsNext index) :
    Inv weight tickTime ((a.fire index).doArbitration S) := by
  obtain ⟨hscheduled, hlast, hpending, hfire⟩ := h.fire hnext
  rw [hfire]
  generalize (a.fire index).agenda = agenda at hlast hpending
  by_cases hwork : S.anyWork a.schedulers = true
  · obtain ⟨state, candidate, added, hadded, heq⟩ := doArbitration_cases (S := S)
      (a := { a with agenda := agenda }) hscheduled hwork
    have htime : ∀ e ∈ added, e.time = agenda.now := by
      rcases hadded with ⟨rfl, -⟩ | ⟨_, _, _, -, rfl, -⟩
      · exact nofun
      · intro e he
        rw [List.mem_singleton.mp he]
    have hone : added.length ≤ 1 := by
      rcases hadded with ⟨rfl, -⟩ | ⟨_, _, _, -, rfl, -⟩
      · exact Nat.zero_le 1
      · exact le_refl 1
    rw [heq]
    refine ⟨h.ordering, h.nonempty, h.ticks, fun hmore => ?_, fun hdone => ?_, ?_, ?_, ?_⟩
    · dsimp only at hmore ⊢
      rw [if_pos hmore]
      dsimp only [Agenda.schedule]
      rw [hpending]
      refine ⟨_, rfl, Nat.le_add_right .., ?_⟩
      rintro _ ⟨rfl⟩
      rw [h.ticks]
    · dsimp only at hdone ⊢
      rw [if_neg (by rw [hdone]; exact Bool.false_ne_true), hpending]
    · rintro _ ⟨rfl⟩
      split
      · exact le_refl _
      · exact le_refl _
    · intro e he
      refine ⟨agenda.now, rfl, ?_⟩
      rcases List.mem_append.mp he with he | he
      · exact (htime e he).le
      · obtain ⟨last, hl, hle⟩ := h.recent e he
        have := hlast last hl
        omega
    · refine List.pairwise_append.mpr ⟨?_, h.apart, fun newer hnewer older holder => ?_⟩
      · match added, hone with
        | [], _ => exact List.Pairwise.nil
        | [e], _ => exact List.pairwise_singleton _ e
      · obtain ⟨last, hl, hle⟩ := h.recent older holder
        have := hlast last hl
        rw [htime newer hnewer]
        omega
  · have heq : ({ a with agenda := agenda } : Arbiter σ).doArbitration S =
        { a with agenda := agenda, scheduled := false } := by
      unfold doArbitration
      rw [if_pos (by simpa using hwork)]
    rw [heq]
    refine ⟨h.ordering, h.nonempty, h.ticks, nofun, fun _ => hpending, fun last hl => ?_,
      h.recent, h.apart⟩
    have := hlast last hl
    dsimp only
    omega

lemma reachable_inv (hr : (runs S weight tickTime).Reachable C a) : Inv weight tickTime a := by
  refine hr.invariant_of_ok (I := Inv weight tickTime) ?_ ?_
  · rintro _ ⟨hne, state, rfl⟩
    exact ⟨rfl, List.length_pos_iff.mpr hne, rfl, nofun, fun _ => rfl, nofun, nofun,
      List.Pairwise.nil⟩
  · intro a l a' _ h hallowed _ hnext
    cases l with
    | work state =>
      cases hnext
      exact { h with }
    | scheduleSchedulerArbiter =>
      cases hnext
      exact h.schedule
    | event index =>
      cases hnext
      exact h.event hallowed
    | advance time =>
      cases hnext
      refine { h with pending := fun hscheduled => ?_, lastRunTime := fun last hl => ?_ }
      · obtain ⟨due, hdue, -, hlast⟩ := h.pending hscheduled
        refine ⟨due, hdue, hallowed.2 (due, ()) ?_, hlast⟩
        rw [hdue]
        exact List.mem_singleton_self _
      · exact (h.lastRunTime last hl).trans hallowed.1

end Pacing

/-! ## Fairness -/

section Fairness

variable {S} {a} {weight : SchedulerType → Nat} {tickTime : Nat} {C : Arbiter σ → Label σ → Prop}
  {l : List SchedulerType} {x : SchedulerType} {candidate : Nat}

def cyclic (l : List SchedulerType) (position : Nat) : SchedulerType :=
  l.getD (position % l.length) .connection

lemma count_getD (l : List SchedulerType) (x : SchedulerType) :
    Nat.count (fun k => l.getD k .connection = x) l.length = l.count x := by
  induction l with
  | nil => rfl
  | cons y l ih =>
    rw [List.length_cons, Nat.count_succ', List.count_cons, ← ih]
    simp

lemma count_cyclic (l : List SchedulerType) (x : SchedulerType) (start : Nat) :
    Nat.count (fun k => cyclic l (start + k) = x) l.length = l.count x := by
  have hperiod : ∀ k, cyclic l (l.length + k) = cyclic l k := by
    intro k
    unfold cyclic
    rw [Nat.add_mod_left]
  have hone : Nat.count (fun k => cyclic l k = x) l.length = l.count x := by
    rw [← count_getD l x, Nat.count_eq_card_filter_range, Nat.count_eq_card_filter_range]
    congr 1
    refine Finset.filter_congr fun k hk => ?_
    rw [cyclic, Nat.mod_eq_of_lt (Finset.mem_range.mp hk)]
  have hleft := Nat.count_add (fun k => cyclic l k = x) start l.length
  have hright := Nat.count_add (fun k => cyclic l k = x) l.length start
  simp only [hperiod, Nat.add_comm l.length start] at hright
  omega

lemma count_schedulerOrdering (weight : SchedulerType → Nat) (x : SchedulerType) :
    (schedulerOrdering weight).count x = weight x := by
  unfold schedulerOrdering
  cases x <;> simp [List.count_replicate]

/-- Each arbitration starts behind the slot that the one before it served, and passes over slots of
schedulers without work only. -/
def Linked (l : List SchedulerType) : List Arbitration → Nat → Prop
  | [], candidate => candidate < l.length
  | e :: older, candidate => candidate = (e.slot + 1) % l.length ∧
      (∃ k, e.slot = (e.start + k) % l.length ∧
        ∀ j < k, e.hadWork (cyclic l (e.start + j)) = false) ∧
      Linked l older e.start

lemma Linked.lt (hl : 0 < l.length) {log : List Arbitration} (h : Linked l log candidate) :
    candidate < l.length := by
  cases log with
  | nil => exact h
  | cons e older =>
    rw [h.1]
    exact Nat.mod_lt _ hl

lemma Linked.newer (hl : 0 < l.length) {newer older : List Arbitration}
    (h : Linked l (newer ++ older) candidate) : Linked l newer candidate := by
  induction newer generalizing candidate with
  | nil => exact h.lt hl
  | cons e newer ih => exact ⟨h.1, h.2.1, ih h.2.2⟩

lemma Linked.older {newer older : List Arbitration} (h : Linked l (newer ++ older) candidate) :
    ∃ candidate', Linked l older candidate' := by
  induction newer generalizing candidate with
  | nil => exact ⟨candidate, h⟩
  | cons e newer ih => exact ih h.2.2

/-- A scheduler that always has work is served once for each of its slots that the arbitrations
pass, and each arbitration passes at least one slot. -/
lemma Linked.countP_eq {log : List Arbitration} (h : Linked l log candidate)
    (hwork : ∀ e ∈ log, e.hadWork x = true) :
    ∃ start passed, log.length ≤ passed ∧ candidate = (start + passed) % l.length ∧
      log.countP (fun e => e.served l = x) =
        Nat.count (fun k => cyclic l (start + k) = x) passed := by
  induction log generalizing candidate with
  | nil => exact ⟨candidate, 0, le_refl 0, (Nat.mod_eq_of_lt h).symm, by simp⟩
  | cons e older ih =>
    obtain ⟨rfl, ⟨k, hslot, hskip⟩, holder⟩ := h
    obtain ⟨start, passed, hlen, hstart, hcount⟩ :=
      ih holder fun e he => hwork e (List.mem_cons_of_mem _ he)
    have hpos : ∀ j, cyclic l (e.start + j) = cyclic l (start + (passed + j)) := by
      intro j
      unfold cyclic
      rw [hstart, Nat.mod_add_mod, Nat.add_assoc]
    have hserved : e.served l = cyclic l (start + (passed + k)) := by
      rw [← hpos, Arbitration.served, hslot, cyclic]
    have hnone : Nat.count (fun j => cyclic l (start + (passed + j)) = x) k = 0 := by
      rw [Nat.count_eq_card_filter_range, Finset.card_eq_zero, Finset.filter_eq_empty_iff]
      intro j hj hx
      have hfalse := hskip j (Finset.mem_range.mp hj)
      rw [hpos, hx, hwork e List.mem_cons_self] at hfalse
      exact absurd hfalse (by decide)
    refine ⟨start, passed + (k + 1), ?_, ?_, ?_⟩
    · rw [List.length_cons]
      omega
    · rw [hslot, Nat.mod_add_mod, hstart, Nat.add_assoc, Nat.mod_add_mod, Nat.add_assoc]
    · rw [List.countP_cons, hcount, Nat.count_add, Nat.count_succ, hnone, hserved, Nat.zero_add]
      simp

lemma slots_split {before after : List Nat} {index : Nat} (h : a.slots = before ++ index :: after) :
    index = (a.candidateSchedulerIndex + before.length) % a.ordering.length ∧
      ∀ j < before.length, (a.candidateSchedulerIndex + j) % a.ordering.length ∈ before := by
  have hget : ∀ j value, a.slots[j]? = some value →
      (a.candidateSchedulerIndex + j) % a.ordering.length = value := by
    intro j value hj
    rw [slots, List.getElem?_map, Option.map_eq_some_iff] at hj
    obtain ⟨k, hk, rfl⟩ := hj
    obtain ⟨-, rfl⟩ := List.getElem?_eq_some_iff.mp hk
    rw [List.getElem_range]
  refine ⟨?_, fun j hj => ?_⟩
  · rw [hget before.length index]
    rw [h, List.getElem?_append_right (le_refl _), Nat.sub_self]
    rfl
  · rw [hget j before[j]]
    · exact List.getElem_mem hj
    · rw [h, List.getElem?_append_left hj]
      exact List.getElem?_eq_getElem hj

lemma linked_doArbitration (h : Linked a.ordering a.log a.candidateSchedulerIndex)
    (hscheduled : a.scheduled = true)
    (hall : ∀ type state, S.hasWork type state = true → (S.scheduleWork type state).1 = true) :
    Linked (a.doArbitration S).ordering (a.doArbitration S).log
      (a.doArbitration S).candidateSchedulerIndex := by
  by_cases hwork : S.anyWork a.schedulers = true
  · obtain ⟨state, candidate, added, hadded, heq⟩ := doArbitration_cases hscheduled hwork
    rw [heq]
    rcases hadded with ⟨rfl, rfl⟩ | ⟨before, index, after, hslots, rfl, rfl, hskip⟩
    · exact h
    · obtain ⟨hindex, hbefore⟩ := slots_split hslots
      exact ⟨rfl, ⟨before.length, hindex, fun j hj => hskip hall _ (hbefore j hj)⟩, h⟩
  · unfold doArbitration
    rw [if_pos (by simpa using hwork)]
    exact h

lemma reachable_linked (hr : (runs S weight tickTime).Reachable C a)
    (hall : ∀ type state, S.hasWork type state = true → (S.scheduleWork type state).1 = true) :
    Linked a.ordering a.log a.candidateSchedulerIndex := by
  refine hr.invariant_of_ok (I := fun a => Linked a.ordering a.log a.candidateSchedulerIndex) ?_ ?_
  · rintro _ ⟨hne, state, rfl⟩
    exact List.length_pos_iff.mpr hne
  · intro a l a' hr h hallowed _ hnext
    cases l with
    | work state =>
      cases hnext
      exact h
    | scheduleSchedulerArbiter =>
      cases hnext
      unfold scheduleSchedulerArbiter
      split
      · exact h
      · exact h
    | event index =>
      cases hnext
      obtain ⟨hscheduled, -, -, hfire⟩ := (reachable_inv hr).fire hallowed
      rw [hfire]
      exact linked_doArbitration h hscheduled hall
    | advance time =>
      cases hnext
      exact h

lemma log_next (hr : (runs S weight tickTime).Reachable C a) {l : Label σ} {a' : Arbiter σ}
    (hallowed : a.Allowed l) (hnext : next S a l = .ok a') :
    a'.log = a.log ∨ ∃ e, e.time = a'.agenda.now ∧ a'.log = e :: a.log := by
  cases l with
  | work state =>
    cases hnext
    exact .inl rfl
  | scheduleSchedulerArbiter =>
    cases hnext
    unfold scheduleSchedulerArbiter
    split
    · exact .inl rfl
    · exact .inl rfl
  | event index =>
    cases hnext
    obtain ⟨hscheduled, -, -, hfire⟩ := (reachable_inv hr).fire hallowed
    rw [hfire]
    by_cases hwork : S.anyWork a.schedulers = true
    · obtain ⟨state, candidate, added, hadded, heq⟩ := doArbitration_cases (S := S)
        (a := { a with agenda := (a.fire index).agenda }) hscheduled hwork
      rw [heq]
      rcases hadded with ⟨rfl, -⟩ | ⟨before, slot, after, -, rfl, -⟩
      · exact .inl rfl
      · refine .inr ⟨_, ?_, rfl⟩
        split
        · rfl
        · rfl
    · unfold doArbitration
      rw [if_pos (by simpa using hwork)]
      exact .inl rfl
  | advance time =>
    cases hnext
    exact .inl rfl

/-- Exactly one arbitration is pending while `scheduled_` is set and none otherwise; arbitrations
that serve a scheduler are a tick apart and serve one; and a scheduler with work throughout is
served as often as its weight says in as many of them as there are slots. -/
theorem arbiter_paced_and_fair (S : Schedulers σ) (weight : SchedulerType → Nat) (tickTime : Nat)
    (hr : (runs S weight tickTime).Reachable (fun _ _ => True) a) :
    a.agenda.pending.length = (if a.scheduled then 1 else 0) ∧
    a.log.Pairwise (fun newer older => older.time + tickTime ≤ newer.time) ∧
    (∀ l a', a.Allowed l → next S a l = .ok a' →
      a'.log = a.log ∨ ∃ e, e.time = a'.agenda.now ∧ a'.log = e :: a.log) ∧
    ((∀ type state, S.hasWork type state = true → (S.scheduleWork type state).1 = true) →
      ∀ x segment, segment <:+: a.log →
        segment.length = weight .connection + weight .retransmission + weight .ackNack →
        (∀ e ∈ segment, e.hadWork x = true) →
        weight x ≤ segment.countP fun e => e.served a.ordering = x) := by
  have hinv : Inv weight tickTime a := reachable_inv hr
  refine ⟨?_, hinv.apart, fun l a' => log_next hr, ?_⟩
  · cases hscheduled : a.scheduled with
    | true =>
      obtain ⟨time, htime, -⟩ := hinv.pending hscheduled
      rw [htime]
      rfl
    | false =>
      rw [hinv.idle hscheduled]
      rfl
  · rintro hall x segment ⟨newer, older, hlog⟩ hlength hwork
    have hlinked : Linked a.ordering a.log a.candidateSchedulerIndex := reachable_linked hr hall
    rw [← hlog, List.append_assoc] at hlinked
    obtain ⟨candidate, hlinked⟩ := hlinked.older
    obtain ⟨start, passed, hpassed, -, hcount⟩ :=
      (hlinked.newer hinv.nonempty).countP_eq hwork
    have hslots : a.ordering.length = segment.length := by
      rw [hlength, hinv.ordering]
      simp [schedulerOrdering, Nat.add_assoc]
    rw [hcount]
    calc weight x
        = a.ordering.count x := by rw [hinv.ordering, count_schedulerOrdering]
      _ = Nat.count (fun k => cyclic a.ordering (start + k) = x) a.ordering.length :=
        (count_cyclic a.ordering x start).symm
      _ ≤ Nat.count (fun k => cyclic a.ordering (start + k) = x) passed :=
        Nat.count_monotone _ (hslots.trans_le hpassed)

def busySchedulers : Schedulers Unit where
  hasWork type _ := type != .ackNack
  scheduleWork _ _ := (true, (), [()])

/-- Four arbitrations in a row, the fourth slot being passed over. -/
theorem arbiter_paced_and_fair_busy :
    ∃ a, (runs busySchedulers (fun type => if type = .connection then 2 else 1) 5).Reachable
        (fun _ _ => True) a ∧
      a.agenda.pending.length = 1 ∧ a.log.length = 4 ∧
      2 ≤ a.log.countP fun e => e.served a.ordering = .connection := by
  obtain ⟨a, hr, hscheduled, hlength, hwork⟩ := TransitionSystem.Reachable.exists_of_run
    (T := runs busySchedulers (fun type => if type = .connection then 2 else 1) 5)
    (C := fun _ _ => True)
    (s := { ordering := schedulerOrdering fun type => if type = .connection then 2 else 1
            tickTime := 5
            schedulers := () })
    (P := fun a => a.scheduled = true ∧ a.log.length = 4 ∧
      ∀ e ∈ a.log, e.hadWork .connection = true)
    [.scheduleSchedulerArbiter, .event 0, .scheduleSchedulerArbiter, .event 0, .event 0,
      .advance 12,
      .event 0]
    ⟨by decide, (), rfl⟩ (by decide +kernel)
  obtain ⟨hpending, -, -, hfair⟩ := arbiter_paced_and_fair busySchedulers _ 5 hr
  rw [hscheduled] at hpending
  exact ⟨a, hr, hpending, hlength, hfair (fun _ _ _ => rfl) .connection a.log (List.infix_refl _)
    hlength hwork⟩

end Fairness

end Arbiter

end Isekai.Falcon
